import MultigresOperator.Lib.Checks
import MultigresOperator.Posture.Debounce
import MultigresOperator.Shard.DataPlane
import MultigresOperator.Shard.Lite
import MultigresOperator.Shard.Slots

/-!
# The status of a shard

At the end of a pass the controller counts the pods of the shard and reports whether its pools are
ready, whether it is available, and its phase. The count compares two sums over all pools and cells:
the pods the spec wants, and the pods that are Ready. A Lite shard reports on its one pod.

## Main results

* `totalPods_add_surplusPods`: what the two sums count
* `poolsReady_iff`: the report says that every slot has a Ready pod exactly if the two errors cannot
  be mistaken for each other
-/

namespace MultigresOperator

/-! ### The report -/

structure MultiorchDeployment where
  replicas : Option ℤ
  generation : ℕ
  observedGeneration : ℕ
  readyReplicas : ℤ
  deriving DecidableEq, Repr

/-- What a condition says, apart from its type. -/
structure Verdict where
  status : ConditionStatus
  reason : String
  message : String
  deriving DecidableEq, Repr

/-- What one status update reads. -/
structure StatusReads where
  /-- The pods of the namespace, as the cache shows them. -/
  pods : Keyed Pod.name
  /-- The pod carries both hashes of the rendered configuration. -/
  configCurrent : Pod → Bool
  crashLooping : Pod → Bool
  /-- `getMultiorchCells`; nothing if there are no cells. -/
  multiorchCells : Option (List String)
  deployment : String → Option MultiorchDeployment
  orchCrashLooping : String → Bool
  terminatingPVCs : List String
  storageSpecIgnored : Verdict
  /-- `litePrimaryCondition` and `liteUpToDateCondition` -/
  litePrimary : Option Pod → Verdict
  liteUpToDate : Option Pod → Verdict

/-- The part of `ShardStatus` that the update computes. -/
structure ShardStatus where
  observedGeneration : ℕ := 0
  phase : Phase := .unset
  message : String := ""
  poolsReady : Bool := false
  orchReady : Bool := false
  readyReplicas : ℕ := 0
  cells : List String := []
  conditions : List Condition := []
  configInProgress : Bool := false

structure PoolCell where
  pool : String
  cell : String
  replicas : ℕ
  deriving DecidableEq, Repr

/-- The pools and cells the scan visits. -/
def shardPoolCells (shard : Shard) : List PoolCell :=
  shard.spec.pools.flatMap fun (poolName, pool) => pool.cells.map fun cell =>
    ⟨poolName, cell, poolReplicas pool⟩

def listedPods (shard : Shard) (pods : Keyed Pod.name) (site : PoolCell) : List Pod :=
  pods.items.filter fun pod => (poolSelector shard site.pool site.cell).Matches pod.labels

/-- The variables of the scan of all pool pods. -/
structure PoolScan where
  totalPods : ℕ := 0
  readyPods : ℕ := 0
  poolDegraded : Bool := false
  liveCount : ℕ := 0
  allConfigCurrent : Bool := true
  configApplyFailing : Bool := false

/-- The scan of a pool in one cell. Terminating and draining pods are passed over. -/
def PoolScan.visit (shard : Shard) (seen : StatusReads) (scan : PoolScan) (site : PoolCell) :
    PoolScan :=
  let live := (listedPods shard seen.pods site).filter (!·.disrupted)
  { totalPods := scan.totalPods + site.replicas
    readyPods := scan.readyPods + (live.filter isPodReady).length
    poolDegraded := scan.poolDegraded || live.any seen.crashLooping
    liveCount := scan.liveCount + live.length
    allConfigCurrent := scan.allConfigCurrent && live.all seen.configCurrent
    configApplyFailing := scan.configApplyFailing ||
      live.any fun pod => seen.crashLooping pod && seen.configCurrent pod }

def updatePoolsStatus (shard : Shard) (seen : StatusReads) : PoolScan :=
  (shardPoolCells shard).foldl (PoolScan.visit shard seen) {}

/-- `ps.configInProgress`: some live pod lacks the configuration, or crashes with it. -/
def PoolScan.configInProgress (scan : PoolScan) : Bool :=
  (decide (0 < scan.liveCount) && !scan.allConfigCurrent) || scan.configApplyFailing

/-- The loop of `updateMultiorchStatus`: readiness, crashes and the cells visited. A deployment that
does not exist ends it. -/
def multiorchLoop (seen : StatusReads) : List String → Bool × Bool × List String
  | [] => (true, false, [])
  | cell :: cells =>
    match seen.deployment cell with
    | none => (false, false, [cell])
    | some deploy =>
      let (ready, degraded, visited) := multiorchLoop seen cells
      (ready && deploy.replicas == some deploy.readyReplicas &&
          deploy.observedGeneration == deploy.generation,
        degraded || seen.orchCrashLooping cell, cell :: visited)

def updateMultiorchStatus (seen : StatusReads) : Bool × Bool × List String :=
  match seen.multiorchCells with
  | none => (false, false, [])
  | some cells => multiorchLoop seen cells

def cellSetToSlice (cells : List String) : List String := cells.dedup.insertionSort (· ≤ ·)

section Conditions

variable (generation : ℕ) (now : Time)

def Verdict.condition (verdict : Verdict) (condType : String) : Condition :=
  ⟨condType, verdict.status, generation, now, verdict.reason, verdict.message⟩

/-- The verdict of `setConditions`. -/
def availableVerdict (totalPods readyPods : ℕ) : Verdict :=
  if readyPods = totalPods ∧ 0 < totalPods then
    ⟨.conditionTrue, "AllPodsReady", "All " ++ toString readyPods ++ " pods are ready"⟩
  else
    ⟨.conditionFalse, "NotAllPodsReady",
      toString readyPods ++ "/" ++ toString totalPods ++ " pods ready"⟩

def setConditions (conditions : List Condition) (totalPods readyPods : ℕ) : List Condition :=
  setCondition conditions
    ((availableVerdict totalPods readyPods).condition generation now "Available")

def mountedPVCBeingDeletedMessage (names : List String) : String :=
  "PVCs being deleted while shard pods still use them: " ++ String.intercalate ", " names ++
    ". Each one's data is released when the last pod using it is deleted, and the PVC is then " ++
    "recreated empty. The operator will not start a drain, delete, replace or add pods that use " ++
    "them. To keep the data, copy it off or set the bound PersistentVolume's reclaim policy to " ++
    "Retain, then delete the pods that use them"

def setPVCTerminatingCondition (conditions : List Condition) (names : List String) :
    List Condition :=
  setCondition conditions (Verdict.condition generation now
    (if names ≠ [] then
      ⟨.conditionTrue, "MountedPVCBeingDeleted", mountedPVCBeingDeletedMessage names⟩
    else
      ⟨.conditionFalse, "NoMountedPVCBeingDeleted",
        "No shard pod mounts a PVC that is being deleted"⟩)
    "PVCTerminating")

def setStorageSpecIgnoredCondition (conditions : List Condition) (verdict : Verdict) :
    List Condition :=
  setCondition conditions (verdict.condition generation now "StorageSpecIgnored")

end Conditions

section Update

variable (shard : Shard) (seen : StatusReads) (generation : ℕ) (now : Time) (old : ShardStatus)

/-- The phase of a shard: what is wrong comes before what is ready. -/
def shardPhase (scan : PoolScan) (poolsReady orchReady orchDegraded : Bool) : Phase × String :=
  if isConditionFalse old.conditions conditionConsistent then
    (.degraded, "Postgres posture inconsistent with topology roles (possible split brain)")
  else if seen.terminatingPVCs ≠ [] then
    (.degraded, mountedPVCBeingDeletedMessage seen.terminatingPVCs)
  else if scan.poolDegraded || orchDegraded then
    (.degraded, if scan.poolDegraded then "One or more pool pods are crash-looping"
      else "One or more Multiorch pods are crash-looping")
  else if conditionStatus old.conditions conditionConsistent = some .conditionUnknown then
    (.progressing, "Postgres posture check incomplete")
  else if poolsReady && orchReady && !hasPrimary shard.podRoles then
    (.degraded, "No primary pod for shard")
  else if poolsReady && orchReady then (.healthy, "Ready")
  else (.progressing, "PoolsReady: " ++ toString poolsReady ++ ", OrchReady: " ++
    toString orchReady)

/-- The pod a Lite shard reports on: one that is on its way out or has ended does not count. -/
def reportedLitePod (poolName cellName : String) : Option Pod :=
  (seen.pods.find (buildPoolPodName shard poolName cellName 0)).filter fun existing =>
    !existing.terminating && !existing.terminal

/-- The report of a Lite shard, once its pool and cell are known. -/
def liteStatus (poolName cellName : String) : ShardStatus :=
  let pod := reportedLitePod shard seen poolName cellName
  let readyPods := if pod.any isPodReady then 1 else 0
  let primary := seen.litePrimary pod
  let conditions := setConditions generation now old.conditions 1 readyPods
  let conditions := setStorageSpecIgnoredCondition generation now conditions seen.storageSpecIgnored
  let conditions := setCondition conditions (primary.condition generation now "Primary")
  let conditions := setCondition conditions
    ((seen.liteUpToDate pod).condition generation now "UpToDate")
  let conditions := setPVCTerminatingCondition generation now conditions seen.terminatingPVCs
  let poolsReady := decide (readyPods = 1)
  let isPrimary := decide (primary.status = .conditionTrue)
  let (phase, message) : Phase × String :=
    if seen.terminatingPVCs ≠ [] then
      (.degraded, mountedPVCBeingDeletedMessage seen.terminatingPVCs)
    else if pod.any seen.crashLooping then (.degraded, "The Lite pod is crash-looping")
    else if poolsReady && isPrimary then (.healthy, "Ready")
    else (.progressing, "PoolsReady: " ++ toString poolsReady ++ ", Primary: " ++ toString isPrimary)
  { phase, message, poolsReady, conditions
    readyReplicas := readyPods
    observedGeneration := generation
    orchReady := false
    cells := [cellName]
    configInProgress := old.configInProgress }

def updateLiteStatus : Except Failure ShardStatus := do
  let (poolName, cellName, _) ← litePool shard
  return liteStatus shard seen generation now old poolName cellName

def updateDistributedStatus : ShardStatus :=
  let scan := updatePoolsStatus shard seen
  let (orchReady, orchDegraded, orchCells) := updateMultiorchStatus seen
  let poolsReady := decide (0 < scan.totalPods) && scan.totalPods == scan.readyPods
  let (phase, message) := shardPhase shard seen old scan poolsReady orchReady orchDegraded
  let conditions := setPVCTerminatingCondition generation now old.conditions seen.terminatingPVCs
  let conditions := setConditions generation now conditions scan.totalPods scan.readyPods
  let conditions := setStorageSpecIgnoredCondition generation now conditions seen.storageSpecIgnored
  { phase, message, poolsReady, orchReady, conditions
    observedGeneration := generation
    readyReplicas := scan.readyPods
    cells := cellSetToSlice ((shardPoolCells shard).map PoolCell.cell ++ orchCells)
    configInProgress := scan.configInProgress }

def updateStatus : Except Failure ShardStatus :=
  match shard.spec.mode with
  | .lite => updateLiteStatus shard seen generation now old
  | .distributed => .ok (updateDistributedStatus shard seen generation now old)

end Update

/-! ### What the sums count -/

section Sums

variable {shard : Shard} {pods : Keyed Pod.name} {site : PoolCell} {slot : Slot}

def readyPods (shard : Shard) (pods : Keyed Pod.name) (site : PoolCell) : List Pod :=
  (listedPods shard pods site).filter isAvailablePooler

def PoolCell.podNames (shard : Shard) (site : PoolCell) : List String :=
  (List.range site.replicas).map (buildPoolPodName shard site.pool site.cell)

/-- The slots of a pool and cell without a pod that counts as ready. -/
def missingAt (shard : Shard) (pods : Keyed Pod.name) (site : PoolCell) : List String :=
  (site.podNames shard).filter fun name => !(readyPods shard pods site).any (·.name = name)

/-- The pods of a pool and cell that count as ready and have no slot there. -/
def surplusAt (shard : Shard) (pods : Keyed Pod.name) (site : PoolCell) : List Pod :=
  (readyPods shard pods site).filter fun pod => pod.name ∉ site.podNames shard

/-- The number of slots without a Ready pod that is neither terminating nor draining. -/
def missingSlots (shard : Shard) (pods : Keyed Pod.name) : ℕ :=
  ((shardPoolCells shard).flatMap (missingAt shard pods)).length

/-- The number of such pods without a slot: extras, maintenance surges, pods with a foreign name. -/
def surplusPods (shard : Shard) (pods : Keyed Pod.name) : ℕ :=
  ((shardPoolCells shard).flatMap (surplusAt shard pods)).length

/-- The slot has a pod of its name, pool and cell that is Ready, not terminating and without a drain
annotation. -/
def SlotReady (shard : Shard) (pods : Keyed Pod.name) (slot : Slot) : Prop :=
  ∃ pod ∈ pods, (poolSelector shard slot.pool slot.cell).Matches pod.labels = true ∧
    pod.name = slot.podName shard ∧ pod.ready = true ∧ pod.terminating = false ∧
      pod.draining = false

theorem replicas_lt (h : site ∈ shardPoolCells shard) : site.replicas < 2 ^ 31 := by
  simp only [shardPoolCells, List.mem_flatMap, List.mem_map] at h
  obtain ⟨⟨_, pool⟩, -, _, -, rfl⟩ := h
  exact poolReplicas_lt pool

theorem podNames_nodup (h : site ∈ shardPoolCells shard) : (site.podNames shard).Nodup := by
  refine List.Nodup.map_on (fun i hi j hj hij => ?_) List.nodup_range
  have hlt := replicas_lt h
  rw [List.mem_range] at hi hj
  exact buildPoolPodName_index_injective shard site.pool site.cell (by omega) (by omega) hij

/-- In one pool and cell: slots that are ready and slots that are not make up the desired count,
slots that are ready and surplus make up the ready count. -/
theorem replicas_add_surplusAt (h : site ∈ shardPoolCells shard) :
    site.replicas + (surplusAt shard pods site).length =
      (readyPods shard pods site).length + (missingAt shard pods site).length := by
  have hready : ((readyPods shard pods site).map Pod.name).Nodup :=
    pods.nodup.sublist ((List.filter_sublist.trans List.filter_sublist).map Pod.name)
  have hhits := Keyed.length_hits_add_misses hready (podNames_nodup h)
  have hsplit := List.length_eq_length_filter_add (l := site.podNames shard)
    fun name => (readyPods shard pods site).any (·.name = name)
  rw [PoolCell.podNames, List.length_map, List.length_range, ← PoolCell.podNames] at hsplit
  unfold surplusAt missingAt
  omega

theorem foldl_visit (seen : StatusReads) (sites : List PoolCell) (scan : PoolScan) :
    (sites.foldl (PoolScan.visit shard seen) scan).totalPods =
        scan.totalPods + (sites.map PoolCell.replicas).sum ∧
      (sites.foldl (PoolScan.visit shard seen) scan).readyPods =
        scan.readyPods + (sites.map fun site => (readyPods shard seen.pods site).length).sum := by
  induction sites generalizing scan with
  | nil => simp
  | cons site sites ih =>
    have hvisit : ((listedPods shard seen.pods site).filter (!·.disrupted)).filter isPodReady =
        readyPods shard seen.pods site := by
      rw [List.filter_filter]
      exact List.filter_congr fun pod _ => Bool.and_comm _ _
    obtain ⟨htotal, hready⟩ := ih (scan.visit shard seen site)
    rw [List.foldl_cons, htotal, hready]
    simp only [PoolScan.visit, hvisit, List.map_cons, List.sum_cons]
    omega

/-- **What the two sums count**: they differ by the slots without a Ready pod on one side and the
Ready pods without a slot on the other. -/
theorem totalPods_add_surplusPods (shard : Shard) (seen : StatusReads) :
    (updatePoolsStatus shard seen).totalPods + surplusPods shard seen.pods =
      (updatePoolsStatus shard seen).readyPods + missingSlots shard seen.pods := by
  obtain ⟨htotal, hready⟩ := foldl_visit seen (shardPoolCells shard) {}
  rw [updatePoolsStatus, htotal, hready]
  have hsum : ∀ sites : List PoolCell, (∀ site ∈ sites, site ∈ shardPoolCells shard) →
      (sites.map PoolCell.replicas).sum + (sites.flatMap (surplusAt shard seen.pods)).length =
        (sites.map fun site => (readyPods shard seen.pods site).length).sum +
          (sites.flatMap (missingAt shard seen.pods)).length := by
    intro sites hsites
    induction sites with
    | nil => rfl
    | cons site sites ih =>
      rw [List.forall_mem_cons] at hsites
      have hsite : site.replicas + (surplusAt shard seen.pods site).length = _ :=
        replicas_add_surplusAt hsites.1
      have := ih hsites.2
      simp only [List.map_cons, List.sum_cons, List.flatMap_cons, List.length_append]
      omega
  have := hsum (shardPoolCells shard) fun _ h => h
  dsimp only
  unfold surplusPods missingSlots
  omega

theorem mem_shardPoolCells_of_mem_desiredSlots (h : slot ∈ desiredSlots shard) :
    ∃ site ∈ shardPoolCells shard, site.pool = slot.pool ∧ site.cell = slot.cell ∧
      slot.index < site.replicas := by
  obtain ⟨pool, hpool, hcell, hindex⟩ := mem_desiredSlots.mp h
  refine ⟨⟨slot.pool, slot.cell, poolReplicas pool⟩, ?_, rfl, rfl, hindex⟩
  exact List.mem_flatMap.mpr ⟨_, hpool, List.mem_map_of_mem hcell⟩

theorem slotReady_iff (hpool : site.pool = slot.pool) (hcell : site.cell = slot.cell) :
    SlotReady shard pods slot ↔
      (readyPods shard pods site).any (·.name = slot.podName shard) = true := by
  simp only [SlotReady, readyPods, listedPods, List.any_eq_true, List.mem_filter,
    decide_eq_true_eq, isAvailablePooler, isPodReady, Pod.disrupted, Bool.and_eq_true,
    Bool.not_eq_true', Bool.or_eq_false_iff, hpool, hcell, Keyed.mem_items]
  constructor
  · rintro ⟨pod, hpod, hlabels, hname, hready, hterm, hdrain⟩
    exact ⟨pod, ⟨⟨hpod, hlabels⟩, ⟨hdrain, hterm⟩, hready⟩, hname⟩
  · rintro ⟨pod, ⟨⟨hpod, hlabels⟩, ⟨hdrain, hterm⟩, hready⟩, hname⟩
    exact ⟨pod, hpod, hlabels, hname, hready, hterm, hdrain⟩

theorem missingSlots_eq_zero :
    missingSlots shard pods = 0 ↔ ∀ slot ∈ desiredSlots shard, SlotReady shard pods slot := by
  have hmissing : missingSlots shard pods = 0 ↔
      ∀ site ∈ shardPoolCells shard, missingAt shard pods site = [] := by
    rw [missingSlots, List.length_eq_zero_iff, List.flatMap_eq_nil_iff]
  rw [hmissing]
  constructor
  · intro h slot hslot
    obtain ⟨site, hsite, hpool, hcell, hindex⟩ := mem_shardPoolCells_of_mem_desiredSlots hslot
    rw [slotReady_iff hpool hcell]
    have hnone := List.filter_eq_nil_iff.mp (h site hsite) (slot.podName shard) ?_
    · simpa using hnone
    · rw [Slot.podName, ← hpool, ← hcell]
      exact List.mem_map_of_mem (List.mem_range.mpr hindex)
  · intro h site hsite
    refine List.filter_eq_nil_iff.mpr fun name hname => ?_
    obtain ⟨index, hindex, rfl⟩ := List.mem_map.mp hname
    have hslot : (⟨site.pool, site.cell, index⟩ : Slot) ∈ desiredSlots shard := by
      simp only [shardPoolCells, List.mem_flatMap, List.mem_map] at hsite
      obtain ⟨⟨poolName, pool⟩, hpool, cell, hcell, rfl⟩ := hsite
      exact mem_desiredSlots.mpr ⟨pool, hpool, hcell, List.mem_range.mp hindex⟩
    have hready := h _ hslot
    rw [slotReady_iff (Eq.refl site.pool) (Eq.refl site.cell), Slot.podName] at hready
    rw [hready]
    exact Bool.false_ne_true

theorem totalPods_eq_length (shard : Shard) (seen : StatusReads) :
    (updatePoolsStatus shard seen).totalPods = (desiredSlots shard).length := by
  have hslots : desiredSlots shard = (shardPoolCells shard).flatMap fun site =>
      (List.range site.replicas).map fun index => ⟨site.pool, site.cell, index⟩ := by
    simp only [desiredSlots, shardPoolCells, List.flatMap_assoc, List.flatMap_map]
  rw [updatePoolsStatus, (foldl_visit seen (shardPoolCells shard) {}).1, hslots, List.length_flatMap]
  simp

end Sums

/-! ### Ready pools -/

section Ready

variable {shard : Shard} {seen : StatusReads} {generation : ℕ} {now : Time} {old status : ShardStatus}

/-- What ready pools should mean: some pod is wanted, and every slot has a Ready pod that is neither
terminating nor draining. -/
def SlotsReady (shard : Shard) (pods : Keyed Pod.name) : Prop :=
  0 < (desiredSlots shard).length ∧ ∀ slot ∈ desiredSlots shard, SlotReady shard pods slot

/-- The pod of a Lite shard is all its pool wants: the pool wants some pod, this one carries the
pool's labels and no drain annotation, and every further slot is ready. -/
structure LiteSuffices (shard : Shard) (pods : Keyed Pod.name) (poolName cellName : String)
    (pod : Pod) : Prop where
  wanted : 0 < (desiredSlots shard).length
  labelled : (poolSelector shard poolName cellName).Matches pod.labels = true
  calm : pod.draining = false
  further : ∀ slot ∈ desiredSlots shard, slot.index ≠ 0 → SlotReady shard pods slot

/-- The errors cannot be mistaken: no Ready pod is without a slot, or the slots without a Ready pod
are some, and not as many. The pod of a Lite shard, while it is Ready and not terminating, has ended
exactly if it does not suffice. -/
def CountsTell (shard : Shard) (pods : Keyed Pod.name) : Prop :=
  match shard.spec.mode with
  | .distributed => desiredSlots shard = [] ∨ surplusPods shard pods = 0 ∨
      (0 < missingSlots shard pods ∧ missingSlots shard pods ≠ surplusPods shard pods)
  | .lite => ∀ poolName cellName pool, litePool shard = .ok (poolName, cellName, pool) →
      ∀ pod ∈ pods, pod.name = buildPoolPodName shard poolName cellName 0 →
        pod.ready = true → pod.terminating = false →
          (pod.terminal = false ↔ LiteSuffices shard pods poolName cellName pod)

variable {conditions : List Condition} {pool : PoolSpec} {slot : Slot}

theorem conditionStatus_setCondition_of_ne {condition : Condition} {condType : String}
    (h : condType ≠ condition.type) :
    conditionStatus (setCondition conditions condition) condType =
      conditionStatus conditions condType := by
  rw [conditionStatus, findStatusCondition_setCondition, if_neg h, conditionStatus]

theorem isConditionTrue_setConditions {total ready : ℕ} :
    conditionStatus (setConditions generation now conditions total ready) "Available" =
      some (if ready = total ∧ 0 < total then .conditionTrue else .conditionFalse) := by
  refine (conditionStatus_setCondition conditions _).trans (congrArg some ?_)
  unfold Verdict.condition availableVerdict
  split <;> rfl

theorem available_updateDistributedStatus :
    isConditionTrue (updateDistributedStatus shard seen generation now old).conditions "Available" =
      (updateDistributedStatus shard seen generation now old).poolsReady := by
  have hstatus : conditionStatus (updateDistributedStatus shard seen generation now old).conditions
      "Available" = some (if (updatePoolsStatus shard seen).readyPods =
        (updatePoolsStatus shard seen).totalPods ∧ 0 < (updatePoolsStatus shard seen).totalPods
        then .conditionTrue else .conditionFalse) := by
    refine (conditionStatus_setCondition_of_ne ?_).trans isConditionTrue_setConditions
    exact (by decide : "Available" ≠ "StorageSpecIgnored")
  rw [isConditionTrue, hstatus]
  change _ = (decide _ && _ == _)
  by_cases heq : (updatePoolsStatus shard seen).readyPods = (updatePoolsStatus shard seen).totalPods
  · by_cases hpos : 0 < (updatePoolsStatus shard seen).totalPods <;> simp [heq, hpos]
  · have hne := beq_false_of_ne (Ne.symm heq)
    simp [heq, hne]

/-- Both sums agree, and the pools are ready, if the slots without a Ready pod are as many as the
Ready pods without a slot. -/
theorem poolsReady_updateDistributedStatus :
    (updateDistributedStatus shard seen generation now old).poolsReady = true ↔
      0 < (desiredSlots shard).length ∧
        missingSlots shard seen.pods = surplusPods shard seen.pods := by
  change (decide (0 < (updatePoolsStatus shard seen).totalPods) && _ == _) = true ↔ _
  have hsums := totalPods_add_surplusPods shard seen
  rw [Bool.and_eq_true, decide_eq_true_eq, beq_iff_eq, ← totalPods_eq_length shard seen]
  omega

theorem slotsReady_iff_missingSlots {pods : Keyed Pod.name} :
    SlotsReady shard pods ↔ 0 < (desiredSlots shard).length ∧ missingSlots shard pods = 0 := by
  rw [SlotsReady, missingSlots_eq_zero]

variable {poolName cellName : String}

theorem available_liteStatus :
    isConditionTrue (liteStatus shard seen generation now old poolName cellName).conditions
        "Available" =
      (liteStatus shard seen generation now old poolName cellName).poolsReady := by
  have hstatus : conditionStatus
      (liteStatus shard seen generation now old poolName cellName).conditions "Available" =
        some (if (if (reportedLitePod shard seen poolName cellName).any isPodReady then 1 else 0) = 1 ∧
          0 < 1 then .conditionTrue else .conditionFalse) := by
    -- the conditions written after it are of other types
    refine (conditionStatus_setCondition_of_ne ?_).trans <|
      (conditionStatus_setCondition_of_ne ?_).trans <|
        (conditionStatus_setCondition_of_ne ?_).trans <|
          (conditionStatus_setCondition_of_ne ?_).trans isConditionTrue_setConditions
    · exact (by decide : "Available" ≠ "PVCTerminating")
    · exact (by decide : "Available" ≠ "UpToDate")
    · exact (by decide : "Available" ≠ "Primary")
    · exact (by decide : "Available" ≠ "StorageSpecIgnored")
  rw [isConditionTrue, hstatus]
  change _ = decide ((if _ then 1 else 0) = 1)
  cases (reportedLitePod shard seen poolName cellName).any isPodReady <;> rfl

theorem poolsReady_liteStatus :
    (liteStatus shard seen generation now old poolName cellName).poolsReady = true ↔
      ∃ pod ∈ seen.pods, pod.name = buildPoolPodName shard poolName cellName 0 ∧
        pod.ready = true ∧ pod.terminating = false ∧ pod.terminal = false := by
  change decide ((if _ then 1 else 0) = 1) = true ↔ _
  have hany : (reportedLitePod shard seen poolName cellName).any isPodReady = true ↔
      ∃ pod ∈ seen.pods, pod.name = buildPoolPodName shard poolName cellName 0 ∧
        pod.ready = true ∧ pod.terminating = false ∧ pod.terminal = false := by
    simp only [reportedLitePod, Option.any_eq_true, Option.filter_eq_some_iff, Keyed.find_eq_some,
      Bool.and_eq_true, Bool.not_eq_true', isPodReady]
    constructor
    · rintro ⟨pod, ⟨⟨hpod, hname⟩, hterm, hended⟩, hready⟩
      exact ⟨pod, hpod, hname, hready, hterm, hended⟩
    · rintro ⟨pod, hpod, hname, hready, hterm, hended⟩
      exact ⟨pod, ⟨⟨hpod, hname⟩, hterm, hended⟩, hready⟩
  rw [← hany]
  cases (reportedLitePod shard seen poolName cellName).any isPodReady <;> decide

theorem slot_of_litePool (hlite : litePool shard = .ok (poolName, cellName, pool))
    (hslot : slot ∈ desiredSlots shard) : slot.pool = poolName ∧ slot.cell = cellName := by
  obtain ⟨pool', hpool, hcell, -⟩ := mem_desiredSlots.mp hslot
  unfold litePool at hlite
  split at hlite
  · next name spec hpools =>
    split at hlite
    · next cell hcells =>
      obtain ⟨rfl, rfl, rfl⟩ : name = poolName ∧ cell = cellName ∧ spec = pool := by
        simpa using hlite
      rw [hpools, List.mem_singleton, Prod.mk.injEq] at hpool
      obtain ⟨hname, rfl⟩ := hpool
      rw [hcells, List.mem_singleton] at hcell
      exact ⟨hname, hcell⟩
    · cases hlite
  · cases hlite

theorem first_mem_desiredSlots (h : slot ∈ desiredSlots shard) :
    ⟨slot.pool, slot.cell, 0⟩ ∈ desiredSlots shard := by
  obtain ⟨pool, hpool, hcell, hindex⟩ := mem_desiredSlots.mp h
  exact mem_desiredSlots.mpr ⟨pool, hpool, hcell, Nat.zero_lt_of_lt hindex⟩

/-- A Lite shard with a Ready pod that is not terminating has its slots ready exactly if the pod
suffices. -/
theorem slotsReady_iff_liteSuffices {pod : Pod}
    (hlite : litePool shard = .ok (poolName, cellName, pool)) (hpod : pod ∈ seen.pods)
    (hname : pod.name = buildPoolPodName shard poolName cellName 0) (hready : pod.ready = true)
    (hterm : pod.terminating = false) :
    SlotsReady shard seen.pods ↔ LiteSuffices shard seen.pods poolName cellName pod := by
  constructor
  · rintro ⟨hwanted, hslots⟩
    obtain ⟨slot, hslot⟩ := List.exists_mem_of_length_pos hwanted
    obtain ⟨hpool, hcell⟩ := slot_of_litePool hlite hslot
    obtain ⟨first, hfirst, hlabels, hfirstName, -, -, hcalm⟩ :=
      hslots _ (first_mem_desiredSlots hslot)
    -- the pod of the first slot is the one the report is about
    obtain rfl : first = pod := by
      refine seen.pods.eq_of_key_eq hfirst hpod (hfirstName.trans ?_)
      rw [hname, Slot.podName, hpool, hcell]
    rw [hpool, hcell] at hlabels
    exact ⟨hwanted, hlabels, hcalm, fun slot hslot _ => hslots slot hslot⟩
  · rintro ⟨hwanted, hlabels, hcalm, hfurther⟩
    refine ⟨hwanted, fun slot hslot => ?_⟩
    by_cases hindex : slot.index = 0
    · obtain ⟨hpool, hcell⟩ := slot_of_litePool hlite hslot
      refine ⟨pod, hpod, ?_, ?_, hready, hterm, hcalm⟩
      · rwa [hpool, hcell]
      · rw [hname, Slot.podName, hpool, hcell, hindex]
    · exact hfurther slot hslot hindex

/-- **Ready pools have every desired pod ready** exactly if the counts tell the errors apart. -/
theorem poolsReady_iff (h : updateStatus shard seen generation now old = .ok status) :
    ((status.poolsReady = true ↔ SlotsReady shard seen.pods) ∧
        (isConditionTrue status.conditions "Available" = true ↔ SlotsReady shard seen.pods)) ↔
      CountsTell shard seen.pods := by
  unfold updateStatus at h
  unfold CountsTell
  cases hmode : shard.spec.mode with
  | distributed =>
    simp only [hmode, Except.ok.injEq] at h ⊢
    subst h
    rw [available_updateDistributedStatus, and_self, poolsReady_updateDistributedStatus,
      slotsReady_iff_missingSlots, ← List.length_eq_zero_iff]
    omega
  | lite =>
    simp only [hmode] at h ⊢
    obtain ⟨⟨poolName, cellName, pool⟩, hlite, h⟩ := Checks.bind_eq_ok.mp h
    obtain rfl := Except.ok.inj h
    rw [available_liteStatus, and_self, poolsReady_liteStatus]
    constructor
    · intro hiff poolName' cellName' pool' hlite' pod hpod hname hready hterm
      obtain ⟨rfl, rfl, rfl⟩ : poolName = poolName' ∧ cellName = cellName' ∧ pool = pool' := by
        simpa using hlite.symm.trans hlite'
      rw [← slotsReady_iff_liteSuffices hlite hpod hname hready hterm, ← hiff]
      constructor
      · intro hended
        exact ⟨pod, hpod, hname, hready, hterm, hended⟩
      · rintro ⟨other, hother, hname', -, -, hended⟩
        rwa [seen.pods.eq_of_key_eq hpod hother (hname.trans hname'.symm)]
    · intro htell
      constructor
      · rintro ⟨pod, hpod, hname, hready, hterm, hended⟩
        rw [slotsReady_iff_liteSuffices hlite hpod hname hready hterm]
        exact (htell _ _ _ hlite pod hpod hname hready hterm).mp hended
      · intro hslots
        obtain ⟨slot, hslot⟩ := List.exists_mem_of_length_pos hslots.1
        obtain ⟨hpool, hcell⟩ := slot_of_litePool hlite hslot
        obtain ⟨pod, hpod, -, hname, hready, hterm, -⟩ := hslots.2 _ (first_mem_desiredSlots hslot)
        rw [Slot.podName, hpool, hcell] at hname
        have hsuffices :=
          (slotsReady_iff_liteSuffices hlite hpod hname hready hterm).mp hslots
        exact ⟨pod, hpod, hname, hready, hterm,
          (htell _ _ _ hlite pod hpod hname hready hterm).mpr hsuffices⟩

end Ready

/-! ### An extra in the sums -/

namespace Sample

/-- The pods are all that matters here. -/
def mainReads (pods : Keyed Pod.name) : StatusReads where
  pods := pods
  configCurrent := fun _ => true
  crashLooping := fun _ => false
  multiorchCells := some []
  deployment := fun _ => none
  orchCrashLooping := fun _ => false
  terminatingPVCs := []
  storageSpecIgnored := ⟨.conditionFalse, "StorageSpecApplied", ""⟩
  litePrimary := fun _ => ⟨.conditionFalse, "PodUnavailable", "The Lite pod is not running"⟩
  liteUpToDate := fun _ => ⟨.conditionFalse, "PodMissing", "The Lite pod does not exist"⟩

theorem mainPods_nodup {indices : List ℕ} (h : indices.Nodup) (hlt : ∀ i ∈ indices, i < 2 ^ 63) :
    ((indices.map mainPod).map Pod.name).Nodup := by
  rw [List.map_map]
  refine h.map_on fun i hi j hj hij => ?_
  exact buildPoolPodName_index_injective mainShard "main" "z1" (hlt i hi) (hlt j hj) hij

/-- Pods of the pair, by index. -/
def mainPods (indices : List ℕ) (h : indices.Nodup) (hlt : ∀ i ∈ indices, i < 2 ^ 63) :
    Keyed Pod.name :=
  ⟨indices.map mainPod, mainPods_nodup h hlt⟩

/-- The second pod is gone, and there is an extra. -/
def shifted : Keyed Pod.name := mainPods [0, 2] (by decide) (by decide)

/-- Both pods are there, and an extra. -/
def crowded : Keyed Pod.name := mainPods [0, 1, 2] (by decide) (by decide)

def complete : Keyed Pod.name := mainPods [0, 1] (by decide) (by decide)

/-- The status of the pair. -/
def mainStatus (pods : Keyed Pod.name) : ShardStatus :=
  updateDistributedStatus mainShard (mainReads pods) 1 0 {}

theorem updateStatus_main (pods : Keyed Pod.name) :
    updateStatus mainShard (mainReads pods) 1 0 {} = .ok (mainStatus pods) := rfl

end Sample

section

open Sample

/-- An extra makes up for a missing pod, and an extra beside all desired pods makes the pools not
ready. -/
theorem extra_hides_and_upsets :
    (updateStatus mainShard (mainReads shifted) 1 0 {} = .ok (mainStatus shifted) ∧
        (mainStatus shifted).poolsReady = true ∧ ¬ SlotsReady mainShard shifted) ∧
      updateStatus mainShard (mainReads crowded) 1 0 {} = .ok (mainStatus crowded) ∧
        (mainStatus crowded).poolsReady = false ∧ SlotsReady mainShard crowded := by
  refine ⟨⟨updateStatus_main _, by decide +kernel, ?_⟩, updateStatus_main _, by decide +kernel, ?_⟩
  · rw [slotsReady_iff_missingSlots]
    decide +kernel
  · rw [slotsReady_iff_missingSlots]
    decide +kernel

theorem poolsReady_iff_complete :
    updateStatus mainShard (mainReads complete) 1 0 {} = .ok (mainStatus complete) ∧
      (mainStatus complete).poolsReady = true ∧ SlotsReady mainShard complete := by
  have hready : (mainStatus complete).poolsReady = true := by decide +kernel
  have htell : CountsTell mainShard complete := .inr (.inl (by decide +kernel))
  exact ⟨updateStatus_main _, hready,
    ((poolsReady_iff (updateStatus_main complete)).mpr htell).1.mp hready⟩

end

end MultigresOperator

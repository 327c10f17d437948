import MultigresOperator.Shard.Slots
import MultigresOperator.Shard.Visit

/-!
# Maintenance surges in a visit

In a shard of two cells a visit may keep temporary poolers beside the desired pods. It counts them
and adds the count to the desired replicas; the sum is then used as a bound on indices, by the loop
that creates missing pods and by the scale-down that looks for pods to remove. The two uses agree
with the surges exactly if the surges are at the indices right past the desired ones.

## Main results

* `Ensures.surgeCount`: a visit computes the count
* `creates_createMissingResources`: a visit creates pods at vacant indices, without the mark
* `surges_kept_iff`: when a visit that keeps its surges neither removes one nor creates another pod
  past the desired replicas
-/

namespace MultigresOperator

open Effects MultigresOperator.Action

/-! ### Pods of the operator -/

/-- A pool pod as the operator makes it: the name is built from the labels and an index, and no
label value holds a slash. -/
structure OperatorPod (shard : Shard) (pod : Pod) : Prop where
  named : ∃ index < 2 ^ 63, pod.name = buildPoolPodName shard pod.pool pod.cell index
  labels : (poolSelector shard pod.pool pod.cell).Matches pod.labels = true
  pool_slash : '/' ∉ pod.pool.toList
  cell_slash : '/' ∉ pod.cell.toList

abbrev OperatorPods (shard : Shard) (s : Server) : Prop :=
  ∀ pod ∈ s.poolPods shard, OperatorPod shard pod

def visitPods (shard : Shard) (s : Server) (poolName cellName : String) : List Pod :=
  s.listPods (poolSelector shard poolName cellName)

section

variable {shard : Shard} {s : Server} {poolName cellName : String} {pool : PoolSpec} {pod : Pod}

theorem mem_visitPods (hnamed : OperatorPods shard s) :
    pod ∈ visitPods shard s poolName cellName ↔
      pod ∈ s.poolPods shard ∧ pod.pool = poolName ∧ pod.cell = cellName := by
  rw [visitPods, Server.mem_listPods]
  constructor
  · rintro ⟨hmem, hmatch⟩
    exact ⟨Server.mem_listPods.mpr ⟨hmem, matches_disruptionSelector hmatch⟩,
      pool_cell_of_matches hmatch⟩
  · rintro ⟨hmem, rfl, rfl⟩
    exact ⟨(Server.mem_listPods.mp hmem).1, (hnamed pod hmem).labels⟩

theorem mem_cellPoolers (hnamed : OperatorPods shard s) :
    pod ∈ s.listPods (cellSelector shard cellName) ↔
      pod ∈ s.poolPods shard ∧ pod.cell = cellName := by
  rw [Server.mem_listPods]
  constructor
  · rintro ⟨hmem, hmatch⟩
    exact ⟨Server.mem_listPods.mpr ⟨hmem, disruptionSelector_of_cellSelector hmatch⟩,
      cell_of_matches_cellSelector hmatch⟩
  · rintro ⟨hmem, rfl⟩
    exact ⟨(Server.mem_listPods.mp hmem).1, matches_cellSelector (hnamed pod hmem).labels⟩

theorem names_nodup (selector : Labels) : ((s.listPods selector).map Pod.name).Nodup :=
  s.pods.nodup.sublist (List.filter_sublist.map Pod.name)

end

/-! ### The count of a visit -/

section Count

variable (shard : Shard) (s : Server) (poolName cellName : String) (pool : PoolSpec)

/-- `keepSurge`: someone asks for maintenance in the cell, or a desired pod of it is not settled. -/
def keepSurge : Bool :=
  keepCellSurge shard poolName cellName (poolReplicas pool) (s.listPods (cellSelector shard cellName))
    (s.listPVCs (poolSelector shard poolName cellName))

/-- The active surges of the cell that belong to the pool. -/
def countSurges : ℕ := countPoolSurges shard poolName (s.listPods (cellSelector shard cellName))

/-- The surges a visit keeps. -/
def localSurges : ℕ :=
  if requiresTwoCellMaintenanceSurge shard && keepSurge shard s poolName cellName pool then
    countSurges shard s poolName cellName
  else 0

/-- The desired replicas of a visit, with the surges it keeps. -/
def effectiveReplicas : ℕ := poolReplicas pool + localSurges shard s poolName cellName pool

/-- The indices below a bound at which a visit finds no pod. -/
def vacantIndices (bound : ℕ) (existingPods : List Pod) : List ℕ :=
  (List.range bound).filter fun index =>
    existingPods.all (·.name != buildPoolPodName shard poolName cellName index)

end Count

/-! ### The count is the visit's -/

section Visit

variable {B : Server → Answer → Prop} {shard : Shard} {s : Server} {poolName cellName : String}
  {pool : PoolSpec} {rollout : RolloutTracker}

theorem Ensures.any {α : Type} (p : Action α) :
    Ensures B (fun _ _ => True) p (fun _ _ => True) s :=
  .of_only (fun _ => trivial) (fun _ _ => trivial) (fun _ _ _ _ _ => ⟨trivial, trivial⟩)
    (Prog.only_true p) fun _ _ _ => trivial

/-- **A visit computes the count**, unless it acts on the surges and ends there. -/
theorem Ensures.surgeCount :
    Ensures B (fun _ _ => True)
      (reconcileCellMaintenanceSurge shard poolName cellName pool
        (visitPods shard s poolName cellName) (s.listPVCs (poolSelector shard poolName cellName))
        (poolReplicas pool) rollout)
      (fun result _ => result.actionTaken = false →
        result.activeLocalSurges = localSurges shard s poolName cellName pool) s := by
  unfold reconcileCellMaintenanceSurge
  split
  · next hpolicy =>
    refine .ret fun _ => ?_
    simp only [Bool.not_eq_true'] at hpolicy
    simp [localSurges, hpolicy]
  next hpolicy =>
  have hcount : localSurges shard s poolName cellName pool =
      if keepSurge shard s poolName cellName pool then countSurges shard s poolName cellName
      else 0 := by
    simp only [Bool.not_eq_true', Bool.not_eq_false] at hpolicy
    simp [localSurges, hpolicy]
  refine .bind (.context (.fetch ?_))
  dsimp only
  refine .bind (.conseq (.any _) fun _ t _ => ?_)
  split
  · next hnew =>
    split
    · -- without a surge there is nothing to count
      refine .ret fun _ => ?_
      simp only [Bool.and_eq_true, List.isEmpty_iff] at hnew
      simp [hcount, countSurges, countPoolSurges, hnew.1.1]
    · exact .bind (.conseq (.any _) fun _ _ _ => .ret fun h => nomatch h)
  · refine .bind (.conseq (.any _) fun _ _ _ => .ret fun _ => ?_)
    exact hcount.symm

theorem map_name_noteDrain (pods : List Pod) (name : String) :
    (noteDrain pods name).map Pod.name = pods.map Pod.name := by
  rw [noteDrain, List.map_map]
  refine List.map_congr_left fun pod _ => ?_
  by_cases h : pod.name = name <;> simp [h]

def Op.NoCreate : Op → Prop
  | .createPod _ => False
  | _ => True

/-- The request creates no pod, unless at one of these indices, and then without the mark of a
surge. -/
def Op.CreatesAt (shard : Shard) (poolName cellName : String) (indices : List ℕ) (o : Op) : Prop :=
  ∀ pod, o = .createPod pod → pod.maintenanceSurge = false ∧
    ∃ index ∈ indices, pod.name = buildPoolPodName shard poolName cellName index

section Creates

variable {indices : List ℕ}

theorem Op.NoCreate.createsAt {o : Op} (h : o.NoCreate) :
    o.CreatesAt shard poolName cellName indices := by
  rintro pod rfl
  exact h.elim

theorem noCreate_of_onPVC {α : Type} {p : Action α} (h : p.Only Op.OnPVC) : p.Only Op.NoCreate :=
  Prog.only_mono h fun o ho => by cases o <;> trivial

theorem noCreate_of_reads {α : Type} {p : Action α} (h : Reads p) : p.Only Op.NoCreate :=
  Prog.only_mono h fun _ ho => ho.elim

theorem noCreate_initiateDrain (pod : Pod) : (initiateDrain pod).Only Op.NoCreate :=
  Prog.only_bind (Prog.only_bind Prog.only_answer fun _ => Prog.only_pure) fun _ =>
    Prog.only_mapError (Prog.only_perform trivial)

theorem noCreate_handleExternalDeletion (pod : Pod) :
    (handleExternalDeletion pod).Only Op.NoCreate := by
  unfold handleExternalDeletion
  split
  · exact Prog.only_bind (noCreate_initiateDrain pod) fun _ => Prog.only_pure
  · exact Prog.only_pure

theorem yields_canStartDisruption (r : Reconciler) (shard : Shard) (target : Pod)
    (tracker : RolloutTracker) :
    (r.canStartDisruption shard target tracker).Yields Op.NoCreate
      fun result => tracker.Quiet result.2 := by
  unfold Reconciler.canStartDisruption
  split
  · exact Prog.yields_pure (.refl tracker)
  refine Prog.yields_bind_of_only (noCreate_of_reads (reads_observeDisruption r none))
    fun observed => ?_
  obtain ⟨preflight, _⟩ := observed
  dsimp only
  split
  · exact Prog.yields_pure ⟨rfl, rfl⟩
  · refine Prog.yields_bind_of_only (noCreate_of_reads (reads_disruptionCheck r _ _))
      fun verdict => ?_
    split
    · exact Prog.yields_pure (.refl tracker)
    · exact Prog.yields_pure ⟨rfl, rfl⟩

/-- The list of a visit with drains it has requested since. -/
def Noted (pods pods' : List Pod) : Prop := ∃ drained : List String, pods' = drained.foldl noteDrain pods

theorem Noted.refl (pods : List Pod) : Noted pods pods := ⟨[], rfl⟩

theorem Noted.trans {a b c : List Pod} (h : Noted a b) (h' : Noted b c) : Noted a c := by
  obtain ⟨drained, rfl⟩ := h
  obtain ⟨drained', rfl⟩ := h'
  exact ⟨drained ++ drained', (List.foldl_append ..).symm⟩

theorem Noted.map_name {pods pods' : List Pod} (h : Noted pods pods') :
    pods'.map Pod.name = pods.map Pod.name := by
  obtain ⟨drained, rfl⟩ := h
  induction drained generalizing pods with
  | nil => rfl
  | cons name drained ih => exact ih.trans (map_name_noteDrain pods name)

/-- The accumulator of the loop is that of before, but for the drains the visit has noted; without
an action there are none. Nothing is said about pods that are not Ready. -/
structure Creation.Follows (old st : Creation) : Prop where
  noted : Noted old.pods st.pods
  idle : st.actionTaken = false → old.actionTaken = false ∧ st.pods = old.pods
  tracker : old.tracker.Quiet st.tracker
  driftedCount : old.driftedCount ≤ st.driftedCount

theorem Creation.Follows.refl (st : Creation) : st.Follows st :=
  ⟨.refl _, fun h => ⟨h, rfl⟩, .refl _, le_rfl⟩

theorem Creation.Follows.trans {a b c : Creation} (h : a.Follows b) (h' : b.Follows c) :
    a.Follows c := by
  refine ⟨h.noted.trans h'.noted, fun hc => ?_, h.tracker.trans h'.tracker,
    h.driftedCount.trans h'.driftedCount⟩
  obtain ⟨hb, hpods⟩ := h'.idle hc
  exact (h.idle hb).imp_right hpods.trans

variable {st : Creation} {pod : Pod} {index : ℕ}

theorem yields_createMissingPod (hindex : index ∈ indices) :
    (createMissingPod shard poolName cellName index st).Yields
      (Op.CreatesAt shard poolName cellName indices) st.Follows := by
  unfold createMissingPod
  extract_lets podName
  split
  · exact Prog.yields_fail
  next built hbuilt =>
  refine Prog.yields_bind_of_only (Prog.only_mono
    (noCreate_of_onPVC (onPVC_claimPodVolumes built.claims)) fun _ ho => ho.createsAt) fun claim => ?_
  split
  · exact Prog.yields_pure (.refl st)
  · refine Prog.yields_bind_of_only (Prog.only_mapError ?_) fun _ =>
      Prog.yields_pure ⟨.refl _, (fun h => nomatch h), .refl _, le_rfl⟩
    refine Prog.only_bind Prog.only_answer fun i => Prog.only_performUnless ?_
    rintro pod ⟨⟩
    obtain ⟨hash, -, rfl⟩ := Option.map_eq_some_iff.mp hbuilt
    exact ⟨rfl, index, hindex, rfl⟩

theorem yields_replaceTerminalPod :
    (replaceTerminalPod pod st).Yields Op.NoCreate st.Follows := by
  refine Prog.yields_bind_of_only (noCreate_of_reads (reads_podTerminatingClaim _)) fun claim => ?_
  split
  · exact Prog.yields_pure (.refl st)
  split
  · exact Prog.yields_pure (.refl st)
  · refine Prog.yields_bind_of_only (Prog.only_mapError ?_) fun _ =>
      Prog.yields_pure ⟨.refl _, (fun h => nomatch h), .refl _, le_rfl⟩
    exact Prog.only_bind Prog.only_answer fun i => Prog.only_performUnless trivial

theorem yields_handleDeletedPod : (handleDeletedPod pod st).Yields Op.NoCreate st.Follows := by
  unfold handleDeletedPod
  split
  · exact Prog.yields_pure (.refl st)
  · refine Prog.yields_bind_of_only (noCreate_handleExternalDeletion pod) fun drained =>
      Prog.yields_pure ⟨?_, (fun h => nomatch h), ⟨rfl, rfl⟩, le_rfl⟩
    cases drained with
    | false => exact .refl _
    | true => exact ⟨[pod.name], rfl⟩

theorem yields_drainForResize {r : Reconciler} {cell : String} :
    (drainForResize r shard cell pod st).Yields Op.NoCreate st.Follows := by
  unfold drainForResize
  refine Prog.yields_bind_of_only (noCreate_of_reads (reads_isShardHealthy shard)) fun healthy => ?_
  split
  · exact Prog.yields_pure (.refl st)
  refine Prog.yields_bind_of_only
    (noCreate_of_reads (reads_maintenanceCapacityWithout _ _ _)) fun capacity => ?_
  split
  · exact Prog.yields_pure (.refl st)
  refine Prog.yields_bind (yields_canStartDisruption r shard pod st.tracker) fun result hquiet => ?_
  obtain ⟨allowed, tracker⟩ := result
  dsimp only
  split
  · exact Prog.yields_pure ⟨.refl _, fun h => ⟨h, rfl⟩, hquiet, le_rfl⟩
  · refine Prog.yields_bind_of_only (Prog.only_mapError (noCreate_initiateDrain pod)) fun _ => ?_
    exact Prog.yields_pure
      ⟨⟨[pod.name], rfl⟩, (fun h => nomatch h), ⟨hquiet.1, hquiet.2⟩, le_rfl⟩

theorem yields_reconcileExistingPod {r : Reconciler} :
    (reconcileExistingPod r shard poolName cellName index pod st).Yields Op.NoCreate st.Follows := by
  unfold reconcileExistingPod
  split
  · exact yields_replaceTerminalPod
  split
  · exact yields_handleDeletedPod
  extract_lets counted
  have hcounted : st.Follows counted := by
    unfold counted
    split
    · exact ⟨.refl _, fun h => ⟨h, rfl⟩, .refl _, Nat.le_succ _⟩
    · exact .refl st
  split
  · exact Prog.yields_mono yields_drainForResize (fun _ => id) fun _ => hcounted.trans
  · exact Prog.yields_pure hcounted

theorem yields_createMissingResources {r : Reconciler} {bound : ℕ} :
    (createMissingResources r shard poolName cellName pool bound st).Yields
      (Op.CreatesAt shard poolName cellName (vacantIndices shard poolName cellName bound st.pods))
      st.Follows := by
  refine Prog.yields_forEach (fun st' index hindex hst' => ?_) (.refl st)
  refine Prog.yields_bind_of_only (Prog.only_mono
    (noCreate_of_onPVC (onPVC_ensureDataPVC _ _ _ _ _)) fun _ ho => ho.createsAt) fun pvcs => ?_
  have hpvcs : st.Follows { st' with pvcs } :=
    ⟨hst'.noted, hst'.idle, hst'.tracker, hst'.driftedCount⟩
  dsimp only
  split
  · next hnone =>
    have hvacant : index ∈ vacantIndices shard poolName cellName bound st.pods := by
      refine List.mem_filter.mpr ⟨hindex, ?_⟩
      -- the pods have the names they had at the start
      simp only [List.find?_eq_none, beq_iff_eq] at hnone
      rw [List.all_eq_true]
      intro pod hpod
      have hmem : pod.name ∈ st'.pods.map Pod.name :=
        hst'.noted.map_name ▸ List.mem_map_of_mem hpod
      obtain ⟨other, hother, hname⟩ := List.mem_map.mp hmem
      simpa [← hname] using hnone other hother
    exact Prog.yields_mono (yields_createMissingPod hvacant) (fun _ => id) fun _ => hpvcs.trans
  · exact Prog.yields_mono yields_reconcileExistingPod (fun _ ho => ho.createsAt) fun _ =>
      hpvcs.trans

/-- **A visit creates pods at vacant indices only**, and without the mark of a surge. -/
theorem creates_createMissingResources (r : Reconciler) (bound : ℕ) (st : Creation) :
    (createMissingResources r shard poolName cellName pool bound st).Only
      (Op.CreatesAt shard poolName cellName
        (vacantIndices shard poolName cellName bound st.pods)) :=
  Prog.only_of_yields yields_createMissingResources

end Creates

end Visit

/-! ### Surges and indices -/

section Indices

variable {shard : Shard} {s : Server} {poolName cellName : String} {pool : PoolSpec} {pod : Pod}

def visitSurges (shard : Shard) (s : Server) (poolName cellName : String) : List Pod :=
  (visitPods shard s poolName cellName).filter (isActiveMaintenanceSurge shard)

theorem countSurges_eq (hnamed : OperatorPods shard s) :
    countSurges shard s poolName cellName = (visitSurges shard s poolName cellName).length := by
  rw [countSurges, countPoolSurges, List.countP_eq_length_filter, visitSurges, visitPods, Server.listPods,
    Server.listPods, List.filter_filter, List.filter_filter, List.filter_filter]
  congr 1
  refine List.filter_congr fun pod hpod => ?_
  rw [Bool.eq_iff_iff]
  have hcell : pod ∈ s.listPods (cellSelector shard cellName) ↔ _ := mem_cellPoolers hnamed
  have hpool : pod ∈ visitPods shard s poolName cellName ↔ _ := mem_visitPods hnamed
  simp only [visitPods, Server.mem_listPods, show pod ∈ s.pods from hpod, true_and] at hcell hpool
  simp only [Bool.and_eq_true, beq_iff_eq, hcell, hpool]
  tauto

theorem exists_index (hnamed : OperatorPods shard s)
    (hpod : pod ∈ visitPods shard s poolName cellName) :
    ∃ index < 2 ^ 63, pod.name = buildPoolPodName shard poolName cellName index := by
  obtain ⟨hmem, rfl, rfl⟩ := (mem_visitPods hnamed).mp hpod
  exact (hnamed pod hmem).named

theorem exists_index_of_surge (hnamed : OperatorPods shard s)
    (hpool : (poolName, pool) ∈ shard.spec.pools) (hcell : cellName ∈ pool.cells)
    (hpod : pod ∈ visitPods shard s poolName cellName)
    (hactive : isActiveMaintenanceSurge shard pod = true) :
    ∃ index, poolReplicas pool ≤ index ∧ index < 2 ^ 63 ∧
      pod.name = buildPoolPodName shard poolName cellName index := by
  obtain ⟨index, hlt, hname⟩ := exists_index hnamed hpod
  refine ⟨index, ?_, hlt, hname⟩
  by_contra hrange
  rw [not_le] at hrange
  obtain ⟨-, rfl, rfl⟩ := (mem_visitPods hnamed).mp hpod
  have hlookup : shard.pool? pod.pool = some pool := Assoc.lookup_of_mem shard.spec.pools_nodup hpool
  have hdesired : isDesiredPooler shard pod = true :=
    isDesiredPooler_iff.mpr ⟨pool, hlookup, hcell, index, hrange, hname⟩
  simp [isActiveMaintenanceSurge, hdesired] at hactive

theorem isExtraPod_iff {bound index : ℕ} (hlt : index < 2 ^ 63)
    (hname : pod.name = buildPoolPodName shard poolName cellName index) :
    isExtraPod bound pod = true ↔ bound ≤ index := by
  rw [isExtraPod, hname, resolvePodIndex_buildPoolPodName _ _ _ hlt]
  simp

/-- A visited surge is a candidate of the scale-down exactly if it is an extra of the visit: the
extras of the whole shard leave surges out. -/
theorem surge_mem_candidates (hnamed : OperatorPods shard s) {bound : ℕ}
    (hpod : pod ∈ visitPods shard s poolName cellName)
    (hactive : isActiveMaintenanceSurge shard pod = true) :
    pod ∈ scaleDownCandidates shard (s.poolPods shard)
        (visitExtras bound (visitPods shard s poolName cellName)) ↔
      pod.drainState ≠ some .readyForDeletion ∧ isExtraPod bound pod = true := by
  have hmem : pod ∈ s.poolPods shard := ((mem_visitPods hnamed).mp hpod).1
  have hmark : isMaintenanceSurge pod = true := by
    simp only [isActiveMaintenanceSurge, Bool.and_eq_true] at hactive
    exact hactive.1
  -- no extra of the shard has the surge's name
  have hnone : ∀ extra ∈ shardExtras shard (s.poolPods shard), extra.name ≠ pod.name := by
    intro extra hextra hname
    simp only [shardExtras, List.mem_flatMap, List.mem_filter, Bool.and_eq_true,
      Bool.not_eq_true'] at hextra
    obtain ⟨_, -, _, -, hgroup, -, hunmarked⟩ := hextra
    have hstored := (Server.mem_listPods.mp (List.mem_filter.mp hgroup).1).1
    rw [s.pods.eq_of_key_eq hstored (Server.mem_listPods.mp hmem).1 hname, hmark] at hunmarked
    exact Bool.noConfusion hunmarked
  rw [scaleDownCandidates, List.mem_append, List.mem_filter]
  have hnot : pod ∉ shardExtras shard (s.poolPods shard) := fun h => hnone pod h rfl
  simp only [hnot, or_false, List.all_eq_true, bne_iff_ne, ne_eq, visitExtras, List.mem_filter,
    sortByName, List.mem_insertionSort, hpod, true_and]
  exact ⟨fun h => h.1, fun h => ⟨h, hnone⟩⟩

def HeldBelow (shard : Shard) (poolName cellName : String) (bound : ℕ) (pod : Pod) : Prop :=
  ∃ index < bound, pod.name = buildPoolPodName shard poolName cellName index

/-- Surges that are all below the bound their number sets hold every index up to it. -/
theorem surges_fill (hnamed : OperatorPods shard s)
    (hpool : (poolName, pool) ∈ shard.spec.pools) (hcell : cellName ∈ pool.cells)
    (hbelow : ∀ pod ∈ visitSurges shard s poolName cellName, HeldBelow shard poolName cellName
      (poolReplicas pool + (visitSurges shard s poolName cellName).length) pod)
    {index : ℕ} (hle : poolReplicas pool ≤ index)
    (hlt : index < poolReplicas pool + (visitSurges shard s poolName cellName).length) :
    ∃ pod ∈ visitPods shard s poolName cellName,
      pod.name = buildPoolPodName shard poolName cellName index := by
  set surges := visitSurges shard s poolName cellName with hsurges
  let names := (List.range' (poolReplicas pool) surges.length).map
    (buildPoolPodName shard poolName cellName)
  have hsub : surges.map Pod.name ⊆ names := by
    intro name hmem
    obtain ⟨pod, hpod, rfl⟩ := List.mem_map.mp hmem
    obtain ⟨hvisit, hactive⟩ := List.mem_filter.mp hpod
    obtain ⟨i, hi, hi', hname⟩ := exists_index_of_surge hnamed hpool hcell hvisit hactive
    obtain ⟨j, hj, hname'⟩ := hbelow pod hpod
    obtain rfl : i = j := index_eq_of_buildPoolPodName_eq (hname.symm.trans hname')
    rw [hname]
    exact List.mem_map_of_mem (List.mem_range'_1.mpr ⟨hi, hj⟩)
  have hnodup : (surges.map Pod.name).Nodup :=
    (names_nodup _).sublist (List.filter_sublist.map Pod.name)
  -- as many distinct names as there are indices are all of them
  have hperm : (surges.map Pod.name).Perm names :=
    (List.subperm_of_subset hnodup hsub).perm_of_length_le (by simp [names])
  have hmem : buildPoolPodName shard poolName cellName index ∈ surges.map Pod.name :=
    hperm.mem_iff.mpr (List.mem_map_of_mem (List.mem_range'_1.mpr ⟨hle, hlt⟩))
  obtain ⟨pod, hpod, hname⟩ := List.mem_map.mp hmem
  exact ⟨pod, (List.mem_filter.mp hpod).1, hname⟩

/-- The surges of a visit are in their places: right past the desired replicas. Those that are not
may have been drained already, if other pods hold the places. -/
def SurgesInPlace (shard : Shard) (s : Server) (poolName cellName : String) (pool : PoolSpec) :
    Prop :=
  let bound := effectiveReplicas shard s poolName cellName pool
  (∀ pod ∈ visitSurges shard s poolName cellName, HeldBelow shard poolName cellName bound pod) ∨
    ((∀ pod ∈ visitSurges shard s poolName cellName,
        HeldBelow shard poolName cellName bound pod ∨ pod.drainState = some .readyForDeletion) ∧
      ∀ index, poolReplicas pool ≤ index → index < bound →
        ∃ pod ∈ visitPods shard s poolName cellName,
          pod.name = buildPoolPodName shard poolName cellName index)

/-- **A visit that keeps its surges** does not offer one to the scale-down and does not create
another pod past the desired replicas exactly if the surges are in their places. -/
theorem surges_kept_iff (hpolicy : requiresTwoCellMaintenanceSurge shard = true)
    (hpool : (poolName, pool) ∈ shard.spec.pools) (hcell : cellName ∈ pool.cells)
    (hnamed : ∀ pod ∈ s.poolPods shard, OperatorPod shard pod)
    (hkeep : keepSurge shard s poolName cellName pool = true) :
    ((∀ pod ∈ visitPods shard s poolName cellName, isActiveMaintenanceSurge shard pod = true →
        pod ∉ scaleDownCandidates shard (s.poolPods shard)
          (visitExtras (effectiveReplicas shard s poolName cellName pool)
            (visitPods shard s poolName cellName))) ∧
      ∀ index ∈ vacantIndices shard poolName cellName
          (effectiveReplicas shard s poolName cellName pool)
          (visitPods shard s poolName cellName), index < poolReplicas pool) ↔
      SurgesInPlace shard s poolName cellName pool := by
  have hbound : effectiveReplicas shard s poolName cellName pool =
      poolReplicas pool + (visitSurges shard s poolName cellName).length := by
    simp [effectiveReplicas, localSurges, hpolicy, hkeep, countSurges_eq hnamed]
  unfold SurgesInPlace
  extract_lets bound
  -- a vacant index past the desired replicas is a place nobody holds
  have hvacant : (∀ index ∈ vacantIndices shard poolName cellName bound
        (visitPods shard s poolName cellName), index < poolReplicas pool) ↔
      ∀ index, poolReplicas pool ≤ index → index < bound →
        ∃ pod ∈ visitPods shard s poolName cellName,
          pod.name = buildPoolPodName shard poolName cellName index := by
    simp only [vacantIndices, List.mem_filter, List.mem_range, List.all_eq_true, bne_iff_ne, ne_eq]
    constructor
    · intro h index hle hlt
      by_contra hnone
      push Not at hnone
      exact absurd (h index ⟨hlt, hnone⟩) (not_lt.mpr hle)
    · rintro h index ⟨hlt, hnone⟩
      by_contra hle
      obtain ⟨pod, hpod, hname⟩ := h index (not_lt.mp hle) hlt
      exact hnone pod hpod hname
  -- a surge that is no candidate is below the bound or drained
  have hsurge : (∀ pod ∈ visitPods shard s poolName cellName,
      isActiveMaintenanceSurge shard pod = true →
        pod ∉ scaleDownCandidates shard (s.poolPods shard)
          (visitExtras bound (visitPods shard s poolName cellName))) ↔
      ∀ pod ∈ visitSurges shard s poolName cellName,
        HeldBelow shard poolName cellName bound pod ∨ pod.drainState = some .readyForDeletion := by
    simp only [visitSurges, List.mem_filter, and_imp]
    refine forall₃_congr fun pod hpod hactive => ?_
    obtain ⟨index, hlt, hname⟩ := exists_index hnamed hpod
    rw [surge_mem_candidates hnamed hpod hactive, isExtraPod_iff hlt hname]
    have hheld : HeldBelow shard poolName cellName bound pod ↔ index < bound := by
      constructor
      · rintro ⟨j, hj, hname'⟩
        rwa [index_eq_of_buildPoolPodName_eq (hname.symm.trans hname')]
      · exact fun h => ⟨index, h, hname⟩
    rw [hheld]
    by_cases hdrained : pod.drainState = some .readyForDeletion
    · simp [hdrained]
    · simp [hdrained]
  rw [hsurge, hvacant]
  constructor
  · exact .inr
  · rintro (hplace | hrest)
    · refine ⟨fun pod hpod => .inl (hplace pod hpod), fun index hle hlt => ?_⟩
      have hbound' : bound = _ := hbound
      rw [hbound'] at hplace hlt
      exact surges_fill hnamed hpool hcell hplace hle hlt
    · exact hrest

end Indices

/-! ### After a scale-down -/

namespace Sample

def surgePools : List (String × PoolSpec) := [("main", { cells := ["z1", "z2"] })]

theorem surgePools_nodup : (surgePools.map Prod.fst).Nodup := List.nodup_singleton "main"

/-- Two cells with one pod each, by a policy that needs both. -/
def surgeShard : Shard where
  name := "shard-0"
  uid := 1
  labels := [(.cluster, "mg")]
  labels_cluster := clusterLabel
  spec :=
    { databaseName := "db", tableGroupName := "tg", shardName := "0"
      pools := surgePools, pools_nodup := surgePools_nodup
      durabilityPolicy := "MULTI_CELL_AT_LEAST_2"
      podHash := fun _ _ _ => some "new" }

def surgePod (cell : String) (index : ℕ) (surge : Bool) : Pod where
  name := buildPoolPodName surgeShard "main" cell index
  uid := index
  labels := buildPoolLabelsWithCell surgeShard "main" cell
  claims := []
  specHash := some "old"
  phase := .running
  ready := true
  maintenanceSurge := surge

/-- The pods while the first cell is updated, with a surge at an index. -/
def surgePods (index : ℕ) : List Pod :=
  [surgePod "z1" 0 false, surgePod "z1" index true, surgePod "z2" 0 false]

theorem surgePods_nodup_one : ((surgePods 1).map Pod.name).Nodup := by decide +kernel

theorem surgePods_nodup_two : ((surgePods 2).map Pod.name).Nodup := by decide +kernel

def surgeServer (pods : Keyed Pod.name) : Server where
  pods := pods
  pvcs := ⟨[], List.nodup_nil⟩
  deployments := ⟨[], List.nodup_nil⟩
  storageClasses := []
  clusters := []
  shardFinalizer := true
  revision := 100

/-- The surge right past the desired pod. -/
def adjacent : Server := surgeServer ⟨surgePods 1, surgePods_nodup_one⟩

/-- The surge was made when two pods were desired, and since then one is. -/
def detached : Server := surgeServer ⟨surgePods 2, surgePods_nodup_two⟩

theorem operatorPod_surgePod {cell : String} {index : ℕ} {surge : Bool} (hlt : index < 2 ^ 63)
    (hcell : cell = "z1" ∨ cell = "z2") : OperatorPod surgeShard (surgePod cell index surge) where
  named := ⟨index, hlt, rfl⟩
  labels := by
    rcases hcell with rfl | rfl
    · exact (by decide : Labels.Matches (poolSelector surgeShard "main" "z1")
        (buildPoolLabelsWithCell surgeShard "main" "z1") = true)
    · exact (by decide : Labels.Matches (poolSelector surgeShard "main" "z2")
        (buildPoolLabelsWithCell surgeShard "main" "z2") = true)
  pool_slash := (by decide : '/' ∉ "main".toList)
  cell_slash := by
    rcases hcell with rfl | rfl
    · exact (by decide : '/' ∉ "z1".toList)
    · exact (by decide : '/' ∉ "z2".toList)

theorem operatorPod_surgePods {i : ℕ} {pod : Pod} (h : pod ∈ surgePods i) (hlt : i < 2 ^ 63) :
    OperatorPod surgeShard pod := by
  simp only [surgePods, List.mem_cons, List.not_mem_nil, or_false] at h
  rcases h with rfl | rfl | rfl
  · exact operatorPod_surgePod (by decide) (.inl rfl)
  · exact operatorPod_surgePod hlt (.inl rfl)
  · exact operatorPod_surgePod (by decide) (.inr rfl)

end Sample

section

open Sample

/-- The surge that is kept is offered to the scale-down, and a pod without the mark is created past
the desired replicas. -/
theorem detached_surge_lost :
    requiresTwoCellMaintenanceSurge surgeShard = true ∧
      (∀ pod ∈ detached.poolPods surgeShard, OperatorPod surgeShard pod) ∧
      keepSurge surgeShard detached "main" "z1" { cells := ["z1", "z2"] } = true ∧
      (∃ pod ∈ visitPods surgeShard detached "main" "z1",
        isActiveMaintenanceSurge surgeShard pod = true ∧
          pod ∈ scaleDownCandidates surgeShard (detached.poolPods surgeShard)
            (visitExtras
              (effectiveReplicas surgeShard detached "main" "z1" { cells := ["z1", "z2"] })
              (visitPods surgeShard detached "main" "z1"))) ∧
        1 ∈ vacantIndices surgeShard "main" "z1"
          (effectiveReplicas surgeShard detached "main" "z1" { cells := ["z1", "z2"] })
          (visitPods surgeShard detached "main" "z1") := by
  refine ⟨by decide +kernel, fun pod hpod => ?_, by decide +kernel,
    ⟨surgePod "z1" 2 true, by decide +kernel, by decide +kernel, by decide +kernel⟩,
    by decide +kernel⟩
  exact operatorPod_surgePods (Server.mem_listPods.mp hpod).1 (by decide)

theorem surges_kept_adjacent :
    keepSurge surgeShard adjacent "main" "z1" { cells := ["z1", "z2"] } = true ∧
      ∀ pod ∈ visitPods surgeShard adjacent "main" "z1",
        isActiveMaintenanceSurge surgeShard pod = true →
          pod ∉ scaleDownCandidates surgeShard (adjacent.poolPods surgeShard)
            (visitExtras
              (effectiveReplicas surgeShard adjacent "main" "z1" { cells := ["z1", "z2"] })
              (visitPods surgeShard adjacent "main" "z1")) := by
  have hkeep : keepSurge surgeShard adjacent "main" "z1" { cells := ["z1", "z2"] } = true := by
    decide +kernel
  refine ⟨hkeep, ((surges_kept_iff (by decide +kernel) (List.mem_singleton_self _)
    List.mem_cons_self (fun pod hpod => ?_) hkeep).mpr (.inl fun pod hpod => ?_)).1⟩
  · exact operatorPod_surgePods (Server.mem_listPods.mp hpod).1 (by decide)
  · have hsurge : visitSurges surgeShard adjacent "main" "z1" = [surgePod "z1" 1 true] := by
      decide +kernel
    rw [hsurge, List.mem_singleton] at hpod
    exact ⟨1, by decide +kernel, by rw [hpod]; rfl⟩

end

end MultigresOperator

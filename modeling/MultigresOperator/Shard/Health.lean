import MultigresOperator.Posture.Status
import MultigresOperator.Shard.Names

/-!
# The state of the shard's pods

The predicates the pool reconcile decides on: which pods are desired, which are on the desired
spec, when a pool and the whole shard count as healthy, and how a rollout and a scale-down rank
their candidates. All of them are functions of the Shard and of a list of pods.

## Main definitions

* `isDesiredPooler`, `podNeedsUpdate`, `resolvePodRole`: one pod against the Shard
* `isPoolHealthy`, `shardHealthy`: the health gates
* `classifyDesiredPods`, `missingDesiredPods`, `unreadyExtras`: the candidates of a rollout
* `selectPodToDrain`: the candidate of a scale-down
* `terminatingClaimsInUse`: the PVCs being deleted under a pod

## Main results

* `isDesiredPooler_iff`: when a pod is desired
* `shardHealthy_iff`: when a shard counts as healthy
* `ready_of_isPoolHealthy`: the in-range pods of a healthy pool are Ready
-/

namespace MultigresOperator

/-! ## Desired pods -/

/-- `poolReplicas`: the desired number of pods per cell, one by default. -/
def poolReplicas (pool : PoolSpec) : ℕ := (pool.replicasPerCell.map Fin.val).getD 1

def poolUsesCell (pool : PoolSpec) (cellName : String) : Bool := pool.cells.contains cellName

/-- `shardCells`: the cells of all pools, sorted. -/
def shardCells (shard : Shard) : List String := collectCells shard

/-- `shardTotalReplicas`: the scale of the shard, summed up when the spec does not state it. -/
def shardTotalReplicas (shard : Shard) : ℕ :=
  match shard.spec.replicas with
  | some replicas => replicas
  | none => (shard.spec.pools.map fun pool => poolReplicas pool.2 * pool.2.cells.length).sum

def minAvailableForTotal (total : ℕ) : ℕ := max (total - 1) 2

/-- `requiresTwoCellMaintenanceSurge`: losing a cell's last pooler would break the policy. -/
def requiresTwoCellMaintenanceSurge (shard : Shard) : Bool :=
  shard.spec.durabilityPolicy == "MULTI_CELL_AT_LEAST_2" && (shardCells shard).length == 2

def isPodReady (pod : Pod) : Bool := pod.ready

def isMaintenanceSurge (pod : Pod) : Bool := pod.maintenanceSurge

/-- `isDesiredPooler`: the pod bears the name of an index its pool wants in its cell. -/
def isDesiredPooler (shard : Shard) (pod : Pod) : Bool :=
  match shard.pool? pod.pool with
  | none => false
  | some pool =>
    poolUsesCell pool pod.cell &&
      (List.range (poolReplicas pool)).any fun index =>
        pod.name == buildPoolPodName shard pod.pool pod.cell index

/-- **A desired pod** bears the name of an index below the replicas of its pool, which uses its
cell. -/
theorem isDesiredPooler_iff {shard : Shard} {pod : Pod} :
    isDesiredPooler shard pod = true ↔ ∃ pool, shard.pool? pod.pool = some pool ∧
      pod.cell ∈ pool.cells ∧
        ∃ index < poolReplicas pool, pod.name = buildPoolPodName shard pod.pool pod.cell index := by
  unfold isDesiredPooler
  cases shard.pool? pod.pool with
  | none => simp
  | some pool => simp [poolUsesCell]

def isActiveMaintenanceSurge (shard : Shard) (pod : Pod) : Bool :=
  isMaintenanceSurge pod && !isDesiredPooler shard pod

def isAvailablePooler (pod : Pod) : Bool := !pod.disrupted && isPodReady pod

/-- `resolvePodRole`: the role recorded under the pod's name, or under a host name of it. -/
def resolvePodRole (shard : Shard) (podName : String) : Option PodRole :=
  (shard.podRoles.lookup podName).or
    ((shard.podRoles.find? fun entry =>
      (podName ++ ".").toList.isPrefixOf entry.1.toList).map Prod.snd)

/-- `podNeedsUpdate`: the pod's spec hash is not the one its pool wants at an index. -/
def podNeedsUpdate (pod : Pod) (shard : Shard) (poolName cellName : String) (index : ℕ) : Bool :=
  if pod.terminating then false
  else match pod.specHash with
    | none => true
    | some existingHash =>
      match shard.spec.podHash poolName cellName index with
      | none => false
      | some desiredHash => existingHash != desiredHash

/-- `podTopoDrifted`: the pod's multipooler points at another global topology and is not ready. -/
def podTopoDrifted (pod : Pod) (shard : Shard) : Bool :=
  if pod.disrupted || pod.poolerDataReady then false
  else match pod.topoFlags with
    | none => false
    | some flags => flags != shard.spec.globalTopoServer

/-! ## Health -/

/-- A pod `isPoolHealthy` looks at: in range and not quarantined. -/
def countsForHealth (shard : Shard) (effectiveReplicas : ℕ) (pod : Pod) : Bool :=
  (resolvePodIndex pod.name).any (· < effectiveReplicas) &&
    resolvePodRole shard pod.name != some .quarantined

/-- `isPoolHealthy`: there are enough pods, extras counted, and every pod in range that is not
quarantined is Ready and undisturbed. -/
def isPoolHealthy (pods : List Pod) (effectiveReplicas : ℕ) (shard : Shard) : Bool :=
  effectiveReplicas ≤ pods.length &&
    pods.all fun pod => !countsForHealth shard effectiveReplicas pod || isAvailablePooler pod

/-- The key pods are grouped by. -/
def poolCellKey (poolName cellName : String) : String := poolName ++ "/" ++ cellName

def poolCellPods (pods : List Pod) (poolName cellName : String) : List Pod :=
  pods.filter fun pod => poolCellKey pod.pool pod.cell == poolCellKey poolName cellName

/-- The pure half of `isShardHealthy`: no pod is disrupted, every pool is healthy in every cell. -/
def shardHealthy (shard : Shard) (pods : List Pod) : Bool :=
  pods.all (fun pod => !pod.disrupted) &&
    shard.spec.pools.all fun (poolName, pool) => pool.cells.all fun cell =>
      isPoolHealthy (poolCellPods pods poolName cell) (poolReplicas pool) shard

section Health

variable {shard : Shard} {pods : List Pod} {poolName cellName : String} {pool : PoolSpec}
  {pod : Pod} {index replicas : ℕ}

theorem poolReplicas_lt (pool : PoolSpec) : poolReplicas pool < 2 ^ 31 := by
  unfold poolReplicas
  cases pool.replicasPerCell with
  | none => decide
  | some replicas => exact replicas.isLt

theorem resolvePodIndex_of_lt_poolReplicas (h : index < poolReplicas pool) :
    resolvePodIndex (buildPoolPodName shard poolName cellName index) = some index :=
  resolvePodIndex_buildPoolPodName _ _ _ (by have := poolReplicas_lt pool; omega)

theorem isPoolHealthy_of_shardHealthy (h : shardHealthy shard pods = true)
    (hpool : (poolName, pool) ∈ shard.spec.pools) (hcell : cellName ∈ pool.cells) :
    isPoolHealthy (poolCellPods pods poolName cellName) (poolReplicas pool) shard = true := by
  simp only [shardHealthy, Bool.and_eq_true, List.all_eq_true] at h
  exact h.2 (poolName, pool) hpool cellName hcell

theorem ready_of_isPoolHealthy (h : isPoolHealthy pods replicas shard = true) (hpod : pod ∈ pods)
    (hindex : resolvePodIndex pod.name = some index) (hrange : index < replicas)
    (hrole : resolvePodRole shard pod.name ≠ some .quarantined) : pod.ready = true := by
  simp only [isPoolHealthy, Bool.and_eq_true, List.all_eq_true] at h
  have hcounts : countsForHealth shard replicas pod = true := by
    simp [countsForHealth, hindex, hrange, hrole]
  have := h.2 pod hpod
  simp only [hcounts, Bool.not_true, Bool.false_or, isAvailablePooler, Bool.and_eq_true] at this
  exact this.2

/-- What the health check looks for: no pod is disrupted, every pool has as many pods in each of its
cells as it wants there, and those in range are Ready unless they are quarantined. -/
structure LooksHealthy (shard : Shard) (pods : List Pod) : Prop where
  calm : ∀ pod ∈ pods, pod.disrupted = false
  enough : ∀ poolName pool, (poolName, pool) ∈ shard.spec.pools → ∀ cellName ∈ pool.cells,
    poolReplicas pool ≤ (poolCellPods pods poolName cellName).length
  ready : ∀ poolName pool, (poolName, pool) ∈ shard.spec.pools → ∀ cellName ∈ pool.cells,
    ∀ pod ∈ poolCellPods pods poolName cellName, ∀ index < poolReplicas pool,
      resolvePodIndex pod.name = some index → resolvePodRole shard pod.name ≠ some .quarantined →
        pod.ready = true

/-- **When a shard counts as healthy**. -/
theorem shardHealthy_iff : shardHealthy shard pods = true ↔ LooksHealthy shard pods := by
  constructor
  · intro h
    have hcalm : ∀ pod ∈ pods, pod.disrupted = false := by
      simp only [shardHealthy, Bool.and_eq_true, List.all_eq_true, Bool.not_eq_true'] at h
      exact h.1
    refine ⟨hcalm, fun poolName pool hpool cellName hcell => ?_,
      fun poolName pool hpool cellName hcell pod hpod index hrange hindex hrole => ?_⟩
    · have hhealthy := isPoolHealthy_of_shardHealthy h hpool hcell
      simp only [isPoolHealthy, Bool.and_eq_true, decide_eq_true_eq] at hhealthy
      exact hhealthy.1
    · exact ready_of_isPoolHealthy (isPoolHealthy_of_shardHealthy h hpool hcell) hpod hindex hrange
        hrole
  · rintro ⟨hcalm, henough, hready⟩
    simp only [shardHealthy, isPoolHealthy, Bool.and_eq_true, List.all_eq_true, Bool.not_eq_true',
      Bool.or_eq_true, decide_eq_true_eq]
    refine ⟨hcalm, fun ⟨poolName, pool⟩ hpool cellName hcell =>
      ⟨henough poolName pool hpool cellName hcell, fun pod hpod => ?_⟩⟩
    cases hcounts : countsForHealth shard (poolReplicas pool) pod with
    | false => exact .inl rfl
    | true =>
      simp only [countsForHealth, Bool.and_eq_true, bne_iff_ne, ne_eq, Option.any_eq_true,
        decide_eq_true_eq] at hcounts
      obtain ⟨⟨index, hindex, hrange⟩, hrole⟩ := hcounts
      have := hready poolName pool hpool cellName hcell pod hpod index hrange hindex hrole
      simp [isAvailablePooler, isPodReady, this, hcalm pod (List.mem_filter.mp hpod).1]

end Health

/-! ## Candidates -/

def sortByName (pods : List Pod) : List Pod := pods.insertionSort fun a b => a.name ≤ b.name

/-- What a desired pod is to a rollout. -/
inductive RolloutClass
  | current
  | unreadyPrimary
  | readyPrimary
  | ready
  | unready
  deriving DecidableEq, Repr

/-- One pod in `classifyDesiredPods`; pods a rollout leaves to others have no class. -/
def rolloutClass (shard : Shard) (pod : Pod) : Option RolloutClass :=
  match shard.pool? pod.pool, resolvePodIndex pod.name with
  | some pool, some index =>
    let desired := decide (index < poolReplicas pool) || isActiveMaintenanceSurge shard pod
    let role := resolvePodRole shard pod.name
    if !poolUsesCell pool pod.cell || !desired || pod.disrupted || role == some .quarantined then none
    else if !podNeedsUpdate pod shard pod.pool pod.cell index then some .current
    else if role == some .primary then
      some (if isPodReady pod then .readyPrimary else .unreadyPrimary)
    else some (if isPodReady pod then .ready else .unready)
  | _, _ => none

/-- `rolloutCandidates`: the desired pods of the shard as a rollout sees them. -/
structure RolloutCandidates where
  unready : List Pod
  ready : List Pod
  primary : Option Pod
  current : List Pod

/-- `classifyDesiredPods`: each list in name order; a later primary replaces an earlier one. -/
def classifyDesiredPods (shard : Shard) (pods : List Pod) : RolloutCandidates :=
  let inClass (c : RolloutClass) := (sortByName pods).filter fun pod => rolloutClass shard pod == some c
  { unready := inClass .unready
    ready := inClass .ready
    primary := (inClass .unreadyPrimary).getLast?
    current := inClass .current }

def desiredPodNames (shard : Shard) : List String :=
  shard.spec.pools.flatMap fun (poolName, pool) => pool.cells.flatMap fun cell =>
    (List.range (poolReplicas pool)).map fun index => buildPoolPodName shard poolName cell index

/-- `missingDesiredPods`: the desired pods that do not exist, in name order. -/
def missingDesiredPods (shard : Shard) (pods : List Pod) : List String :=
  ((desiredPodNames shard).filter fun name => pods.all (·.name != name)).insertionSort (· ≤ ·)

/-- `unreadyExtras`: the extras a scale-down would remove that are not Ready, in name order. -/
def unreadyExtras (shard : Shard) (pods : List Pod) : List Pod :=
  sortByName <| pods.filter fun pod =>
    match shard.pool? pod.pool, resolvePodIndex pod.name with
    | some pool, some index =>
      let role := resolvePodRole shard pod.name
      poolUsesCell pool pod.cell && decide (poolReplicas pool ≤ index) && !isPodReady pod &&
        !isMaintenanceSurge pod && role != some .primary && role != some .quarantined &&
        !pod.disrupted
    | _, _ => false

/-- The score of a scale-down candidate: a high index, not the primary, not Ready. -/
def drainScore (shard : Shard) (pod : Pod) : ℤ :=
  ((resolvePodIndex pod.name).getD 0 : ℤ) -
    (if resolvePodRole shard pod.name = some .primary then 1000 else 0) +
    (if isPodReady pod then 0 else 500)

/-- `selectPodToDrain`: the first pod with the highest score. -/
def selectPodToDrain (shard : Shard) (pods : List Pod) : Option Pod :=
  pods.foldl (fun best pod =>
    match best with
    | none => some pod
    | some b => if drainScore shard b < drainScore shard pod then some pod else some b) none

/-! ## PVCs being deleted -/

/-- How long past its deadline a terminating pod counts as stuck. -/
def stuckDeletionSlack : Time := 120

/-- A pod that holds its PVCs: it is not on its way out, or is stuck there. -/
def holdsClaims (now : Time) (pod : Pod) : Bool :=
  pod.deletionTimestamp.all fun deadline => deadline + stuckDeletionSlack ≤ now

/-- `terminatingClaimsInUse`: the PVCs being deleted that a pod still holds, sorted. -/
def terminatingClaimsInUse (pods : List Pod) (pvcs : List PVC) (now : Time) : List String :=
  let terminating := (pvcs.filter PVC.terminating).map PVC.name
  let inUse := (pods.filter (holdsClaims now)).flatMap fun pod =>
    pod.claims.filter terminating.contains
  inUse.dedup.insertionSort (· ≤ ·)

end MultigresOperator

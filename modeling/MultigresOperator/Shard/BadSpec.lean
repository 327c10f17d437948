import MultigresOperator.Shard.DrainCancel

/-!
# A spec whose pods never become Ready

While the spec stays as it is and no pod built from it becomes Ready, the rollout should replace one
pod and then wait for it. The drained pod's place is the evidence: it is disrupted, then missing, then
held by a pod that is not Ready, and in each of these states both rollout paths refuse to go on. Two
states hide the evidence: a pod missing in a pool that has a pod to spare, which the health check
counts in its place, and a pod with the role QUARANTINED, which both paths skip.

## Main definitions

* `FixedSpecChange`: what others may do while the spec stays
* `DrainsOutdated`: the request drains a pod in range that is not on the spec
* `Transparent`: the two states that hide a pod's place do not occur
* `Stuck`: the state of the place of the first pod drained

## Main results

* `no_cause_of_stuck`: while a place is stuck no voluntary drain has a cause
* `bad_spec_advances_one`: **a bad spec advances at most one pod** while nothing is hidden
* `missing_pod_masked`: a run that drains a second pod
-/

namespace MultigresOperator

open Effects

/-! ## Pods and the spec -/

/-- The pod carries the hash of the pod the spec wants at an index. -/
def OnSpec (shard : Shard) (poolName cellName : String) (index : ℕ) (pod : Pod) : Prop :=
  ∃ hash, shard.spec.podHash poolName cellName index = some hash ∧ pod.specHash = some hash

/-- The pod carries another hash than the spec wants at an index, or none. -/
def OffSpec (shard : Shard) (poolName cellName : String) (index : ℕ) (pod : Pod) : Prop :=
  pod.specHash = none ∨
    ∃ hash, shard.spec.podHash poolName cellName index = some hash ∧ pod.specHash ≠ some hash

/-- The pod was built from the spec, for the pool, the cell and the index it bears. -/
def BuiltFromSpec (shard : Shard) (pod : Pod) : Prop :=
  ∃ index, resolvePodIndex pod.name = some index ∧ OnSpec shard pod.pool pod.cell index pod

section Spec

variable {shard : Shard} {poolName cellName : String} {index : ℕ} {pod : Pod}

theorem podNeedsUpdate_of_onSpec (h : OnSpec shard poolName cellName index pod) :
    podNeedsUpdate pod shard poolName cellName index = false := by
  obtain ⟨hash, hdesired, hhash⟩ := h
  simp [podNeedsUpdate, hdesired, hhash]

theorem offSpec_of_podNeedsUpdate (h : podNeedsUpdate pod shard poolName cellName index = true) :
    OffSpec shard poolName cellName index pod := by
  unfold podNeedsUpdate at h
  split at h
  · cases h
  split at h
  · next hnone => exact .inl hnone
  · next hash hhash =>
    split at h
    · cases h
    · next desired hdesired =>
      refine .inr ⟨desired, hdesired, ?_⟩
      rw [hhash]
      simpa using h

theorem podNeedsUpdate_of_offSpec (hterm : pod.terminating = false)
    (h : OffSpec shard poolName cellName index pod) :
    podNeedsUpdate pod shard poolName cellName index = true := by
  unfold podNeedsUpdate
  rw [if_neg (by simp [hterm])]
  rcases h with hnone | ⟨hash, hdesired, hne⟩
  · simp [hnone]
  · cases hhash : pod.specHash with
    | none => rfl
    | some existing =>
      rw [hhash] at hne
      simpa [hdesired] using hne

end Spec

/-! ## The run -/

/-- Others leave the spec, the drain annotations and the deletion of pods alone, and no pod built from
the spec becomes Ready. Roles, readiness and everything else may change. -/
structure FixedSpecChange (x y : System) : Prop where
  spec : y.shard.spec = x.shard.spec
  labels : y.shard.labels = x.shard.labels
  pods : ∀ pod ∈ y.server.pods, ∃ old ∈ x.server.pods, old.name = pod.name ∧
    old.labels = pod.labels ∧ old.specHash = pod.specHash ∧ old.drainState = pod.drainState ∧
      old.deletionTimestamp = pod.deletionTimestamp
  ready : ∀ pod ∈ y.server.pods, BuiltFromSpec y.shard pod → pod.ready = false

/-- No pool pod is stranded on another global topology. -/
def NoneStranded (shard : Shard) (s : Server) (i : Answer) : Prop :=
  ∀ pod ∈ s.poolPods shard, ¬ Stranded shard i pod

/-- The request drains a pool pod in range that is not on the spec. -/
def DrainsOutdated (x : System) (o : Op) : Prop :=
  ∃ pod ∈ x.poolPods, ∃ time index, o = .patchPod pod.name (.requestDrain time) ∧
    isDesiredPooler x.shard pod = true ∧ resolvePodIndex pod.name = some index ∧
      podNeedsUpdate pod x.shard pod.pool pod.cell index = true

/-- Pods are deleted only once they are drained. -/
def DeletesDrained (x : System) (o : Op) : Prop :=
  ∀ name uid how, o = .deletePod name uid how → ∀ pod ∈ x.server.pods, pod.name = name →
    pod.drainState = some .readyForDeletion

/-- The pool wants a pod in the cell that does not exist. -/
def Lacks (x : System) (poolName cellName : String) (pool : PoolSpec) : Prop :=
  ∃ index < poolReplicas pool, ∀ pod ∈ x.poolPods,
    pod.name ≠ buildPoolPodName x.shard poolName cellName index

/-- Nothing hides the place of a drained pod: a pool that lacks a pod in a cell has none to spare
there, and no pod built from the spec has the role QUARANTINED. -/
structure Transparent (x : System) : Prop where
  spare : ∀ poolName pool, (poolName, pool) ∈ x.shard.spec.pools → ∀ cellName ∈ pool.cells,
    Lacks x poolName cellName pool → ∀ pod ∈ poolCellPods x.poolPods poolName cellName,
      ∃ index < poolReplicas pool, pod.name = buildPoolPodName x.shard poolName cellName index
  quarantined : ∀ pod ∈ x.poolPods, BuiltFromSpec x.shard pod →
    resolvePodRole x.shard pod.name ≠ some .quarantined

/-- Pod names tell the pools and cells of the spec apart. -/
def NamesSeparate (shard : Shard) : Prop :=
  ∀ poolName pool, (poolName, pool) ∈ shard.spec.pools → ∀ cellName ∈ pool.cells,
    ∀ poolName' pool', (poolName', pool') ∈ shard.spec.pools → ∀ cellName' ∈ pool'.cells, ∀ index,
      buildPoolPodName shard poolName cellName index =
        buildPoolPodName shard poolName' cellName' index →
      poolName = poolName' ∧ cellName = cellName'

/-! ### Deciding the conditions on a state -/

instance (shard : Shard) (poolName cellName : String) (index : ℕ) (pod : Pod) :
    Decidable (OnSpec shard poolName cellName index pod) :=
  decidable_of_iff (∃ hash ∈ (shard.spec.podHash poolName cellName index).toList,
    pod.specHash = some hash) (by simp [OnSpec])

instance (shard : Shard) (pod : Pod) : Decidable (BuiltFromSpec shard pod) :=
  decidable_of_iff (∃ index ∈ (resolvePodIndex pod.name).toList,
    OnSpec shard pod.pool pod.cell index pod) (by simp [BuiltFromSpec])

instance (shard : Shard) (i : Answer) (pod : Pod) : Decidable (Stranded shard i pod) :=
  decidable_of_iff (podTopoDrifted pod shard = true ∧ ∃ store ∈ i.topology.toList,
    livePoolerPods store shard [pod.name] = .ok []) (by simp [Stranded])

instance (shard : Shard) (s : Server) (i : Answer) : Decidable (NoneStranded shard s i) :=
  inferInstanceAs (Decidable (∀ pod ∈ s.poolPods shard, ¬ Stranded shard i pod))

instance (x : System) (poolName cellName : String) (pool : PoolSpec) :
    Decidable (Lacks x poolName cellName pool) :=
  inferInstanceAs (Decidable (∃ index < poolReplicas pool, ∀ pod ∈ x.poolPods,
    pod.name ≠ buildPoolPodName x.shard poolName cellName index))

instance (x : System) : Decidable (Transparent x) :=
  decidable_of_iff ((∀ entry ∈ x.shard.spec.pools, ∀ cellName ∈ entry.2.cells,
      Lacks x entry.1 cellName entry.2 → ∀ pod ∈ poolCellPods x.poolPods entry.1 cellName,
        ∃ index < poolReplicas entry.2,
          pod.name = buildPoolPodName x.shard entry.1 cellName index) ∧
      ∀ pod ∈ x.poolPods, BuiltFromSpec x.shard pod →
        resolvePodRole x.shard pod.name ≠ some .quarantined)
    ⟨fun ⟨hspare, hrole⟩ => ⟨fun poolName pool hpool => hspare (poolName, pool) hpool, hrole⟩,
      fun ⟨hspare, hrole⟩ => ⟨fun entry => hspare entry.1 entry.2, hrole⟩⟩

def Op.drainTarget : Op → Option String
  | .patchPod name (.requestDrain _) => some name
  | _ => none

theorem Op.drainTarget_eq_some {o : Op} {name : String} :
    o.drainTarget = some name ↔ ∃ time, o = .patchPod name (.requestDrain time) := by
  constructor
  · intro h
    unfold drainTarget at h
    split at h
    · next time => exact ⟨time, by rw [Option.some.inj h]⟩
    · cases h
  · rintro ⟨time, rfl⟩
    rfl

instance (x : System) (o : Op) : Decidable (DrainsOutdated x o) :=
  decidable_of_iff (∃ pod ∈ x.poolPods, o.drainTarget = some pod.name ∧
      isDesiredPooler x.shard pod = true ∧ ∃ index ∈ (resolvePodIndex pod.name).toList,
        podNeedsUpdate pod x.shard pod.pool pod.cell index = true) <| by
    simp only [DrainsOutdated, Op.drainTarget_eq_some, Option.mem_toList]
    constructor
    · rintro ⟨pod, hpod, ⟨time, hop⟩, hdesired, index, hindex, hupdate⟩
      exact ⟨pod, hpod, time, index, hop, hdesired, hindex, hupdate⟩
    · rintro ⟨pod, hpod, time, index, hop, hdesired, hindex, hupdate⟩
      exact ⟨pod, hpod, ⟨time, hop⟩, hdesired, index, hindex, hupdate⟩

instance (x : System) (o : Op) : Decidable (DeletesDrained x o) :=
  match o with
  | .deletePod name uid how =>
    decidable_of_iff (∀ pod ∈ x.server.pods.items, pod.name = name →
      pod.drainState = some .readyForDeletion)
      ⟨fun h _ _ _ hop => (Op.deletePod.inj hop).1 ▸ h, fun h => h name uid how rfl⟩
  | .createPod _ | .patchPod _ _ | .createPVC _ | .patchPVC _ _ | .applyPVC _ | .deletePVC _ _ _
  | .deleteDeployment _ _ | .setFinalizer _ => .isTrue fun _ _ _ hop => nomatch hop

/-! ## The place of the first pod drained -/

/-- A pod in the place of the first pod drained: that pod, disrupted, or one built from the spec that
is not Ready. -/
structure StuckPod (shard : Shard) (poolName cellName : String) (index : ℕ) (pod : Pod) : Prop where
  member : (disruptionSelector shard).Matches pod.labels = true
  pool : pod.pool = poolName
  cell : pod.cell = cellName
  state : OffSpec shard poolName cellName index pod ∧ pod.disrupted = true ∨
    OnSpec shard poolName cellName index pod ∧ pod.ready = false

/-- A place the spec wants filled is empty or held by a pod that is stuck. -/
def Stuck (x : System) : Prop :=
  ∃ poolName pool cellName index, (poolName, pool) ∈ x.shard.spec.pools ∧ cellName ∈ pool.cells ∧
    index < poolReplicas pool ∧ ∀ pod ∈ x.server.pods,
      pod.name = buildPoolPodName x.shard poolName cellName index →
        StuckPod x.shard poolName cellName index pod

/-- A terminating pool pod is draining: only drained pods are deleted. -/
def DeletedDraining (x : System) : Prop :=
  ∀ pod ∈ x.poolPods, pod.terminating = true → pod.draining = true

section Stuck

variable {x : System} {poolName cellName : String} {pool : PoolSpec} {index : ℕ} {pod : Pod}

/-- A pool that lacks a pod in a cell and has none to spare there has too few. -/
theorem length_lt_of_lacks
    (hnamed : ∀ pod ∈ poolCellPods x.poolPods poolName cellName, ∃ i < poolReplicas pool,
      pod.name = buildPoolPodName x.shard poolName cellName i)
    (hindex : index < poolReplicas pool)
    (hlacks : ∀ pod ∈ x.poolPods, pod.name ≠ buildPoolPodName x.shard poolName cellName index) :
    (poolCellPods x.poolPods poolName cellName).length < poolReplicas pool := by
  have hsub : (poolCellPods x.poolPods poolName cellName).Sublist x.server.pods.items :=
    List.filter_sublist.trans List.filter_sublist
  have hnodup : ((poolCellPods x.poolPods poolName cellName).map Pod.name).Nodup :=
    x.server.pods.nodup.sublist (hsub.map Pod.name)
  have hothers : (poolCellPods x.poolPods poolName cellName).map Pod.name ⊆
      ((List.range (poolReplicas pool)).erase index).map
        (buildPoolPodName x.shard poolName cellName) := by
    intro name hname
    obtain ⟨pod, hpod, rfl⟩ := List.mem_map.mp hname
    obtain ⟨i, hi, hbuilt⟩ := hnamed pod hpod
    have hne : i ≠ index := by
      rintro rfl
      exact hlacks pod (List.mem_filter.mp hpod).1 hbuilt
    exact List.mem_map.mpr ⟨i, (List.mem_erase_of_ne hne).mpr (List.mem_range.mpr hi), hbuilt.symm⟩
  have hle := (List.subperm_of_subset hnodup hothers).length_le
  rw [List.length_map, List.length_map, List.length_erase_of_mem (List.mem_range.mpr hindex),
    List.length_range] at hle
  omega

theorem mem_current {shard : Shard} {pods : List Pod} (hmem : pod ∈ pods)
    (hpool : shard.pool? pod.pool = some pool) (hcell : pod.cell ∈ pool.cells)
    (hindex : resolvePodIndex pod.name = some index) (hrange : index < poolReplicas pool)
    (hspec : OnSpec shard pod.pool pod.cell index pod) (hquiet : pod.disrupted = false)
    (hrole : resolvePodRole shard pod.name ≠ some .quarantined) :
    pod ∈ (classifyDesiredPods shard pods).current := by
  refine List.mem_filter.mpr ⟨(List.mem_insertionSort _).mpr hmem, ?_⟩
  simp [rolloutClass, hpool, hindex, hrange, hquiet, hrole, poolUsesCell, hcell,
    podNeedsUpdate_of_onSpec hspec]

/-- **While a place is stuck no voluntary drain has a cause**: neither the health check of a Ready
rollout nor the gates of the not-Ready rollout let one through. -/
theorem no_cause_of_stuck (hstuck : Stuck x) (ht : Transparent x) (hquiet : Quiet x.shard x.server)
    {name : String} : ¬ DrainCause (NoneStranded x.shard) x.shard x.server name := by
  obtain ⟨poolName, pool, cellName, index, hpool, hcell, hindex, hplace⟩ := hstuck
  have hresolve : resolvePodIndex (buildPoolPodName x.shard poolName cellName index) = some index :=
    resolvePodIndex_of_lt_poolReplicas hindex
  intro hcause
  by_cases hexists : ∃ pod ∈ x.server.pods, pod.name = buildPoolPodName x.shard poolName cellName index
  · -- the place is held by a pod that is not Ready
    obtain ⟨pod, hmem, hname⟩ := hexists
    have hstuck := hplace pod hmem hname
    have hpodmem : pod ∈ x.poolPods := System.mem_poolPods.mpr ⟨hmem, hstuck.member⟩
    have hundisturbed := hquiet pod hpodmem
    obtain ⟨hspec, hready⟩ := hstuck.state.resolve_left fun h => by simp [hundisturbed] at h
    rw [← hname] at hresolve
    have hrole := ht.quarantined pod hpodmem
      ⟨index, hresolve, by rw [hstuck.pool, hstuck.cell]; exact hspec⟩
    cases hcause with
    | healthy h =>
      have hmemcell : pod ∈ poolCellPods x.poolPods poolName cellName :=
        List.mem_filter.mpr ⟨hpodmem, by simp [hstuck.pool, hstuck.cell]⟩
      have := ready_of_isPoolHealthy (isPoolHealthy_of_shardHealthy h hpool hcell) hmemcell hresolve
        hindex hrole
      simp [hready] at this
    | unready _ current =>
      have hlookup : x.shard.pool? pod.pool = some pool := by
        rw [hstuck.pool]
        exact Assoc.lookup_of_mem x.shard.spec.pools_nodup hpool
      have := current pod (mem_current hpodmem hlookup (by rwa [hstuck.cell]) hresolve hindex
        (by rw [hstuck.pool, hstuck.cell]; exact hspec) hundisturbed hrole)
      simp [isPodReady, hready] at this
    | stranded mem _ known h => exact known _ mem h
  · -- the place is empty
    have hlacks : ∀ pod ∈ x.poolPods,
        pod.name ≠ buildPoolPodName x.shard poolName cellName index := fun pod hpod hname =>
      hexists ⟨pod, (System.mem_poolPods.mp hpod).1, hname⟩
    cases hcause with
    | healthy h =>
      have hhealthy := isPoolHealthy_of_shardHealthy h hpool hcell
      have hlt := length_lt_of_lacks
        (ht.spare poolName pool hpool cellName hcell ⟨index, hindex, hlacks⟩) hindex hlacks
      simp only [isPoolHealthy, Bool.and_eq_true, decide_eq_true_eq] at hhealthy
      exact absurd hhealthy.1 (by simpa [System.poolPods] using hlt)
    | unready missing _ =>
      have hmissing : buildPoolPodName x.shard poolName cellName index ∈
          missingDesiredPods x.shard (x.server.poolPods x.shard) := by
        refine (List.mem_insertionSort _).mpr (List.mem_filter.mpr ⟨?_, ?_⟩)
        · exact List.mem_flatMap.mpr ⟨(poolName, pool), hpool, List.mem_flatMap.mpr ⟨cellName, hcell,
            List.mem_map.mpr ⟨index, List.mem_range.mpr hindex, rfl⟩⟩⟩
        · simp only [List.all_eq_true, bne_iff_ne]
          exact hlacks
      simp [missing] at hmissing
    | stranded mem _ known h => exact known _ mem h

end Stuck

/-! ## What keeps a place stuck -/

section Keep

variable {x y : System} {B : Server → Answer → Prop} {o : Op} {t : Server}

theorem FixedSpecChange.podName (h : FixedSpecChange x y) :
    buildPoolPodName y.shard = buildPoolPodName x.shard := by
  funext poolName cellName index
  simp [buildPoolPodName, poolNameParts, Shard.clusterName, h.spec, h.labels]

theorem FixedSpecChange.selector (h : FixedSpecChange x y) :
    disruptionSelector y.shard = disruptionSelector x.shard := by
  simp [disruptionSelector, shardSelector, Shard.clusterName, h.spec, h.labels]

theorem DeletedDraining.change (hJ : DeletedDraining x) (h : FixedSpecChange x y) :
    DeletedDraining y := by
  intro pod hpod hterm
  have ⟨hmem, hmatch⟩ := System.mem_poolPods.mp hpod
  obtain ⟨old, hold, -, hlabels, -, hstate, hdel⟩ := h.pods pod hmem
  have := hJ old (System.mem_poolPods.mpr ⟨hold, by rw [hlabels, ← h.selector]; exact hmatch⟩)
    (by rwa [Pod.terminating, hdel])
  rwa [Pod.draining, hstate] at this

theorem DeletedDraining.request (hJ : DeletedDraining x) (hG : Guard B x.shard x.server o)
    (hdrained : DeletesDrained x o) (ht : x.server.exec o = .ok t) : DeletedDraining (x.on t) := by
  intro pod hpod hterm
  have ⟨hmem, hmatch⟩ := System.mem_poolPods.mp hpod
  cases Server.origin_of_exec ht hmem with
  | created hop heq =>
    subst hop
    rw [heq, Pod.terminating, Server.admitPod, hG.1.fresh.2.1] at hterm
    cases hterm
  | kept hold _ => exact hJ pod (System.mem_poolPods.mpr ⟨hold, hmatch⟩) hterm
  | @stamped old uid how hold hop heq =>
    rw [heq, Pod.draining, Pod.stamped, hdrained _ _ _ hop old hold rfl]
    rfl
  | @patched old patch hold hop heq =>
    subst hop
    have hold' (hterm : old.terminating = true) : old.draining = true := by
      refine hJ old (System.mem_poolPods.mpr ⟨hold, ?_⟩) hterm
      rw [heq] at hmatch
      cases patch <;> exact hmatch
    rw [heq] at hterm ⊢
    cases patch with
    | requestDrain time => rfl
    | setDrainState state => rfl
    | clearDrain =>
      have hstale := (isDrainStale_iff.mp (hG old hold rfl)).2.1
      simp [PodPatch.apply, Pod.terminating] at hterm hstale
      simp [hstale] at hterm
    | setMaintenanceSurge on => exact hold' hterm
    | setMaintenanceReady on => exact hold' hterm

theorem Stuck.change (hK : Stuck x) (h : FixedSpecChange x y) : Stuck y := by
  obtain ⟨poolName, pool, cellName, index, hpool, hcell, hindex, hplace⟩ := hK
  refine ⟨poolName, pool, cellName, index, h.spec ▸ hpool, hcell, hindex, fun pod hpod hname => ?_⟩
  obtain ⟨old, hold, hname', hlabels, hhash, hstate, hdel⟩ := h.pods pod hpod
  have hstuck := hplace old hold (by rw [hname', hname, h.podName])
  have hpoolLabel : pod.pool = poolName := by rw [← hstuck.pool, Pod.pool, Pod.pool, hlabels]
  have hcellLabel : pod.cell = cellName := by rw [← hstuck.cell, Pod.cell, Pod.cell, hlabels]
  refine ⟨by rw [h.selector, ← hlabels]; exact hstuck.member, hpoolLabel, hcellLabel, ?_⟩
  refine hstuck.state.imp (fun ⟨hoff, hdis⟩ => ⟨?_, ?_⟩) fun ⟨hon, _⟩ => ?_
  · rwa [OffSpec, h.spec, ← hhash]
  · simpa [Pod.disrupted, Pod.draining, Pod.terminating, hstate, hdel] using hdis
  · have hon' : OnSpec y.shard poolName cellName index pod := by rwa [OnSpec, h.spec, ← hhash]
    refine ⟨hon', h.ready pod hpod ⟨index, ?_, ?_⟩⟩
    · rw [hname]
      exact resolvePodIndex_of_lt_poolReplicas hindex
    · rwa [hpoolLabel, hcellLabel]

theorem matches_buildPoolLabelsWithCell (shard : Shard) (poolName cellName : String) :
    (disruptionSelector shard).Matches (buildPoolLabelsWithCell shard poolName cellName) = true := by
  obtain ⟨cluster, hcluster⟩ := Option.isSome_iff_exists.mp shard.labels_cluster
  have hname : shard.clusterName = cluster := by simp [Shard.clusterName, Labels.get, hcluster]
  have hlookup : (buildPoolLabelsWithCell shard poolName cellName).lookup .cluster = some cluster := by
    rw [← hcluster]
    exact Assoc.lookup_filter (l := shard.labels) (k := LabelKey.cluster) (f := fun key => (List.lookup key
      (buildStandardLabels shard.clusterName poolComponentName ++
        [(.shard, shard.spec.shardName), (.cell, cellName), (.pool, poolName),
          (.database, shard.spec.databaseName), (.tableGroup, shard.spec.tableGroupName)])).isNone) rfl
  have hrest : (buildPoolLabelsWithCell shard poolName cellName).lookup .database =
        some shard.spec.databaseName ∧
      (buildPoolLabelsWithCell shard poolName cellName).lookup .tableGroup =
        some shard.spec.tableGroupName ∧
      (buildPoolLabelsWithCell shard poolName cellName).lookup .shard = some shard.spec.shardName ∧
      (buildPoolLabelsWithCell shard poolName cellName).lookup .appComponent =
        some poolComponentName := ⟨rfl, rfl, rfl, rfl⟩
  simp [disruptionSelector, shardSelector, Labels.Matches, hlookup, hname, hrest]

theorem stuckPod_of_built {shard : Shard} {poolName cellName : String} {pool : PoolSpec} {index : ℕ}
    {new : Pod} (hmode : shard.spec.mode ≠ .lite) (hnames : NamesSeparate shard)
    (hpool : (poolName, pool) ∈ shard.spec.pools) (hcell : cellName ∈ pool.cells)
    (hname : new.name = buildPoolPodName shard poolName cellName index) (h : Built shard new) :
    StuckPod shard poolName cellName index new := by
  cases h with
  | lite _ mode _ _ => exact absurd mode hmode
  | pool time hpool' hcell' build eq =>
    rename_i poolName' cellName' pool' index' built surge
    have hbuilt := name_of_buildPoolPod build
    obtain ⟨hash, hhash, rfl⟩ := Option.map_eq_some_iff.mp build
    subst eq
    obtain rfl := index_eq_of_buildPoolPodName_eq (hbuilt.symm.trans hname)
    obtain ⟨rfl, rfl⟩ := hnames poolName' pool' hpool' cellName' hcell' poolName pool hpool cellName
      hcell _ (hbuilt.symm.trans hname)
    exact ⟨matches_buildPoolLabelsWithCell _ _ _, rfl, rfl, .inr ⟨⟨hash, hhash, rfl⟩, rfl⟩⟩

/-- **A stuck place stays stuck** under every guarded request. -/
theorem Stuck.request (hK : Stuck x) (hmode : x.shard.spec.mode ≠ .lite)
    (hnames : NamesSeparate x.shard) (hG : Guard B x.shard x.server o)
    (ht : x.server.exec o = .ok t) : Stuck (x.on t) := by
  obtain ⟨poolName, pool, cellName, index, hpool, hcell, hindex, hplace⟩ := hK
  refine ⟨poolName, pool, cellName, index, hpool, hcell, hindex, fun pod hpod hname => ?_⟩
  have hname : pod.name = buildPoolPodName x.shard poolName cellName index := hname
  cases Server.origin_of_exec ht hpod with
  | @created new hop heq =>
    subst hop
    have hstuck := stuckPod_of_built hmode hnames hpool hcell (heq ▸ hname) hG.1
    exact heq ▸ ⟨hstuck.member, hstuck.pool, hstuck.cell, hstuck.state⟩
  | kept hold _ => exact hplace pod hold hname
  | @stamped old uid how hold hop heq =>
    have hstuck := hplace old hold (by rw [← hname, heq]; rfl)
    refine heq ▸ ⟨hstuck.member, hstuck.pool, hstuck.cell, hstuck.state.imp_left fun h => ⟨h.1, ?_⟩⟩
    rw [Pod.disrupted, Pod.terminating_stamped, Bool.or_true]
  | @patched old patch hold hop heq =>
    subst hop
    have hname' : old.name = buildPoolPodName x.shard poolName cellName index := by
      rw [← hname, heq, PodPatch.apply_name]
    have hstuck := hplace old hold hname'
    rw [heq]
    cases patch with
    | requestDrain time =>
      exact ⟨hstuck.member, hstuck.pool, hstuck.cell, hstuck.state.imp_left fun h => ⟨h.1, rfl⟩⟩
    | setDrainState state =>
      exact ⟨hstuck.member, hstuck.pool, hstuck.cell, hstuck.state.imp_left fun h => ⟨h.1, rfl⟩⟩
    | clearDrain =>
      -- a drain is only cancelled on a pod that is on the spec
      refine ⟨hstuck.member, hstuck.pool, hstuck.cell, .inr (hstuck.state.resolve_left fun h => ?_)⟩
      obtain ⟨-, hterm, -, -, _, i, -, hi, -, hupdate⟩ := isDrainStale_iff.mp (hG old hold rfl)
      rw [hname', resolvePodIndex_of_lt_poolReplicas hindex] at hi
      obtain rfl := Option.some.inj hi
      rw [hstuck.pool, hstuck.cell, podNeedsUpdate_of_offSpec hterm h.1] at hupdate
      cases hupdate
    | setMaintenanceSurge on => exact ⟨hstuck.member, hstuck.pool, hstuck.cell, hstuck.state⟩
    | setMaintenanceReady on => exact ⟨hstuck.member, hstuck.pool, hstuck.cell, hstuck.state⟩

/-- **The first pod drained** leaves its place stuck. -/
theorem stuck_of_drainsOutdated (hD : DrainsOutdated x o) (ht : x.server.exec o = .ok t) :
    Stuck (x.on t) := by
  obtain ⟨pod, hpod, time, index, rfl, hdesired, hindex, hupdate⟩ := hD
  have ⟨hmem, hmatch⟩ := System.mem_poolPods.mp hpod
  obtain ⟨pool, hpool, huses, i, hi, hname⟩ := isDesiredPooler_iff.mp hdesired
  rw [hname, resolvePodIndex_of_lt_poolReplicas hi] at hindex
  obtain rfl := Option.some.inj hindex
  refine ⟨pod.pool, pool, pod.cell, i, Assoc.mem_of_lookup hpool, huses, hi,
    fun q hq hqname => ?_⟩
  have hqname : q.name = pod.name := hqname.trans hname.symm
  cases Server.origin_of_exec ht hq with
  | created hop _ => cases hop
  | stamped _ hop _ => cases hop
  | kept _ hop => exact absurd (by rw [hqname]) (hop (.requestDrain time))
  | @patched old patch hold hop heq =>
    obtain ⟨hname', rfl⟩ := Op.patchPod.inj hop
    obtain rfl := x.server.pods.eq_of_key_eq hold hmem hname'.symm
    exact heq ▸ ⟨hmatch, rfl, rfl, .inl ⟨offSpec_of_podNeedsUpdate hupdate, rfl⟩⟩

end Keep

/-- **A bad spec advances at most one pod.** In every run with a fixed spec in which no pod built from
it becomes Ready, only drained pods are deleted and none is stranded, at most one request drains a pod
in range that is not on the spec, as long as nothing hides the place of a pod. -/
theorem bad_spec_advances_one {r : Reconciler} {x y : System} {tr : List (System × Op)}
    (h : Run r NoneStranded FixedSpecChange x tr y) (hx : DeletedDraining x)
    (hdeletes : ∀ e ∈ tr, DeletesDrained e.1 e.2)
    (hnames : NamesSeparate x.shard) (htransparent : ∀ e ∈ tr, Transparent e.1) :
    tr.Pairwise fun e e' => ¬ (DrainsOutdated e.1 e.2 ∧ DrainsOutdated e'.1 e'.2) := by
  by_cases hmode : x.shard.spec.mode = .lite
  · -- a Lite shard is never drained
    have hnone := h.lite hmode fun _ _ hE => hE.spec
    refine List.pairwise_of_forall_mem_list fun e he e' _ hboth => ?_
    obtain ⟨⟨pod, _, time, _, hop, _⟩, -⟩ := hboth
    exact hnone e he _ _ hop
  refine h.atMostOnce (K := Stuck) (H := fun y o => DeletesDrained y o ∧ Transparent y)
    (J := fun y => DeletedDraining y ∧ y.shard.spec.mode ≠ .lite ∧ NamesSeparate y.shard)
    (fun e he => ⟨hdeletes e he, htransparent e he⟩) ?_ ?_ ?_ ?_ ⟨hx, hmode, hnames⟩
  · rintro y z ⟨hJ, hmode, hnames⟩ hE
    refine ⟨⟨hJ.change hE, by rwa [hE.spec], ?_⟩, fun hK => hK.change hE⟩
    rwa [NamesSeparate, hE.spec, hE.podName]
  · rintro y o t ⟨hJ, hmode, hnames⟩ hG hH ht
    exact ⟨hJ.request hG hH.1 ht, hmode, hnames⟩
  · rintro y o t ⟨hJ, hmode, hnames⟩ hK hG hH ht
    refine ⟨?_, hK.request hmode hnames hG ht⟩
    rintro ⟨pod, hpod, time, index, rfl, -⟩
    cases hG with
    | external hext =>
      have ⟨hterm, hdrain⟩ := hext pod (System.mem_poolPods.mp hpod).1 rfl
      simp [hJ pod hpod hterm] at hdrain
    | voluntary clear cause => exact no_cause_of_stuck hK hH.2 clear.quiet cause
  · exact fun y o t _ _ hD ht => stuck_of_drainsOutdated hD ht

/-! ## Two pools -/

namespace Sample

def oldSystem : System :=
  ⟨threeShard, { server ⟨[readyPod 0 "old", readyPod 1 "old", readyPod 2 "old"], by decide +kernel⟩ with
    pvcs := ⟨[dataPVC 0, dataPVC 1, dataPVC 2], dataPVCs_nodup⟩ }⟩

def pairPools : List (String × PoolSpec) :=
  [("a", { cells := ["z1"], replicasPerCell := some 2 }), ("b", { cells := ["z1"] })]

def pairShard : Shard :=
  { shard with spec := { shard.spec with
      pools := pairPools, pools_nodup := by decide, backup := some .s3
      podHash := fun _ _ _ => some "new" } }

def pairName (pool : String) (index : ℕ) : String := buildPoolPodName shard pool "z1" index

def pairPod (pool : String) (index : ℕ) (ready : Bool) : Pod where
  name := pairName pool index
  uid := index
  labels := buildPoolLabelsWithCell shard pool "z1"
  claims := [buildPoolDataPVCName shard pool "z1" index]
  topoFlags := some ("", "")
  specHash := some "old"
  phase := .running
  ready := ready

def pairPVC (pool : String) (index : ℕ) : PVC where
  name := buildPoolDataPVCName shard pool "z1" index
  uid := index
  labels := (.cluster, "mg") :: buildPoolLabelsWithCell shard pool "z1"

/-- The pods of the two pools: the first pod of pool `b` is given, and the second is to spare. -/
def pairServer (first : List Pod) (revision : ℕ)
    (h : ((pairPod "a" 0 true :: pairPod "a" 1 true :: (first ++ [pairPod "b" 1 true])).map
      Pod.name).Nodup) : Server :=
  { server ⟨_, h⟩ with
    pvcs := ⟨[pairPVC "a" 0, pairPVC "a" 1, pairPVC "b" 0, pairPVC "b" 1], by decide +kernel⟩
    revision := revision }

def pairSystem : System := ⟨pairShard, pairServer [pairPod "b" 0 false] 100 (by decide +kernel)⟩

/-- The first pod of pool `b` has been drained. -/
def drainedSystem : System :=
  ⟨pairShard, pairServer [{ pairPod "b" 0 false with
    drainState := some .readyForDeletion, drainRequestedAt := some 12000 }] 102 (by decide +kernel)⟩

/-- The first pod of pool `b` is gone. -/
def missingSystem : System := ⟨pairShard, pairServer [] 103 (by decide +kernel)⟩

/-- A pass over these poolers, led from the second pod of pool `b`. -/
def pairPass (names : List String) : Pass where
  pools := pairPools
  answers := fun n =>
    { now := 1000 * n
      removal := ⟨true, 0⟩
      topology := some fun _ => .ok (names.map fun name =>
        record name name (if name = pairName "b" 1 then .primary else .replica))
      rpc := some (rpc (pairName "b" 1) (names.map poolerId)) }

def fullPass : Pass := pairPass [pairName "a" 0, pairName "a" 1, pairName "b" 0, pairName "b" 1]

def reducedPass : Pass := pairPass [pairName "a" 0, pairName "a" 1, pairName "b" 1]

/-- The requests of a pass with the states of the system they are made in. -/
def requests (p : Pass) (x : System) : List (System × Op) :=
  (p.outcome reconciler x).trace.map fun e => (x.on e.1, e.2)

/-- What a pass has to satisfy to be part of a run with a fixed spec. -/
abbrev Regular (p : Pass) (x : System) : Prop :=
  (reconcileShard reconciler x.shard p.pools).Admits machine
      (fun s i => i.Current ∧ NoneStranded x.shard s i) p.answers x.server ∧
    ∀ e ∈ requests p x, DeletesDrained e.1 e.2

theorem healthyPass_oldSystem : Regular healthyPass oldSystem ∧
    (∃ e ∈ requests healthyPass oldSystem, DrainsOutdated e.1 e.2) ∧
    ∀ e ∈ requests healthyPass oldSystem, Transparent e.1 := by decide +kernel

theorem fullPass_pairSystem : Regular fullPass pairSystem ∧
    (fullPass.outcome reconciler pairSystem).state = drainedSystem.server ∧
    ∃ e ∈ requests fullPass pairSystem, DrainsOutdated e.1 e.2 := by decide +kernel

theorem fullPass_drainedSystem : Regular fullPass drainedSystem ∧
    (fullPass.outcome reconciler drainedSystem).state = missingSystem.server := by decide +kernel

theorem reducedPass_missingSystem : Regular reducedPass missingSystem ∧
    ∃ e ∈ requests reducedPass missingSystem, DrainsOutdated e.1 e.2 := by decide +kernel

theorem namesSeparate_pairShard : NamesSeparate pairShard := by
  have hne (index : ℕ) : buildPoolPodName pairShard "a" "z1" index ≠
      buildPoolPodName pairShard "b" "z1" index := by
    intro h
    have h := congrArg String.toList h
    simp only [buildPoolPodName, String.toList_append, List.append_assoc,
      List.append_cancel_right_eq] at h
    exact absurd h (by decide +kernel)
  intro poolName pool hpool cellName hcell poolName' pool' hpool' cellName' hcell' index h
  simp only [pairShard, pairPools, List.mem_cons, Prod.mk.injEq, List.not_mem_nil, or_false]
    at hpool hpool'
  obtain ⟨rfl, rfl⟩ | ⟨rfl, rfl⟩ := hpool <;> obtain ⟨rfl, rfl⟩ | ⟨rfl, rfl⟩ := hpool' <;>
    obtain rfl := List.mem_singleton.mp hcell <;> obtain rfl := List.mem_singleton.mp hcell'
  · exact ⟨rfl, rfl⟩
  · exact absurd h (hne index)
  · exact absurd h.symm (hne index)
  · exact ⟨rfl, rfl⟩

end Sample

section

open Sample

/-- The first of three outdated pods is drained, and no other. -/
theorem bad_spec_advances_one_old :
    (∃ e ∈ requests healthyPass oldSystem, DrainsOutdated e.1 e.2) ∧
    (requests healthyPass oldSystem).Pairwise fun e e' =>
      ¬ (DrainsOutdated e.1 e.2 ∧ DrainsOutdated e'.1 e'.2) := by
  obtain ⟨⟨hadmits, hdeletes⟩, hdrains, htransparent⟩ := healthyPass_oldSystem
  refine ⟨hdrains, bad_spec_advances_one (.pass healthyPass .refl ⟨.refl _, hadmits⟩) ?_ hdeletes ?_
    htransparent⟩
  · intro pod hpod hterm
    have : ∀ pod ∈ oldSystem.poolPods, pod.terminating = false := by decide +kernel
    simp [this pod hpod] at hterm
  · intro poolName pool hpool cellName hcell poolName' pool' hpool' cellName' hcell' index _
    obtain ⟨rfl, rfl⟩ := Prod.mk.inj (List.mem_singleton.mp hpool)
    obtain ⟨rfl, rfl⟩ := Prod.mk.inj (List.mem_singleton.mp hpool')
    exact ⟨rfl, (List.mem_singleton.mp hcell).trans (List.mem_singleton.mp hcell').symm⟩

/-- **A missing pod masked**: the first pod of pool `b` is drained and deleted, and while it is
missing the pod to spare is counted in its place, so a pod of pool `a` is drained as well. -/
theorem missing_pod_masked :
    ∃ r x tr y, Run r NoneStranded FixedSpecChange x tr y ∧ DeletedDraining x ∧
      (∀ pod ∈ x.server.pods, BuiltFromSpec x.shard pod → pod.ready = false) ∧
      (∀ e ∈ tr, DeletesDrained e.1 e.2) ∧ NamesSeparate x.shard ∧
      ¬ tr.Pairwise fun e e' => ¬ (DrainsOutdated e.1 e.2 ∧ DrainsOutdated e'.1 e'.2) := by
  obtain ⟨⟨hadmits₁, hdeletes₁⟩, hstate₁, e₁, he₁, hdrains₁⟩ := fullPass_pairSystem
  obtain ⟨⟨hadmits₂, hdeletes₂⟩, hstate₂⟩ := fullPass_drainedSystem
  obtain ⟨⟨hadmits₃, hdeletes₃⟩, e₃, he₃, hdrains₃⟩ := reducedPass_missingSystem
  have run₁ := Run.pass (E := FixedSpecChange) fullPass .refl ⟨.refl _, hadmits₁⟩
  rw [hstate₁] at run₁
  have run₂ := Run.pass (y := drainedSystem) fullPass run₁ ⟨.refl _, hadmits₂⟩
  rw [hstate₂] at run₂
  refine ⟨_, _, _, _, Run.pass (y := missingSystem) reducedPass run₂ ⟨.refl _, hadmits₃⟩, ?_, ?_, ?_, namesSeparate_pairShard,
    fun hpairs => ?_⟩
  · intro pod hpod hterm
    have : ∀ pod ∈ pairSystem.poolPods, pod.terminating = false := by decide +kernel
    simp [this pod hpod] at hterm
  · have : ∀ pod ∈ pairSystem.server.pods.items, BuiltFromSpec pairShard pod → pod.ready = false := by
      decide +kernel
    exact this
  · intro e he
    rcases List.mem_append.mp he with he | he
    · rcases List.mem_append.mp he with he | he
      · exact hdeletes₁ e he
      · exact hdeletes₂ e he
    · exact hdeletes₃ e he
  · exact (List.pairwise_append.mp hpairs).2.2 e₁ (List.mem_append_left _ he₁) e₃ he₃
      ⟨hdrains₁, hdrains₃⟩

end

end MultigresOperator

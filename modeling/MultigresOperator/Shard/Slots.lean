import MultigresOperator.Shard.Health

/-!
# The slots of a shard

A shard wants one pod at every index below the replica count of every pool in every cell. The
controller never walks these slots to judge its pods: it counts the pods of a pool and cell and
scans the ones that exist. What a count says about the slots is the subject here.

## Main results

* `slots_healthy_iff`: a healthy shard is healthy at every slot exactly if no count hides a slot
  without a pod
* `names_agree_on_index`: three readings of a name find the same index
-/

namespace MultigresOperator

/-- The place of a desired pod. -/
structure Slot where
  pool : String
  cell : String
  index : ℕ
  deriving DecidableEq, Repr

def Slot.podName (shard : Shard) (slot : Slot) : String :=
  buildPoolPodName shard slot.pool slot.cell slot.index

def desiredSlots (shard : Shard) : List Slot :=
  shard.spec.pools.flatMap fun (poolName, pool) => pool.cells.flatMap fun cell =>
    (List.range (poolReplicas pool)).map fun index => ⟨poolName, cell, index⟩

section

variable {shard : Shard} {pods : List Pod} {slot : Slot}

theorem mem_desiredSlots : slot ∈ desiredSlots shard ↔
    ∃ pool, (slot.pool, pool) ∈ shard.spec.pools ∧ slot.cell ∈ pool.cells ∧
      slot.index < poolReplicas pool := by
  simp only [desiredSlots, List.mem_flatMap, List.mem_map, List.mem_range, Prod.exists]
  constructor
  · rintro ⟨poolName, pool, hpool, cell, hcell, index, hindex, rfl⟩
    exact ⟨pool, hpool, hcell, hindex⟩
  · rintro ⟨pool, hpool, hcell, hindex⟩
    exact ⟨slot.pool, pool, hpool, slot.cell, hcell, slot.index, hindex, rfl⟩

/-- The pod of the slot exists and, unless it is quarantined, is Ready, is not terminating and has
no drain annotation. -/
def SlotHealthy (shard : Shard) (pods : List Pod) (slot : Slot) : Prop :=
  ∃ pod ∈ pods, pod.name = slot.podName shard ∧
    (resolvePodRole shard pod.name ≠ some .quarantined →
      pod.ready = true ∧ pod.terminating = false ∧ pod.draining = false)

/-- The pod of the slot exists, and its labels put it in the slot's pool and cell; with other labels
it is Ready or quarantined. -/
def SlotTaken (shard : Shard) (pods : List Pod) (slot : Slot) : Prop :=
  ∃ pod ∈ pods, pod.name = slot.podName shard ∧
    (pod ∈ poolCellPods pods slot.pool slot.cell ∨
      resolvePodRole shard pod.name = some .quarantined ∨ pod.ready = true)

theorem LooksHealthy.slotHealthy_iff (h : LooksHealthy shard pods) (hslot : slot ∈ desiredSlots shard) :
    SlotHealthy shard pods slot ↔ SlotTaken shard pods slot := by
  constructor
  · rintro ⟨pod, hpod, hname, hstate⟩
    refine ⟨pod, hpod, hname, .inr ?_⟩
    by_cases hrole : resolvePodRole shard pod.name = some .quarantined
    · exact .inl hrole
    · exact .inr (hstate hrole).1
  · rintro ⟨pod, hpod, hname, hplace⟩
    refine ⟨pod, hpod, hname, fun hrole => ?_⟩
    have hcalm := h.calm pod hpod
    rw [Pod.disrupted, Bool.or_eq_false_iff] at hcalm
    refine ⟨?_, hcalm.2, hcalm.1⟩
    rcases hplace with hmem | hrole' | hready
    · -- the scan of the slot's pool and cell has seen the pod, at the slot's index
      obtain ⟨pool, hpool, hcell, hindex⟩ := mem_desiredSlots.mp hslot
      refine h.ready slot.pool pool hpool slot.cell hcell pod hmem slot.index hindex ?_ hrole
      rw [hname]
      exact resolvePodIndex_of_lt_poolReplicas hindex
    · exact absurd hrole' hrole
    · exact hready

/-- **The health gate sees every slot** exactly if, whenever the shard looks healthy, every slot is
taken: the count of a pool and cell cannot tell an extra pod from a desired one. -/
theorem slots_healthy_iff (shard : Shard) (pods : List Pod) :
    (shardHealthy shard pods = true → ∀ slot ∈ desiredSlots shard, SlotHealthy shard pods slot) ↔
      (LooksHealthy shard pods → ∀ slot ∈ desiredSlots shard, SlotTaken shard pods slot) := by
  rw [shardHealthy_iff]
  constructor
  · intro h hlooks slot hslot
    exact (hlooks.slotHealthy_iff hslot).mp (h hlooks slot hslot)
  · intro h hlooks slot hslot
    exact (hlooks.slotHealthy_iff hslot).mpr (h hlooks slot hslot)

end

/-! ### Names and indices -/

/-- **Three readings of a name agree.** The index of a pod is read back from behind the last dash, a pod
is desired exactly if the spec has its pool in its cell and its index is below the replicas, and a PVC
with the labels of a pool and a cell is one of the shard's exactly if it bears their name at some index.
An index is an `int` that is not negative. -/
theorem names_agree_on_index (shard : Shard) :
    (∀ (poolName cellName : String) (index : Fin (2 ^ 63)),
      resolvePodIndex (buildPoolPodName shard poolName cellName index) = some (index : ℕ)) ∧
    (∀ (pod : Pod) (index : Fin (2 ^ 63)),
      pod.name = buildPoolPodName shard pod.pool pod.cell index →
      (isDesiredPooler shard pod = true ↔ ∃ pool, shard.pool? pod.pool = some pool ∧
        pod.cell ∈ pool.cells ∧ (index : ℕ) < poolReplicas pool)) ∧
    ∀ pvc : PVC, pvc.labels.get .pool ≠ "" → pvc.labels.get .cell ≠ "" →
      (isShardBuiltPVC shard pvc = true ↔ ∃ index : Fin (2 ^ 63), pvc.name =
        buildPoolDataPVCName shard (pvc.labels.get .pool) (pvc.labels.get .cell) index) := by
  refine ⟨fun poolName cellName index => ?_, fun pod index hname => ?_, fun pvc hpool hcell => ?_⟩
  · exact resolvePodIndex_buildPoolPodName shard poolName cellName index.isLt
  · rw [isDesiredPooler_iff]
    refine exists_congr fun pool => and_congr_right fun _ => and_congr_right fun _ => ?_
    constructor
    · rintro ⟨i, hi, hname'⟩
      -- the enumeration can only have met the pod at its own index
      have heq : (index : ℕ) = i := index_eq_of_buildPoolPodName_eq (hname.symm.trans hname')
      rw [heq]
      exact hi
    · exact fun hlt => ⟨index, hlt, hname⟩
  · rw [isShardBuiltPVC_dataPVC_iff hpool hcell]
    constructor
    · rintro ⟨index, hbound, hname⟩
      exact ⟨⟨index, hbound⟩, hname⟩
    · rintro ⟨index, hname⟩
      exact ⟨index, index.isLt, hname⟩

namespace Sample

def mainPools : List (String × PoolSpec) :=
  [("main", { cells := ["z1"], replicasPerCell := some 2 })]

theorem mainPools_nodup : (mainPools.map Prod.fst).Nodup := List.nodup_singleton "main"

theorem clusterLabel : (List.lookup LabelKey.cluster [(LabelKey.cluster, "mg")]).isSome = true := rfl

/-- Two pods are wanted. -/
def mainShard : Shard where
  name := "shard-0"
  uid := 1
  labels := [(.cluster, "mg")]
  labels_cluster := clusterLabel
  spec :=
    { databaseName := "db", tableGroupName := "tg", shardName := "0"
      pools := mainPools, pools_nodup := mainPools_nodup
      podHash := fun _ _ _ => some "" }

def mainPod (index : ℕ) : Pod where
  name := buildPoolPodName mainShard "main" "z1" index
  uid := index
  labels := buildPoolLabelsWithCell mainShard "main" "z1"
  claims := []
  phase := .running
  ready := true

def mainPVC (name : String) : PVC where
  name := name
  uid := 0
  labels := buildPoolLabelsWithCell mainShard "main" "z1"

end Sample

section

open Sample

/-- The pod of index 1 is gone, and an extra that awaits its scale-down is counted in its place. -/
theorem extra_stands_in :
    shardHealthy mainShard [mainPod 0, mainPod 2] = true ∧
      ∃ slot ∈ desiredSlots mainShard, ∀ pod ∈ [mainPod 0, mainPod 2],
        pod.name ≠ slot.podName mainShard := by
  refine ⟨by decide +kernel, ⟨"main", "z1", 1⟩, by decide, ?_⟩
  decide +kernel

/-- Two pods are wanted: the one at index 1 is desired and the one at index 2 is not. -/
theorem names_agree_on_index_main :
    resolvePodIndex (mainPod 2).name = some 2 ∧ isDesiredPooler mainShard (mainPod 1) = true ∧
      isDesiredPooler mainShard (mainPod 2) ≠ true ∧
      isShardBuiltPVC mainShard (mainPVC (buildPoolDataPVCName mainShard "main" "z1" 2)) = true := by
  obtain ⟨hindex, hdesired, hbuilt⟩ := names_agree_on_index mainShard
  have hpool : mainShard.pool? "main" = some { cells := ["z1"], replicasPerCell := some 2 } := rfl
  refine ⟨hindex "main" "z1" 2, ?_, fun h => ?_, ?_⟩
  · exact (hdesired (mainPod 1) 1 rfl).mpr ⟨_, hpool, List.mem_singleton_self _, by decide⟩
  · obtain ⟨pool, hpool', -, hlt⟩ := (hdesired (mainPod 2) 2 rfl).mp h
    obtain rfl := Option.some.inj (hpool.symm.trans hpool')
    exact absurd hlt (by decide)
  · exact (hbuilt _ (by decide) (by decide)).mpr ⟨2, rfl⟩

end

end MultigresOperator

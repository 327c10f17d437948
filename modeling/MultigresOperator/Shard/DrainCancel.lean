import MultigresOperator.Shard.OneDisruption

/-!
# Cancelled drains

A drain that is only requested is cancelled when the pod is in range and on the desired spec. That
covers the drains of a scale-down and of a rollout that have been reverted. It does not cover the
other reasons a drain is requested for: the resize of the pod's filesystem, and a cell the pool no
longer uses.

## Main results

* `isDrainStale_iff`: what a cancelled drain says about its pod
* `cancels_unwanted_iff`: **a drain is cancelled only when nothing wants it** exactly when no
  overlooked reason holds
* `resize_drain_cancelled`: a pass that requests the drain for a resize and cancels it
-/

namespace MultigresOperator

open Effects

def resizePending (shard : Shard) (s : Server) (pod : Pod) (index : ℕ) : Bool :=
  pvcNeedsFilesystemResize s.pvcs.items (buildPoolDataPVCName shard pod.pool pod.cell index)

/-- No reason to drain the pod holds: it is an index its pool wants in a cell the pool uses, its spec
hash is the desired one, and its data PVC waits for no resize. -/
def Unwanted (shard : Shard) (s : Server) (pod : Pod) : Prop :=
  ∃ pool index, shard.pool? pod.pool = some pool ∧ resolvePodIndex pod.name = some index ∧
    index < poolReplicas pool ∧ poolUsesCell pool pod.cell = true ∧
    (∃ hash, shard.spec.podHash pod.pool pod.cell index = some hash ∧ pod.specHash = some hash) ∧
    resizePending shard s pod index = false

/-- A reason to keep a drain that the cancellation overlooks: the pod is in a cell its pool does not
use, its desired pod cannot be built, or its data PVC waits for a resize. -/
def Overlooked (shard : Shard) (s : Server) (pod : Pod) : Prop :=
  ∃ pool index, shard.pool? pod.pool = some pool ∧ resolvePodIndex pod.name = some index ∧
    (poolUsesCell pool pod.cell = false ∨ shard.spec.podHash pod.pool pod.cell index = none ∨
      resizePending shard s pod index = true)

/-- A pod that needs no update and does not terminate has the desired hash, if there is one. -/
theorem podNeedsUpdate_eq_false_iff {pod : Pod} {shard : Shard} {poolName cellName : String}
    {index : ℕ} (hterm : pod.terminating = false) :
    podNeedsUpdate pod shard poolName cellName index = false ↔
      ∃ hash, pod.specHash = some hash ∧
        ∀ desired, shard.spec.podHash poolName cellName index = some desired → hash = desired := by
  unfold podNeedsUpdate
  rw [if_neg (by simp [hterm])]
  split
  · next hnone => simp [hnone]
  · next hash hhash =>
    split
    · next hnone => simp [hhash, hnone]
    · next desired hdesired => simp [hhash, hdesired]

/-- **A stale drain** is requested on a pod in range that is not drifted. -/
theorem isDrainStale_iff {shard : Shard} {pod : Pod} :
    isDrainStale shard pod = true ↔
      pod.drainState = some .requested ∧ pod.terminating = false ∧ pod.pool ≠ "" ∧ pod.cell ≠ "" ∧
        ∃ pool index, shard.pool? pod.pool = some pool ∧ resolvePodIndex pod.name = some index ∧
          index < poolReplicas pool ∧ podNeedsUpdate pod shard pod.pool pod.cell index = false := by
  unfold isDrainStale
  split
  · next h =>
    simp only [Bool.or_eq_true, decide_eq_true_eq, beq_iff_eq, ne_eq] at h
    constructor
    · simp
    · rintro ⟨hstate, hterm, hpool, hcell, -⟩
      rcases h with ((h | h) | h) | h
      · exact absurd hstate h
      · simp [hterm] at h
      · exact absurd h hpool
      · exact absurd h hcell
  · next h =>
    simp only [Bool.or_eq_true, decide_eq_true_eq, beq_iff_eq, ne_eq, not_or, not_not,
      Bool.not_eq_true] at h
    obtain ⟨⟨⟨hstate, hterm⟩, hpool⟩, hcell⟩ := h
    split
    · next pool index hp hi => simp [hstate, hterm, hpool, hcell, hp, hi]
    · next hnone =>
      constructor
      · simp
      · rintro ⟨-, -, -, -, pool, index, hp, hi, -⟩
        exact absurd hi (hnone pool index hp)

theorem unwanted_iff_of_isDrainStale {shard : Shard} {s : Server} {pod : Pod}
    (h : isDrainStale shard pod = true) : Unwanted shard s pod ↔ ¬ Overlooked shard s pod := by
  obtain ⟨-, hterm, -, -, pool, index, hpool, hindex, hrange, hupdate⟩ := isDrainStale_iff.mp h
  obtain ⟨hash, hhash, hdesired⟩ := (podNeedsUpdate_eq_false_iff hterm).mp hupdate
  simp only [Unwanted, Overlooked, hpool, hindex, Option.some.injEq]
  constructor
  · rintro ⟨_, _, rfl, rfl, -, huses, ⟨_, hbuilt, -⟩, hpending⟩ ⟨_, _, rfl, rfl, hover⟩
    simp [huses, hbuilt, hpending] at hover
  · intro hnot
    have ⟨huses, hrest⟩ := not_or.mp fun hover => hnot ⟨pool, index, rfl, rfl, hover⟩
    have ⟨hbuilt, hpending⟩ := not_or.mp hrest
    obtain ⟨desired, hd⟩ := Option.ne_none_iff_exists'.mp hbuilt
    exact ⟨pool, index, rfl, rfl, hrange, by simpa using huses,
      ⟨desired, hd, hdesired desired hd ▸ hhash⟩, by simpa using hpending⟩

/-- **A drain is cancelled only when nothing wants it** exactly when no overlooked reason holds: for
every spec, pod and state of the PVCs, and for every cancellation in every run, whatever others do
between the passes. -/
theorem cancels_unwanted_iff {r : Reconciler} {E : System → System → Prop} {x y : System}
    {tr : List (System × Op)} (h : Run r (fun _ _ _ => True) E x tr y) :
    (∀ shard s pod, isDrainStale shard pod = true →
      (Unwanted shard s pod ↔ ¬ Overlooked shard s pod)) ∧
    ∀ e ∈ tr, ∀ pod ∈ e.1.server.pods, e.2 = .patchPod pod.name .clearDrain →
      (Unwanted e.1.shard e.1.server pod ↔ ¬ Overlooked e.1.shard e.1.server pod) := by
  refine ⟨fun _ _ _ => unwanted_iff_of_isDrainStale, fun e he pod hpod hop => ?_⟩
  have hG := h.guarded e he
  rw [hop] at hG
  exact unwanted_iff_of_isDrainStale (hG pod hpod rfl)

/-! ## A pool of three -/

namespace Sample

def threePools : List (String × PoolSpec) :=
  [("main", { cells := ["z1"], replicasPerCell := some 3 })]

def threeShard : Shard :=
  { shard with spec := { shard.spec with
      pools := threePools, pools_nodup := by decide, podHash := fun _ _ _ => some "new" } }

def readyPod (index : ℕ) (hash : String) : Pod := { poolPod index hash with ready := true }

def dataPVC (index : ℕ) : PVC where
  name := buildPoolDataPVCName shard "main" "z1" index
  uid := index
  labels := (.cluster, "mg") :: buildPoolLabelsWithCell shard "main" "z1"

theorem dataPVCs_nodup : ([dataPVC 0, dataPVC 1, dataPVC 2].map PVC.name).Nodup := by
  decide +kernel

def podName (index : ℕ) : String := buildPoolPodName shard "main" "z1" index

/-- The three poolers are registered, the second one as the primary. -/
def poolStore : TopoStore := fun _ =>
  .ok [record (podName 0) (podName 0) .replica, record (podName 1) (podName 1) .primary,
    record (podName 2) (podName 2) .replica]

def healthyPass : Pass where
  pools := threePools
  answers := fun _ =>
    { topology := some poolStore
      rpc := some (rpc (podName 1)
        [poolerId (podName 0), poolerId (podName 1), poolerId (podName 2)])
      phaseHealthy := true }

/-- Three pods on the desired spec; the first one and its data PVC are given. -/
def threeSystem (pod : Pod) (pvc : PVC)
    (hpod : ([pod, readyPod 1 "new", readyPod 2 "new"].map Pod.name).Nodup)
    (hpvc : ([pvc, dataPVC 1, dataPVC 2].map PVC.name).Nodup) : System :=
  ⟨threeShard, { server ⟨_, hpod⟩ with pvcs := ⟨_, hpvc⟩ }⟩

/-- A requested drain whose reason is gone. -/
def revertedSystem : System :=
  threeSystem { readyPod 0 "new" with drainState := some .requested } (dataPVC 0)
    (by decide +kernel) dataPVCs_nodup

/-- The data PVC of the first pod waits for a resize. -/
def resizeSystem : System :=
  threeSystem (readyPod 0 "new") { dataPVC 0 with fileSystemResizePending := true }
    (by decide +kernel) (by decide +kernel)

theorem healthyPass_admissible {x : System} (h : x.shard = threeShard) :
    healthyPass.Admissible (fun _ _ _ => True) reconciler x :=
  ⟨h ▸ .refl _, Prog.admits_of_forall fun _ _ => ⟨rfl, trivial⟩⟩

end Sample

section

open Sample

/-- The drain whose reason is gone is cancelled, and nothing wants it. -/
theorem cancels_unwanted_reverted :
    ∃ e ∈ (healthyPass.outcome reconciler revertedSystem).trace, ∃ pod ∈ e.1.pods,
      e.2 = .patchPod pod.name .clearDrain ∧ Unwanted threeShard e.1 pod := by
  have hcancel : ∃ e ∈ (healthyPass.outcome reconciler revertedSystem).trace,
      ∃ pod ∈ e.1.pods.items, e.2 = .patchPod pod.name .clearDrain ∧
        pod.pool = "main" ∧ pod.cell = "z1" ∧ resolvePodIndex pod.name = some 0 ∧
          resizePending threeShard e.1 pod 0 = false := by decide +kernel
  obtain ⟨e, he, pod, hpod, hop, hpool, hcell, hindex, hpending⟩ := hcancel
  refine ⟨e, he, pod, hpod, hop, ((cancels_unwanted_iff (E := fun _ _ => False)
    (.pass healthyPass .refl (healthyPass_admissible rfl))).2 (revertedSystem.on e.1, e.2)
    (List.mem_append.mpr (.inr (List.mem_map.mpr ⟨e, he, rfl⟩))) pod hpod hop).mpr ?_⟩
  rintro ⟨pool, index, hp, hi, hover⟩
  rw [hindex] at hi
  obtain rfl := Option.some.inj hi
  rw [hpool] at hp
  obtain rfl := Option.some.inj hp
  rcases hover with huses | hbuilt | hresize
  · rw [hcell] at huses
    simp [poolUsesCell] at huses
  · cases hbuilt
  · exact absurd (hpending.symm.trans hresize) (by simp)

/-- A pod whose data PVC waits for a resize is wanted drained. -/
theorem not_unwanted_of_resizePending {shard : Shard} {s : Server} {pod : Pod} {index : ℕ}
    (hindex : resolvePodIndex pod.name = some index)
    (h : resizePending shard s pod index = true) : ¬ Unwanted shard s pod := by
  rintro ⟨_, _, -, hi, -, -, -, hpending⟩
  rw [hindex] at hi
  obtain rfl := Option.some.inj hi
  simp [h] at hpending

/-- **A resize drain cancelled**: a pass drains the first pod for the resize of its data PVC, which
is on the desired spec and in range, and cancels the drain while the PVC still waits. -/
theorem resize_drain_cancelled :
    ∃ r x p, Pass.Admissible (fun _ _ _ => True) p r x ∧
      ∃ e₁ ∈ (p.outcome r x).trace, ∃ e₂ ∈ (p.outcome r x).trace, ∃ pod ∈ e₂.1.pods,
        e₁.2 = .patchPod pod.name (.requestDrain 0) ∧ e₂.2 = .patchPod pod.name .clearDrain ∧
          isDrainStale x.shard pod = true ∧ ¬ Unwanted x.shard e₂.1 pod := by
  have hcancel : ∃ e₁ ∈ (healthyPass.outcome reconciler resizeSystem).trace,
      ∃ e₂ ∈ (healthyPass.outcome reconciler resizeSystem).trace, ∃ pod ∈ e₂.1.pods.items,
        e₁.2 = .patchPod pod.name (.requestDrain 0) ∧ e₂.2 = .patchPod pod.name .clearDrain ∧
          isDrainStale threeShard pod = true ∧ resolvePodIndex pod.name = some 0 ∧
            resizePending threeShard e₂.1 pod 0 = true := by decide +kernel
  obtain ⟨e₁, he₁, e₂, he₂, pod, hpod, hdrain, hclear, hstale, hindex, hpending⟩ := hcancel
  exact ⟨reconciler, resizeSystem, healthyPass, healthyPass_admissible rfl, e₁, he₁, e₂, he₂, pod, hpod,
    hdrain, hclear, hstale, not_unwanted_of_resizePending hindex hpending⟩

end

end MultigresOperator

import MultigresOperator.Posture.Soundness
import MultigresOperator.Shard.Run

/-!
# One disruption at a time

Whatever passes, spec edits, changes of pods and PVCs and deletions by others come in what order, at
most one pool pod that is not terminating is draining, as long as the cached reads of every pass are
current. The voluntary paths start a drain only when a fresh list shows no disruption; the drain of a
pod that someone else deleted does not count.

The drains in flight are advanced on a cached list, by a patch that does not ask for the version it
was read at. A cache that still shows a drain which has been cancelled brings that drain back.

## Main results

* `AtMostOneDraining.request`: a guarded request keeps the invariant
* `atMostOneDraining_run`: **one voluntary disruption at a time**, at every point of a run
* `lagging_cache_drains_two`: a run with a lagging cache that ends with two
-/

namespace MultigresOperator

open Effects

/-- At most one pool pod that is not terminating is draining. -/
def AtMostOneDraining (x : System) : Prop :=
  ∀ p ∈ x.poolPods, ∀ q ∈ x.poolPods, p.terminating = false → q.terminating = false →
    p.draining = true → q.draining = true → p = q

/-- Others may edit the spec, but not the identity of the Shard, and change the objects in any way
but two: they do not write drain annotations, and a pod that is terminating stays so. -/
structure ExternalChange (x y : System) : Prop where
  identity : disruptionSelector y.shard = disruptionSelector x.shard
  pods : ∀ pod ∈ y.server.pods, pod.drainState = none ∨ ∃ old ∈ x.server.pods,
    old.name = pod.name ∧ old.labels = pod.labels ∧ old.drainState = pod.drainState ∧
      (old.terminating = true → pod.terminating = true)

namespace AtMostOneDraining

variable {x y : System}

theorem of_forall (h : AtMostOneDraining x)
    (hold : ∀ pod ∈ y.poolPods, pod.terminating = false → pod.draining = true →
      ∃ old ∈ x.poolPods, old.name = pod.name ∧ old.terminating = false ∧ old.draining = true) :
    AtMostOneDraining y := by
  intro p hp q hq hpt hqt hpd hqd
  obtain ⟨p', hp', hpname, hpt', hpd'⟩ := hold p hp hpt hpd
  obtain ⟨q', hq', hqname, hqt', hqd'⟩ := hold q hq hqt hqd
  have heq := h p' hp' q' hq' hpt' hqt' hpd' hqd'
  exact y.server.pods.eq_of_key_eq (System.mem_poolPods.mp hp).1 (System.mem_poolPods.mp hq).1
    (by rw [← hpname, heq, hqname])

theorem change (h : AtMostOneDraining x) (hxy : ExternalChange x y) : AtMostOneDraining y := by
  refine h.of_forall fun pod hpod hterm hdrain => ?_
  have ⟨hmem, hmatch⟩ := System.mem_poolPods.mp hpod
  rcases hxy.pods pod hmem with hnone | ⟨old, hold, hname, hlabels, hstate, hstays⟩
  · simp [Pod.draining, hnone] at hdrain
  · refine ⟨old, ?_, hname, ?_, by rwa [Pod.draining, hstate]⟩
    · exact System.mem_poolPods.mpr ⟨hold, by rwa [hlabels, ← hxy.identity]⟩
    · by_contra hterm'
      simp [hstays (by simpa using hterm')] at hterm

theorem requestDrain {t : Server} {name : String} {time : Time} (hquiet : Quiet x.shard x.server)
    (ht : x.server.exec (.patchPod name (.requestDrain time)) = .ok t) :
    AtMostOneDraining (x.on t) := by
  have named {pod : Pod} (hpod : pod ∈ (x.on t).poolPods) (hdrain : pod.draining = true) :
      pod.name = name := by
    have ⟨hmem, hmatch⟩ := System.mem_poolPods.mp hpod
    cases Server.origin_of_exec ht hmem with
    | created hop _ => cases hop
    | stamped _ hop _ => cases hop
    | patched _ hop heq =>
      rw [heq, PodPatch.apply_name]
      exact (Op.patchPod.inj hop).1.symm
    | kept hold _ =>
      have := hquiet pod (Server.mem_listPods.mpr ⟨hold, hmatch⟩)
      simp [Pod.disrupted, hdrain] at this
  intro p hp q hq _ _ hpd hqd
  exact t.pods.eq_of_key_eq (System.mem_poolPods.mp hp).1 (System.mem_poolPods.mp hq).1
    ((named hp hpd).trans (named hq hqd).symm)

/-- **A guarded request** keeps the invariant. -/
theorem request {B : Server → Answer → Prop} {o : Op} {t : Server} (h : AtMostOneDraining x)
    (hG : Guard B x.shard x.server o) (ht : x.server.exec o = .ok t) :
    AtMostOneDraining (x.on t) := by
  -- a voluntary drain is the only request after which a further pod counts
  by_cases hvoluntary : ∃ name time, o = .patchPod name (.requestDrain time) ∧
      Quiet x.shard x.server
  · obtain ⟨name, time, rfl, hquiet⟩ := hvoluntary
    exact requestDrain hquiet ht
  refine h.of_forall fun pod hpod hterm hdrain => ?_
  have ⟨hmem, hmatch⟩ := System.mem_poolPods.mp hpod
  cases Server.origin_of_exec ht hmem with
  | created hop heq =>
    subst hop
    rw [heq, Pod.draining, Server.admitPod, hG.1.fresh.1] at hdrain
    simp at hdrain
  | kept hold _ => exact ⟨pod, System.mem_poolPods.mpr ⟨hold, hmatch⟩, rfl, hterm, hdrain⟩
  | stamped _ _ heq => simp [heq, Pod.terminating_stamped] at hterm
  | patched hold hop heq =>
    rename_i old patch
    subst hop
    have hold' : old ∈ x.poolPods := by
      refine System.mem_poolPods.mpr ⟨hold, ?_⟩
      rw [heq] at hmatch
      cases patch <;> exact hmatch
    have hname : old.name = pod.name := by rw [heq, PodPatch.apply_name]
    have hterm' : old.terminating = false := by
      rw [heq] at hterm
      cases patch <;> exact hterm
    refine ⟨old, hold', hname, hterm', ?_⟩
    cases patch with
    | requestDrain time =>
      cases hG with
      | external hext => simp [(hext old hold rfl).1] at hterm'
      | voluntary clear _ => exact absurd ⟨old.name, time, rfl, clear.quiet⟩ hvoluntary
    | setDrainState state => exact hG old hold rfl
    | clearDrain => simp [heq, PodPatch.apply, Pod.draining] at hdrain
    | setMaintenanceSurge on => rw [heq] at hdrain; exact hdrain
    | setMaintenanceReady on => rw [heq] at hdrain; exact hdrain

end AtMostOneDraining

/-- **One voluntary disruption at a time.** In every run with current cached reads that starts with
no drain annotation, at every point at most one pool pod that is not terminating has one: before every request of every
pass, and between the passes. -/
theorem atMostOneDraining_run {r : Reconciler} {x y : System} {tr : List (System × Op)}
    (h : Run r (fun _ _ _ => True) ExternalChange x tr y)
    (hx : ∀ pod ∈ x.poolPods, pod.drainState = none) :
    (∀ e ∈ tr, AtMostOneDraining e.1) ∧ AtMostOneDraining y := by
  refine h.invariant (fun _ _ hI hE => hI.change hE) (fun _ _ _ hI hG ht => hI.request hG ht) ?_
  intro p hp q _ _ _ hpd _
  simp [Pod.draining, hx p hp] at hpd

/-! ## A shard whose topology has moved -/

namespace Sample

/-- The shard once its global topology, and with it the pod template, has changed. -/
def movedShard : Shard :=
  { shard with spec := { shard.spec with
      globalTopoServer := ("topo-b", "/"), podHash := fun _ _ _ => some "new" } }

def poolPod (index : ℕ) (hash : String) : Pod where
  name := buildPoolPodName shard "main" "z1" index
  uid := index
  labels := buildPoolLabelsWithCell shard "main" "z1"
  claims := poolPodClaims shard "main" "z1" index
  topoFlags := some ("", "")
  specHash := some hash
  phase := .running

def strandedPod : Pod := { poolPod 0 "old" with topoFlags := some ("topo-a", "/") }

def server (pods : Keyed Pod.name) : Server where
  pods := pods
  pvcs := ⟨[], List.nodup_nil⟩
  deployments := ⟨[], List.nodup_nil⟩
  storageClasses := []
  clusters := []
  shardFinalizer := true
  revision := 100

def strandedSystem : System := ⟨movedShard, server ⟨[strandedPod], by simp⟩⟩

def reconciler : Reconciler := { consensus := countingConsensus }

/-- A pass that finds no pooler registered. -/
def emptyTopologyPass : Pass where
  pools := movedShard.spec.pools
  answers := fun _ => { topology := some fun _ => .ok [] }

theorem emptyTopologyPass_admissible :
    emptyTopologyPass.Admissible (fun _ _ _ => True) reconciler strandedSystem :=
  ⟨.refl _, Prog.admits_of_forall fun _ _ => ⟨rfl, trivial⟩⟩

end Sample

section

open Sample

/-- A pass drains the stranded pod, and its drain is the only one. -/
theorem atMostOneDraining_stranded :
    (emptyTopologyPass.outcome reconciler strandedSystem).state.pods.items.map Pod.drainState =
        [some .draining] ∧
      AtMostOneDraining
        (strandedSystem.on (emptyTopologyPass.outcome reconciler strandedSystem).state) :=
  ⟨by decide +kernel,
    (atMostOneDraining_run (.pass emptyTopologyPass .refl emptyTopologyPass_admissible)
      (by decide +kernel)).2⟩

end

/-! ## A drain that was cancelled -/

/-- Runs in which the cache lags: it shows a past state and has the later ones still to see, in order.
What a pass reads from the API server itself, as `listDisruptionPods` does, is current. -/
inductive LaggingRun (r : Reconciler) (E : System → System → Prop) (x : System) :
    Server → List Server → System → Prop
  | refl : LaggingRun r E x x.server [] x
  | change {shown unseen y z} : LaggingRun r E x shown unseen y → E y z →
      LaggingRun r E x shown (unseen ++ [z.server]) z
  | catchUp {shown next unseen y} : LaggingRun r E x shown (next :: unseen) y →
      LaggingRun r E x next unseen y
  | pass {shown unseen y} (p : Pass) : LaggingRun r E x shown unseen y →
      p.pools.Perm y.shard.spec.pools → (∀ n, (p.answers n).cache = some shown) →
      LaggingRun r E x shown (unseen ++ [(p.outcome r y).state]) (y.on (p.outcome r y).state)

theorem ExternalChange.editSpec {x : System} (shard : Shard)
    (h : disruptionSelector shard = disruptionSelector x.shard) :
    ExternalChange x ⟨shard, x.server⟩ :=
  ⟨h, fun pod hpod => .inr ⟨pod, hpod, rfl, rfl, rfl, id⟩⟩

namespace Sample

def twinPools : List (String × PoolSpec) := [("a", { cells := ["z1"] }), ("b", { cells := ["z1"] })]

def twinShard (topo hash : String) : Shard :=
  { shard with spec := { shard.spec with
      pools := twinPools, pools_nodup := by decide
      globalTopoServer := (topo, "/"), podHash := fun _ _ _ => some hash } }

/-- Its pods are on the spec, or the spec has moved. -/
def keptTwin : Shard := twinShard "topo-a" "old"

def movedTwin : Shard := twinShard "topo-b" "new"

def twinPod (pool : String) : Pod where
  name := buildPoolPodName shard pool "z1" 0
  uid := 0
  labels := buildPoolLabelsWithCell shard pool "z1"
  claims := poolPodClaims shard pool "z1" 0
  topoFlags := some ("topo-a", "/")
  specHash := some "old"
  phase := .running

def twinServer : Server := server ⟨[twinPod "a", twinPod "b"], by decide +kernel⟩

/-- A pass over the two pools, with what the cache shows and the poolers that are registered. -/
def twinPass (shown : Server) (poolers : List Multipooler) : Pass where
  pools := twinPools
  answers := fun _ => { cache := some shown, topology := some fun _ => .ok poolers }

/-- The first pass, which drains the pod of pool `a`; its cache does not show the drain yet. -/
def drainingPass : Pass :=
  twinPass twinServer [record (twinPod "b").name (twinPod "b").name .replica]

def drainingServer : Server :=
  (drainingPass.outcome reconciler ⟨movedTwin, twinServer⟩).state

/-- A pass whose cache shows the drain and nothing later. -/
def laggingPass : Pass := twinPass drainingServer []

/-- The spec is edited back, and the drain is cancelled. -/
def cancelledServer : Server :=
  (laggingPass.outcome reconciler ⟨keptTwin, drainingServer⟩).state

/-- The spec is edited once more, before the cache has seen the drain cancelled. -/
def drainedTwice : System :=
  ⟨movedTwin, (laggingPass.outcome reconciler ⟨movedTwin, cancelledServer⟩).state⟩

end Sample

section

open Sample

/-- **A lagging cache drains two pods.** The drain of the pod of pool `a` is cancelled; while the
cache still shows it, a pass drains the pod of pool `b` and takes the cancelled drain further. -/
theorem lagging_cache_drains_two :
    ∃ r x shown unseen y, LaggingRun r ExternalChange x shown unseen y ∧
      x.shard.spec.mode = .distributed ∧ (∀ pod ∈ x.poolPods, pod.drainState = none) ∧
      ¬ AtMostOneDraining y := by
  have hdraining : LaggingRun reconciler ExternalChange ⟨movedTwin, twinServer⟩ drainingServer []
      ⟨movedTwin, drainingServer⟩ :=
    .catchUp (.pass drainingPass .refl (.refl _) fun _ => rfl)
  have hcancelled := LaggingRun.pass laggingPass (hdraining.change (.editSpec keptTwin rfl)) (.refl _)
    fun _ => rfl
  have hlagging := LaggingRun.pass laggingPass (hcancelled.change (.editSpec movedTwin rfl)) (.refl _)
    fun _ => rfl
  refine ⟨_, _, _, _, drainedTwice, hlagging, rfl, by decide +kernel, fun hone => ?_⟩
  have htwo : ∃ p ∈ drainedTwice.poolPods, ∃ q ∈ drainedTwice.poolPods, p.terminating = false ∧
      q.terminating = false ∧ p.draining = true ∧ q.draining = true ∧ p.name ≠ q.name := by
    decide +kernel
  obtain ⟨p, hp, q, hq, hpt, hqt, hpd, hqd, hne⟩ := htwo
  exact hne (congrArg Pod.name (hone p hp q hq hpt hqt hpd hqd))

end

end MultigresOperator

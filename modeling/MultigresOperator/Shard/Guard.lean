import MultigresOperator.Shard.Frame
import MultigresOperator.Shard.Reconcile

/-!
# What a pass may request

For each kind of request the condition under which a pass makes it, as a predicate of the API server
at that moment. The gates the controller passes before a request are read from the source; what they
establish is stated here once, and the later modules derive every safety property from it.

## Main results

* `Ensures.observeDisruption`, `Ensures.canStartDisruption`: the preflight
* `Ensures.claimPodVolumes`, `Ensures.podTerminatingClaim`: the gates of a create and of a delete
-/

namespace MultigresOperator

open Effects MultigresOperator.Action Prog

def Server.poolPods (s : Server) (shard : Shard) : List Pod := s.listPods (disruptionSelector shard)

theorem Server.mem_listPods {s : Server} {selector : Labels} {pod : Pod} :
    pod ∈ s.listPods selector ↔ pod ∈ s.pods ∧ selector.Matches pod.labels = true :=
  List.mem_filter

theorem Server.mem_listPVCs {s : Server} {selector : Labels} {pvc : PVC} :
    pvc ∈ s.listPVCs selector ↔ pvc ∈ s.pvcs ∧ selector.Matches pvc.labels = true :=
  List.mem_filter

/-- No PVC of these names is being deleted. -/
def ClaimsLive (s : Server) (claims : List String) : Prop :=
  ∀ pvc ∈ s.pvcs, pvc.name ∈ claims → pvc.terminating = false

/-- No pool pod of the shard is draining or terminating. -/
def Quiet (shard : Shard) (s : Server) : Prop := ∀ pod ∈ s.poolPods shard, pod.disrupted = false

/-- No PVC with the shard's labels is being deleted under a shard pod that stays. -/
def Intact (shard : Shard) (s : Server) : Prop :=
  ∀ pod ∈ s.listPods (shardSelector shard), pod.terminating = false →
    ∀ pvc ∈ s.listPVCs (shardSelector shard), pvc.name ∈ pod.claims → pvc.terminating = false

/-- What the preflight establishes. -/
structure Clear (shard : Shard) (s : Server) : Prop where
  quiet : Quiet shard s
  intact : Intact shard s

/-- The pod is started for another global topology and has no live pooler in the shard's. -/
def Stranded (shard : Shard) (i : Answer) (pod : Pod) : Prop :=
  podTopoDrifted pod shard = true ∧
    ∃ store, i.topology = some store ∧ livePoolerPods store shard [pod.name] = .ok []

/-- The gates of the health checks that a voluntary drain has passed. `B` is what is known of the
data-plane answers. -/
inductive DrainCause (B : Server → Answer → Prop) (shard : Shard) (s : Server) (name : String) : Prop
  | healthy (h : shardHealthy shard (s.poolPods shard) = true)
  | unready (missing : missingDesiredPods shard (s.poolPods shard) = [])
      (current : ∀ pod ∈ (classifyDesiredPods shard (s.poolPods shard)).current,
        isPodReady pod = true)
  | stranded {pod : Pod} {i : Answer} (mem : pod ∈ s.poolPods shard) (named : pod.name = name)
      (known : B s i) (h : Stranded shard i pod)

/-- A preflight a pass may get: a fresh list of the pods, and what answers in `B` show of them. -/
structure Preflight.Seen (B : Server → Answer → Prop) (r : Reconciler) (shard : Shard) (s : Server)
    (preflight : Preflight) : Prop where
  pods : preflight.pods = s.poolPods shard
  answered : ∃ i rpc store, B s i ∧ i.rpc = some rpc ∧ i.topology = some store ∧
    observeDisruption r.consensus store rpc shard ((s.poolPods shard).map Pod.name) =
      .ok preflight.observation

/-- Why the drain of a pod is requested: someone else deleted it, or the controller disrupts it. -/
inductive DrainReason (B : Server → Answer → Prop) (shard : Shard) (s : Server) (name : String) : Prop
  | external (h : ∀ pod ∈ s.pods, pod.name = name → pod.terminating = true ∧ pod.draining = false)
  | voluntary (clear : Clear shard s) (cause : DrainCause B shard s name)

/-- The pod is built from the spec, by the builder of the shard's mode. -/
inductive Built (shard : Shard) (pod : Pod) : Prop
  | pool {poolName cellName : String} {pool : PoolSpec} {index : ℕ} {built : Pod} {surge : Bool}
      (time : Time) (mem : (poolName, pool) ∈ shard.spec.pools) (cell : cellName ∈ pool.cells)
      (build : buildPoolPod shard poolName cellName index = some built)
      (eq : pod = { built with maintenanceSurge := surge, creationTimestamp := time })
  | lite {poolName cellName : String} {built : Pod} (time : Time) (mode : shard.spec.mode = .lite)
      (build : buildLitePod shard poolName cellName = some built)
      (eq : pod = { built with creationTimestamp := time })

theorem Built.fresh {shard : Shard} {pod : Pod} (h : Built shard pod) :
    pod.drainState = none ∧ pod.deletionTimestamp = none ∧ pod.ready = false := by
  cases h with
  | pool _ _ _ build eq =>
    obtain ⟨_, -, rfl⟩ := Option.map_eq_some_iff.mp build
    exact ⟨by rw [eq], by rw [eq], by rw [eq]⟩
  | lite _ _ build eq =>
    obtain ⟨_, -, rfl⟩ := Option.map_eq_some_iff.mp build
    exact ⟨by rw [eq], by rw [eq], by rw [eq]⟩

/-- The condition under which a pass makes a request. -/
def Guard (B : Server → Answer → Prop) (shard : Shard) (s : Server) : Op → Prop
  | .createPod pod => Built shard pod ∧ ClaimsLive s pod.claims
  | .patchPod name (.requestDrain _) => DrainReason B shard s name
  | .patchPod name (.setDrainState _) => ∀ pod ∈ s.pods, pod.name = name → pod.draining = true
  | .patchPod name .clearDrain => ∀ pod ∈ s.pods, pod.name = name → isDrainStale shard pod = true
  | .deletePod name _ _ => ∀ pod ∈ s.pods, pod.name = name →
      ClaimsLive s pod.claims ∨
        Intact shard s ∧ pod ∈ s.listPods (shardSelector shard) ∧ pod.terminating = false
  | _ => True

theorem guard_of_onPVC {B : Server → Answer → Prop} {shard : Shard} (s : Server) (o : Op)
    (h : o.OnPVC) : Guard B shard s o := by
  cases o <;> trivial

/-! ## Programs that only read -/

/-- No request changes anything. -/
abbrev Reads {α : Type} (p : Action α) : Prop := p.Only fun _ => False

variable {B : Server → Answer → Prop} {G : Server → Op → Prop} {α : Type} {s : Server}
  {shard : Shard}

theorem Ensures.of_reads {p : Action α} (h : Reads p) {Q : α → Server → Prop} (hQ : ∀ a, Q a s) :
    Ensures B G p Q s :=
  Ensures.of_only (fun _ => rfl) Eq.trans (fun _ _ _ h => h.elim) h fun a _ ht => ht ▸ hQ a

theorem reads_context {text : String} {p : Action α} (h : Reads p) : Reads (context text p) :=
  only_mapError h

theorem reads_maintenanceCapacityWithout (cellName excludedPodName : String)
    (available : Pod → Bool) :
    Reads (maintenanceCapacityWithout shard cellName excludedPodName available) := by
  unfold maintenanceCapacityWithout
  split
  · exact only_pure
  · exact only_bind (reads_context only_fetch) fun _ => only_pure

theorem reads_disruptionCheck (r : Reconciler) (preflight : Preflight) (target : Pod) :
    Reads (r.disruptionCheck shard preflight target) :=
  only_bind (only_bind only_answer fun _ => only_pure) fun _ => only_pure

theorem reads_podTerminatingClaim (claims : List String) : Reads (podTerminatingClaim claims) := by
  refine only_firstM fun claim _ => only_bind (reads_context only_fetch) fun found => ?_
  split <;> exact only_pure

theorem reads_isShardHealthy (shard : Shard) : Reads (isShardHealthy shard) :=
  only_bind (reads_context only_fetch) fun _ => only_pure

theorem reads_mountedTerminatingPVCs (shard : Shard) : Reads (mountedTerminatingPVCs shard) := by
  refine only_bind (reads_context only_fetch) fun pvcs => ?_
  split
  · exact only_pure
  · refine only_bind (reads_context only_fetch) fun pods => ?_
    exact only_bind (only_bind only_answer fun _ => only_pure) fun _ => only_pure

theorem reads_observeDisruption (r : Reconciler) (listed : Option (List Pod)) :
    Reads (r.observeDisruption shard listed) := by
  unfold Reconciler.observeDisruption
  extract_lets rest
  have hrest (pods : List Pod) : Reads (rest pods) := by
    refine only_bind (reads_context (reads_mountedTerminatingPVCs shard)) fun terminating => ?_
    split
    · exact only_pure
    split
    · exact only_pure
    split
    · exact only_pure
    · refine only_bind only_answer fun i => ?_
      split
      · exact only_pure
      · exact only_pure
      · split <;> exact only_pure
  split
  · exact hrest _
  · exact only_bind (reads_context only_fetch) hrest

theorem reads_canStartDisruption (r : Reconciler) (target : Pod) (tracker : RolloutTracker) :
    Reads (r.canStartDisruption shard target tracker) := by
  unfold Reconciler.canStartDisruption
  split
  · exact only_pure
  · refine only_bind (reads_observeDisruption r none) fun result => ?_
    obtain ⟨preflight, _⟩ := result
    dsimp only
    split
    · exact only_pure
    · refine only_bind (reads_disruptionCheck r _ target) fun verdict => ?_
      split <;> exact only_pure

theorem reads_selectShardScaleDownPod (extras : List Pod) :
    Reads (selectShardScaleDownPod shard extras) :=
  only_bind (reads_context only_fetch) fun _ => only_pure

theorem reads_unreadyReplacementBlocked (r : Reconciler) (preflight : Preflight) (pod : Pod)
    (extra : Bool) : Reads (unreadyReplacementBlocked r shard preflight pod extra) := by
  unfold unreadyReplacementBlocked
  extract_lets observation
  split
  · exact only_pure
  next serving needsSurge check _ _ =>
  have hcheck (capacity : Bool) : Reads (check capacity) := by
    unfold check
    split
    · exact only_pure
    · refine only_bind (reads_disruptionCheck r preflight pod) fun result => ?_
      split <;> exact only_pure
  split
  · exact only_bind (reads_maintenanceCapacityWithout _ _ _) hcheck
  · exact hcheck true

/-! ## The gates of a disruption -/

theorem Ensures.isShardHealthy {Q : Bool → Server → Prop}
    (h : ∀ b, (b = true → shardHealthy shard (s.poolPods shard) = true) → Q b s) :
    Ensures B G (isShardHealthy shard) Q s :=
  .bind (.context (.fetch (.ret (h _ id))))

theorem intact_of_terminatingClaimsInUse {time : Time}
    (h : terminatingClaimsInUse (s.listPods (shardSelector shard))
      (s.listPVCs (shardSelector shard)) time = []) : Intact shard s := by
  intro pod hpod hterm pvc hpvc hclaim
  by_contra ht
  have hholds : holdsClaims time pod = true := by
    simp only [Pod.terminating, Option.isSome_eq_false_iff, Option.isNone_iff_eq_none] at hterm
    simp [holdsClaims, hterm]
  have hmem : pvc.name ∈ terminatingClaimsInUse (s.listPods (shardSelector shard))
      (s.listPVCs (shardSelector shard)) time := by
    simp only [terminatingClaimsInUse, List.mem_insertionSort, List.mem_dedup, List.mem_flatMap,
      List.mem_filter, List.contains_iff_mem, List.mem_map]
    exact ⟨pod, ⟨hpod, hholds⟩, hclaim, pvc, ⟨hpvc, by simpa using ht⟩, rfl⟩
  simp [h] at hmem

theorem Ensures.mountedTerminatingPVCs {Q : List String → Server → Prop}
    (h : ∀ names, (names.isEmpty = true → Intact shard s) → Q names s) :
    Ensures B G (mountedTerminatingPVCs shard) Q s := by
  refine .bind (.context (.fetch ?_))
  split
  · next hnone =>
    refine .ret (h [] fun _ pod _ _ pvc hpvc _ => ?_)
    simp only [Bool.not_eq_true', List.any_eq_false] at hnone
    simpa using hnone pvc hpvc
  · refine .bind (.context (.fetch (.bind (.now fun time => .ret (h _ fun hempty => ?_)))))
    exact intact_of_terminatingClaimsInUse (List.isEmpty_iff.mp hempty)

/-- **The preflight** lists the pods afresh, unless the caller just did. -/
theorem Ensures.observeDisruption {r : Reconciler} {listed : Option (List Pod)}
    (hlisted : ∀ pods, listed = some pods → pods = s.poolPods shard)
    {Q : Option Preflight × String → Server → Prop}
    (h : ∀ preflight reason,
      (∀ found, preflight = some found → Clear shard s ∧ found.Seen B r shard s) →
        Q (preflight, reason) s) :
    Ensures B G (r.observeDisruption shard listed) Q s := by
  unfold Reconciler.observeDisruption
  extract_lets observe
  have observed : Ensures B G (observe (s.poolPods shard)) Q s := by
    refine .bind (.context (.mountedTerminatingPVCs fun names hnames => ?_))
    split
    · exact .ret (h _ _ (by simp))
    next hempty =>
    split
    · exact .ret (h _ _ (by simp))
    next hquiet =>
    have clear : Clear shard s := by
      refine ⟨fun pod hpod => ?_, hnames (by simpa using hempty)⟩
      simp only [List.any_eq_true, not_exists, not_and, Bool.not_eq_true] at hquiet
      exact hquiet pod hpod
    split
    · exact .ret (h _ _ (by simp))
    refine .bind (.answer fun i hi => ?_)
    split
    · exact .ret (h _ _ (by simp))
    · exact .ret (h _ _ (by simp))
    next rpc store hrpc hstore =>
    split
    · next observation hobserved =>
      refine .ret (h _ _ ?_)
      rintro found ⟨⟩
      exact ⟨clear, rfl, i, rpc, store, hi, hrpc, hstore, hobserved⟩
    · exact .ret (h _ _ (by simp))
    · exact .ret (h _ _ (by simp))
  cases listed with
  | none => exact .bind (.context (.fetch observed))
  | some pods => obtain rfl := hlisted pods rfl; exact observed

theorem Ensures.canStartDisruption {r : Reconciler} {target : Pod} {tracker : RolloutTracker}
    {Q : Bool × RolloutTracker → Server → Prop}
    (h : ∀ allowed tracker, (allowed = true → Clear shard s) → Q (allowed, tracker) s) :
    Ensures B G (r.canStartDisruption shard target tracker) Q s := by
  unfold Reconciler.canStartDisruption
  split
  · exact .ret (h _ _ (by simp))
  refine .bind (.observeDisruption (by simp) fun preflight reason hclear => ?_)
  dsimp only
  split
  · exact .ret (h _ _ (by simp))
  · refine .bind (.of_reads (reads_disruptionCheck _ _ _) fun result => ?_)
    split
    · exact .ret (h _ _ fun _ => (hclear _ rfl).1)
    · exact .ret (h _ _ (by simp))

/-! ## The gates of a delete and of a create -/

/-- Of the PVCs of these names, only some of the rest may be being deleted. -/
def LiveExcept (s : Server) (claims rest : List String) : Prop :=
  ∀ pvc ∈ s.pvcs, pvc.name ∈ claims → pvc.name ∈ rest ∨ pvc.terminating = false

theorem liveExcept_self (claims : List String) : LiveExcept s claims claims :=
  fun _ _ hclaim => .inl hclaim

variable {claims : List String} {claim : String}

theorem LiveExcept.claimsLive (h : LiveExcept s claims []) : ClaimsLive s claims :=
  fun pvc hpvc hmem => (h pvc hpvc hmem).resolve_left (by simp)

theorem LiveExcept.tail {rest : List String} (h : LiveExcept s claims (claim :: rest))
    (hclaim : ClaimsLive s [claim]) : LiveExcept s claims rest := by
  intro pvc hpvc hmem
  rcases h pvc hpvc hmem with hcons | hlive
  · rcases List.mem_cons.mp hcons with hname | hrest
    · exact .inr (hclaim pvc hpvc (by simp [hname]))
    · exact .inl hrest
  · exact .inr hlive

theorem LiveExcept.calm {t : Server} {rest : List String} (h : LiveExcept s claims rest)
    (hcalm : Calm s t) : LiveExcept t claims rest := by
  intro pvc hpvc hmem
  by_cases hterm : pvc.terminating = true
  · obtain ⟨old, hold, hname, hold_term⟩ := hcalm.terminating pvc hpvc hterm
    exact (h old hold (hname ▸ hmem)).imp (fun hrest => hname ▸ hrest) fun hlive => by
      simp [hlive] at hold_term
  · exact .inr (by simpa using hterm)

theorem claimsLive_of_find_eq_none (h : s.pvcs.find claim = none) : ClaimsLive s [claim] :=
  fun pvc hpvc hmem => absurd (List.mem_singleton.mp hmem) (Keyed.find_eq_none.mp h pvc hpvc)

theorem claimsLive_of_find_eq_some {found : PVC} (h : s.pvcs.find claim = some found)
    (hlive : ¬ found.terminating = true) : ClaimsLive s [claim] := by
  intro pvc hpvc hmem
  have ⟨hfound, hname⟩ := Keyed.find_eq_some.mp h
  rw [s.pvcs.eq_of_key_eq hpvc hfound ((List.mem_singleton.mp hmem).trans hname.symm)]
  simpa using hlive

/-- **A delete** is let through when no PVC of the pod is being deleted. -/
theorem Ensures.podTerminatingClaim {Q : Option String → Server → Prop}
    (h : ∀ claim, (claim = none → ClaimsLive s claims) → Q claim s) :
    Ensures B G (podTerminatingClaim claims) Q s := by
  refine .firstM (I := fun rest t => t = s ∧ LiveExcept s claims rest) ?_ ?_
    ⟨rfl, liveExcept_self claims⟩
  · rintro claim rest t ⟨rfl, hlive⟩
    refine .bind (.context (.fetch ?_))
    split
    · next hnone => exact .ret ⟨rfl, hlive.tail (claimsLive_of_find_eq_none hnone)⟩
    · next found hfound =>
      refine .ret ?_
      split
      · exact h _ (by simp)
      · next hterm => exact ⟨rfl, hlive.tail (claimsLive_of_find_eq_some hfound hterm)⟩
  · rintro t ⟨rfl, hlive⟩
    exact h none fun _ => hlive.claimsLive

/-- **A create** is let through when no PVC of the pod is being deleted; on the way orphan labels
are cleared. -/
theorem Ensures.claimPodVolumes (hG : ∀ s o, o.OnPVC → G s o) {Q : Option String → Server → Prop}
    (h : ∀ claim t, Calm s t → (claim = none → ClaimsLive t claims) → Q claim t) :
    Ensures B G (claimPodVolumes claims) Q s := by
  refine .firstM (I := fun rest t => Calm s t ∧ LiveExcept t claims rest) ?_ ?_
    ⟨.refl s, liveExcept_self claims⟩
  · rintro claim rest t ⟨hcalm, hlive⟩
    refine .bind (.context (.fetch ?_))
    split
    · next hnone => exact .ret ⟨hcalm, hlive.tail (claimsLive_of_find_eq_none hnone)⟩
    · next found hfound =>
      split
      · exact .ret (h _ t hcalm (by simp))
      · next hterm =>
        refine .bind (.of_onPVC (onPVC_context (onPVC_clearOrphan found)) hG fun _ u hu => ?_)
        have hlive' := hlive.tail (claimsLive_of_find_eq_some hfound hterm)
        exact .ret ⟨hcalm.trans hu, hlive'.calm hu⟩
  · rintro t ⟨hcalm, hlive⟩
    exact h none t hcalm fun _ => hlive.claimsLive

end MultigresOperator

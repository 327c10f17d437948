import MultigresOperator.Shard.BadSpec
import MultigresOperator.Shard.Phases

/-!
# The primary in a rolling update

A rolling update replaces the replicas of the shard first and the primary last. The visit that
drains the primary decides by what it looks at: the Ready path by the pods of its own pool and cell,
the not-Ready path by the pods of the shard that may be replaced now. A pod that still needs the
update and that the path does not wait for is passed over.

## Main results

* `Ensures.rollReadyPod`, `Ensures.replaceUnreadyDriftedPod`: the two paths
* `primary_last_iff`: the primary is drained last exactly if no pod that is due is passed over
* `primary_before_replicas`: a pass that drains the primary before the replicas of another pool
-/

namespace MultigresOperator

open Effects MultigresOperator.Action

/-! ### Pods that are due -/

/-- The pod is in the range of its pool and not on the spec. -/
def DueForUpdate (shard : Shard) (pod : Pod) : Prop :=
  ∃ pool index, shard.pool? pod.pool = some pool ∧ poolUsesCell pool pod.cell = true ∧
    resolvePodIndex pod.name = some index ∧ index < poolReplicas pool ∧
      podNeedsUpdate pod shard pod.pool pod.cell index = true

def LastDue (shard : Shard) (s : Server) (name : String) : Prop :=
  ∀ pod ∈ s.poolPods shard, DueForUpdate shard pod → pod.name = name

/-- `maintenanceCapacityWithout` on a list of the poolers. -/
def capacityWithout (shard : Shard) (s : Server) (cellName excludedPodName : String)
    (available : Pod → Bool) : Bool :=
  !requiresTwoCellMaintenanceSurge shard ||
    let poolers := s.listPods (shardPDBSelector shard)
    let remaining := poolers.filter fun pod => pod.name != excludedPodName && available pod
    decide (minAvailableForTotal (shardTotalReplicas shard +
      poolers.countP (isActiveMaintenanceSurge shard)) ≤ remaining.length) &&
        remaining.any (·.cell == cellName)

/-- Nothing refuses the replacement of the pod: it is in no action a restart would throw away,
enough poolers serve without it, and the posture allows it whenever it is asked. -/
structure Replaceable (B : Server → Answer → Prop) (r : Reconciler) (shard : Shard) (s : Server)
    (preflight : Preflight) (pod : Pod) : Prop where
  idle : (preflight.observation.postgresAction r.consensus pod.name).bind discardedAction = none
  capacity : preflight.observation.serving r.consensus pod.name = true →
    capacityWithout shard s pod.cell pod.name (fun p =>
      !p.disrupted && preflight.observation.serving r.consensus p.name) = true
  posture : ∀ i, B s i → r.verdict shard preflight pod i.now = .ok ()

/-- Why a pod that is due does not hold back the drain of a primary in a visit. What is known of the
data plane is `B`; it may hold of one state of it only. -/
inductive PassedOver (B : Server → Answer → Prop) (r : Reconciler) (shard : Shard) (s : Server)
    (poolName cellName primary : String) (pod : Pod) : Prop
  | role (h : resolvePodRole shard pod.name = some .primary ∨
      resolvePodRole shard pod.name = some .quarantined)
  | elsewhere (healthy : shardHealthy shard (s.poolPods shard) = true)
      (h : (poolSelector shard poolName cellName).Matches pod.labels = false)
  | refused {preflight : Preflight} (seen : preflight.Seen B r shard s)
      (h : ¬ Replaceable B r shard s preflight pod)
  | stranded {q : Pod} (mem : q ∈ s.poolPods shard) (named : q.name = primary)
      (h : podTopoDrifted q shard = true)

/-- A request that drains a primary finds the other pods updated exactly if it passes over none. -/
def DrainsPrimaryLast (B : Server → Answer → Prop) (r : Reconciler) (shard : Shard)
    (poolName cellName : String) (s : Server) (o : Op) : Prop :=
  ∀ primary time, o = .patchPod primary (.requestDrain time) →
    resolvePodRole shard primary = some .primary →
      (LastDue shard s primary ↔ ∀ pod ∈ s.poolPods shard, DueForUpdate shard pod →
        pod.name ≠ primary → ¬ PassedOver B r shard s poolName cellName primary pod)

section Due

variable {B : Server → Answer → Prop} {r : Reconciler} {shard : Shard} {s : Server}
  {poolName cellName : String} {pod : Pod}

/-- It is enough that a pod that is due is passed over, or the primary itself. -/
theorem drainsPrimaryLast_of_passedOver {primary : String} {time : Time}
    (h : resolvePodRole shard primary = some .primary → ∀ pod ∈ s.poolPods shard,
      DueForUpdate shard pod → pod.name ≠ primary →
        PassedOver B r shard s poolName cellName primary pod) :
    DrainsPrimaryLast B r shard poolName cellName s (.patchPod primary (.requestDrain time)) := by
  rintro _ _ ⟨⟩ hrole
  constructor
  · intro hlast pod hpod hdue hne
    exact absurd (hlast pod hpod hdue) hne
  · intro hnone pod hpod hdue
    by_contra hne
    exact hnone pod hpod hdue hne (h hrole pod hpod hdue hne)

theorem drainsPrimaryLast_of_ne {o : Op} (h : ∀ name time, o ≠ .patchPod name (.requestDrain time)) :
    DrainsPrimaryLast B r shard poolName cellName s o :=
  fun primary time ho => absurd ho (h primary time)

end Due

/-! ### The Ready path -/

section Ready

variable {B : Server → Answer → Prop} {r : Reconciler} {shard : Shard} {s t : Server}
  {poolName cellName : String} {pod q : Pod} {rollout : RolloutTracker}

theorem Pod.Kin.podNeedsUpdate {index : ℕ} (h : Pod.Kin pod q)
    (hq : podNeedsUpdate q shard poolName cellName index = true) :
    podNeedsUpdate pod shard poolName cellName index = true := by
  unfold MultigresOperator.podNeedsUpdate at hq ⊢
  split at hq
  · cases hq
  next hlive =>
  -- the pod was not being deleted either
  rw [if_neg fun hterm => hlive (h.terminating hterm), h.specHash]
  exact hq

theorem mem_driftedPods_of_due (hderived : Derived s t) (hq : q ∈ t.pods)
    (hmatch : (poolSelector shard poolName cellName).Matches q.labels = true)
    (hdue : DueForUpdate shard q) :
    ∃ pod ∈ driftedPods shard poolName cellName (visitPods shard s poolName cellName),
      pod.name = q.name := by
  obtain ⟨pod, hpod, hkin⟩ := hderived q hq
  obtain ⟨pool, index, -, -, hindex, -, hupdate⟩ := hdue
  obtain ⟨hpool, hcell⟩ := pool_cell_of_matches hmatch
  refine ⟨pod, List.mem_filter.mpr ⟨?_, ?_⟩, hkin.name⟩
  · refine (List.mem_insertionSort _).mpr (Server.mem_listPods.mpr ⟨hpod, ?_⟩)
    rw [hkin.labels]
    exact hmatch
  · rw [hkin.name, hindex, Option.getD_some, ← hpool, ← hcell]
    exact hkin.podNeedsUpdate hupdate

theorem Ensures.drainDriftedPod {G : Server → Op → Prop} {failure : String}
    (h : ∀ time, G t (.patchPod pod.name (.requestDrain time))) :
    Ensures B G (drainDriftedPod r shard cellName failure pod rollout) (fun _ _ => True) t := by
  refine .bind (.of_reads (reads_hasMaintenanceCapacityForPod _ _) fun capacity => ?_)
  split
  · exact .ret trivial
  refine .bind (.of_reads (reads_canStartDisruption r _ _) fun result => ?_)
  obtain ⟨allowed, rollout⟩ := result
  dsimp only
  split
  · exact .ret trivial
  · exact .bind (.context (.initiateDrain fun time _ _ => ⟨h time, .ret trivial⟩))

/-- **The Ready path** waits for the pods of its own pool and cell. -/
theorem Ensures.rollReadyPod (hhealthy : shardHealthy shard (t.poolPods shard) = true)
    (hderived : Derived s t) :
    Ensures B (DrainsPrimaryLast B r shard poolName cellName)
      (rollReadyPod r shard poolName cellName (visitPods shard s poolName cellName) rollout)
      (fun _ _ => True) t := by
  unfold MultigresOperator.rollReadyPod
  extract_lets drifted
  split
  · next pod hfound =>
    -- a replica
    refine .drainDriftedPod fun time => drainsPrimaryLast_of_passedOver fun hrole => ?_
    have hreplica := List.find?_some hfound
    simp [hrole] at hreplica
  next hnone =>
  split
  · next primary hlast =>
    split
    · exact .ret trivial
    refine .drainDriftedPod fun time => drainsPrimaryLast_of_passedOver fun _ q hq hdue _ => ?_
    cases hmatch : (poolSelector shard poolName cellName).Matches q.labels with
    | false => exact .elsewhere hhealthy hmatch
    | true =>
      obtain ⟨pod, hpod, hname⟩ :=
        mem_driftedPods_of_due hderived (Server.mem_listPods.mp hq).1 hmatch hdue
      have hprimary := List.find?_eq_none.mp hnone pod hpod
      rw [hname] at hprimary
      exact .role (.inl (by simpa using hprimary))
  · exact .ret trivial

end Ready

/-! ### The not-Ready path -/

section Unready

variable {B : Server → Answer → Prop} {r : Reconciler} {shard : Shard} {s : Server}
  {poolName cellName : String} {pod q : Pod} {preflight : Preflight} {rollout : RolloutTracker}
  {G : Server → Op → Prop} {pods : List Pod}

theorem Ensures.maintenanceCapacityWithout {cellName name : String} {available : Pod → Bool}
    {Q : Bool → Server → Prop} (h : Q (capacityWithout shard s cellName name available) s) :
    Ensures B G (maintenanceCapacityWithout shard cellName name available) Q s := by
  unfold MultigresOperator.maintenanceCapacityWithout
  unfold capacityWithout at h
  split
  · next hpolicy =>
    rw [hpolicy, Bool.true_or] at h
    exact .ret h
  · next hpolicy =>
    rw [Bool.eq_false_iff.mpr hpolicy, Bool.false_or] at h
    exact .bind (.context (.fetch (.ret h)))

theorem Ensures.unreadyReplacementBlocked {extra : Bool} {Q : Option String × Bool → Server → Prop}
    (h : ∀ blocked needsSurge,
      (blocked.isSome = true → ¬ Replaceable B r shard s preflight pod) → Q (blocked, needsSurge) s) :
    Ensures B G (unreadyReplacementBlocked r shard preflight pod extra) Q s := by
  unfold MultigresOperator.unreadyReplacementBlocked
  extract_lets observation
  split
  · next action haction =>
    refine .ret (h _ _ fun _ hreplaceable => ?_)
    cases extra with
    | true => cases haction
    | false => exact nomatch haction.symm.trans hreplaceable.idle
  next serving needsSurge check _ _ =>
  have hcheck (capacity : Bool) (hcapacity : capacity = false →
      ¬ Replaceable B r shard s preflight pod) : Ensures B G (check capacity) Q s := by
    unfold check
    split
    · next hnot => exact .ret (h _ _ fun _ => hcapacity (by simpa using hnot))
    · refine .bind (.bind (.bind (.answer fun i hi => .ret (.ret ?_))))
      split
      · next e he =>
        refine .ret (h _ _ fun _ hreplaceable => ?_)
        exact nomatch he.symm.trans (hreplaceable.posture i hi)
      · exact .ret (h _ _ fun hsome => nomatch hsome)
  split
  · next hserving =>
    refine .bind (.maintenanceCapacityWithout (hcheck _ fun hnot hreplaceable => ?_))
    exact nomatch hnot.symm.trans (hreplaceable.capacity hserving)
  · exact hcheck true fun hnot => nomatch hnot

/-- **The candidates are tried in order**: whatever is ahead of the pod that is drained has been
refused. -/
theorem Ensures.replaceFirst {isExtra : String → Bool} {candidates : List Pod} {a : Attempts}
    (h : ∀ before pod after, candidates = before ++ pod :: after →
      (∀ q ∈ before, ¬ Replaceable B r shard s preflight q) →
        ∀ time, G s (.patchPod pod.name (.requestDrain time))) :
    Ensures B G (replaceFirst r shard preflight isExtra candidates a)
      (fun a t => a.drained = false → t = s) s := by
  induction candidates generalizing a with
  | nil => exact .ret fun _ => rfl
  | cons pod candidates ih =>
    refine .bind (.unreadyReplacementBlocked fun blocked needsSurge hblocked => ?_)
    dsimp only
    split
    · refine ih fun before p after heq hbefore => h (pod :: before) p after (by rw [heq]; rfl) ?_
      exact List.forall_mem_cons.mpr ⟨hblocked rfl, hbefore⟩
    · refine .bind (.context (.initiateDrain fun time _ _ => ⟨?_, .ret fun hnot => nomatch hnot⟩))
      exact h [] pod candidates rfl (by simp) time

/-- What is ahead of the first element of a kind, in a list that has none of the kind at first. -/
theorem mem_before_of_append {α : Type} {P : α → Prop} {front back before after : List α} {a b : α}
    (hfront : ∀ x ∈ front, ¬ P x) (ha : P a) (h : front ++ back = before ++ a :: after)
    (hb : b ∈ front) : b ∈ before := by
  rcases List.append_eq_append_iff.mp h with ⟨rest, rfl, -⟩ | ⟨rest, rfl, hrest⟩
  · exact List.mem_append_left _ hb
  · cases rest with
    | nil => simpa using hb
    | cons c rest =>
      obtain ⟨rfl, -⟩ := List.cons.inj hrest
      exact absurd ha (hfront a (by simp))

theorem role_of_rolloutClass {c : RolloutClass} (h : rolloutClass shard pod = some c)
    (hc : c = .ready ∨ c = .unready) : resolvePodRole shard pod.name ≠ some .primary := by
  intro hrole
  unfold rolloutClass at h
  split at h
  · dsimp only at h
    split at h
    · cases h
    split at h
    · cases h
      rcases hc with hc | hc <;> cases hc
    · rw [hrole, if_pos (by simp)] at h
      cases h
      revert hc
      split <;> simp
  · cases h

theorem role_of_mem_unreadyExtras (h : pod ∈ unreadyExtras shard pods) :
    resolvePodRole shard pod.name ≠ some .primary := by
  have hfilter := (List.mem_filter.mp ((List.mem_insertionSort _).mp h)).2
  split at hfilter
  · simp only [Bool.and_eq_true, bne_iff_ne] at hfilter
    exact hfilter.1.1.2
  · cases hfilter

theorem rolloutClass_of_due (hdue : DueForUpdate shard pod) (hquiet : pod.disrupted = false)
    (hprimary : resolvePodRole shard pod.name ≠ some .primary)
    (hquarantined : resolvePodRole shard pod.name ≠ some .quarantined) :
    rolloutClass shard pod = some (if isPodReady pod then .ready else .unready) := by
  obtain ⟨pool, index, hpool, huses, hindex, hrange, hupdate⟩ := hdue
  simp [rolloutClass, hpool, hindex, huses, hrange, hupdate, hquiet, hprimary, hquarantined]

/-- The candidates of the not-Ready path ahead of the primary. -/
def replicaCandidates (shard : Shard) (pods : List Pod) : List Pod :=
  unreadyExtras shard pods ++ (classifyDesiredPods shard pods).unready ++
    (classifyDesiredPods shard pods).ready

theorem role_of_mem_replicaCandidates (h : pod ∈ replicaCandidates shard pods) :
    resolvePodRole shard pod.name ≠ some .primary := by
  rcases List.mem_append.mp h with h | hready
  · rcases List.mem_append.mp h with hextra | hunready
    · exact role_of_mem_unreadyExtras hextra
    · exact role_of_rolloutClass (by simpa using (List.mem_filter.mp hunready).2) (.inr rfl)
  · exact role_of_rolloutClass (by simpa using (List.mem_filter.mp hready).2) (.inl rfl)

theorem mem_replicaCandidates_of_due (hq : q ∈ s.poolPods shard) (hdue : DueForUpdate shard q)
    (hquiet : Quiet shard s) (hprimary : resolvePodRole shard q.name ≠ some .primary)
    (hquarantined : resolvePodRole shard q.name ≠ some .quarantined) :
    q ∈ replicaCandidates shard (s.poolPods shard) := by
  have hclass := rolloutClass_of_due hdue (hquiet q hq) hprimary hquarantined
  have hsorted : q ∈ sortByName (s.poolPods shard) := (List.mem_insertionSort _).mpr hq
  unfold replicaCandidates classifyDesiredPods
  cases hready : isPodReady q with
  | true =>
    refine List.mem_append_right _ (List.mem_filter.mpr ⟨hsorted, ?_⟩)
    simp [hclass, hready]
  | false =>
    refine List.mem_append_left _ (List.mem_append_right _ (List.mem_filter.mpr ⟨hsorted, ?_⟩))
    simp [hclass, hready]

theorem mem_before_primary {before after : List Pod}
    (h : replacementCandidates shard pods = before ++ pod :: after)
    (hrole : resolvePodRole shard pod.name = some .primary) (hq : q ∈ replicaCandidates shard pods) :
    q ∈ before := by
  unfold replacementCandidates at h
  dsimp only at h
  cases hprimary : (classifyDesiredPods shard pods).primary with
  | none =>
    -- without a primary that is not Ready there is no primary among the candidates
    rw [hprimary, List.append_nil] at h
    have hmem : pod ∈ replicaCandidates shard pods :=
      List.mem_append_left _ (h ▸ List.mem_append_right _ List.mem_cons_self)
    exact absurd hrole (role_of_mem_replicaCandidates hmem)
  | some primary =>
    rw [hprimary, ← List.append_assoc] at h
    exact mem_before_of_append (P := fun pod => resolvePodRole shard pod.name = some .primary)
      (fun pod hpod => role_of_mem_replicaCandidates hpod) hrole h hq

def Op.NoDrain : Op → Prop
  | .patchPod _ (.requestDrain _) => False
  | _ => True

theorem Op.NoDrain.drainsPrimaryLast {o : Op} (h : o.NoDrain) :
    DrainsPrimaryLast B r shard poolName cellName s o := by
  refine drainsPrimaryLast_of_ne ?_
  rintro name time rfl
  exact h.elim

theorem noDrain_of_onPVC {α : Type} {p : Action α} (h : p.Only Op.OnPVC) : p.Only Op.NoDrain :=
  Prog.only_mono h fun o ho => by cases o <;> trivial

theorem noDrain_createOrAdoptMaintenanceSurge {pool : PoolSpec} {pvcs : List PVC} {replicas : ℕ} :
    (createOrAdoptMaintenanceSurge shard poolName cellName pool pods pvcs replicas).Only
      Op.NoDrain := by
  unfold createOrAdoptMaintenanceSurge
  extract_lets podName pvcName
  split
  · split
    · exact Prog.only_pure
    · exact Prog.only_mapError (Prog.only_perform trivial)
  next create _ _ =>
  have hcreate : (create ()).Only Op.NoDrain := by
    unfold create
    split
    · exact Prog.only_fail
    · refine Prog.only_bind (noDrain_of_onPVC (onPVC_claimPodVolumes _)) fun claim => ?_
      split
      · exact Prog.only_pure
      · exact Prog.only_mapError (Prog.only_bind Prog.only_answer fun _ =>
          Prog.only_performUnless trivial)
  split
  · split
    · exact Prog.only_fail
    · exact Prog.only_bind (Prog.only_mapError (Prog.only_performUnless trivial)) fun _ => hcreate
  · refine Prog.only_bind (Prog.only_mapError (noDrain_of_onPVC (onPVC_reclaimPVC _))) fun result => ?_
    obtain ⟨terminating, pvc⟩ := result
    dsimp only
    split
    · exact hcreate
    · exact Prog.only_bind (noDrain_of_onPVC (onPVC_expandPVCIfNeeded _ _)) fun _ => hcreate

theorem noDrain_requestMaintenanceSurge :
    (requestMaintenanceSurge shard pod rollout).Only Op.NoDrain := by
  unfold requestMaintenanceSurge
  split
  · exact Prog.only_pure
  split
  · exact Prog.only_pure
  refine Prog.only_bind (Prog.only_mapError Prog.only_fetch) fun cellPods => ?_
  split
  · exact Prog.only_pure
  refine Prog.only_bind (Prog.only_mapError Prog.only_fetch) fun pvcs => ?_
  exact Prog.only_bind noDrain_createOrAdoptMaintenanceSurge fun _ => Prog.only_pure

theorem Ensures.of_noDrain {α : Type} {p : Action α} (h : p.Only Op.NoDrain) :
    Ensures B (DrainsPrimaryLast B r shard poolName cellName) p (fun _ _ => True) s :=
  .of_only (fun _ => trivial) (fun _ _ => trivial)
    (fun _ _ _ ho _ => ⟨ho.drainsPrimaryLast, trivial⟩) h fun _ _ _ => trivial

theorem Ensures.replaceObserved (hquiet : Quiet shard s) (hseen : preflight.Seen B r shard s) :
    Ensures B (DrainsPrimaryLast B r shard poolName cellName)
      (replaceObserved r shard (s.poolPods shard) preflight rollout) (fun _ _ => True) s := by
  unfold MultigresOperator.replaceObserved
  extract_lets current
  split
  · exact .ret trivial
  refine .bind (.conseq (.replaceFirst fun before pod after heq hbefore time => ?_) fun a t _ => ?_)
  · refine drainsPrimaryLast_of_passedOver fun hrole q hq hdue _ => ?_
    by_cases hprimary : resolvePodRole shard q.name = some .primary
    · exact .role (.inl hprimary)
    by_cases hquarantined : resolvePodRole shard q.name = some .quarantined
    · exact .role (.inr hquarantined)
    have hmem := mem_replicaCandidates_of_due hq hdue hquiet hprimary hquarantined
    exact .refused hseen (hbefore q (mem_before_primary heq hrole hmem))
  · split
    · exact .ret trivial
    split
    · exact .bind (.conseq (.of_noDrain noDrain_requestMaintenanceSurge) fun _ _ _ => .ret trivial)
    · exact .ret trivial

/-- **The not-Ready path** waits for every pod of the shard that may be replaced. -/
theorem Ensures.replaceUnreadyDriftedPod :
    Ensures B (DrainsPrimaryLast B r shard poolName cellName)
      (replaceUnreadyDriftedPod r shard rollout) (fun result t => result.1 = false → t = s) s := by
  unfold MultigresOperator.replaceUnreadyDriftedPod
  split
  · exact .ret fun _ => rfl
  refine .bind (.context (.fetch ?_))
  dsimp only
  split
  · exact .ret fun _ => rfl
  split
  · exact .ret fun _ => rfl
  split
  · exact .ret fun _ => rfl
  split
  · exact .ret fun _ => rfl
  refine .bind (.observeDisruption (by simp [Server.poolPods]) fun preflight reason hseen => ?_)
  dsimp only
  split
  · exact .ret fun _ => rfl
  · obtain ⟨hclear, hseen⟩ := hseen _ rfl
    exact .bind (.conseq (.replaceObserved hclear.quiet hseen) fun _ _ _ => .ret (by simp))

end Unready

/-! ### A visit -/

section Visit

variable {B : Server → Answer → Prop} {r : Reconciler} {shard : Shard} {s t : Server}
  {poolName cellName : String}

theorem Ensures.handleRollingUpdates {driftedCount : ℕ} {p : Progress} {pods : List Pod}
    (h : p.actionTaken = false →
      pods = visitPods shard s poolName cellName ∧ Derived s t) :
    Ensures B (DrainsPrimaryLast B r shard poolName cellName)
      (handleRollingUpdates r shard poolName cellName pods driftedCount p) (fun _ _ => True) t := by
  unfold MultigresOperator.handleRollingUpdates
  extract_lets rollout
  split
  · exact .ret trivial
  next hidle =>
  simp only [Bool.or_eq_true, not_or, Bool.not_eq_true] at hidle
  obtain ⟨rfl, hderived⟩ := h hidle.1.1.1
  refine .bind (.topoStrandedPod ?_ fun pod hpod i hquiet _ hstranded => ?_)
  · refine .bind (.conseq .replaceUnreadyDriftedPod fun result u hu => ?_)
    obtain ⟨handled, rollout⟩ := result
    dsimp only
    split
    · exact .ret trivial
    next hnot =>
    obtain rfl := hu (by simpa using hnot)
    refine .bind (.isShardHealthy fun healthy hhealthy => ?_)
    split
    · exact .ret trivial
    · next hnot => exact .rollReadyPod (hhealthy (by simpa using hnot)) hderived
  · refine .bind (.context (.of_reads (reads_mountedTerminatingPVCs shard) fun names => ?_))
    split
    · exact .ret trivial
    refine .bind (.context (.initiateDrain fun time u hu => ⟨?_, .ret trivial⟩))
    refine drainsPrimaryLast_of_passedOver fun _ _ _ _ _ => ?_
    -- the stored pod of the name is the one the visit has listed
    obtain ⟨q, hq, hname⟩ := (Server.exec_patchPod hu).1
    obtain ⟨old, hold, hkin⟩ := hderived q hq
    have ⟨hmem, hmatch⟩ := Server.mem_listPods.mp hpod
    obtain rfl := s.pods.eq_of_key_eq hold hmem (hkin.name.trans hname)
    have hpool : q ∈ t.poolPods shard :=
      Server.mem_listPods.mpr ⟨hq, matches_disruptionSelector (hkin.labels ▸ hmatch)⟩
    refine .stranded hpool hname ?_
    have hdrifted := hstranded.1
    unfold podTopoDrifted at hdrifted ⊢
    rw [← hkin.poolerDataReady, ← hkin.topoFlags, hquiet q hpool, Bool.false_or]
    split at hdrifted
    · cases hdrifted
    · next hcond =>
      simp only [Bool.or_eq_true, not_or] at hcond
      rw [if_neg hcond.2]
      exact hdrifted

/-- **When the primary is drained last.** In every visit of a pool in a cell, from every state of the
API server and wherever in a pass it stands: when its rolling update drains a pod with the role
PRIMARY, no other pod in range of the shard needs the update exactly if none that does is passed
over. -/
theorem primary_last_iff (B : Server → Answer → Prop) (r : Reconciler) (shard : Shard)
    (poolName cellName : String) (pool : PoolSpec) (rollout : RolloutTracker) (s : Server) :
    Ensures B (fun _ _ => True) (earlierPhases r shard poolName cellName pool rollout)
      (fun result t => ∀ st p, result = .inr (st, p) →
        Ensures B (DrainsPrimaryLast B r shard poolName cellName)
          (handleRollingUpdates r shard poolName cellName st.pods st.driftedCount p)
          (fun _ _ => True) t) s :=
  .conseq .earlierPhases fun _ _ h st p hresult => .handleRollingUpdates fun hidle =>
    h st p hresult hidle

end Visit

/-! ### A primary in a pool of its own -/

/-- The requests of the rolling update of a visit, with the states they are made in. -/
def rollingRequests (r : Reconciler) (shard : Shard) (poolName cellName : String) (pool : PoolSpec)
    (rollout : RolloutTracker) (answers : ℕ → Answer) (s : Server) : List (Server × Op) :=
  let earlier := (earlierPhases r shard poolName cellName pool rollout).run machine answers s
  match earlier.result with
  | .ok (.inr (st, p)) =>
    ((handleRollingUpdates r shard poolName cellName st.pods st.driftedCount p).run machine
      earlier.rest earlier.state).trace
  | _ => []

namespace Sample

/-- The primary is in pool `b`, its replicas in pool `a`. -/
def ledShard : Shard :=
  { pairShard with podRoles := [(pairName "a" 0, .replica), (pairName "a" 1, .replica),
      (pairName "b" 0, .primary)] }

/-- All pods are Ready, and the spec has changed. -/
def ledSystem : System where
  shard := ledShard
  server := { server ⟨[pairPod "a" 0 true, pairPod "a" 1 true, pairPod "b" 0 true], by decide +kernel⟩
    with pvcs := ⟨[pairPVC "a" 0, pairPVC "a" 1, pairPVC "b" 0], by decide +kernel⟩ }

/-- A pass that visits pool `b` first. -/
def ledPass : Pass where
  pools := [("b", { cells := ["z1"] }), ("a", { cells := ["z1"], replicasPerCell := some 2 })]
  answers := fun _ =>
    { topology := some fun _ => .ok [record (pairName "a" 0) (pairName "a" 0) .replica,
        record (pairName "a" 1) (pairName "a" 1) .replica,
        record (pairName "b" 0) (pairName "b" 0) .primary]
      rpc := some (rpc (pairName "b" 0) [poolerId (pairName "a" 0), poolerId (pairName "a" 1),
        poolerId (pairName "b" 0)])
      phaseHealthy := true }

theorem ledPass_admissible : ledPass.Admissible (fun _ _ _ => True) reconciler ledSystem :=
  ⟨.swap _ _ _, Prog.admits_of_forall fun _ _ => ⟨rfl, trivial⟩⟩

/-- The request that drains the primary. -/
def ledDrain : Server × Op := (ledSystem.server, .patchPod (pairName "b" 0) (.requestDrain 0))

theorem ledDrain_mem : ledDrain ∈ (ledPass.outcome reconciler ledSystem).trace ∧
    ledDrain ∈ rollingRequests reconciler ledShard "b" "z1" { cells := ["z1"] } {} ledPass.answers
      ledSystem.server := by decide +kernel

end Sample

section

open Sample

/-- **The primary before its replicas**: the pass drains the primary, the only pod of pool `b`, while
the two pods of pool `a` still need the update. -/
theorem primary_before_replicas :
    ∃ (r : Reconciler) (x : System) (p : Pass) (pool : PoolSpec) (e : Server × Op) (primary : String)
        (time : Time),
      p.Admissible (fun _ _ _ => True) r x ∧ e ∈ (p.outcome r x).trace ∧
        e ∈ rollingRequests r x.shard "b" "z1" pool {} p.answers x.server ∧
          e.2 = .patchPod primary (.requestDrain time) ∧
            resolvePodRole x.shard primary = some .primary ∧ ¬ LastDue x.shard e.1 primary := by
  refine ⟨reconciler, ledSystem, ledPass, { cells := ["z1"] }, ledDrain, pairName "b" 0, 0,
    ledPass_admissible, ledDrain_mem.1, ledDrain_mem.2, rfl, by decide +kernel, fun hlast => ?_⟩
  have hmem : pairPod "a" 0 true ∈ ledSystem.server.poolPods ledShard := by decide +kernel
  have hdue : DueForUpdate ledShard (pairPod "a" 0 true) :=
    ⟨{ cells := ["z1"], replicasPerCell := some 2 }, 0, rfl, by decide +kernel,
      by decide +kernel, by decide +kernel, by decide +kernel⟩
  have hname := hlast _ hmem hdue
  revert hname
  decide +kernel

end

end MultigresOperator

import Mathlib.Data.List.Induction
import MultigresOperator.Api.Conditions
import MultigresOperator.Shard.Phases

/-!
# The RollingUpdate condition

Every visit of a pool in a cell writes one condition of the Shard for itself, and the last visit
counts. Once all pools are visited the condition is settled: a rollout that waits on a safety check
says so, and the transition time follows the status the pass ends with. The pools are visited in the
order of a Go map, that is in any.

## Main definitions

* `RollingVisit`, `RollingVisit.condition`: what a visit writes
* `finishRollingUpdateCondition`, `keepTransitionTime`
* `recordedPools`: the pool loop of a pass, with what its visits write
* `Leaves`: a pass leaves a condition, and leaves it again over itself

## Main results

* `rollingUpdateConditions_eq`: a pass puts one condition, with the time of its status
* `recordedPools_recorded`: to record what the visits write changes nothing
-/

namespace MultigresOperator

open Effects MultigresOperator.Action

/-! ### What a visit writes -/

/-- A visit of a pool in a cell, as far as the condition goes. -/
structure RollingVisit where
  pool : String
  driftedCount : ℕ
  isAnyPodDraining : Bool
  deriving DecidableEq, Repr

namespace RollingVisit

def inProgress (v : RollingVisit) : Bool := v.isAnyPodDraining || decide (0 < v.driftedCount)

/-- The condition `handleRollingUpdates` writes. -/
def condition (v : RollingVisit) : Condition :=
  if v.inProgress then
    { type := "RollingUpdate"
      status := .conditionTrue
      reason := "PodsDrifted"
      message := toString v.driftedCount ++ " pods need update in pool " ++ v.pool }
  else
    { type := "RollingUpdate"
      status := .conditionFalse
      reason := "PodsUpToDate"
      message := "All pods up to date in pool " ++ v.pool }

end RollingVisit

/-- The condition of a rollout that waits on a safety check. -/
def rolloutBlocked (reason : String) : Condition where
  type := "RollingUpdate"
  status := .conditionTrue
  reason := "RolloutBlocked"
  message := reason

def keepTransitionTime (conditions : List Condition) : Option Condition → List Condition
  | none => conditions
  | some before =>
    match findStatusCondition conditions before.type with
    | none => conditions
    | some after =>
      if after.status = before.status then
        putCondition conditions (after.atTime before.lastTransitionTime)
      else conditions

/-- `finishRollingUpdateCondition`; `before` is the condition as the pass began. -/
def finishRollingUpdateCondition (time : Time) (conditions : List Condition)
    (rollout : RolloutTracker) (before : Option Condition) : List Condition :=
  let conditions := if rollout.blocked ≠ "" then
      setStatusCondition time conditions (rolloutBlocked rollout.blocked)
    else conditions
  -- a pass that reached no decision keeps the last reason
  let conditions := match before with
    | none => conditions
    | some b =>
      if rollout.blocked = "" ∧ rollout.unreadyDeferred ∧ b.reason = "RolloutBlocked" then
        setStatusCondition time conditions b
      else conditions
  keepTransitionTime conditions before

/-- The conditions of the Shard after the pool loop of a pass. -/
def rollingUpdateConditions (time : Time) (conditions : List Condition)
    (visits : List RollingVisit) (rollout : RolloutTracker) : List Condition :=
  finishRollingUpdateCondition time
    (visits.foldl (fun conditions v => setStatusCondition time conditions v.condition) conditions)
    rollout (findStatusCondition conditions "RollingUpdate")

/-! ### The condition a pass leaves -/

/-- What stands above the visits: the reason a replacement waits for, or the last one that still
stands. -/
def heldCondition (rollout : RolloutTracker) (before : Option Condition) : Option Condition :=
  if rollout.blocked ≠ "" then some (rolloutBlocked rollout.blocked)
  else if rollout.unreadyDeferred then before.filter (·.reason = "RolloutBlocked")
  else none

/-- The condition a pass leaves, its time apart. -/
def rollingVerdict (visits : List RollingVisit) (rollout : RolloutTracker)
    (before : Option Condition) : Option Condition :=
  (heldCondition rollout before).or
    ((visits.getLast?.map RollingVisit.condition).or before)

/-- The transition time of a status: that of before as long as the status is the same. -/
def Condition.transition (time : Time) (before : Option Condition) (c : Condition) : Time :=
  match before with
  | none => time
  | some b => if b.status = c.status then b.lastTransitionTime else time

def Condition.timed (time : Time) (before : Option Condition) (c : Condition) : Condition :=
  c.atTime (c.transition time before)

namespace RollingVisit

variable (v : RollingVisit)

@[simp] theorem condition_type : v.condition.type = "RollingUpdate" := by
  unfold condition
  split <;> rfl

@[simp] theorem condition_lastTransitionTime : v.condition.lastTransitionTime = 0 := by
  unfold condition
  split <;> rfl

end RollingVisit

abbrev standing (conditions : List Condition) : Option Condition :=
  findStatusCondition conditions "RollingUpdate"

section Writes

variable {time : Time} {conditions cs : List Condition} {c d : Condition}

/-- The list after some writes of a pass, the last of them `c`; its time is that of the pass, or
still the one of before if the status is that of before. -/
structure Written (time : Time) (conditions : List Condition) (c : Condition) (cs : List Condition) :
    Prop where
  type : c.type = "RollingUpdate"
  put : cs = putCondition conditions c
  moved : c.lastTransitionTime = time ∨ ∃ b, findStatusCondition conditions "RollingUpdate" = some b ∧
    b.status = c.status ∧ b.lastTransitionTime = c.lastTransitionTime

/-- Some condition of the content of `c` was written last. -/
def WrittenLike (time : Time) (conditions : List Condition) (c : Condition) (cs : List Condition) :
    Prop :=
  ∃ t, Written time conditions (c.atTime t) cs

theorem setStatusCondition_eq (hzero : c.lastTransitionTime = 0) :
    setStatusCondition time cs c =
      putCondition cs (c.timed time (findStatusCondition cs c.type)) := by
  rw [setStatusCondition, setCondition_eq_putCondition, if_pos hzero, Condition.atTime_type]
  cases findStatusCondition cs c.type with
  | none => rfl
  | some old =>
    by_cases h : old.status = c.status <;>
      simp [Condition.timed, Condition.transition, Condition.replacing, h]

theorem writtenLike_first (htype : c.type = "RollingUpdate") (hzero : c.lastTransitionTime = 0) :
    WrittenLike time conditions c (setStatusCondition time conditions c) := by
  rw [setStatusCondition_eq hzero, htype]
  refine ⟨c.transition time (standing conditions), htype, rfl, ?_⟩
  cases hb : standing conditions with
  | none => exact .inl rfl
  | some b =>
    by_cases h : b.status = c.status
    · exact .inr ⟨b, hb, h, by simp [Condition.transition, h]⟩
    · exact .inl (if_neg h)

theorem writtenLike_next (hd : WrittenLike time conditions d cs) (htype : c.type = "RollingUpdate")
    (hzero : c.lastTransitionTime = 0) :
    WrittenLike time conditions c (setStatusCondition time cs c) := by
  obtain ⟨t, hd⟩ := hd
  have hdtype : d.type = c.type := hd.type.trans htype.symm
  have hfound : findStatusCondition cs c.type = some (d.atTime t) := by
    rw [hd.put, ← hdtype]
    exact findStatusCondition_putCondition conditions (d.atTime t)
  rw [setStatusCondition_eq hzero, hfound]
  refine ⟨c.transition time (some (d.atTime t)), htype, ?_, ?_⟩
  · rw [hd.put]
    exact putCondition_putCondition hdtype
  · by_cases h : d.status = c.status
    · have htime : c.transition time (some (d.atTime t)) = t := if_pos h
      rw [htime]
      -- the time of the write before, which is that of the pass or of an equal status
      rcases hd.moved with hnow | ⟨b, hb, hstatus, hold⟩
      · exact .inl hnow
      · exact .inr ⟨b, hb, hstatus.trans h, hold⟩
    · exact .inl (if_neg h)

theorem writtenLike_visits (visits : List RollingVisit) (v : RollingVisit) :
    WrittenLike time conditions v.condition ((visits ++ [v]).foldl
      (fun conditions v => setStatusCondition time conditions v.condition) conditions) := by
  induction visits using List.reverseRecOn generalizing v with
  | nil => exact writtenLike_first v.condition_type v.condition_lastTransitionTime
  | append_singleton visits w ih =>
    rw [List.foldl_append]
    exact writtenLike_next (ih w) v.condition_type v.condition_lastTransitionTime

theorem exists_setStatusCondition (time : Time) (cs : List Condition) (c : Condition) :
    ∃ t, setStatusCondition time cs c = putCondition cs (c.atTime t) := by
  rw [setStatusCondition, setCondition_eq_putCondition]
  cases findStatusCondition cs _ with
  | none => exact ⟨_, rfl⟩
  | some old =>
    by_cases h : old.status = c.status
    · exact ⟨old.lastTransitionTime, by simp [Condition.replacing, h]⟩
    · exact ⟨_, congrArg (putCondition cs) (if_pos h)⟩

theorem keepTransitionTime_written (hc : WrittenLike time conditions c cs) :
    keepTransitionTime cs (standing conditions) =
      putCondition conditions (c.timed time (standing conditions)) := by
  obtain ⟨t, hc⟩ := hc
  have hctype : c.type = "RollingUpdate" := hc.type
  have hmoved := hc.moved
  cases hbefore : standing conditions with
  | none =>
    have hnow : t = time := by
      rcases hmoved with hnow | ⟨b, hb, -⟩
      · exact hnow
      · cases hbefore.symm.trans hb
    rw [keepTransitionTime, hc.put, hnow]
    rfl
  | some b =>
    have hbtype : b.type = c.type := (type_of_findStatusCondition hbefore).trans hctype.symm
    have hfound : findStatusCondition cs b.type = some (c.atTime t) := by
      rw [hc.put, hbtype]
      exact findStatusCondition_putCondition conditions (c.atTime t)
    rw [keepTransitionTime, hfound]
    dsimp only
    by_cases h : (c.atTime t).status = b.status
    · have htime : c.transition time (some b) = b.lastTransitionTime := if_pos h.symm
      rw [if_pos h, hc.put, Condition.timed, htime]
      exact putCondition_putCondition rfl
    · have hnow : t = time := by
        rcases hmoved with hnow | ⟨b', hb', hstatus, -⟩
        · exact hnow
        · cases hbefore.symm.trans hb'
          exact absurd hstatus.symm h
      have htime : c.transition time (some b) = time := if_neg fun h' => h h'.symm
      rw [if_neg h, hc.put, hnow, Condition.timed, htime]

theorem putCondition_standing {b : Condition} (hb : standing conditions = some b) :
    putCondition conditions b = conditions :=
  putCondition_self (by simpa [type_of_findStatusCondition hb] using hb)

theorem keepTransitionTime_restored {b : Condition} {t : Time} (hb : standing conditions = some b) :
    keepTransitionTime (putCondition conditions (b.atTime t)) (some b) = conditions := by
  have hfound : findStatusCondition (putCondition conditions (b.atTime t))
      b.type = some (b.atTime t) :=
    findStatusCondition_putCondition conditions (b.atTime t)
  rw [keepTransitionTime, hfound]
  dsimp only
  rw [if_pos (by rfl), putCondition_putCondition (by rfl)]
  exact putCondition_standing hb

theorem finish_restored {b : Condition} (hb : standing conditions = some b)
    (hcs : cs = conditions ∨ WrittenLike time conditions c cs) :
    keepTransitionTime (setStatusCondition time cs b) (some b) = conditions := by
  obtain ⟨t, ht⟩ := exists_setStatusCondition time cs b
  have hput : setStatusCondition time cs b = putCondition conditions (b.atTime t) := by
    rcases hcs with rfl | ⟨u, hu⟩
    · exact ht
    · rw [ht, hu.put]
      exact putCondition_putCondition (hu.type.trans (type_of_findStatusCondition hb).symm)
  rw [hput]
  exact keepTransitionTime_restored hb

end Writes

theorem finishRollingUpdateCondition_eq {time : Time} {conditions cs : List Condition}
    {last : Option Condition} {rollout : RolloutTracker}
    (hcs : match last with
      | none => cs = conditions
      | some c => WrittenLike time conditions c cs) :
    finishRollingUpdateCondition time cs rollout (standing conditions) =
      ((heldCondition rollout (standing conditions)).or (last.or (standing conditions))).elim conditions
        fun c => putCondition conditions (c.timed time (standing conditions)) := by
  -- the condition of before, put again
  have hagain {b : Condition} (hb : standing conditions = some b) :
      putCondition conditions (b.timed time (some b)) = conditions := by
    have htime : b.timed time (some b) = b := congrArg b.atTime (if_pos rfl)
    rw [htime]
    exact putCondition_standing hb
  unfold finishRollingUpdateCondition
  by_cases hblocked : rollout.blocked = ""
  case neg =>
    -- the reason goes over whatever was written
    have hheld : WrittenLike time conditions (rolloutBlocked rollout.blocked)
        (setStatusCondition time cs (rolloutBlocked rollout.blocked)) := by
      cases last with
      | none => exact (hcs : cs = conditions) ▸ writtenLike_first rfl rfl
      | some c => exact writtenLike_next hcs rfl rfl
    have hfinish := keepTransitionTime_written hheld
    cases hb : standing conditions with
    | none => simpa [heldCondition, hblocked, hb] using hfinish
    | some b => simpa [heldCondition, hblocked, hb] using hfinish
  case pos =>
    -- without a reason the condition of before or the last write is left
    have hvisits : keepTransitionTime cs (standing conditions) =
        (last.or (standing conditions)).elim conditions fun c =>
          putCondition conditions (c.timed time (standing conditions)) := by
      cases last with
      | some c => exact keepTransitionTime_written hcs
      | none =>
        rw [(hcs : cs = conditions)]
        cases hb : standing conditions with
        | none => rfl
        | some b =>
          have hkeep := keepTransitionTime_restored (t := b.lastTransitionTime) hb
          rw [Condition.atTime_self, putCondition_standing hb] at hkeep
          rw [hkeep]
          exact (hagain hb).symm
    cases hb : standing conditions with
    | none => simpa [heldCondition, hblocked, hb] using hvisits
    | some b =>
      rw [hb] at hvisits
      by_cases hdeferred : rollout.unreadyDeferred = true ∧ b.reason = "RolloutBlocked"
      · have hrestored : keepTransitionTime (setStatusCondition time cs b) (some b) = conditions := by
          cases last with
          | none => exact finish_restored (c := b) hb (.inl hcs)
          | some c => exact finish_restored hb (.inr hcs)
        have hheld : heldCondition rollout (some b) = some b := by
          simp [heldCondition, hblocked, hdeferred, Option.filter]
        simpa [hheld, hblocked, hdeferred, hagain hb] using hrestored
      · have hheld : heldCondition rollout (some b) = none := by
          simpa [heldCondition, hblocked] using hdeferred
        simpa [hheld, hblocked, hdeferred] using hvisits

/-- **A pass puts one condition**, with the transition time of its status. -/
theorem rollingUpdateConditions_eq (time : Time) (conditions : List Condition)
    (visits : List RollingVisit) (rollout : RolloutTracker) :
    rollingUpdateConditions time conditions visits rollout =
      (rollingVerdict visits rollout (standing conditions)).elim conditions
        fun c => putCondition conditions (c.timed time (standing conditions)) := by
  refine finishRollingUpdateCondition_eq ?_
  rcases List.eq_nil_or_concat visits with hnil | ⟨front, v, hfront⟩
  · simp [hnil]
  · rw [hfront, List.concat_eq_append, List.getLast?_append_cons]
    exact writtenLike_visits front v

/-! ### Passes that leave one condition -/

/-- What a condition shows beside its type. -/
def Condition.shown (c : Condition) : ConditionStatus × String × String × Time :=
  (c.status, c.reason, c.message, c.lastTransitionTime)

section Leaves

variable {time time' : Time} {conditions : List Condition} {rollout : RolloutTracker}
  {before : Option Condition} {c : Condition} {v : RollingVisit}
  {out out' : RolloutTracker × List RollingVisit}

/-- A pass leaves a condition, its time apart, and leaves it again over itself. -/
structure Leaves (conditions : List Condition) (out : RolloutTracker × List RollingVisit)
    (c : Condition) : Prop where
  type : c.type = "RollingUpdate"
  first : ∃ t, rollingVerdict out.2 out.1 (standing conditions) = some (c.atTime t)
  again : ∀ w, ∃ u, rollingVerdict out.2 out.1 (some (c.atTime w)) = some (c.atTime u)

theorem Leaves.put (h : Leaves conditions out c) (time : Time) :
    rollingUpdateConditions time conditions out.2 out.1 =
      putCondition conditions (c.timed time (standing conditions)) := by
  obtain ⟨t, ht⟩ := h.first
  rw [rollingUpdateConditions_eq, ht]
  rfl

theorem Leaves.find (h : Leaves conditions out c) (time : Time) :
    findStatusCondition (rollingUpdateConditions time conditions out.2 out.1) "RollingUpdate" =
      some (c.timed time (standing conditions)) := by
  rw [h.put, ← h.type]
  exact findStatusCondition_putCondition conditions (c.timed time (standing conditions))

theorem Leaves.stable (h : Leaves conditions out c) (h' : Leaves conditions out' c)
    (time time' : Time) :
    rollingUpdateConditions time' (rollingUpdateConditions time conditions out.2 out.1) out'.2 out'.1 =
      rollingUpdateConditions time conditions out.2 out.1 := by
  obtain ⟨u, hu⟩ := h'.again (c.transition time (standing conditions))
  have hverdict : rollingVerdict out'.2 out'.1
      (some (c.timed time (standing conditions))) = some (c.atTime u) := hu
  have hsame : (c.atTime u).timed time' (some (c.timed time (standing conditions))) =
      c.timed time (standing conditions) := congrArg c.atTime (if_pos rfl)
  have hfound : standing (putCondition conditions (c.timed time (standing conditions))) =
      some (c.timed time (standing conditions)) := h.put time ▸ h.find time
  rw [h.put, rollingUpdateConditions_eq, hfound, hverdict, Option.elim_some, hsame]
  exact putCondition_putCondition rfl

end Leaves

/-! ### The visits of a pass -/

section Recorded

variable (r : Reconciler) (shard : Shard)

/-- What a visit has found once its earlier phases are done. -/
def foundByVisit (poolName : String) (st : Creation) (p : Progress) : RollingVisit where
  pool := poolName
  driftedCount := st.driftedCount
  isAnyPodDraining := p.inProgress

/-- A visit, with what it writes of itself; one that acts on the surges of its cell ends there and
writes nothing. -/
def recordedPoolPods (poolName cellName : String) (pool : PoolSpec) (rollout : RolloutTracker) :
    Action (RolloutTracker × List RollingVisit) :=
  earlierPhases r shard poolName cellName pool rollout >>= fun
    | .inl tracker => pure (tracker, [])
    | .inr (st, p) => do
      let tracker ← handleRollingUpdates r shard poolName cellName st.pods st.driftedCount p
      pure (tracker, [foundByVisit poolName st p])

/-- The visits of one pool, with what they write. -/
def recordedPool (poolName : String) (pool : PoolSpec) (acc : RolloutTracker × List RollingVisit) :
    Action (RolloutTracker × List RollingVisit) :=
  if pool.cells.isEmpty then
    .fail (Failure.new ("pool " ++ poolName ++
      " has no cells specified - cannot deploy without cell information"))
  else Prog.forEach pool.cells acc fun acc cellName => do
    let (rollout, visits) ← context ("failed to reconcile pool pods for cell " ++ cellName)
      (recordedPoolPods r shard poolName cellName pool acc.1)
    context ("failed to reconcile pool headless Service for cell " ++ cellName) otherRequest
    pure (rollout, acc.2 ++ visits)

/-- The pool loop of a pass, with what its visits write. -/
def recordedPools (pools : List (String × PoolSpec)) : Action (RolloutTracker × List RollingVisit) :=
  Prog.forEach pools ({}, []) fun acc (poolName, pool) => recordedPool r shard poolName pool acc

variable {r shard} {poolName cellName : String} {pool : PoolSpec} {rollout : RolloutTracker}

theorem fst_recordedPoolPods :
    Prod.fst <$> recordedPoolPods r shard poolName cellName pool rollout =
      reconcilePoolPods r shard poolName cellName pool rollout := by
  rw [reconcilePoolPods, recordedPoolPods, map_bind]
  refine bind_congr fun result => ?_
  rcases result with tracker | ⟨st, p⟩
  · rfl
  · simp

theorem fst_recordedPool (acc : RolloutTracker × List RollingVisit) :
    Prod.fst <$> recordedPool r shard poolName pool acc =
      reconcilePool r shard poolName pool acc.1 := by
  unfold recordedPool reconcilePool
  split
  · rfl
  · refine Prog.map_forEach (fun acc cellName => ?_) pool.cells acc
    have hvisit : Prod.fst <$> context ("failed to reconcile pool pods for cell " ++ cellName)
          (recordedPoolPods r shard poolName cellName pool acc.1) =
        context ("failed to reconcile pool pods for cell " ++ cellName)
          (reconcilePoolPods r shard poolName cellName pool acc.1) := by
      rw [context, context, Prog.map_mapError, fst_recordedPoolPods]
    rw [← hvisit]
    simp only [map_bind, bind_map_left, map_pure]

theorem fst_recordedPools (pools : List (String × PoolSpec)) :
    Prod.fst <$> recordedPools r shard pools = reconcilePools r shard pools :=
  Prog.map_forEach (fun acc _ => fst_recordedPool acc) pools ({}, [])

structure Adds (poolName : String) (old new : RolloutTracker × List RollingVisit)
    (visits : List RollingVisit) : Prop where
  visits_eq : new.2 = old.2 ++ visits
  writes : ∀ v ∈ visits, v.pool = poolName
  decided : old.1.Quiet new.1 ∨ ∃ v ∈ visits, v.inProgress = true

theorem Adds.refl (acc : RolloutTracker × List RollingVisit) : Adds poolName acc acc [] :=
  ⟨(List.append_nil _).symm, by simp, .inl (.refl _)⟩

theorem Adds.trans {a b c : RolloutTracker × List RollingVisit} {xs ys : List RollingVisit}
    (h : Adds poolName a b xs) (h' : Adds poolName b c ys) : Adds poolName a c (xs ++ ys) where
  visits_eq := by rw [h'.visits_eq, h.visits_eq, List.append_assoc]
  writes := List.forall_mem_append.mpr ⟨h.writes, h'.writes⟩
  decided := by
    rcases h.decided with hquiet | ⟨v, hv, hprogress⟩
    · rcases h'.decided with hquiet' | ⟨v, hv, hprogress⟩
      · exact .inl (hquiet.trans hquiet')
      · exact .inr ⟨v, List.mem_append_right _ hv, hprogress⟩
    · exact .inr ⟨v, List.mem_append_left _ hv, hprogress⟩

theorem yields_any {α : Type} (p : Action α) : p.Yields (fun _ => True) fun _ => True :=
  Prog.yields_of_only (Prog.only_true p)

variable {pods : List Pod}

theorem yields_reconcileCellMaintenanceSurge {pvcs : List PVC} {replicas : ℕ} :
    (reconcileCellMaintenanceSurge shard poolName cellName pool pods pvcs replicas rollout).Yields
      (fun _ => True) fun surge => rollout.Quiet surge.tracker := by
  unfold reconcileCellMaintenanceSurge
  split
  · exact Prog.yields_pure (.refl _)
  refine Prog.yields_bind (yields_any _) fun cellPods _ => ?_
  extract_lets promoted surges trigger keepSurge activeLocalSurges
  refine Prog.yields_bind (yields_any _) fun _ _ => ?_
  split
  · split
    · exact Prog.yields_pure (.refl _)
    · exact Prog.yields_bind (yields_any _) fun _ _ => Prog.yields_pure ⟨rfl, rfl⟩
  · exact Prog.yields_bind (yields_any _) fun _ _ => Prog.yields_pure (.refl _)

theorem yields_earlierPhases :
    (earlierPhases r shard poolName cellName pool rollout).Yields (fun _ => True) fun
      | .inl tracker => rollout.Quiet tracker
      | .inr (_, p) => rollout.Quiet p.tracker := by
  unfold earlierPhases
  extract_lets where_ selector replicas
  refine Prog.yields_bind (yields_any _) fun pods _ => Prog.yields_bind (yields_any _) fun pvcs _ => ?_
  refine Prog.yields_bind yields_reconcileCellMaintenanceSurge fun surge hsurge => ?_
  split
  · exact Prog.yields_pure hsurge
  · refine Prog.yields_bind (Prog.yields_mono yields_createMissingResources (fun _ _ => trivial)
      fun _ => id) fun st hst => ?_
    refine Prog.yields_bind (Prog.yields_mono yields_handleScaleDown (fun _ _ => trivial)
      fun _ => id) fun p hp => Prog.yields_pure ?_
    exact (hsurge.trans hst.tracker).trans hp.tracker

theorem yields_handleRollingUpdates {driftedCount : ℕ} {p : Progress} :
    (handleRollingUpdates r shard poolName cellName pods driftedCount p).Yields (fun _ => True)
      fun tracker => p.tracker.Quiet tracker ∨ 0 < driftedCount := by
  by_cases hdrifted : 0 < driftedCount
  · exact Prog.yields_mono (yields_any _) (fun _ => id) fun _ _ => .inr hdrifted
  · unfold handleRollingUpdates
    have hzero : driftedCount = 0 := by omega
    rw [if_pos (by simp [hzero])]
    exact Prog.yields_pure (.inl (.refl _))

theorem yields_recordedPoolPods (visits : List RollingVisit) :
    (recordedPoolPods r shard poolName cellName pool rollout).Yields (fun _ => True) fun out =>
      Adds poolName (rollout, visits) (out.1, visits ++ out.2) out.2 := by
  refine Prog.yields_bind yields_earlierPhases fun result hresult => ?_
  rcases result with tracker | ⟨st, p⟩
  · exact Prog.yields_pure ⟨rfl, by simp, .inl hresult⟩
  · refine Prog.yields_bind yields_handleRollingUpdates fun tracker htracker =>
      Prog.yields_pure ⟨rfl, by simp [foundByVisit], ?_⟩
    rcases htracker with hquiet | hdrifted
    · exact .inl (hresult.trans hquiet)
    · refine .inr ⟨_, List.mem_singleton_self _, ?_⟩
      simp [RollingVisit.inProgress, foundByVisit, hdrifted]

theorem yields_recordedPool (acc : RolloutTracker × List RollingVisit) :
    (recordedPool r shard poolName pool acc).Yields (fun _ => True) fun out =>
      ∃ visits, Adds poolName acc out visits := by
  unfold recordedPool
  split
  · exact Prog.yields_fail
  · refine Prog.yields_forEach (fun old cellName _ hold => ?_) ⟨[], .refl acc⟩
    obtain ⟨visits, hold⟩ := hold
    refine Prog.yields_bind (Prog.yields_mapError (yields_recordedPoolPods old.2)) fun out hout => ?_
    exact Prog.yields_bind (yields_any _) fun _ _ => Prog.yields_pure ⟨_, hold.trans hout⟩

/-- What a pass has written: pool by pool in its order, and a pool that asks to wait has found an
update in progress. -/
structure Recorded (names : List String) (out : RolloutTracker × List RollingVisit) : Prop where
  byPool : ∃ visits : String → List RollingVisit, out.2 = names.flatMap visits ∧
    ∀ name, ∀ v ∈ visits name, v.pool = name
  decided : out.1.blocked ≠ "" ∨ out.1.unreadyDeferred = true → ∃ v ∈ out.2, v.inProgress = true

theorem Recorded.add {names : List String} {old new : RolloutTracker × List RollingVisit}
    {added : List RollingVisit} (h : Recorded names old) (hname : poolName ∉ names)
    (hadds : Adds poolName old new added) : Recorded (names ++ [poolName]) new where
  byPool := by
    obtain ⟨visits, hvisits, hpool⟩ := h.byPool
    refine ⟨Function.update visits poolName added, ?_, fun name v hv => ?_⟩
    · have hsame : names.flatMap (Function.update visits poolName added) = names.flatMap visits :=
        List.flatMap_congr fun name hmem => Function.update_of_ne (by grind) ..
      rw [hadds.visits_eq, hvisits, List.flatMap_append, hsame, List.flatMap_singleton,
        Function.update_self]
    · by_cases heq : name = poolName
      · subst heq
        rw [Function.update_self] at hv
        exact hadds.writes v hv
      · rw [Function.update_of_ne heq] at hv
        exact hpool name v hv
  decided := by
    intro hwaits
    rcases hadds.decided with hquiet | ⟨v, hv, hprogress⟩
    · rw [hquiet.blocked, hquiet.unreadyDeferred] at hwaits
      obtain ⟨v, hv, hprogress⟩ := h.decided hwaits
      exact ⟨v, hadds.visits_eq ▸ List.mem_append_left _ hv, hprogress⟩
    · exact ⟨v, hadds.visits_eq ▸ List.mem_append_right _ hv, hprogress⟩

variable {pools : List (String × PoolSpec)} (hnodup : (pools.map Prod.fst).Nodup)
include hnodup

theorem yields_recordedPools :
    (recordedPools r shard pools).Yields (fun _ => True) (Recorded (pools.map Prod.fst)) := by
  refine Prog.yields_mono (Prog.yields_forEach_rest
    (I := fun rest acc => ∃ done, done ++ rest = pools ∧ Recorded (done.map Prod.fst) acc)
    (fun acc pool rest hacc => ?_) ⟨[], rfl, ⟨⟨fun _ => [], rfl, by simp⟩, by simp⟩⟩)
    (fun _ => id) ?_
  · obtain ⟨done, rfl, hdone⟩ := hacc
    refine Prog.yields_mono (yields_recordedPool acc) (fun _ => id) fun new hnew => ?_
    obtain ⟨added, hadds⟩ := hnew
    have hfresh : pool.1 ∉ done.map Prod.fst := by
      rw [List.map_append, List.map_cons] at hnodup
      exact fun hmem => (List.nodup_append.mp hnodup).2.2 _ hmem _ List.mem_cons_self rfl
    refine ⟨done ++ [pool], by simp, ?_⟩
    rw [List.map_append]
    exact hdone.add hfresh hadds
  · rintro acc ⟨done, hdone, hrecorded⟩
    rw [List.append_nil] at hdone
    exact hdone ▸ hrecorded

/-- **To record what the visits write changes nothing**, whatever a pass is answered, and its record
is that of the pools one after another, in the order of the pass. -/
theorem recordedPools_recorded :
    Prod.fst <$> recordedPools r shard pools = reconcilePools r shard pools ∧
      (recordedPools r shard pools).Yields (fun _ => True) (Recorded (pools.map Prod.fst)) :=
  ⟨fst_recordedPools pools, yields_recordedPools hnodup⟩

end Recorded

end MultigresOperator

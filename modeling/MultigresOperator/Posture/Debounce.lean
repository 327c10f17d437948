import MultigresOperator.Api.Conditions
import MultigresOperator.Lib.Tally
import MultigresOperator.Lib.Text
import MultigresOperator.Posture.Evaluate
import MultigresOperator.Posture.Soundness

/-!
# The posture condition

The data-plane phase of a Shard pass turns observations into the PostureConsistent condition. The
condition is stored on the Shard; how many unsettled observations came in a row is only remembered
by the process. The two are written at different points of a pass, and a pass can end between them.

A pass is given by what it reads and by which of its writes succeed. Passes of all Shards share the
memory, a Shard that goes away is forgotten, and a restart forgets everything.

## Main definitions

* `recordPostureObservation`, `recordNotConverged`, `forgetStrikes`: the memory
* `apply`, `setPostureUnknownUnlessFalse`, `reconcilePosture`: the condition
* `PosturePass.run`: the posture part of a data-plane phase
* `Sighting`: what a pass has yielded
* `Debounced`: the law of the condition at one event of a run
* `Outlook`: the store, the client and the pods a pass looks at

## Main results

* `condition_step`: what an event can do to the condition
* `strikes_run`: the memory counts the unsettled observations since the last other one
* `posture_debounced`: the law holds at every event of every run
* `consistent_was_seen`: a condition that has become True goes back to a look at all of the shard
-/

namespace MultigresOperator

/-! ## The memory of the process -/

structure ShardKey where
  ns : String
  name : String
  noSlash : '/' ∉ ns.toList := by decide
  deriving DecidableEq

namespace ShardKey

/-- `fmt.Sprintf("%s/%s", shard.Namespace, shard.Name)` -/
def key (shard : ShardKey) : String := shard.ns ++ "/" ++ shard.name

theorem key_inj {a b : ShardKey} (h : a.key = b.key) : a = b := by
  have hlist : a.ns.toList ++ '/' :: a.name.toList = b.ns.toList ++ '/' :: b.name.toList := by
    have hchars := congrArg String.toList h
    simpa [key] using hchars
  have hcut := congrArg (Text.cut '/') hlist
  rw [Text.cut_append a.noSlash, Text.cut_append b.noSlash] at hcut
  obtain ⟨hns, hname⟩ := Prod.mk.inj (Option.some.inj hcut)
  obtain ⟨ns, name, _⟩ := a
  obtain ⟨ns', name', _⟩ := b
  obtain rfl := String.toList_inj.mp hns
  obtain rfl := String.toList_inj.mp hname
  rfl

end ShardKey

/-- The maps of the reconciler, by Shard. -/
structure PostureMemory where
  postureStrikes : Table String ℕ := ∅
  notConvergedSince : Table String Time := ∅

namespace PostureMemory

/-- The strikes of a Shard; a missing entry reads as zero. -/
def strikes (memory : PostureMemory) (shard : ShardKey) : ℕ :=
  (memory.postureStrikes.get shard.key).getD 0

/-- `recordPostureObservation`: counts consecutive unsettled observations. -/
def recordPostureObservation (memory : PostureMemory) (shard : ShardKey) (unsettled : Bool) :
    ℕ × PostureMemory :=
  if !unsettled then
    (0, { memory with postureStrikes := memory.postureStrikes.erase shard.key })
  else
    let strikes := memory.strikes shard + 1
    (strikes, { memory with postureStrikes := memory.postureStrikes.set shard.key strikes })

/-- `recordNotConverged`: how long the Shard has not been converged. -/
def recordNotConverged (memory : PostureMemory) (shard : ShardKey) (now : Time)
    (notConverged : Bool) : Time × PostureMemory :=
  if !notConverged then
    (0, { memory with notConvergedSince := memory.notConvergedSince.erase shard.key })
  else
    match memory.notConvergedSince.get shard.key with
    | some first => (now - first, memory)
    | none => (0, { memory with notConvergedSince := memory.notConvergedSince.set shard.key now })

def forgetStrikes (memory : PostureMemory) (shard : ShardKey) : PostureMemory where
  postureStrikes := memory.postureStrikes.erase shard.key
  notConvergedSince := memory.notConvergedSince.erase shard.key

variable (memory : PostureMemory) (shard other : ShardKey)

theorem strikes_record (unsettled : Bool) :
    (memory.recordPostureObservation shard unsettled).2.strikes other =
      if other = shard then (if unsettled then memory.strikes shard + 1 else 0)
      else memory.strikes other := by
  have hkey : other.key = shard.key ↔ other = shard := ⟨ShardKey.key_inj, congrArg _⟩
  unfold recordPostureObservation
  cases unsettled with
  | true =>
    simp only [Bool.not_true, Bool.false_eq_true, if_false, if_true]
    rw [strikes, Table.get_set]
    split_ifs <;> simp_all [strikes]
  | false =>
    simp only [Bool.not_false, if_true]
    rw [strikes, Table.get_erase]
    split_ifs <;> simp_all [strikes]

@[simp] theorem strikes_recordNotConverged (now : Time) (notConverged : Bool) :
    (memory.recordNotConverged shard now notConverged).2.strikes other = memory.strikes other := by
  unfold recordNotConverged
  split
  · rfl
  · split <;> rfl

theorem strikes_forget : (memory.forgetStrikes shard).strikes other =
    if other = shard then 0 else memory.strikes other := by
  have hkey : other.key = shard.key ↔ other = shard := ⟨ShardKey.key_inj, congrArg _⟩
  rw [strikes, forgetStrikes, Table.get_erase]
  split_ifs <;> simp_all [strikes]

end PostureMemory

/-! ## The condition -/

def conditionConsistent : String := "PostureConsistent"

/-- The part of a Shard's status that posture writes. -/
structure PostureStatus where
  conditions : List Condition := []
  podPostures : Table String String := ∅

namespace PostureStatus

def consistent (status : PostureStatus) : Option Condition :=
  findStatusCondition status.conditions conditionConsistent

def isFalse (status : PostureStatus) : Bool :=
  isConditionFalse status.conditions conditionConsistent

def setConsistent (status : PostureStatus) (value : ConditionStatus) (generation : ℕ) (now : Time)
    (reason message : String) : PostureStatus :=
  { status with
    conditions := setCondition status.conditions
      { type := conditionConsistent
        status := value
        observedGeneration := generation
        lastTransitionTime := now
        reason := reason
        message := message } }

theorem isFalse_iff {status : PostureStatus} :
    status.isFalse = true ↔ status.consistent.map (·.status) = some .conditionFalse := by
  simp [isFalse, isConditionFalse, conditionStatus, consistent]

theorem setConsistent_status (status : PostureStatus) (value : ConditionStatus) (generation : ℕ)
    (now : Time) (reason message : String) :
    (status.setConsistent value generation now reason message).consistent.map (·.status) =
      some value :=
  conditionStatus_setCondition status.conditions _

end PostureStatus

/-- What a pass reads in its data-plane phase. -/
inductive Reading
  /-- The topology store cannot be opened. -/
  | noStore
  /-- No pooler clients are configured. -/
  | noClients
  /-- The client of the Shard cannot be built. -/
  | clientUnavailable (err : String)
  /-- The pool pods cannot be listed. -/
  | podsUnavailable (err : String)
  /-- The outcome of `Evaluate`. -/
  | evaluated (evaluation : Except String (Option PostureResult))

def Reading.take (C : Consensus) (shard : Shard) (store : Except TopoError TopoStore)
    (client : Option (Except String StatusRpc)) (pods : Except String (List String)) : Reading :=
  match store, client with
  | .error _, _ => noStore
  | .ok _, none => noClients
  | .ok _, some (.error err) => clientUnavailable err
  | .ok store, some (.ok rpc) =>
    match pods with
    | .error err => podsUnavailable err
    | .ok podNames => evaluated (evaluate C store rpc shard podNames)

/-- A pass through the data plane: the Shard it is for, at its generation and time, what it reads,
and the outcomes of its writes. `gates` is that of `reconcilePoolerReadiness`, which writes the
readiness gates of the pods, and `stored` tells whether the status update went through. -/
structure PosturePass where
  shard : ShardKey
  generation : ℕ
  now : Time
  reading : Reading
  gates : Except String Unit
  stored : Bool

def postureStrikeThreshold : ℕ := 2

def postureDebounceRequeueDelay : Time := 5

def poolerRegistrationRetryDelay : Time := 60

/-- `readinessBackoffDelay`, before its jitter -/
def readinessBackoffDelay (elapsed : Time) : Time := max 5 (min elapsed 60)

def anyPodNotReady (readiness : Table String Readiness) : Bool :=
  readiness.items.any fun e => !e.2.ready

namespace PosturePass

variable (p : PosturePass)

/-- `Apply`: a partial observation cannot clear a confirmed failure. -/
def apply (result : PostureResult) (status : PostureStatus) : PostureStatus :=
  let status := { status with podPostures := result.postures }
  if result.multiplePrimaries then
    status.setConsistent .conditionFalse p.generation p.now "MultiplePrimaries" result.message
  else if !result.mismatches.isEmpty then
    status.setConsistent .conditionFalse p.generation p.now "RoleMismatch" result.message
  else if result.incomplete then
    if status.isFalse then status
    else
      status.setConsistent .conditionUnknown p.generation p.now "ObservationIncomplete"
        result.message
  else status.setConsistent .conditionTrue p.generation p.now "Consistent" result.message

/-- An observation that still needs confirmation: only an Unknown condition takes its message. -/
def pend (result : PostureResult) (status : PostureStatus) : PostureStatus :=
  let status := { status with podPostures := result.postures }
  if status.consistent.map (·.status) = some .conditionUnknown then
    status.setConsistent .conditionUnknown p.generation p.now "ObservationPending" result.message
  else status

def setPostureUnknownUnlessFalse (reason message : String) (status : PostureStatus) :
    PostureStatus :=
  if status.isFalse then status
  else status.setConsistent .conditionUnknown p.generation p.now reason message

/-- `reconcilePosture`, after the pods are listed: the delay until the next look, the memory, and
the status. An error leaves the memory and the status as they were. -/
def reconcilePosture (evaluation : Except String (Option PostureResult)) (memory : PostureMemory)
    (status : PostureStatus) : Except String Time × PostureMemory × PostureStatus :=
  match evaluation with
  | .error err => (.error ("evaluate posture consistency: " ++ err), memory, status)
  | .ok none =>
    match p.gates with
    | .error err => (.error err, memory, status)
    | .ok () =>
      (.ok poolerRegistrationRetryDelay, (memory.recordPostureObservation p.shard false).2,
        p.setPostureUnknownUnlessFalse "AwaitingPoolerRegistration"
          "Waiting for multipoolers to register in topology" status)
  | .ok (some result) =>
    match p.gates with
    | .error err => (.error err, memory, status)
    | .ok () =>
      let observed := memory.recordPostureObservation p.shard result.unsettled
      let debouncing := result.unsettled && decide (observed.1 < postureStrikeThreshold)
      let notConverged := result.unsettled || anyPodNotReady result.readiness
      let waited := observed.2.recordNotConverged p.shard p.now notConverged
      let delay :=
        if debouncing then postureDebounceRequeueDelay
        else if notConverged then readinessBackoffDelay waited.1
        else 0
      (.ok delay, waited.2, if debouncing then p.pend result status else p.apply result status)

/-- The posture part of `reconcileDataPlane`: the memory it leaves and the status it publishes, if
it comes to publishing one. A client that cannot be built clears the strikes before the gates are
written, an observation counts only after. -/
def run (memory : PostureMemory) (status : PostureStatus) :
    PostureMemory × Option PostureStatus :=
  match p.reading with
  | .noStore => (memory, none)
  | .noClients => (memory, some status)
  | .clientUnavailable err =>
    let memory := (memory.recordPostureObservation p.shard false).2
    match p.gates with
    | .error _ => (memory, none)
    | .ok () =>
      (memory, some (p.setPostureUnknownUnlessFalse "PoolerClientUnavailable"
        ("Failed to build multipooler RPC client: " ++ err) status))
  | .podsUnavailable _ => (memory, none)
  | .evaluated evaluation =>
    match p.reconcilePosture evaluation memory status with
    | (.error _, memory, _) => (memory, none)
    | (.ok _, memory, status) => (memory, some status)

end PosturePass

/-! ## Runs -/

/-- The memory of the process and the stored status of every Shard. -/
structure PostureWorld where
  memory : PostureMemory
  status : ShardKey → PostureStatus

/-- A pass, the end of a Shard, or a restart of the operator. -/
inductive PostureEvent
  | pass (p : PosturePass)
  | forget (shard : ShardKey)
  | restart

namespace PostureWorld

variable (w : PostureWorld)

/-- The stored posture condition of a Shard. -/
def condition (shard : ShardKey) : Option Condition := (w.status shard).consistent

def value (shard : ShardKey) : Option ConditionStatus := (w.condition shard).map (·.status)

def step : PostureEvent → PostureWorld
  | .pass p =>
    let ran := p.run w.memory (w.status p.shard)
    { memory := ran.1
      status := match ran.2 with
        | some status => if p.stored then Function.update w.status p.shard status else w.status
        | none => w.status }
  | .forget shard => { w with memory := w.memory.forgetStrikes shard }
  | .restart => { w with memory := {} }

def run (events : List PostureEvent) : PostureWorld := events.foldl step w

theorem run_concat (events : List PostureEvent) (e : PostureEvent) :
    w.run (events ++ [e]) = (w.run events).step e := by
  simp [run]

/-- A Shard without the condition, of which nothing is remembered. -/
structure Fresh (shard : ShardKey) : Prop where
  condition : w.condition shard = none
  strikes : w.memory.strikes shard = 0

end PostureWorld

/-- What a pass has yielded. -/
inductive Sighting
  | settled
  | inconsistent
  | incomplete
  | empty
  | unavailable
  deriving DecidableEq, Repr

namespace Sighting

/-- What an observation is. -/
def ofResult (result : PostureResult) : Sighting :=
  if result.inconsistent then .inconsistent else if result.incomplete then .incomplete else .settled

/-- Inconsistent or partial. -/
def Unsettled (s : Sighting) : Prop := s = .inconsistent ∨ s = .incomplete

instance : DecidablePred Unsettled := fun _ => inferInstanceAs (Decidable (_ ∨ _))

/-- What a sighting does to the strikes. -/
def mark (s : Sighting) : Mark := if s.Unsettled then .strike else .reset

end Sighting

/-- What a pass yields. A pass that fails on the way, be it on the gates of an observation it has
made, yields nothing. -/
def PosturePass.sighting (p : PosturePass) : Option Sighting :=
  match p.reading, p.gates with
  | .clientUnavailable _, _ => some .unavailable
  | .evaluated (.ok none), .ok () => some .empty
  | .evaluated (.ok (some result)), .ok () => some (.ofResult result)
  | _, _ => none

namespace PostureEvent

/-- What an event yields for a Shard. -/
def sighting (shard : ShardKey) : PostureEvent → Option Sighting
  | .pass p => if p.shard = shard then p.sighting else none
  | _ => none

/-- What an event does to the strikes of a Shard. -/
def mark (shard : ShardKey) (e : PostureEvent) : Mark :=
  match e with
  | .pass _ => ((e.sighting shard).map Sighting.mark).getD .skip
  | .forget other => if other = shard then .reset else .skip
  | .restart => .reset

/-- The event yields an unsettled observation. -/
def Unsettled (shard : ShardKey) (e : PostureEvent) : Prop :=
  ∃ s, e.sighting shard = some s ∧ s.Unsettled

/-- **What an event can do to the condition** of a Shard, and on which sighting. -/
inductive Moves (shard : ShardKey) (e : PostureEvent) (strikes : ℕ) (old new : Option Condition) :
    Prop
  | same (h : new = old)
  | clear (hs : e.sighting shard = some .settled)
      (hnew : new.map (·.status) = some .conditionTrue)
  | alarm (hs : e.sighting shard = some .inconsistent)
      (hstrikes : postureStrikeThreshold ≤ strikes + 1)
      (hnew : new.map (·.status) = some .conditionFalse)
  | doubt (s : Sighting) (hs : e.sighting shard = some s)
      (hunsettled : s.Unsettled → postureStrikeThreshold ≤ strikes + 1 ∨
        old.map (·.status) = some .conditionUnknown)
      (hold : old.map (·.status) ≠ some .conditionFalse)
      (hnew : new.map (·.status) = some .conditionUnknown)

end PostureEvent

/-! ## One event -/

theorem Sighting.unsettled_ofResult {result : PostureResult} :
    (Sighting.ofResult result).Unsettled ↔ result.unsettled = true := by
  unfold Sighting.ofResult Sighting.Unsettled PostureResult.unsettled
  split_ifs <;> simp_all

namespace PosturePass

variable (p : PosturePass) (memory : PostureMemory) (status : PostureStatus)

/-- **What a pass does**, by what it yields: the strikes it records and the status it publishes. -/
inductive Ran : Option Sighting → PostureMemory × Option PostureStatus → Prop
  | nothing : Ran none (memory, none)
  | unchanged : Ran none (memory, some status)
  | dropped : Ran (some .unavailable) ((memory.recordPostureObservation p.shard false).2, none)
  | blind (s : Sighting) (hs : ¬s.Unsettled) (hnew : s ≠ .settled) (reason message : String) :
      Ran (some s) ((memory.recordPostureObservation p.shard false).2,
        some (p.setPostureUnknownUnlessFalse reason message status))
  | observed (result : PostureResult) (memory' : PostureMemory)
      (hmemory : ∀ shard, memory'.strikes shard =
        (memory.recordPostureObservation p.shard result.unsettled).2.strikes shard) :
      Ran (some (.ofResult result)) (memory', some
        (if result.unsettled && decide
            ((memory.recordPostureObservation p.shard result.unsettled).1 < postureStrikeThreshold)
        then p.pend result status else p.apply result status))

theorem ran_run : p.Ran memory status p.sighting (p.run memory status) := by
  obtain ⟨shard, generation, now, reading, gates, stored⟩ := p
  rcases reading with _ | _ | err | err | (err | _ | result)
  · exact .nothing
  · exact .unchanged
  · rcases gates with e | ⟨⟩
    · exact .dropped
    · exact .blind .unavailable (by decide) (by decide) _ _
  · exact .nothing
  · exact .nothing
  · rcases gates with e | ⟨⟩
    · exact .nothing
    · exact .blind .empty (by decide) (by decide) _ _
  · rcases gates with e | ⟨⟩
    · exact .nothing
    · exact .observed result _ fun _ => PostureMemory.strikes_recordNotConverged ..

theorem exists_of_settled {p : PosturePass} (h : p.sighting = some .settled) :
    ∃ result, p.reading = .evaluated (.ok (some result)) ∧ result.unsettled = false := by
  unfold sighting at h
  split at h
  · cases h
  · cases h
  · next result hreading _ =>
    refine ⟨result, hreading, Bool.eq_false_iff.mpr fun hunsettled => ?_⟩
    have := Sighting.unsettled_ofResult.mpr hunsettled
    rw [Option.some.inj h] at this
    exact absurd this (by decide)
  · cases h

end PosturePass

theorem Sighting.mark_ofResult (result : PostureResult) :
    (Sighting.ofResult result).mark = if result.unsettled then .strike else .reset := by
  unfold Sighting.mark
  by_cases h : result.unsettled = true
  · rw [if_pos (Sighting.unsettled_ofResult.mpr h), if_pos h]
  · rw [if_neg (mt Sighting.unsettled_ofResult.mp h), if_neg h]

theorem PostureEvent.mark_pass (shard : ShardKey) (p : PosturePass) :
    PostureEvent.mark shard (.pass p) =
      if p.shard = shard then (p.sighting.map Sighting.mark).getD .skip else .skip := by
  simp only [PostureEvent.mark, PostureEvent.sighting]
  split <;> rfl

namespace PostureWorld

variable (w : PostureWorld) (shard : ShardKey)

/-- **The strikes after an event** follow its mark. -/
theorem strikes_step (e : PostureEvent) :
    (w.step e).memory.strikes shard = (e.mark shard).count (w.memory.strikes shard) := by
  cases e with
  | pass p =>
    have hran := p.ran_run w.memory (w.status p.shard)
    change (p.run w.memory (w.status p.shard)).1.strikes shard = _
    rw [PostureEvent.mark_pass]
    generalize p.run w.memory (w.status p.shard) = ran at hran ⊢
    generalize p.sighting = s at hran ⊢
    by_cases hshard : p.shard = shard
    · subst hshard
      have hrecord (unsettled : Bool) :
          (w.memory.recordPostureObservation p.shard unsettled).2.strikes p.shard =
            (if unsettled then .strike else Mark.reset).count (w.memory.strikes p.shard) := by
        rw [PostureMemory.strikes_record, if_pos rfl]
        cases unsettled <;> rfl
      rw [if_pos rfl]
      cases hran with
      | nothing => rfl
      | unchanged => rfl
      | dropped => exact hrecord false
      | blind s hs =>
        rw [hrecord, Option.map_some, Sighting.mark, if_neg hs]
        rfl
      | observed result memory' hmemory =>
        rw [hmemory, hrecord, Option.map_some, Sighting.mark_ofResult]
        rfl
    · -- a pass of another Shard records under another key
      have hrecord (unsettled : Bool) :
          (w.memory.recordPostureObservation p.shard unsettled).2.strikes shard =
            w.memory.strikes shard := by
        rw [PostureMemory.strikes_record, if_neg (Ne.symm hshard)]
      rw [if_neg hshard]
      cases hran with
      | nothing => rfl
      | unchanged => rfl
      | dropped => exact hrecord false
      | blind => exact hrecord false
      | observed result memory' hmemory => exact (hmemory shard).trans (hrecord _)
  | forget other =>
    change (w.memory.forgetStrikes other).strikes shard = _
    rw [PostureMemory.strikes_forget, PostureEvent.mark]
    by_cases h : other = shard
    · rw [if_pos h, if_pos h.symm]
      rfl
    · rw [if_neg h, if_neg (Ne.symm h)]
      rfl
  | restart => rfl

end PostureWorld

namespace PosturePass

variable {p : PosturePass} {status : PostureStatus} {result : PostureResult} {strikes : ℕ}

theorem moves_blind {s : Sighting} (hs : p.sighting = some s) (hsettled : ¬s.Unsettled)
    (reason message : String) :
    PostureEvent.Moves p.shard (.pass p) strikes status.consistent
      (p.setPostureUnknownUnlessFalse reason message status).consistent := by
  unfold setPostureUnknownUnlessFalse
  split
  · exact .same rfl
  · next hfalse =>
    exact .doubt s (by simpa [PostureEvent.sighting] using hs) (fun h => absurd h hsettled)
      (mt PostureStatus.isFalse_iff.mpr hfalse) (PostureStatus.setConsistent_status ..)

theorem moves_pend (hs : p.sighting = some (.ofResult result)) :
    PostureEvent.Moves p.shard (.pass p) strikes status.consistent
      (p.pend result status).consistent := by
  unfold pend
  dsimp only
  split
  · next hunknown =>
    refine .doubt _ (by simpa [PostureEvent.sighting] using hs) (fun _ => .inr hunknown) ?_
      (PostureStatus.setConsistent_status ..)
    exact fun hfalse => absurd (hunknown.symm.trans hfalse) (by decide)
  · exact .same rfl

theorem moves_apply (hs : p.sighting = some (.ofResult result))
    (hstrikes : result.unsettled = true → postureStrikeThreshold ≤ strikes + 1) :
    PostureEvent.Moves p.shard (.pass p) strikes status.consistent
      (p.apply result status).consistent := by
  have hsighting : PostureEvent.sighting p.shard (.pass p) = some (.ofResult result) := by
    simpa [PostureEvent.sighting] using hs
  have halarm (h : result.inconsistent = true) (reason : String) :
      PostureEvent.Moves p.shard (.pass p) strikes status.consistent
        (PostureStatus.consistent (.setConsistent { status with podPostures := result.postures }
          .conditionFalse p.generation p.now reason result.message)) :=
    .alarm (by rw [hsighting, Sighting.ofResult, if_pos h])
      (hstrikes (by simp [PostureResult.unsettled, h])) (PostureStatus.setConsistent_status ..)
  unfold apply
  dsimp only
  split_ifs with hmultiple hmismatch hincomplete hfalse
  · exact halarm (by simp [PostureResult.inconsistent, hmultiple]) _
  · exact halarm (by simp [PostureResult.inconsistent, hmismatch]) _
  · exact .same rfl
  · exact .doubt _ hsighting
      (fun h => .inl (hstrikes (Sighting.unsettled_ofResult.mp h)))
      (mt PostureStatus.isFalse_iff.mpr hfalse) (PostureStatus.setConsistent_status ..)
  · refine .clear ?_ (PostureStatus.setConsistent_status ..)
    rw [hsighting, Sighting.ofResult, if_neg (by simp_all [PostureResult.inconsistent]),
      if_neg hincomplete]

end PosturePass

namespace PostureWorld

variable (w : PostureWorld) (shard : ShardKey)

/-- **What an event can do** to the stored condition. -/
theorem condition_step (e : PostureEvent) :
    e.Moves shard (w.memory.strikes shard) (w.condition shard) ((w.step e).condition shard) := by
  cases e with
  | forget other => exact .same rfl
  | restart => exact .same rfl
  | pass p =>
    have hran := p.ran_run w.memory (w.status p.shard)
    by_cases hshard : p.shard = shard
    · subst hshard
      cases hpublished : (p.run w.memory (w.status p.shard)).2 with
      | none => exact .same (by simp [condition, step, hpublished])
      | some status =>
        by_cases hstored : p.stored = true
        · -- the published status is the stored one
          have hcondition : (w.step (.pass p)).condition p.shard = status.consistent := by
            simp [condition, step, hpublished, hstored]
          rw [hcondition]
          generalize hs : p.sighting = s at hran
          generalize p.run w.memory (w.status p.shard) = ran at hran hpublished
          cases hran with
          | nothing => cases hpublished
          | unchanged =>
            cases hpublished
            exact .same rfl
          | dropped => cases hpublished
          | blind s hsettled =>
            cases hpublished
            exact PosturePass.moves_blind hs hsettled _ _
          | observed result memory' =>
            cases hpublished
            split
            · exact PosturePass.moves_pend hs
            · next hconfirmed =>
              refine PosturePass.moves_apply hs fun hunsettled => ?_
              rw [hunsettled] at hconfirmed
              simpa [PostureMemory.recordPostureObservation] using hconfirmed
        · exact .same (by simp [condition, step, hpublished, hstored])
    · refine .same ?_
      have hother (status : PostureStatus) :
          Function.update w.status p.shard status shard = w.status shard :=
        Function.update_of_ne (Ne.symm hshard) ..
      cases hpublished : (p.run w.memory (w.status p.shard)).2 with
      | none => simp [condition, step, hpublished]
      | some status =>
        cases hstored : p.stored <;> simp [condition, step, hpublished, hstored, hother]

/-- **The memory counts** the unsettled observations since the last other one. -/
theorem strikes_run (hfresh : w.Fresh shard) (events : List PostureEvent) :
    (w.run events).memory.strikes shard = Mark.tally (events.map (PostureEvent.mark shard)) := by
  induction events using List.reverseRecOn with
  | nil => exact hfresh.strikes
  | append_singleton events e ih =>
    rw [run_concat, strikes_step, ih, List.map_append, List.map_singleton, Mark.tally_concat]

/-- A condition that has become True goes back to a settled observation. -/
theorem exists_of_value_run {w : PostureWorld} {shard : ShardKey} {events : List PostureEvent}
    (hw : w.value shard ≠ some .conditionTrue) (h : (w.run events).value shard = some .conditionTrue) :
    ∃ p, .pass p ∈ events ∧ p.shard = shard ∧ p.sighting = some .settled := by
  induction events using List.reverseRecOn with
  | nil => exact absurd h hw
  | append_singleton events e ih =>
    rw [run_concat] at h
    cases (w.run events).condition_step shard e with
    | same heq =>
      rw [value, heq] at h
      obtain ⟨p, hp, hsettled⟩ := ih h
      exact ⟨p, List.mem_append_left _ hp, hsettled⟩
    | clear hs =>
      cases e with
      | pass p =>
        obtain ⟨hshard, hs⟩ := Option.ite_none_right_eq_some.mp hs
        exact ⟨p, List.mem_append_right _ (.head _), hshard, hs⟩
      | forget => cases hs
      | restart => cases hs
    | alarm _ _ hfalse => cases h.symm.trans hfalse
    | doubt _ _ _ _ hunknown => cases h.symm.trans hunknown

end PostureWorld

/-! ## The law -/

/-- **The law of the condition** at an event after others: it leaves False only to True, and only
on a settled observation; it turns False only on an inconsistent observation that follows an
unsettled one with nothing settled or empty between the two; and the first unsettled observation
after a settled one leaves a True condition alone. -/
structure Debounced (shard : ShardKey) (before : List PostureEvent) (e : PostureEvent)
    (w w' : PostureWorld) : Prop where
  clears : w.value shard = some .conditionFalse → w'.value shard ≠ some .conditionFalse →
    w'.value shard = some .conditionTrue ∧ e.sighting shard = some .settled
  alarms : w.value shard ≠ some .conditionFalse → w'.value shard = some .conditionFalse →
    e.sighting shard = some .inconsistent ∧
      ∃ earlier u between, before = earlier ++ u :: between ∧ u.Unsettled shard ∧
        ∀ x ∈ between, x.sighting shard ≠ some .settled ∧ x.sighting shard ≠ some .empty
  steady : w.value shard = some .conditionTrue → e.Unsettled shard →
    ∀ earlier s between, before = earlier ++ s :: between → s.sighting shard = some .settled →
      (∀ x ∈ between, ¬x.Unsettled shard) → w'.condition shard = w.condition shard

namespace PostureEvent

variable {shard : ShardKey} {e : PostureEvent}

theorem unsettled_of_mark (h : e.mark shard = .strike) : e.Unsettled shard := by
  cases e with
  | pass p =>
    simp only [mark] at h
    cases hs : sighting shard (.pass p) with
    | none => simp [hs] at h
    | some s =>
      refine ⟨s, hs, ?_⟩
      by_contra hsettled
      simp [hs, Sighting.mark, hsettled] at h
  | forget other =>
    simp only [mark] at h
    split at h <;> cases h
  | restart => cases h

theorem mark_of_sighting {s : Sighting} (h : e.sighting shard = some s) :
    e.mark shard = s.mark := by
  cases e with
  | pass p => simp [mark, h]
  | forget other => cases h
  | restart => cases h

end PostureEvent

/-- **The posture condition is debounced** at every event of every run from a Shard without the
condition. -/
theorem posture_debounced (shard : ShardKey) (w : PostureWorld) (hfresh : w.Fresh shard)
    (before : List PostureEvent) (e : PostureEvent) :
    Debounced shard before e (w.run before) (w.run (before ++ [e])) := by
  have hmoves := (w.run before).condition_step shard e
  rw [← PostureWorld.run_concat, w.strikes_run shard hfresh] at hmoves
  -- an event that leaves the condition leaves its value
  have hvalue (h : (w.run (before ++ [e])).condition shard = (w.run before).condition shard) :
      (w.run (before ++ [e])).value shard = (w.run before).value shard :=
    by rw [PostureWorld.value, h, PostureWorld.value]
  constructor
  · intro hold hnew
    cases hmoves with
    | same h => exact absurd ((hvalue h).trans hold) hnew
    | clear hs hnew => exact ⟨hnew, hs⟩
    | alarm _ _ hfalse => exact absurd hfalse hnew
    | doubt _ _ _ hnot => exact absurd hold hnot
  · intro hold hnew
    cases hmoves with
    | same h => exact absurd ((hvalue h).symm.trans hnew) hold
    | clear _ htrue => exact absurd (hnew.symm.trans htrue) (by decide)
    | doubt _ _ _ _ hunknown => exact absurd (hnew.symm.trans hunknown) (by decide)
    | alarm hs hstrikes =>
      refine ⟨hs, ?_⟩
      -- a positive count comes from a strike that nothing has reset since
      have hpos : 0 < Mark.tally (before.map (PostureEvent.mark shard)) := by
        have : postureStrikeThreshold = 2 := rfl
        omega
      obtain ⟨marks, marks', hmarks, hreset⟩ := Mark.tally_pos_iff.mp hpos
      obtain ⟨earlier, rest, rfl, rfl, hrest⟩ := List.map_eq_append_iff.mp hmarks
      obtain ⟨u, between, rfl, hu, rfl⟩ := List.map_eq_cons_iff.mp hrest
      refine ⟨earlier, u, between, rfl, PostureEvent.unsettled_of_mark hu, fun x hx => ?_⟩
      have hx' : x.mark shard ≠ .reset := fun h => hreset (List.mem_map.mpr ⟨x, hx, h⟩)
      exact ⟨fun h => hx' (PostureEvent.mark_of_sighting h),
        fun h => hx' (PostureEvent.mark_of_sighting h)⟩
  · rintro htrue ⟨t, ht, hunsettled⟩ earlier s between rfl hsettled hbetween
    -- the settled observation has cleared the count and nothing has struck since
    have hzero : Mark.tally ((earlier ++ s :: between).map (PostureEvent.mark shard)) = 0 := by
      rw [List.map_append, List.map_cons, PostureEvent.mark_of_sighting hsettled]
      refine Mark.tally_eq_zero_of_reset fun hstrike => ?_
      obtain ⟨x, hx, hmark⟩ := List.mem_map.mp hstrike
      exact hbetween x hx (PostureEvent.unsettled_of_mark hmark)
    rw [hzero] at hmoves
    cases hmoves with
    | same h => exact h
    | clear hs =>
      obtain rfl := Option.some.inj (ht.symm.trans hs)
      exact absurd hunsettled (by decide)
    | alarm _ hstrikes => exact absurd hstrikes (by decide)
    | doubt t' ht' hdoubt _ _ =>
      obtain rfl := Option.some.inj (ht.symm.trans ht')
      rcases hdoubt hunsettled with hstrikes | hunknown
      · exact absurd hstrikes (by decide)
      · exact absurd (htrue.symm.trans hunknown) (by decide)

/-- A Shard for the runs below. -/
def sampleKey : ShardKey := { ns := "default", name := "postgres-0" }

/-- A pass of it that observes a pod as primary; the topology routes to it or not, and the pooler
of another pod answers or not. -/
def samplePass (routed reachable : Bool) : PosturePass where
  shard := sampleKey
  generation := 1
  now := 10
  reading := .evaluated (.ok (some (Scan.conclude
    { postures := Table.ofList [("p-0", "PRIMARY"), ("p-1", if reachable then "STANDBY" else "UNKNOWN")]
      readiness := ∅
      isTopoPrimary := Table.ofList [("p-0", routed)]
      incomplete := !reachable })))
  gates := .ok ()
  stored := true

/-- A world in which nothing has been observed. -/
def unobserved : PostureWorld where
  memory := {}
  status _ := {}

/-- A consistent look and a partial one. -/
def sampleLooks : List PostureEvent := [.pass (samplePass true true), .pass (samplePass true false)]

/-- The partial look changes nothing; an inconsistent one after it turns the condition False, as the
law asks. -/
theorem posture_debounced_mismatch :
    (unobserved.run sampleLooks).value sampleKey = some .conditionTrue ∧
      (unobserved.run (sampleLooks ++ [.pass (samplePass false true)])).value sampleKey =
        some .conditionFalse ∧
      Debounced sampleKey sampleLooks (.pass (samplePass false true)) (unobserved.run sampleLooks)
        (unobserved.run (sampleLooks ++ [.pass (samplePass false true)])) :=
  ⟨by decide +kernel, by decide +kernel, posture_debounced _ _ ⟨rfl, rfl⟩ _ _⟩

/-- What a pass looks at: its Shard, the topology store, the client, and the managed pods. -/
structure Outlook where
  shard : Shard
  store : Except TopoError TopoStore
  client : Option (Except String StatusRpc)
  pods : Except String (List String)

def Outlook.reading (C : Consensus) (o : Outlook) : Reading := .take C o.shard o.store o.client o.pods

/-- What is evaluated comes from a store, a client and a list of pods that are there. -/
theorem Outlook.of_evaluated {C : Consensus} {o : Outlook}
    {evaluation : Except String (Option PostureResult)} (h : o.reading C = .evaluated evaluation) :
    ∃ store rpc podNames, o.store = .ok store ∧ o.client = some (.ok rpc) ∧ o.pods = .ok podNames ∧
      evaluate C store rpc o.shard podNames = evaluation := by
  unfold reading Reading.take at h
  split at h
  · cases h
  · cases h
  · cases h
  · next store rpc hstore hclient =>
    split at h
    · cases h
    · next podNames hpods =>
      exact ⟨store, rpc, podNames, hstore, hclient, hpods, Reading.evaluated.inj h⟩

/-- **What a consistent posture rests on.** In every run of passes, a condition that has become True
goes back to a pass whose own store, client and pods show all of its Shard. -/
theorem consistent_was_seen {C : Consensus} {outlook : PosturePass → Outlook} {shard : ShardKey}
    {w : PostureWorld} {events : List PostureEvent} (hw : w.value shard ≠ some .conditionTrue)
    (htake : ∀ p, .pass p ∈ events → p.reading = (outlook p).reading C)
    (h : (w.run events).value shard = some .conditionTrue) :
    ∃ p, .pass p ∈ events ∧ p.shard = shard ∧ ∃ store rpc podNames result,
      (outlook p).store = .ok store ∧ (outlook p).client = some (.ok rpc) ∧
      (outlook p).pods = .ok podNames ∧ p.reading = .evaluated (.ok (some result)) ∧
      SeesAll C store rpc (outlook p).shard podNames result := by
  obtain ⟨p, hp, hshard, hs⟩ := PostureWorld.exists_of_value_run hw h
  obtain ⟨result, hreading, hsettled⟩ := PosturePass.exists_of_settled hs
  obtain ⟨store, rpc, podNames, hstore, hclient, hpods, hobserved⟩ :=
    Outlook.of_evaluated ((htake p hp).symm.trans hreading)
  exact ⟨p, hp, hshard, store, rpc, podNames, result, hstore, hclient, hpods, hreading,
    evaluate_settled hobserved hsettled⟩

section

open Sample

def threeOutlook : Outlook where
  shard := shard
  store := .ok store
  client := some (.ok (rpc "p-1" cohort))
  pods := .ok podNames

def lookingPass : PosturePass :=
  { samplePass true true with reading := threeOutlook.reading countingConsensus }

theorem consistent_was_seen_looking : ∃ p, .pass p ∈ [PostureEvent.pass lookingPass] ∧
    p.shard = sampleKey ∧ ∃ store rpc podNames result,
      threeOutlook.store = .ok store ∧ threeOutlook.client = some (.ok rpc) ∧
      threeOutlook.pods = .ok podNames ∧ p.reading = .evaluated (.ok (some result)) ∧
      SeesAll countingConsensus store rpc threeOutlook.shard podNames result := by
  have htake (p : PosturePass) (hp : .pass p ∈ [PostureEvent.pass lookingPass]) :
      p.reading = ((fun _ => threeOutlook) p).reading countingConsensus := by
    obtain rfl := PostureEvent.pass.inj (List.mem_singleton.mp hp)
    rfl
  exact consistent_was_seen (w := unobserved) (by decide) htake (by decide +kernel)

end

end MultigresOperator

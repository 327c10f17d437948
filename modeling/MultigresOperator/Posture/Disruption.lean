import MultigresOperator.Posture.Status

/-!
# The disruption preflight

Before a planned removal the operator observes every pooler of the shard afresh and then decides
whether removing one pod is safe on that observation. The observation is a pass over the topology
records that match a pod of the shard, in cell order, with one Status request each; the decision is
a sequence of refusals, and the members of the committed cohort it counts as remaining.

## Main results

* `absorbAll_ok`: what an observation that did not fail has recorded
* `observeDisruption_ok`: how an observation's leader and stale primaries arise
* `surveyCohort_ok`: a cohort that passes has every member counted recovered, and the members
  remaining are those other than the target
* `Observation.decide_ok`: what a permitted removal has passed
-/

namespace MultigresOperator

/-- An error of the topology store; `unavailable` is `IsTopoUnavailable`. -/
structure TopoError where
  text : String
  unavailable : Bool := false
  deriving DecidableEq, Repr

/-- The topology records of the shard's poolers in a cell. -/
abbrev TopoStore := String → Except TopoError (List Multipooler)

/-- The outcome of a Status request to the pooler of a record. -/
abbrev StatusRpc := Multipooler → Except String StatusResponse

/-- A pod about to be removed. -/
structure DisruptionTarget where
  name : String
  unscheduled : Bool := false
  mayBeUnregistered : Bool := false
  deriving DecidableEq, Repr

/-! ## Observing -/

/-- Why an observation fails. -/
inductive ObserveError
  | topologyUnavailable (cell cause : String)
  | noMatchingIdentity (pod : String)
  | duplicateIdentity (key : String)
  | primariesDisagree
  deriving DecidableEq, Repr

def ObserveError.message : ObserveError → String
  | .topologyUnavailable cell cause => "observe cell " ++ cell ++ ": " ++ cause
  | .noMatchingIdentity pod => "pooler " ++ pod ++ " has no matching consensus identity"
  | .duplicateIdentity key => "duplicate pooler identity " ++ key
  | .primariesDisagree => "primary observations disagree"

/-- A registered pooler that matches a pod of the shard. -/
structure Probe where
  name : String
  id : PoolerId
  pooler : Multipooler
  deriving DecidableEq, Repr

/-- One fresh look at every pooler a decision may depend on. In `registered` the entry added last
comes first, so a lookup finds it. -/
structure Observation where
  registered : List (String × PoolerId)
  observed : List (String × StatusResponse)
  unobserved : List (String × String)
  stalePrimaries : List String
  leader : Option PoolerId
  rule : Option ShardRule

/-- The records of the cells in order; a cell that cannot be read fails the whole. -/
def cellRecords (store : TopoStore) : List String → Except ObserveError (List Multipooler)
  | [] => .ok []
  | cell :: cells =>
    match store cell with
    | .error cause => .error (.topologyUnavailable cell cause.text)
    | .ok poolers => (cellRecords store cells).map (poolers ++ ·)

/-- The probe of a record with an identity that matches a pod. -/
def probeOf (podNames : List String) (pooler : Multipooler) : Option Probe :=
  if matchPod pooler podNames = "" then none
  else pooler.id.map fun id => ⟨matchPod pooler podNames, id, pooler⟩

/-- The probes of an observation, from the records of the shard's cells. -/
def probesOf (records : List Multipooler) (podNames : List String) : List Probe :=
  records.filterMap (probeOf podNames)

structure Collected where
  observed : List (String × StatusResponse) := []
  unobserved : List (String × String) := []
  topoPrimary : List (Probe × StatusResponse) := []
  others : List (Probe × StatusResponse) := []

variable (C : Consensus)

/-- One probe: no answer is recorded as such, an answer under another identity or a second answer
under one identity fails the observation. -/
def absorb (rpc : StatusRpc) (c : Collected) (p : Probe) : Except ObserveError Collected :=
  match rpc p.pooler with
  | .error cause => .ok { c with unobserved := (p.name, cause) :: c.unobserved }
  | .ok resp =>
    if StatusResponse.consensusId (some resp) ≠ some p.id then
      if StatusResponse.consensusId (some resp) = none then
        .ok { c with unobserved := (p.name, "no consensus status") :: c.unobserved }
      else .error (.noMatchingIdentity p.name)
    else if (c.observed.lookup (C.key p.id)).isSome then .error (.duplicateIdentity (C.key p.id))
    else
      let c := { c with observed := c.observed ++ [(C.key p.id, resp)] }
      if StatusResponse.postgresStatus (some resp) ≠ .primary then .ok c
      else if p.pooler.isPrimaryPooler then .ok { c with topoPrimary := c.topoPrimary ++ [(p, resp)] }
      else .ok { c with others := c.others ++ [(p, resp)] }

/-- The pass over the probes. -/
def absorbAll (rpc : StatusRpc) : List Probe → Collected → Except ObserveError Collected
  | [], c => .ok c
  | p :: ps, c =>
    match absorb C rpc c p with
    | .error e => .error e
    | .ok c => absorbAll rpc ps c

/-- A primary that topology does not route to is behind the leader only when its own committed rule
is strictly older. -/
def orderedBehind (rule : Option ShardRule) (resp : StatusResponse) : Bool :=
  (StatusResponse.proposal (some resp)).isNone &&
    C.compareRulePosition (StatusResponse.position (some resp)) (some { decision := rule }) < 0

/-- The observation the collected answers make. -/
def Collected.conclude (registered : List (String × PoolerId)) (c : Collected) :
    Except ObserveError Observation :=
  let o : Observation :=
    { registered, observed := c.observed, unobserved := c.unobserved, stalePrimaries := []
      leader := none, rule := none }
  if c.topoPrimary.isEmpty && c.others.isEmpty then .ok o
  else match c.topoPrimary with
    | [(leader, resp)] =>
      let rule := StatusResponse.decision (some resp)
      if c.others.all fun other => orderedBehind C rule other.2 then
        .ok { o with
          leader := some leader.id, rule, stalePrimaries := c.others.map fun other => other.1.name }
      else .error .primariesDisagree
    | _ => .error .primariesDisagree

/-- The identity each pod is registered under: the last record that matches it counts. -/
def registeredIds (probes : List Probe) : List (String × PoolerId) :=
  (probes.map fun p => (p.name, p.id)).reverse

/-- `ObserveDisruption`: asks every registered pooler matching `podNames` for its status. -/
def observeDisruption (store : TopoStore) (rpc : StatusRpc) (shard : Shard)
    (podNames : List String) : Except ObserveError Observation :=
  match cellRecords store (collectCells shard) with
  | .error e => .error e
  | .ok records =>
    let probes := probesOf records podNames
    match absorbAll C rpc probes {} with
    | .error e => .error e
    | .ok c => c.conclude C (registeredIds probes)

namespace Observation

/-- `Serving`: the pod's pooler answered as a ready member of its committed cohort. -/
def serving (o : Observation) (podName : String) : Bool :=
  match o.registered.lookup podName with
  | none => false
  | some id => C.isReady (o.observed.lookup (C.key id)) (some id)

/-- `PostgresAction`: the operation the pod's pooler reported, if it was observed. -/
def postgresAction (o : Observation) (podName : String) : Option PostgresAction :=
  (o.registered.lookup podName).bind fun id =>
    (o.observed.lookup (C.key id)).map fun resp =>
      ((resp.status.map (·.postgresAction)).getD .unspecified)

end Observation

/-! ## Deciding -/

/-- Why a removal is refused. -/
inductive Refusal
  | awaitingCommittedPrimary (unobserved : List String)
  | stalePrimary (pod : String)
  | targetBecamePrimary
  | targetUnsettled
  | primaryNotMember
  | primaryNotServing
  | memberNotRecovered (key note : String)
  | followerNotStandby (key : String)
  | invalidPolicy (cause : String)
  | insufficientDurability (cause : String)
  | insufficientRecruitment (cause : String)
  | notConnected (key : String)
  deriving DecidableEq, Repr

namespace Refusal

def message : Refusal → String
  | awaitingCommittedPrimary unobserved =>
    "awaiting a registered target and a committed primary" ++
      if unobserved.isEmpty then "" else "; did not answer: " ++ ", ".intercalate unobserved
  | stalePrimary pod => "pooler " ++ pod ++ " still runs as primary on an older rule"
  | targetBecamePrimary => "target became primary; refresh removal ordering"
  | targetUnsettled => "target has an unsettled consensus rule"
  | primaryNotMember => "primary is not an eligible committed cohort member"
  | primaryNotServing => "committed primary is not actively serving"
  | memberNotRecovered key note =>
    "cohort member " ++ key ++ " has not recovered on the committed rule" ++ note
  | followerNotStandby key => "surviving follower " ++ key ++ " is not a standby"
  | invalidPolicy cause => "invalid committed durability policy: " ++ cause
  | insufficientDurability cause => "remaining cohort cannot satisfy durability: " ++ cause
  | insufficientRecruitment cause => "remaining cohort cannot recruit a leader: " ++ cause
  | notConnected key => "cohort member " ++ key ++ " is not connected to the primary"

/-- `ErrInsufficientRemainder`: the refusals more poolers can resolve. -/
def insufficientRemainder : Refusal → Bool
  | insufficientDurability _ | insufficientRecruitment _ => true
  | _ => false

end Refusal

namespace Observation

variable (o : Observation)

/-- The poolers that did not answer, sorted. -/
def unobservedNames : List String :=
  ((o.unobserved.map Prod.fst).dedup).insertionSort (· ≤ ·)

/-- `unobservedMember`: which pod a member that did not answer belongs to. -/
def unobservedMember (member : PoolerId) : String :=
  match o.registered.find? fun entry => o.registered.lookup entry.1 == some member with
  | none => " (not registered in topology)"
  | some (name, _) =>
    if (o.unobserved.lookup name).isSome then " (pod " ++ name ++ " did not answer)" else ""

/-- The committed primary and its rule, if the target may be removed at all. -/
def committedPrimary (target : DisruptionTarget) : Except Refusal (PoolerId × ShardRule × RuleNumber) :=
  let refuse := .error (.awaitingCommittedPrimary o.unobservedNames)
  if (o.registered.lookup target.name).isNone && !target.unscheduled && !target.mayBeUnregistered then
    refuse
  else match o.leader, o.rule with
    | some leader, some rule =>
      match rule.ruleNumber with
      | some number => if rule.leaderId = some leader then .ok (leader, rule, number) else refuse
      | none => refuse
    | _, _ => refuse

/-- A primary left behind on an older rule permits only its own removal. -/
def checkStalePrimaries (targetName : String) : Except Refusal Unit :=
  match ((o.stalePrimaries.dedup).insertionSort (· ≤ ·)).find? (· ≠ targetName) with
  | some name => .error (.stalePrimary name)
  | none => .ok ()

/-- The target is removed as primary only if it is known to be it, and it must not be ahead of the
committed rule. -/
def checkTarget (roles : List (String × PodRole)) (targetName : String) (leader : PoolerId)
    (rule : ShardRule) : Except Refusal Unit :=
  let target := o.registered.lookup targetName
  if target = some leader ∧ roles.lookup targetName ≠ some .primary then .error .targetBecamePrimary
  else match o.observed.lookup (C.clusterIDString target) with
    | none => .ok ()
    | some status =>
      let comparison :=
        C.compareRulePosition (StatusResponse.position (some status)) (some { decision := some rule })
      let conflicting := comparison = 0 ∧ StatusResponse.decision (some status) ≠ some rule
      if StatusResponse.proposal (some status) ≠ none ∨ 0 < comparison ∨ conflicting then
        .error .targetUnsettled
      else .ok ()

/-- The primary asks to be replaced in the term of its own rule. -/
def resigning (primary : Option StatusResponse) (number : RuleNumber) : Bool :=
  match StatusResponse.leadership primary with
  | none => false
  | some leadership =>
    leadership.signal == .requestingDemotion && leadership.leaderTerm != 0 &&
      leadership.leaderTerm == number.coordinatorTerm

def checkPrimary (leader : PoolerId) (number : RuleNumber) : Except Refusal Unit :=
  let primary := o.observed.lookup (C.key leader)
  if !C.isReady primary (some leader) then .error .primaryNotMember
  else if resigning primary number ||
      !((StatusResponse.primaryStatus primary).map (·.ready)).getD false then
    .error .primaryNotServing
  else .ok ()

/-- The member is ready, has settled on the rule and may be recruited. -/
def recovered (rule : ShardRule) (member : PoolerId) : Bool :=
  let resp := o.observed.lookup (C.key member)
  C.isReady resp (some member) &&
    (StatusResponse.decision resp == some rule && StatusResponse.proposal resp == none) &&
    (!C.isSelfRevoked (StatusResponse.consensus resp) &&
      ((StatusResponse.consensus resp).bind (·.recruitBlockedUntil)).isNone)

/-- One member of the cohort: the target is passed over unless it leads, and every member but the
target is counted as remaining. -/
def surveyMember (target : Option PoolerId) (leader : PoolerId) (rule : ShardRule)
    (member : PoolerId) : Except Refusal (List PoolerId) :=
  if some member = target ∧ member ≠ leader then .ok []
  else if !o.recovered C rule member then
    .error (.memberNotRecovered (C.key member) (o.unobservedMember member))
  else if some member = target then .ok []
  else if member ≠ leader ∧
      StatusResponse.postgresStatus (o.observed.lookup (C.key member)) ≠ .standby then
    .error (.followerNotStandby (C.key member))
  else .ok [member]

/-- The members of the cohort that remain, if all of them that must have recovered have. -/
def surveyCohort (target : Option PoolerId) (leader : PoolerId) (rule : ShardRule) :
    List PoolerId → Except Refusal (List PoolerId)
  | [] => .ok []
  | member :: members =>
    match o.surveyMember C target leader rule member with
    | .error e => .error e
    | .ok kept => (surveyCohort target leader rule members).map (kept ++ ·)

/-- The remaining members keep the rule's durability and can elect a leader. -/
def checkRemainder (rule : ShardRule) (remaining : List PoolerId) : Except Refusal Unit :=
  match C.newPolicyFromProto rule.durabilityPolicy with
  | .error cause => .error (.invalidPolicy cause)
  | .ok policy =>
    match policy.satisfiedBy remaining with
    | .error cause => .error (.insufficientDurability cause)
    | .ok () =>
      match C.checkSufficientRecruitment policy rule.cohortMembers remaining with
      | .error cause => .error (.insufficientRecruitment cause)
      | .ok () => .ok ()

/-- The strings of the identities connected to the primary, its own included. -/
def connectedKeys (leader : PoolerId) : List String :=
  C.key leader ::
    (((StatusResponse.primaryStatus (o.observed.lookup (C.key leader))).map
      (·.connectedFollowers)).getD []).map C.key

/-- The primary reports every remaining member connected. -/
def checkConnected (leader : PoolerId) (remaining : List PoolerId) : Except Refusal Unit :=
  match remaining.find? fun member => !(o.connectedKeys C leader).contains (C.key member) with
  | some member => .error (.notConnected (C.key member))
  | none => .ok ()

/-- The decision on removing `target`, with the cohort members it counts as remaining. -/
def decide (shard : Shard) (target : DisruptionTarget) : Except Refusal (List PoolerId) := do
  let (leader, rule, number) ← o.committedPrimary target
  o.checkStalePrimaries target.name
  o.checkTarget C shard.podRoles target.name leader rule
  o.checkPrimary C leader number
  let remaining ← o.surveyCohort C (o.registered.lookup target.name) leader rule rule.cohortMembers
  checkRemainder C rule remaining
  o.checkConnected C leader remaining
  return remaining

/-- `Check`: the decision on removing `target`. -/
def check (shard : Shard) (target : DisruptionTarget) : Except Refusal Unit :=
  (o.decide C shard target).map fun _ => ()

end Observation

/-! ## What an observation records -/

section Observe

variable {C : Consensus} {rpc : StatusRpc}

def answered (rpc : StatusRpc) (p : Probe) : Option StatusResponse :=
  match rpc p.pooler with
  | .error _ => none
  | .ok resp => if StatusResponse.consensusId (some resp) = some p.id then some resp else none

/-- The probe's pooler answered as a primary, with the routing role `routed`. -/
def primaryOf (rpc : StatusRpc) (routed : Bool) (p : Probe) : Option (Probe × StatusResponse) :=
  (answered rpc p).bind fun resp =>
    if StatusResponse.postgresStatus (some resp) = .primary ∧ p.pooler.isPrimaryPooler = routed then
      some (p, resp)
    else none

def answerEntry (C : Consensus) (rpc : StatusRpc) (p : Probe) : Option (String × StatusResponse) :=
  (answered rpc p).map fun resp => (C.key p.id, resp)

variable {p : Probe} {c : Collected} {resp : StatusResponse} {c' : Collected} {o : Observation}

theorem answered_eq_some :
    answered rpc p = some resp ↔
      rpc p.pooler = .ok resp ∧ StatusResponse.consensusId (some resp) = some p.id := by
  unfold answered
  cases h : rpc p.pooler with
  | error e => simp
  | ok r =>
    simp only [Except.ok.injEq]
    constructor
    · intro hr
      split_ifs at hr with hid
      obtain rfl := Option.some.inj hr
      exact ⟨rfl, hid⟩
    · rintro ⟨rfl, hid⟩
      rw [if_pos hid]

theorem primaryOf_eq_some {routed : Bool} {q : Probe} :
    primaryOf rpc routed p = some (q, resp) ↔
      p = q ∧ answered rpc p = some resp ∧ StatusResponse.postgresStatus (some resp) = .primary ∧
        p.pooler.isPrimaryPooler = routed := by
  unfold primaryOf
  cases h : answered rpc p with
  | none => simp
  | some r =>
    simp only [Option.bind_some, Option.some.injEq]
    constructor
    · intro hr
      split_ifs at hr with hc
      simp only [Option.some.injEq, Prod.mk.injEq] at hr
      obtain ⟨rfl, rfl⟩ := hr
      exact ⟨rfl, rfl, hc⟩
    · rintro ⟨rfl, rfl, hc⟩
      rw [if_pos hc]

/-- One probe adds its answer, if it has one under its own identity and under a string no earlier
answer has. -/
theorem absorb_ok (h : absorb C rpc c p = .ok c') :
    c'.observed = c.observed ++ (answerEntry C rpc p).toList ∧
      c'.topoPrimary = c.topoPrimary ++ (primaryOf rpc true p).toList ∧
      c'.others = c.others ++ (primaryOf rpc false p).toList ∧
      (answered rpc p ≠ none → c.observed.lookup (C.key p.id) = none) := by
  unfold absorb at h
  unfold answerEntry primaryOf answered
  split at h
  · cases h
    simp [*]
  · split_ifs at h with hid hnone hdup hprim hrouted <;> cases h
    · simp [*]
    all_goals
      refine ⟨?_, ?_, ?_, fun _ => Option.not_isSome_iff_eq_none.mp hdup⟩
      all_goals simp_all

/-- **The pass over the probes** records every answer under its own identity, tells the primaries
topology routes to from the others, and never two answers under one string. -/
theorem absorbAll_ok {ps : List Probe} (h : absorbAll C rpc ps c = .ok c')
    (hc : (c.observed.map Prod.fst).Nodup) :
    c'.observed = c.observed ++ ps.filterMap (answerEntry C rpc) ∧
      c'.topoPrimary = c.topoPrimary ++ ps.filterMap (primaryOf rpc true) ∧
      c'.others = c.others ++ ps.filterMap (primaryOf rpc false) ∧
      (c'.observed.map Prod.fst).Nodup := by
  induction ps generalizing c with
  | nil =>
    obtain rfl := Except.ok.inj h
    simpa using hc
  | cons p ps ih =>
    simp only [absorbAll] at h
    split at h
    · cases h
    · next c₁ hp =>
      obtain ⟨hobs, htopo, hothers, hfresh⟩ := absorb_ok hp
      have hc₁ : (c₁.observed.map Prod.fst).Nodup := by
        rw [hobs, List.map_append, List.nodup_append]
        refine ⟨hc, by cases answerEntry C rpc p <;> simp, fun a ha b hb => ?_⟩
        obtain ⟨e, he, rfl⟩ := List.mem_map.mp hb
        obtain ⟨resp, hresp, rfl⟩ := Option.map_eq_some_iff.mp (Option.mem_toList.mp he)
        have hnone := List.lookup_eq_none_iff.mp (hfresh (by simp [hresp]))
        obtain ⟨e', he', rfl⟩ := List.mem_map.mp ha
        exact fun heq => by simpa [heq] using hnone e' he'
      obtain ⟨h₁, h₂, h₃, h₄⟩ := ih h hc₁
      refine ⟨?_, ?_, ?_, h₄⟩
      · rw [h₁, hobs]
        cases hp' : answerEntry C rpc p <;> simp [hp']
      · rw [h₂, htopo]
        cases hp' : primaryOf rpc true p <;> simp [hp']
      · rw [h₃, hothers]
        cases hp' : primaryOf rpc false p <;> simp [hp']

/-- The observation's leader is the only primary topology routes to, and every other primary is
recorded as stale; or there is no primary at all. -/
theorem Collected.conclude_ok {ids : List (String × PoolerId)} (h : c.conclude C ids = .ok o) :
    o.registered = ids ∧ o.observed = c.observed ∧
      (o.leader = none ∨ ∃ p resp, c.topoPrimary = [(p, resp)] ∧ o.leader = some p.id ∧
        o.rule = StatusResponse.decision (some resp) ∧
        o.stalePrimaries = c.others.map fun other => other.1.name) := by
  simp only [Collected.conclude] at h
  split_ifs at h with hnone
  · cases h
    exact ⟨rfl, rfl, .inl rfl⟩
  · split at h
    · next p resp htopo =>
      split_ifs at h with hbehind
      cases h
      exact ⟨rfl, rfl, .inr ⟨p, resp, htopo, rfl, rfl, rfl⟩⟩
    · cases h

/-- **An observation** is a function of the records and of the answers of the probes. -/
theorem observeDisruption_ok {store : TopoStore} {shard : Shard} {podNames : List String}
    (h : observeDisruption C store rpc shard podNames = .ok o) :
    ∃ records, cellRecords store (collectCells shard) = .ok records ∧
      o.registered = registeredIds (probesOf records podNames) ∧
      o.observed = (probesOf records podNames).filterMap (answerEntry C rpc) ∧
      (o.observed.map Prod.fst).Nodup ∧
      (o.leader = none ∨ ∃ p resp,
        (probesOf records podNames).filterMap (primaryOf rpc true) = [(p, resp)] ∧
          o.leader = some p.id ∧ o.rule = StatusResponse.decision (some resp) ∧
          o.stalePrimaries = ((probesOf records podNames).filterMap (primaryOf rpc false)).map
            fun other => other.1.name) := by
  unfold observeDisruption at h
  split at h
  · cases h
  · next records hrecords =>
    simp only at h
    split at h
    · cases h
    · next c hc =>
      obtain ⟨hobs, htopo, hothers, hnodup⟩ := absorbAll_ok hc List.nodup_nil
      obtain ⟨hreg, hobs', hleader⟩ := Collected.conclude_ok h
      simp only [List.nil_append] at hobs htopo hothers
      refine ⟨records, hrecords, hreg, hobs'.trans hobs, hobs' ▸ hnodup, ?_⟩
      rwa [htopo, hothers] at hleader

end Observe

/-! ## What a permitted removal has passed -/

namespace Observation

variable {C : Consensus} {o : Observation} {leader : PoolerId} {rule : ShardRule}
  {remaining : List PoolerId} {target : DisruptionTarget} {number : RuleNumber}

theorem committedPrimary_ok (h : o.committedPrimary target = .ok (leader, rule, number)) :
    o.leader = some leader ∧ o.rule = some rule ∧ rule.ruleNumber = some number ∧
      rule.leaderId = some leader := by
  unfold committedPrimary at h
  split_ifs at h
  split at h
  · split at h
    · split_ifs at h with hid
      simp only [Except.ok.injEq, Prod.mk.injEq] at h
      obtain ⟨rfl, rfl, rfl⟩ := h
      exact ⟨‹_›, ‹_›, ‹_›, hid⟩
    · cases h
  · cases h

theorem checkStalePrimaries_ok {targetName : String} (h : o.checkStalePrimaries targetName = .ok ()) :
    ∀ name ∈ o.stalePrimaries, name = targetName := by
  unfold checkStalePrimaries at h
  split at h
  · cases h
  · next hnone => simpa using hnone

theorem checkPrimary_ok (h : o.checkPrimary C leader number = .ok ()) :
    C.isReady (o.observed.lookup (C.key leader)) (some leader) = true ∧
      resigning (o.observed.lookup (C.key leader)) number = false ∧
      ((StatusResponse.primaryStatus (o.observed.lookup (C.key leader))).map (·.ready)).getD false =
        true := by
  simp only [checkPrimary] at h
  split_ifs at h with hready hserving
  simp only [Bool.or_eq_true, not_or, Bool.not_eq_true] at hserving
  exact ⟨by simpa using hready, hserving.1, by simpa using hserving.2⟩

theorem surveyMember_ok {target : Option PoolerId} {member : PoolerId} {kept : List PoolerId}
    (h : o.surveyMember C target leader rule member = .ok kept) :
    kept = [member].filter (fun m => some m ≠ target) ∧
      (¬(some member = target ∧ member ≠ leader) → o.recovered C rule member = true) ∧
      (some member ≠ target → member ≠ leader →
        StatusResponse.postgresStatus (o.observed.lookup (C.key member)) = .standby) := by
  unfold surveyMember at h
  split_ifs at h with hskip hrec htarget hstandby <;> cases h
  · exact ⟨by simp [hskip.1], fun hn => absurd hskip hn, fun hn => absurd hskip.1 hn⟩
  · exact ⟨by simp [htarget], fun _ => by simpa using hrec, fun hn => absurd htarget hn⟩
  · refine ⟨by simp [htarget], fun _ => by simpa using hrec, fun _ hl => ?_⟩
    by_contra hs
    exact hstandby ⟨hl, hs⟩

/-- **The cohort survey**: every member but a target that does not lead has recovered, every
follower that remains is a standby, and the members remaining are those other than the target. -/
theorem surveyCohort_ok {target : Option PoolerId} {members : List PoolerId}
    (h : o.surveyCohort C target leader rule members = .ok remaining) :
    remaining = members.filter (fun m => some m ≠ target) ∧
      (∀ m ∈ members, ¬(some m = target ∧ m ≠ leader) → o.recovered C rule m = true) ∧
      (∀ m ∈ members, some m ≠ target → m ≠ leader →
        StatusResponse.postgresStatus (o.observed.lookup (C.key m)) = .standby) := by
  induction members generalizing remaining with
  | nil => simp_all [surveyCohort]
  | cons member members ih =>
    simp only [surveyCohort] at h
    split at h
    · cases h
    · next kept hkept =>
      cases hrest : o.surveyCohort C target leader rule members with
      | error e => simp [hrest, Except.map] at h
      | ok rest =>
        obtain ⟨hk, hrec, hstandby⟩ := surveyMember_ok hkept
        obtain ⟨hr, hrecs, hstandbys⟩ := ih hrest
        simp only [hrest, Except.map, Except.ok.injEq] at h
        refine ⟨?_, List.forall_mem_cons.mpr ⟨hrec, hrecs⟩,
          List.forall_mem_cons.mpr ⟨hstandby, hstandbys⟩⟩
        rw [← h, hk, hr, ← List.filter_append, List.singleton_append]

theorem checkRemainder_ok (h : checkRemainder C rule remaining = .ok ()) :
    ∃ policy, C.newPolicyFromProto rule.durabilityPolicy = .ok policy ∧
      policy.satisfiedBy remaining = .ok () ∧
      C.checkSufficientRecruitment policy rule.cohortMembers remaining = .ok () := by
  unfold checkRemainder at h
  split at h
  · cases h
  · next policy hpolicy =>
    split at h
    · cases h
    · next hsat =>
      split at h
      · cases h
      · next hrec => exact ⟨policy, hpolicy, hsat, hrec⟩

theorem checkConnected_ok (h : o.checkConnected C leader remaining = .ok ()) :
    ∀ m ∈ remaining, C.key m ∈ o.connectedKeys C leader := by
  unfold checkConnected at h
  split at h
  · cases h
  · next hnone => simpa using hnone

/-- What a permitted removal has passed, with the primary and the rule it was judged on. -/
structure Permitted (C : Consensus) (o : Observation) (target : DisruptionTarget)
    (remaining : List PoolerId) (leader : PoolerId) (rule : ShardRule) (number : RuleNumber) :
    Prop where
  leader_eq : o.leader = some leader
  rule_eq : o.rule = some rule
  number_eq : rule.ruleNumber = some number
  leaderId_eq : rule.leaderId = some leader
  stale : ∀ name ∈ o.stalePrimaries, name = target.name
  primary_ready : C.isReady (o.observed.lookup (C.key leader)) (some leader) = true
  primary_serving :
    ((StatusResponse.primaryStatus (o.observed.lookup (C.key leader))).map (·.ready)).getD false =
      true
  primary_stays : resigning (o.observed.lookup (C.key leader)) number = false
  remaining_eq : remaining =
    rule.cohortMembers.filter fun m => some m ≠ o.registered.lookup target.name
  recovered : ∀ m ∈ rule.cohortMembers,
    ¬(some m = o.registered.lookup target.name ∧ m ≠ leader) → o.recovered C rule m = true
  standby : ∀ m ∈ rule.cohortMembers, some m ≠ o.registered.lookup target.name → m ≠ leader →
    StatusResponse.postgresStatus (o.observed.lookup (C.key m)) = .standby
  policy : ∃ policy, C.newPolicyFromProto rule.durabilityPolicy = .ok policy ∧
    policy.satisfiedBy remaining = .ok () ∧
    C.checkSufficientRecruitment policy rule.cohortMembers remaining = .ok ()
  connected : ∀ m ∈ remaining, C.key m ∈ o.connectedKeys C leader

/-- **A permitted removal** has passed every refusal. -/
theorem decide_ok {shard : Shard} (h : o.decide C shard target = .ok remaining) :
    ∃ leader rule number, Permitted C o target remaining leader rule number := by
  simp only [decide, bind, Except.bind, pure, Except.pure] at h
  split at h
  · cases h
  next found hfound =>
  obtain ⟨leader, rule, number⟩ := found
  obtain ⟨hleader, hrule, hnumber, hid⟩ := committedPrimary_ok hfound
  simp only at h
  split at h
  · cases h
  next hstale =>
  split at h
  · cases h
  split at h
  · cases h
  next hprimary =>
  split at h
  · cases h
  next rest hsurvey =>
  split at h
  · cases h
  next hremainder =>
  split at h
  · cases h
  next hconnected =>
  obtain rfl := Except.ok.inj h
  obtain ⟨hready, hstays, hserving⟩ := checkPrimary_ok hprimary
  obtain ⟨hrem, hrecovered, hstandby⟩ := surveyCohort_ok hsurvey
  exact ⟨leader, rule, number, hleader, hrule, hnumber, hid, checkStalePrimaries_ok hstale, hready,
    hserving, hstays, hrem, hrecovered, hstandby, checkRemainder_ok hremainder,
    checkConnected_ok hconnected⟩

end Observation

end MultigresOperator

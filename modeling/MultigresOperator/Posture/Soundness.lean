import MultigresOperator.Lib.Assoc
import MultigresOperator.Posture.Disruption

/-!
# Soundness of the disruption preflight

What the preflight promises, stated over the topology records and the outcomes of the Status
requests and not over the observation: the shard has one primary that topology routes to, the
cohort of its committed rule has recovered, and what is left of the cohort without the target stays
durable and can elect a leader.

The identity a pod is removed under is the one of the last record that belongs to it. Where a pod
has several records, another of its identities can be counted as remaining.

## Main definitions

* `Observed`, `RoutedPrimary`: a pooler answered under its own identity; it is a primary that
  topology routes to
* `RegisteredAs`: a record of the identity belongs to the pod
* `SafeRemoval`: what a permitted removal promises
* `lastIdentity`: the identity of the last record of a pod

## Main results

* `check_sound`: a permitted removal is safe, where each pod has at most one record
* `not_counted_iff`: which removals count no identity of the removed pod as remaining
-/

namespace MultigresOperator

/-- The records of the shard's poolers, in cell order. -/
def shardRecords (store : TopoStore) (shard : Shard) : List Multipooler :=
  match cellRecords store (collectCells shard) with
  | .ok records => records
  | .error _ => []

section Statement

variable (C : Consensus) (records : List Multipooler) (rpc : StatusRpc) (podNames : List String)

/-- The record with identity `id` belongs to the pod `name`. -/
def Belongs (record : Multipooler) (name : String) (id : PoolerId) : Prop :=
  record ∈ records ∧ record.id = some id ∧ matchPod record podNames = name ∧ name ≠ ""

instance (record : Multipooler) (name : String) (id : PoolerId) :
    Decidable (Belongs records podNames record name id) :=
  inferInstanceAs (Decidable (_ ∧ _ ∧ _ ∧ _))

/-- A record of the identity belongs to the pod. -/
def RegisteredAs (name : String) (id : PoolerId) : Prop :=
  ∃ record ∈ records, Belongs records podNames record name id

instance (name : String) (id : PoolerId) : Decidable (RegisteredAs records podNames name id) :=
  inferInstanceAs (Decidable (∃ record ∈ records, _))

/-- The pooler of a record of some pod answered under its own identity. -/
structure Observed (record : Multipooler) (id : PoolerId) (resp : StatusResponse) : Prop where
  belongs : ∃ name, Belongs records podNames record name id
  reply : rpc record = .ok resp
  own : StatusResponse.consensusId (some resp) = some id

/-- The pooler answered as a primary, and topology routes to it. -/
structure RoutedPrimary (record : Multipooler) (id : PoolerId) (resp : StatusResponse) : Prop where
  observed : Observed records rpc podNames record id resp
  primary : StatusResponse.postgresStatus (some resp) = .primary
  routed : record.isPrimaryPooler = true

/-- The member answered under its own identity as ready, on exactly the rule and with no proposal,
not revoked by itself and not blocked from recruitment. -/
def MemberRecovered (rule : ShardRule) (member : PoolerId) : Prop :=
  ∃ record resp, Observed records rpc podNames record member resp ∧
    C.isReady (some resp) (some member) = true ∧
    StatusResponse.decision (some resp) = some rule ∧ StatusResponse.proposal (some resp) = none ∧
    C.isSelfRevoked (StatusResponse.consensus (some resp)) = false ∧
    (StatusResponse.consensus (some resp)).bind (·.recruitBlockedUntil) = none

/-- The member answered under its own identity as a standby. -/
def MemberStandby (member : PoolerId) : Prop :=
  ∃ record resp, Observed records rpc podNames record member resp ∧
    StatusResponse.postgresStatus (some resp) = .standby

/-- The cohort without the identities the target is registered under. -/
def survivors (target : String) (rule : ShardRule) : List PoolerId :=
  rule.cohortMembers.filter fun member => ¬RegisteredAs records podNames target member

/-- **A safe removal** of the pod `target`, on the answer `resp` of the primary with the record
`lead`. -/
structure SafeRemoval (target : String) (lead : Multipooler) (leader : PoolerId)
    (resp : StatusResponse) (rule : ShardRule) (number : RuleNumber) : Prop where
  /-- The primary topology routes to is the only one. -/
  leads : RoutedPrimary records rpc podNames lead leader resp
  only : ∀ lead' leader' resp', RoutedPrimary records rpc podNames lead' leader' resp' → lead' = lead
  /-- Its committed rule is numbered and names it. -/
  committed : StatusResponse.decision (some resp) = some rule
  numbered : rule.ruleNumber = some number
  named : rule.leaderId = some leader
  /-- Every member other than a target that does not lead has recovered on that rule. -/
  recovered : ∀ member ∈ rule.cohortMembers,
    ¬(RegisteredAs records podNames target member ∧ member ≠ leader) →
      MemberRecovered C records rpc podNames rule member
  /-- Every surviving follower is a standby the primary reports connected. -/
  standby : ∀ member ∈ survivors records podNames target rule, member ≠ leader →
    MemberStandby records rpc podNames member
  connected : ∀ member ∈ survivors records podNames target rule, member ≠ leader →
    ∃ status, StatusResponse.primaryStatus (some resp) = some status ∧
      member ∈ status.connectedFollowers
  /-- The survivors are durable and can elect a leader. -/
  durable : ∃ policy, C.newPolicyFromProto rule.durabilityPolicy = .ok policy ∧
    policy.satisfiedBy (survivors records podNames target rule) = .ok () ∧
    C.checkSufficientRecruitment policy rule.cohortMembers
      (survivors records podNames target rule) = .ok ()
  /-- No pod but the target answers as a primary beside the one topology routes to. -/
  fenced : ∀ record id resp', Observed records rpc podNames record id resp' →
    StatusResponse.postgresStatus (some resp') = .primary → record ≠ lead →
    matchPod record podNames = target
  /-- A target without a record excludes no member. -/
  unregistered : (∀ record id, ¬Belongs records podNames record target id) →
    survivors records podNames target rule = rule.cohortMembers

/-- The identities the topology and the answers mention. -/
def Mentioned (id : PoolerId) : Prop :=
  (∃ record ∈ records, record.id = some id) ∨
    ∃ record ∈ records, ∃ resp, rpc record = .ok resp ∧
      ((∃ rule, StatusResponse.decision (some resp) = some rule ∧ id ∈ rule.cohortMembers) ∨
        ∃ status, StatusResponse.primaryStatus (some resp) = some status ∧
          id ∈ status.connectedFollowers)

/-- The identity strings tell the mentioned identities apart. -/
def StringsSeparate : Prop :=
  ∀ a b, Mentioned records rpc a → Mentioned records rpc b → C.key a = C.key b → a = b

/-- Each pod has at most one record. -/
def OneRecordPerPod : Prop :=
  ∀ name ∈ podNames, ∀ a ∈ records, ∀ b ∈ records,
    podMatchesPooler name a = true → podMatchesPooler name b = true → a = b

/-- The identity of the last record with an identity that belongs to the pod. -/
def lastIdentity (name : String) : Option PoolerId :=
  (records.filterMap fun record =>
    if matchPod record podNames = name ∧ name ≠ "" then record.id else none).getLast?

end Statement

/-! ## Soundness -/

section Soundness

variable {C : Consensus} {records : List Multipooler} {rpc : StatusRpc} {podNames : List String}
  {p : Probe} {resp : StatusResponse} {record : Multipooler} {id member : PoolerId}
  {o : Observation}

theorem mem_probesOf :
    p ∈ probesOf records podNames ↔ Belongs records podNames p.pooler p.name p.id := by
  simp only [probesOf, List.mem_filterMap, probeOf, Belongs]
  constructor
  · rintro ⟨record, hmem, h⟩
    split_ifs at h with hname
    obtain ⟨id, hid, rfl⟩ := Option.map_eq_some_iff.mp h
    exact ⟨hmem, hid, rfl, hname⟩
  · rintro ⟨hmem, hid, hname, hne⟩
    refine ⟨p.pooler, hmem, ?_⟩
    rw [if_neg (hname ▸ hne), hid, Option.map_some, hname]

theorem observed_of_answered (hp : p ∈ probesOf records podNames) (h : answered rpc p = some resp) :
    Observed records rpc podNames p.pooler p.id resp :=
  ⟨⟨p.name, mem_probesOf.mp hp⟩, (answered_eq_some.mp h).1, (answered_eq_some.mp h).2⟩

theorem Observed.probe (h : Observed records rpc podNames record id resp) :
    ∃ p ∈ probesOf records podNames, p.pooler = record ∧ p.id = id ∧ answered rpc p = some resp := by
  obtain ⟨name, hname⟩ := h.belongs
  exact ⟨⟨name, id, record⟩, mem_probesOf.mpr hname, rfl, rfl,
    answered_eq_some.mpr ⟨h.reply, h.own⟩⟩

theorem Observed.mentioned (h : Observed records rpc podNames record id resp) :
    Mentioned records rpc id := by
  obtain ⟨name, hmem, hid, -⟩ := h.belongs
  exact .inl ⟨record, hmem, hid⟩

theorem Observed.mem (h : Observed records rpc podNames record id resp) : record ∈ records := by
  obtain ⟨name, hmem, -⟩ := h.belongs
  exact hmem

theorem observed_of_lookup (hkeys : StringsSeparate C records rpc)
    (hm : Mentioned records rpc member)
    (h : ((probesOf records podNames).filterMap (answerEntry C rpc)).lookup (C.key member) =
      some resp) : ∃ record, Observed records rpc podNames record member resp := by
  obtain ⟨p, hp, hentry⟩ := List.mem_filterMap.mp (Assoc.mem_of_lookup h)
  obtain ⟨resp', hresp', heq⟩ := Option.map_eq_some_iff.mp hentry
  obtain ⟨hkey, rfl⟩ := Prod.mk.inj heq
  have hobs := observed_of_answered hp hresp'
  have hid : p.id = member := hkeys _ _ hobs.mentioned hm hkey
  exact ⟨p.pooler, hid ▸ hobs⟩

/-- Where each pod has one record, the identity looked up for a pod is the one its record carries. -/
theorem lookup_registeredIds (hone : OneRecordPerPod records podNames) {name : String} :
    (registeredIds (probesOf records podNames)).lookup name = some id ↔
      RegisteredAs records podNames name id := by
  have hmem : ∀ {name id}, (name, id) ∈ registeredIds (probesOf records podNames) ↔
      RegisteredAs records podNames name id := by
    intro name id
    simp only [registeredIds, List.mem_reverse, List.mem_map, Prod.mk.injEq, RegisteredAs]
    constructor
    · rintro ⟨p, hp, rfl, rfl⟩
      have hb := mem_probesOf.mp hp
      exact ⟨p.pooler, hb.1, hb⟩
    · rintro ⟨record, hrecord, hb⟩
      exact ⟨⟨name, id, record⟩, mem_probesOf.mpr hb, rfl, rfl⟩
  refine ⟨fun h => hmem.mp (Assoc.mem_of_lookup h), fun h => ?_⟩
  obtain ⟨id', hid'⟩ := Assoc.lookup_isSome_of_mem (hmem.mpr h)
  obtain ⟨record', hmem', hb'⟩ := hmem.mp (Assoc.mem_of_lookup hid')
  obtain ⟨record, hmem'', hb⟩ := h
  have hsame : ∀ r i, Belongs records podNames r name i → name ∈ podNames ∧
      podMatchesPooler name r = true := by
    rintro r i ⟨-, -, rfl, hne⟩
    exact ⟨List.mem_of_find?_eq_some (find?_of_matchPod hne), podMatchesPooler_matchPod hne⟩
  have hrec := hone name (hsame _ _ hb).1 record' hmem' record hmem'' (hsame _ _ hb').2 (hsame _ _ hb).2
  subst hrec
  rw [hid', ← hb'.2.1, hb.2.1]

theorem memberRecovered_of_recovered (hkeys : StringsSeparate C records rpc)
    (hobs : o.observed = (probesOf records podNames).filterMap (answerEntry C rpc))
    {rule : ShardRule} (hm : Mentioned records rpc member) (h : o.recovered C rule member = true) :
    MemberRecovered C records rpc podNames rule member := by
  simp only [Observation.recovered, Bool.and_eq_true, beq_iff_eq, Bool.not_eq_true',
    Option.isNone_iff_eq_none] at h
  obtain ⟨⟨hready, hdecision, hproposal⟩, hrevoked, hblocked⟩ := h
  cases hlookup : o.observed.lookup (C.key member) with
  | none => simp [hlookup] at hready
  | some resp =>
    rw [hlookup] at hready hdecision hproposal hrevoked hblocked
    obtain ⟨record, hrecord⟩ := observed_of_lookup hkeys hm (hobs ▸ hlookup)
    exact ⟨record, resp, hrecord, hready, hdecision, hproposal, hrevoked, hblocked⟩

theorem lookup_of_observed
    (hobs : o.observed = (probesOf records podNames).filterMap (answerEntry C rpc))
    (hnodup : (o.observed.map Prod.fst).Nodup) (h : Observed records rpc podNames record id resp) :
    o.observed.lookup (C.key id) = some resp := by
  obtain ⟨p, hp, -, rfl, hans⟩ := h.probe
  refine Assoc.lookup_of_mem hnodup (hobs ▸ List.mem_filterMap.mpr ⟨p, hp, ?_⟩)
  rw [answerEntry, hans, Option.map_some]

theorem mem_primaries {routed : Bool} :
    (p, resp) ∈ (probesOf records podNames).filterMap (primaryOf rpc routed) ↔
      p ∈ probesOf records podNames ∧ answered rpc p = some resp ∧
        StatusResponse.postgresStatus (some resp) = .primary ∧
        p.pooler.isPrimaryPooler = routed := by
  simp only [List.mem_filterMap, primaryOf_eq_some]
  constructor
  · rintro ⟨q, hq, rfl, h⟩
    exact ⟨hq, h⟩
  · rintro ⟨hp, h⟩
    exact ⟨p, hp, rfl, h⟩

theorem routedPrimary_unique
    (htopo : (probesOf records podNames).filterMap (primaryOf rpc true) = [(p, resp)]) :
    RoutedPrimary records rpc podNames p.pooler p.id resp ∧
      ∀ lead leader resp', RoutedPrimary records rpc podNames lead leader resp' →
        lead = p.pooler ∧ resp' = resp := by
  obtain ⟨hp, hans, hprimary, hrouted⟩ := mem_primaries.mp (htopo ▸ List.mem_singleton_self (p, resp))
  refine ⟨⟨observed_of_answered hp hans, hprimary, hrouted⟩, fun lead leader resp' h => ?_⟩
  obtain ⟨q, hq, rfl, rfl, hans'⟩ := h.observed.probe
  have hmem := mem_primaries.mpr ⟨hq, hans', h.primary, h.routed⟩
  rw [htopo, List.mem_singleton, Prod.mk.injEq] at hmem
  exact ⟨by rw [hmem.1], hmem.2⟩

theorem matchPod_mem_stale
    (htopo : (probesOf records podNames).filterMap (primaryOf rpc true) = [(p, resp)])
    {resp' : StatusResponse} (h : Observed records rpc podNames record id resp')
    (hprimary : StatusResponse.postgresStatus (some resp') = .primary) (hne : record ≠ p.pooler) :
    matchPod record podNames ∈
      ((probesOf records podNames).filterMap (primaryOf rpc false)).map fun other => other.1.name := by
  have hrouted : record.isPrimaryPooler = false := by
    by_contra hr
    exact hne ((routedPrimary_unique htopo).2 _ _ _ ⟨h, hprimary, by simpa using hr⟩).1
  obtain ⟨q, hq, rfl, -, hans⟩ := h.probe
  exact List.mem_map.mpr ⟨(q, resp'), mem_primaries.mpr ⟨hq, hans, hprimary, hrouted⟩,
    (mem_probesOf.mp hq).2.2.1.symm⟩

theorem mem_connectedFollowers (hkeys : StringsSeparate C records rpc) {lead : Multipooler}
    {leader : PoolerId} (hlead : Observed records rpc podNames lead leader resp)
    (hlookup : o.observed.lookup (C.key leader) = some resp) (hm : Mentioned records rpc member)
    (hne : member ≠ leader) (h : C.key member ∈ o.connectedKeys C leader) :
    ∃ status, StatusResponse.primaryStatus (some resp) = some status ∧
      member ∈ status.connectedFollowers := by
  simp only [Observation.connectedKeys, hlookup, List.mem_cons, List.mem_map] at h
  obtain hself | ⟨follower, hfollower, hkey⟩ := h
  · exact absurd (hkeys member leader hm hlead.mentioned hself) hne
  · cases hstatus : StatusResponse.primaryStatus (some resp) with
    | none => simp [hstatus] at hfollower
    | some status =>
      simp only [hstatus, Option.map_some, Option.getD_some] at hfollower
      have hf : Mentioned records rpc follower :=
        .inr ⟨lead, hlead.mem, resp, hlead.reply, .inr ⟨status, hstatus, hfollower⟩⟩
      exact ⟨status, rfl, hkeys follower member hf hm hkey ▸ hfollower⟩

theorem exists_decide_of_check {shard : Shard} {target : DisruptionTarget}
    (h : o.check C shard target = .ok ()) :
    ∃ remaining, o.decide C shard target = .ok remaining := by
  cases hd : o.decide C shard target with
  | error e => simp [Observation.check, hd, Except.map] at h
  | ok remaining => exact ⟨remaining, rfl⟩

/-- **Soundness of the preflight**: where each pod has at most one topology record, a removal the
preflight permits is safe. -/
theorem check_sound {store : TopoStore} {shard : Shard} {target : DisruptionTarget} {o : Observation}
    (hone : OneRecordPerPod (shardRecords store shard) podNames)
    (hkeys : StringsSeparate C (shardRecords store shard) rpc)
    (hobserve : observeDisruption C store rpc shard podNames = .ok o)
    (hcheck : o.check C shard target = .ok ()) :
    ∃ lead leader resp rule number,
      SafeRemoval C (shardRecords store shard) rpc podNames target.name lead leader resp rule
        number := by
  obtain ⟨records, hrecords, hreg, hobs, hnodup, hleader⟩ := observeDisruption_ok hobserve
  rw [show shardRecords store shard = records by rw [shardRecords, hrecords]] at hone hkeys ⊢
  obtain ⟨remaining, hdecide⟩ := exists_decide_of_check hcheck
  obtain ⟨leader, rule, number, hp⟩ := Observation.decide_ok hdecide
  obtain hnone | ⟨p, resp, htopo, hpid, hrule, hstale⟩ := hleader
  · exact absurd (hnone.symm.trans hp.leader_eq) (by simp)
  obtain rfl : p.id = leader := Option.some.inj (hpid.symm.trans hp.leader_eq)
  have hdecision : StatusResponse.decision (some resp) = some rule := hrule.symm.trans hp.rule_eq
  obtain ⟨hlead, honly⟩ := routedPrimary_unique htopo
  have hmentioned : ∀ m ∈ rule.cohortMembers, Mentioned records rpc m := fun m hm =>
    .inr ⟨p.pooler, hlead.observed.mem, resp, hlead.observed.reply, .inl ⟨rule, hdecision, hm⟩⟩
  -- with one record per pod, the identity excluded is the target's registered one
  have hself : ∀ m, some m = o.registered.lookup target.name ↔
      RegisteredAs records podNames target.name m := fun m => by
    rw [hreg, eq_comm, lookup_registeredIds hone]
  have hsurvivors : remaining = survivors records podNames target.name rule := by
    rw [hp.remaining_eq, survivors]
    exact List.filter_congr fun m _ => by simp [hself m]
  have hrecovered : ∀ m ∈ rule.cohortMembers,
      ¬(RegisteredAs records podNames target.name m ∧ m ≠ p.id) →
        MemberRecovered C records rpc podNames rule m := fun m hm hnot =>
    memberRecovered_of_recovered hkeys hobs (hmentioned m hm)
      (hp.recovered m hm (by rwa [hself m]))
  have hmem : ∀ m ∈ survivors records podNames target.name rule,
      m ∈ rule.cohortMembers ∧ ¬RegisteredAs records podNames target.name m := fun m hm => by
    simpa [survivors] using hm
  refine ⟨p.pooler, p.id, resp, rule, number, hlead, fun _ _ _ h => (honly _ _ _ h).1, hdecision,
    hp.number_eq, hp.leaderId_eq, hrecovered, fun m hm hne => ?_, fun m hm hne => ?_,
    hsurvivors ▸ hp.policy, fun record id resp' h hprimary hne => ?_, fun hnone => ?_⟩
  · obtain ⟨hcohort, hnot⟩ := hmem m hm
    obtain ⟨record, resp', hrecord, -⟩ := hrecovered m hcohort fun h => hnot h.1
    refine ⟨record, resp', hrecord, ?_⟩
    rw [← lookup_of_observed hobs hnodup hrecord]
    exact hp.standby m hcohort (fun h => hnot ((hself m).mp h)) hne
  · exact mem_connectedFollowers hkeys hlead.observed
      (lookup_of_observed hobs hnodup hlead.observed) (hmentioned m (hmem m hm).1) hne
      (hp.connected m (hsurvivors ▸ hm))
  · exact hp.stale _ (hstale ▸ matchPod_mem_stale htopo h hprimary hne)
  · refine List.filter_eq_self.mpr fun m _ => ?_
    simp only [decide_eq_true_eq]
    rintro ⟨record, -, hb⟩
    exact hnone record m hb

theorem lookup_registeredIds_eq_lastIdentity (name : String) :
    (registeredIds (probesOf records podNames)).lookup name =
      lastIdentity records podNames name := by
  rw [registeredIds, Assoc.lookup_reverse, lastIdentity, probesOf, List.filterMap_map,
    List.filterMap_filterMap]
  congr 2
  funext record
  by_cases hname : matchPod record podNames = ""
  · simp [probeOf, hname]
  · cases hid : record.id with
    | none => simp [probeOf, hname, hid]
    | some id =>
      by_cases h : matchPod record podNames = name
      · subst h
        simp [probeOf, hname, hid]
      · simp [probeOf, hname, hid, h]

/-- **The removed pod is not counted**: a permitted removal counts no identity of the removed pod as
remaining exactly when every identity of the pod in the committed cohort is the one of its last
record. -/
theorem not_counted_iff {store : TopoStore} {shard : Shard} {target : DisruptionTarget}
    {o : Observation} {remaining : List PoolerId}
    (hobserve : observeDisruption C store rpc shard podNames = .ok o)
    (hdecide : o.decide C shard target = .ok remaining) :
    (∀ record ∈ shardRecords store shard, podMatchesPooler target.name record = true →
        ∀ id, record.id = some id → id ∉ remaining) ↔
      ∀ lead leader resp rule,
        RoutedPrimary (shardRecords store shard) rpc podNames lead leader resp →
        StatusResponse.decision (some resp) = some rule →
        ∀ record ∈ shardRecords store shard, podMatchesPooler target.name record = true →
          ∀ id, record.id = some id → id ∈ rule.cohortMembers →
            lastIdentity (shardRecords store shard) podNames target.name = some id := by
  obtain ⟨records, hrecords, hreg, -, -, hleader⟩ := observeDisruption_ok hobserve
  rw [show shardRecords store shard = records by rw [shardRecords, hrecords]]
  obtain ⟨leader, rule, number, hp⟩ := Observation.decide_ok hdecide
  obtain hnone | ⟨p, resp, htopo, -, hrule, -⟩ := hleader
  · exact absurd (hnone.symm.trans hp.leader_eq) (by simp)
  obtain ⟨hlead, honly⟩ := routedPrimary_unique htopo
  have hdecision : StatusResponse.decision (some resp) = some rule := hrule.symm.trans hp.rule_eq
  have hcounted : ∀ id, id ∈ remaining ↔
      id ∈ rule.cohortMembers ∧ lastIdentity records podNames target.name ≠ some id := fun id => by
    rw [hp.remaining_eq, List.mem_filter, hreg, lookup_registeredIds_eq_lastIdentity]
    simp only [ne_eq, decide_not, Bool.not_eq_true', decide_eq_false_iff_not]
    rw [eq_comm]
  constructor
  · intro h lead' leader' resp' rule' hlead' hdecision' record hmem hmatch id hid hcohort
    obtain ⟨-, rfl⟩ := honly _ _ _ hlead'
    obtain rfl := Option.some.inj (hdecision'.symm.trans hdecision)
    by_contra hlast
    exact h record hmem hmatch id hid ((hcounted id).mpr ⟨hcohort, hlast⟩)
  · intro h record hmem hmatch id hid hmem'
    obtain ⟨hcohort, hlast⟩ := (hcounted id).mp hmem'
    exact hlast (h _ _ _ _ hlead hdecision record hmem hmatch id hid hcohort)

end Soundness

/-! ## A shard of three poolers

Rules are compared by number, and a policy asks for a number of members and for enough of them to
meet every quorum of the cohort. -/

namespace Sample

def ruleOrder (position : Option RulePosition) : ℕ × ℕ :=
  match (position.bind (·.decision)).bind (·.ruleNumber) with
  | none => (0, 0)
  | some number => (number.coordinatorTerm, number.leaderSubterm)

def countingConsensus : Consensus where
  clusterIDString
    | none => ""
    | some id => id.component ++ "-" ++ id.cell ++ "-" ++ id.name
  compareRulePosition a b :=
    if ruleOrder a = ruleOrder b then 0
    else if (ruleOrder a).1 < (ruleOrder b).1 ∨
        ((ruleOrder a).1 = (ruleOrder b).1 ∧ (ruleOrder a).2 < (ruleOrder b).2) then -1
    else 1
  isSelfRevoked _ := false
  newPolicyFromProto
    | none => .error "no policy"
    | some policy =>
      .ok ⟨fun members =>
        if policy.requiredCount ≤ members.length then .ok () else .error "too few members"⟩
  checkSufficientRecruitment policy cohort recruited :=
    match policy.satisfiedBy recruited with
    | .error cause => .error cause
    | .ok () =>
      if cohort.length < 2 * recruited.length then .ok () else .error "no quorum"

def poolerId (name : String) : PoolerId := ⟨"multipooler", "z1", name⟩

/-- The rule that a leader leads a cohort and two members must hold every write. -/
def rule (leader : String) (cohort : List PoolerId) : ShardRule where
  ruleNumber := some ⟨1, 0⟩
  leaderId := some (poolerId leader)
  cohortMembers := cohort
  durabilityPolicy := some ⟨1, 2⟩

def answer (leader : String) (id : PoolerId) (cohort : List PoolerId)
    (postgresStatus : PostgresStatus) : StatusResponse where
  status := some
    { isInitialized := true, postgresReady := true, postgresStatus
      primaryStatus := if postgresStatus = .primary then some ⟨true, cohort.filter (· ≠ id)⟩ else none }
  consensusStatus := some { id := some id, currentPosition := some { decision := some (rule leader cohort) } }
  availabilityStatus := some { cohortEligibility := some .eligible }

def shard : Shard where
  name := "shard-0"
  uid := 1
  labels := [(.cluster, "mg")]
  spec :=
    { databaseName := "db", tableGroupName := "tg", shardName := "0"
      pools := [("main", { cells := ["z1"] })]
      podHash := fun _ _ _ => some "" }

def record (name host : String) (routingRole : RoutingRole) : Multipooler where
  id := some (poolerId name)
  hostname := host ++ ".main.default.svc.cluster.local"
  routingRole := routingRole

def podNames : List String := ["p-0", "p-1", "p-2"]

def leadRecord : Multipooler := record "p-1" "p-1" .primary

/-- The poolers answer under their identities; the pooler of a record that was shut down does not
answer. -/
def rpc (leader : String) (cohort : List PoolerId) : StatusRpc := fun r =>
  if r.lifecycle = .shutdown then .error "connection refused"
  else match r.id with
    | none => .error "no identity"
    | some id =>
      .ok (answer leader id cohort (if r.routingRole = .primary then .primary else .standby))

def cohort : List PoolerId := [poolerId "p-0", poolerId "p-1", poolerId "p-2"]

/-- One record for each pod. -/
def store : TopoStore := fun _ =>
  .ok [record "p-0" "p-0" .replica, leadRecord, record "p-2" "p-2" .replica]

/-- The pooler on `p-0` runs under the identity of an old record, and a later record of the same pod
was shut down. -/
def duplicateStore : TopoStore := fun _ =>
  .ok [record "old-0" "p-0" .replica, leadRecord,
    { record "new-0" "p-0" .replica with lifecycle := .shutdown }]

def duplicateCohort : List PoolerId := [poolerId "old-0", poolerId "p-1"]

theorem mem_cohort_of_mentioned {id : PoolerId}
    (h : Mentioned (shardRecords store shard) (rpc "p-1" cohort) id) : id ∈ cohort := by
  have hrecords : shardRecords store shard =
      [record "p-0" "p-0" .replica, leadRecord, record "p-2" "p-2" .replica] := rfl
  rw [Mentioned, hrecords] at h
  simp only [List.mem_cons, List.not_mem_nil, or_false, exists_eq_or_imp, exists_eq_left] at h
  rcases h with (h | h | h) | ⟨resp, h, h'⟩ | ⟨resp, h, h'⟩ | ⟨resp, h, h'⟩
  · simp [← Option.some.inj h, cohort, poolerId]
  · simp [← Option.some.inj h, cohort, poolerId]
  · simp [← Option.some.inj h, cohort, poolerId]
  all_goals
    obtain rfl := Except.ok.inj h
    obtain ⟨rule', h₁, h₂⟩ | ⟨status, h₁, h₂⟩ := h'
    · obtain rfl := Option.some.inj h₁
      exact h₂
    · cases h₁ <;> exact (List.mem_filter.mp h₂).1

theorem stringsSeparate :
    StringsSeparate countingConsensus (shardRecords store shard) (rpc "p-1" cohort) := by
  intro a b ha hb
  have h : ∀ a ∈ cohort, ∀ b ∈ cohort,
      countingConsensus.key a = countingConsensus.key b → a = b := by decide
  exact h a (mem_cohort_of_mentioned ha) b (mem_cohort_of_mentioned hb)

theorem oneRecordPerPod : OneRecordPerPod (shardRecords store shard) podNames := by
  unfold OneRecordPerPod
  decide

end Sample

section

open Sample

/-- Removing the standby on `p-0` leaves the leader and one more member. -/
theorem check_sound_standby :
    ∃ o, observeDisruption countingConsensus store (rpc "p-1" cohort) shard podNames = .ok o ∧
      o.check countingConsensus shard { name := "p-0" } = .ok () ∧
      ∃ lead leader resp rule number,
        SafeRemoval countingConsensus (shardRecords store shard) (rpc "p-1" cohort) podNames "p-0"
          lead leader resp rule number :=
  ⟨_, rfl, rfl, @check_sound countingConsensus (rpc "p-1" cohort) podNames store shard
    { name := "p-0" } _ oneRecordPerPod stringsSeparate rfl rfl⟩

/-- With one record for each pod the removed pod is not counted. -/
theorem not_counted_standby :
    ∃ o remaining, observeDisruption countingConsensus store (rpc "p-1" cohort) shard podNames = .ok o ∧
      o.decide countingConsensus shard { name := "p-0" } = .ok remaining ∧
      ∀ record ∈ shardRecords store shard, podMatchesPooler "p-0" record = true →
        ∀ id, record.id = some id → id ∉ remaining := by
  refine ⟨_, [poolerId "p-1", poolerId "p-2"], rfl, rfl,
    (@not_counted_iff countingConsensus (rpc "p-1" cohort) podNames store shard { name := "p-0" } _ _ rfl
      rfl).mpr ?_⟩
  intro lead leader resp rule _ _ record hmem hmatch id hid _
  have h : ∀ record ∈ shardRecords store shard, podMatchesPooler "p-0" record = true →
      record.id = lastIdentity (shardRecords store shard) podNames "p-0" := by decide
  rw [← h record hmem hmatch, hid]

/-- **The removed pod counted as a survivor**: the pooler on `p-0` runs under the identity of an
older record of the pod, a later record of the pod was shut down, and the removal of `p-0` is
permitted with its own pooler among the two members counted as remaining. -/
theorem duplicate_record_counted :
    ∃ o, observeDisruption countingConsensus duplicateStore (rpc "p-1" duplicateCohort) shard
        podNames = .ok o ∧
      o.decide countingConsensus shard { name := "p-0" } = .ok [poolerId "old-0", poolerId "p-1"] ∧
      ∃ record ∈ shardRecords duplicateStore shard, podMatchesPooler "p-0" record = true ∧
        record.id = some (poolerId "old-0") :=
  ⟨_, rfl, rfl, record "old-0" "p-0" .replica, by decide, by decide, rfl⟩

end

end MultigresOperator

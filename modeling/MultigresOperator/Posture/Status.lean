import Mathlib.Data.List.Dedup
import Mathlib.Data.List.Sort
import MultigresOperator.Api.Objects

/-!
# Pooler status and readiness

What a pooler answers to a Status request and what a topology record says about it, with the
readiness judgement the operator derives from an answer. Message fields may be absent, and an
absent message reads as one whose fields are all absent.

The consensus arithmetic and the string form of an identity belong to another module of the
system, which this repository only calls. They are the fields of `Consensus`.

## Main definitions

* `PoolerId`, `ShardRule`, `RulePosition`, `StatusResponse`, `Multipooler`: the messages
* `Consensus`: the consensus functions the operator calls
* `Consensus.poolerReadiness`: the readiness of an answer
* `podMatchesPooler`, `matchPod`: which pod a topology record belongs to
* `collectCells`: the cells of a shard

## Main results

* `podMatchesPooler_matchPod`: a record belongs to a pod it matches
-/

namespace MultigresOperator

/-- The identity of a pooler, `clustermetadata.ID`. -/
structure PoolerId where
  component : String
  cell : String
  name : String
  deriving DecidableEq, Repr

structure RuleNumber where
  coordinatorTerm : ℕ
  leaderSubterm : ℕ
  deriving DecidableEq, Repr

/-- The durability policy a rule commits to. -/
structure DurabilityPolicy where
  quorumType : ℕ
  requiredCount : ℕ
  deriving DecidableEq, Repr

/-- A rule of a shard's consensus: its number, the leader it names and the cohort it commits. -/
structure ShardRule where
  ruleNumber : Option RuleNumber
  leaderId : Option PoolerId
  cohortMembers : List PoolerId
  durabilityPolicy : Option DurabilityPolicy
  deriving DecidableEq, Repr

/-- A pooler's position: the rule it has decided and the one it has only been proposed. -/
structure RulePosition where
  decision : Option ShardRule := none
  proposal : Option ShardRule := none
  deriving DecidableEq, Repr

/-- `currentPosition` is the position inside the message of that name. -/
structure ConsensusStatus where
  id : Option PoolerId
  currentPosition : Option RulePosition
  recruitBlockedUntil : Option Time := none
  deriving DecidableEq, Repr

inductive PostgresStatus
  | unknown
  | primary
  | standby
  | promoting
  | starting
  deriving DecidableEq, Repr

inductive PostgresAction
  | unspecified
  | starting
  | restoringFromBackup
  | creatingFirstBackup
  deriving DecidableEq, Repr

structure PrimaryStatus where
  ready : Bool
  connectedFollowers : List PoolerId
  deriving DecidableEq, Repr

structure PoolerStatus where
  isInitialized : Bool
  postgresReady : Bool
  postgresStatus : PostgresStatus
  postgresAction : PostgresAction := .unspecified
  primaryStatus : Option PrimaryStatus := none
  deriving DecidableEq, Repr

inductive CohortEligibilitySignal
  | unspecified
  | eligible
  | ineligible
  deriving DecidableEq, Repr

inductive LeadershipSignal
  | unspecified
  | requestingDemotion
  deriving DecidableEq, Repr

structure LeadershipStatus where
  signal : LeadershipSignal
  leaderTerm : ℕ
  deriving DecidableEq, Repr

/-- `cohortEligibility` is the signal of the eligibility message, if the message is there. -/
structure AvailabilityStatus where
  cohortEligibility : Option CohortEligibilitySignal
  leadership : Option LeadershipStatus := none
  deriving DecidableEq, Repr

/-- The answer to a Status request. -/
structure StatusResponse where
  status : Option PoolerStatus
  consensusStatus : Option ConsensusStatus
  availabilityStatus : Option AvailabilityStatus
  deriving DecidableEq, Repr

/-! ## Reading an answer

The getters take an answer that may be absent, as those of the message types do. -/

namespace StatusResponse

def consensus (resp : Option StatusResponse) : Option ConsensusStatus := resp.bind (·.consensusStatus)

def consensusId (resp : Option StatusResponse) : Option PoolerId := (consensus resp).bind (·.id)

def position (resp : Option StatusResponse) : Option RulePosition :=
  (consensus resp).bind (·.currentPosition)

def decision (resp : Option StatusResponse) : Option ShardRule := (position resp).bind (·.decision)

def proposal (resp : Option StatusResponse) : Option ShardRule := (position resp).bind (·.proposal)

def postgresStatus (resp : Option StatusResponse) : PostgresStatus :=
  ((resp.bind (·.status)).map (·.postgresStatus)).getD .unknown

def isInitialized (resp : Option StatusResponse) : Bool :=
  ((resp.bind (·.status)).map (·.isInitialized)).getD false

def postgresReady (resp : Option StatusResponse) : Bool :=
  ((resp.bind (·.status)).map (·.postgresReady)).getD false

def primaryStatus (resp : Option StatusResponse) : Option PrimaryStatus :=
  (resp.bind (·.status)).bind (·.primaryStatus)

def cohortEligibility (resp : Option StatusResponse) : Option CohortEligibilitySignal :=
  (resp.bind (·.availabilityStatus)).bind (·.cohortEligibility)

def leadership (resp : Option StatusResponse) : Option LeadershipStatus :=
  (resp.bind (·.availabilityStatus)).bind (·.leadership)

end StatusResponse

/-- A durability policy, known by the sets of members it accepts. -/
structure Policy where
  satisfiedBy : List PoolerId → Except String Unit

/-- The consensus functions the operator calls. -/
structure Consensus where
  clusterIDString : Option PoolerId → String
  compareRulePosition : Option RulePosition → Option RulePosition → ℤ
  isSelfRevoked : Option ConsensusStatus → Bool
  newPolicyFromProto : Option DurabilityPolicy → Except String Policy
  checkSufficientRecruitment : Policy → List PoolerId → List PoolerId → Except String Unit

/-- Whether a pooler is ready, with the reason and message its pod condition reports. -/
structure Readiness where
  ready : Bool := false
  reason : String
  message : String
  deriving DecidableEq, Repr

def postureString : PostgresStatus → String
  | .primary => "PRIMARY"
  | .standby => "STANDBY"
  | .promoting => "PROMOTING"
  | .starting => "STARTING"
  | .unknown => "UNKNOWN"

namespace Consensus

variable (C : Consensus)

/-- The string form of a present identity. -/
abbrev key (id : PoolerId) : String := C.clusterIDString (some id)

/-- `committedCohortContains`: the pooler is in the cohort of the rule it has decided. -/
def committedCohortContains (resp : Option StatusResponse) (poolerID : Option PoolerId) : Bool :=
  match StatusResponse.decision resp, poolerID with
  | some decision, some id => decision.cohortMembers.any fun member => C.key member == C.key id
  | _, _ => false

/-- `poolerReadiness`: the posture an answer reports and whether its pooler is ready. -/
def poolerReadiness (resp : Option StatusResponse) (id : Option PoolerId) : String × Readiness :=
  let posture := postureString (StatusResponse.postgresStatus resp)
  if !StatusResponse.isInitialized resp then
    (posture, { reason := "NotInitialized", message := "pooler initialization has not completed" })
  else if !StatusResponse.postgresReady resp then
    (posture,
      { reason := "PostgresNotReady", message := "PostgreSQL is not accepting connections" })
  else if StatusResponse.cohortEligibility resp ≠ some .eligible then
    (posture,
      { reason := "CohortIneligible"
        message := "pooler is not eligible to participate in the shard cohort" })
  else if !C.committedCohortContains resp id then
    (posture,
      { reason := "NotCohortMember"
        message := "pooler is not a member of its committed shard cohort" })
  else
    (posture,
      { ready := true
        reason := "DataPlaneReady"
        message := "PostgreSQL is ready and the pooler is an eligible shard cohort member" })

/-- The readiness of an answer as a judgement. -/
abbrev isReady (resp : Option StatusResponse) (id : Option PoolerId) : Bool :=
  (C.poolerReadiness resp id).2.ready

@[simp] theorem isReady_none (id : Option PoolerId) : C.isReady none id = false := rfl

end Consensus

/-! ## Topology records -/

inductive RoutingRole
  | unknown
  | primary
  | replica
  deriving DecidableEq, Repr

inductive Lifecycle
  | unspecified
  | active
  | shutdown
  | quarantined
  deriving DecidableEq, Repr

/-- A pooler's record in the topology. -/
structure Multipooler where
  id : Option PoolerId
  hostname : String
  routingRole : RoutingRole := .unknown
  lifecycle : Lifecycle := .unspecified
  lifecycleReason : String := ""
  deriving DecidableEq, Repr

/-- `IsPrimaryPooler`: the pooler advertises the writable routing role. -/
def Multipooler.isPrimaryPooler (pooler : Multipooler) : Bool := pooler.routingRole == .primary

/-- `PodMatchesPooler`: the record is the pod's, by identity name or by hostname. -/
def podMatchesPooler (podName : String) (pooler : Multipooler) : Bool :=
  (pooler.id.map (·.name)) == some podName || pooler.hostname == podName ||
    (podName ++ ".").toList.isPrefixOf pooler.hostname.toList

/-- `matchPod`: the first of the pods the record matches, or the empty string. -/
def matchPod (pooler : Multipooler) (podNames : List String) : String :=
  (podNames.find? fun name => podMatchesPooler name pooler).getD ""

theorem find?_of_matchPod {pooler : Multipooler} {podNames : List String}
    (h : matchPod pooler podNames ≠ "") :
    podNames.find? (fun name => podMatchesPooler name pooler) =
      some (matchPod pooler podNames) := by
  unfold matchPod at h ⊢
  cases hf : podNames.find? fun name => podMatchesPooler name pooler with
  | none => simp [hf] at h
  | some name => rfl

theorem podMatchesPooler_matchPod {pooler : Multipooler} {podNames : List String}
    (h : matchPod pooler podNames ≠ "") :
    podMatchesPooler (matchPod pooler podNames) pooler = true := by
  simpa using List.find?_some (find?_of_matchPod h)

/-- `CollectCells`: the cells of the shard's pools, sorted and without duplicates. -/
def collectCells (shard : Shard) : List String :=
  ((shard.spec.pools.flatMap fun pool => pool.2.cells).dedup).insertionSort (· ≤ ·)

end MultigresOperator

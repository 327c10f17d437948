import Mathlib.Algebra.GroupWithZero.Nat

/-!
# API objects

The Kubernetes objects the Shard controller reads and writes, reduced to the fields its decisions
depend on. A label map is an association list over the label keys the operator selects on; the
orphan label and the annotations are fields of their own. All objects of a shard live in its
namespace, so names identify objects.

## Main definitions

* `Labels`, `Labels.Matches`: label maps and label selectors
* `Pod`, `DrainState`: pool pods and the states of their drain
* `PVC`: persistent volume claims
* `Shard`, `PoolSpec`: the Shard resource
-/

namespace MultigresOperator

/-- Seconds. -/
abbrev Time := ℕ

inductive LabelKey
  | appInstance
  | appComponent
  | appManagedBy
  | cluster
  | database
  | tableGroup
  | shard
  | pool
  | cell
  deriving DecidableEq, Repr

/-- A label map. The first entry of a key counts. -/
abbrev Labels := List (LabelKey × String)

namespace Labels

/-- The value of a label; a missing label reads as the empty string. -/
def get (labels : Labels) (key : LabelKey) : String := (labels.lookup key).getD ""

/-- A selector of equality requirements, as `client.MatchingLabels` builds it. -/
def Matches (selector labels : Labels) : Bool :=
  selector.all fun (key, value) => labels.lookup key == some value

/-- `MergeLabels`: the standard labels win over the custom ones. -/
def merge (standard custom : Labels) : Labels :=
  standard ++ custom.filter fun (key, _) => (standard.lookup key).isNone

end Labels

/-- The states of a drain, as the drain-state annotation records them. -/
inductive DrainState
  | requested
  | draining
  | acknowledged
  | readyForDeletion
  deriving DecidableEq, Repr

inductive PodPhase
  | pending
  | running
  | succeeded
  | failed
  | unknown
  deriving DecidableEq, Repr

/-- A pod. `claims` are the claim names of its PVC volumes in order, `topoFlags` the global
topology address and root its multipooler container is started with, if it has both flags. -/
structure Pod where
  name : String
  uid : ℕ
  labels : Labels
  claims : List String
  nodeName : String := ""
  topoFlags : Option (String × String) := none
  specHash : Option String := none
  drainState : Option DrainState := none
  drainRequestedAt : Option Time := none
  maintenanceSurge : Bool := false
  maintenanceRequested : Bool := false
  maintenanceReady : Bool := false
  phase : PodPhase := .pending
  ready : Bool := false
  scheduledAt : Option Time := none
  poolerDataReady : Bool := false
  creationTimestamp : Time := 0
  deletionTimestamp : Option Time := none
  deriving DecidableEq, Repr

namespace Pod

def terminating (pod : Pod) : Bool := pod.deletionTimestamp.isSome

def draining (pod : Pod) : Bool := pod.drainState.isSome

def disrupted (pod : Pod) : Bool := pod.draining || pod.terminating

def terminal (pod : Pod) : Bool := pod.phase == .failed || pod.phase == .succeeded

def pool (pod : Pod) : String := pod.labels.get .pool

def cell (pod : Pod) : String := pod.labels.get .cell

end Pod

/-- The value of the orphan label: a timestamp, or a text that is none. -/
inductive OrphanLabel
  | since (time : Time)
  | malformed (text : String)
  deriving DecidableEq, Repr

/-- A reference to an object by its API group, kind, name and UID. -/
structure OwnerRef where
  group : String
  kind : String
  name : String
  uid : ℕ
  controller : Bool := false
  deriving DecidableEq, Repr

/-- A persistent volume claim. `orphanSince` is its orphan label. -/
structure PVC where
  name : String
  uid : ℕ
  resourceVersion : ℕ := 0
  labels : Labels
  orphanSince : Option OrphanLabel := none
  ownerRefs : List OwnerRef := []
  storageClass : Option String := none
  request : ℕ := 0
  bound : Bool := false
  fileSystemResizePending : Bool := false
  deletionTimestamp : Option Time := none
  deriving DecidableEq, Repr

/-- `IsTerminating`: the claim has been deleted and is only held in place by finalizers. -/
def PVC.terminating (pvc : PVC) : Bool := pvc.deletionTimestamp.isSome

/-- `HasOrphanLabel`: the claim has been marked orphan. -/
def PVC.orphaned (pvc : PVC) : Bool := pvc.orphanSince.isSome

/-! ## The Shard resource -/

/-- A PVC retention setting; `unset` is the empty string. -/
inductive RetentionPolicy
  | unset
  | retain
  | delete
  deriving DecidableEq, Repr

structure PVCDeletionPolicy where
  whenDeleted : RetentionPolicy := .unset
  whenScaled : RetentionPolicy := .unset
  deriving DecidableEq, Repr

/-- `MergePVCDeletionPolicy`: the child's settings win, a policy with nothing set is none. -/
def mergePVCDeletionPolicy : Option PVCDeletionPolicy → Option PVCDeletionPolicy →
    Option PVCDeletionPolicy
  | none, parent => parent
  | some child, parent =>
    let inherit (own : RetentionPolicy) (field : PVCDeletionPolicy → RetentionPolicy) :=
      if own ≠ .unset then own else (parent.map field).getD .unset
    let merged : PVCDeletionPolicy :=
      { whenDeleted := inherit child.whenDeleted (·.whenDeleted)
        whenScaled := inherit child.whenScaled (·.whenScaled) }
    if merged.whenDeleted = .unset ∧ merged.whenScaled = .unset then none else some merged

/-- A desired number of pods, a non-negative `int32`. -/
abbrev Replicas := Fin (2 ^ 31)

instance Replicas.neZero : NeZero (2 ^ 31) := ⟨by decide⟩

/-- A pool. `storageRequest` is the parsed storage size, absent when it does not parse. -/
structure PoolSpec where
  cells : List String
  replicasPerCell : Option Replicas := none
  storageRequest : Option ℕ := some 1
  storageClass : Option String := none
  pvcDeletionPolicy : Option PVCDeletionPolicy := none

inductive ShardMode
  | distributed
  | lite
  deriving DecidableEq, Repr

/-- The roles of `Status.PodRoles`. -/
inductive PodRole
  | primary
  | replica
  | quarantined
  | unknown
  deriving DecidableEq, Repr

/-- Where a shard keeps its backups. -/
inductive BackupType
  | filesystem
  | s3
  deriving DecidableEq, Repr

/-- The spec of a Shard. `pools` is a map from pool names. `podHash` is the hash of the pod spec
built for a pool, a cell and an index, absent when the pod cannot be built, and `litePodHash` that
of the Lite pod: they stand for every field of the spec that only enters the pod template.
`backupStorageRequest` is the parsed size of the shared backup PVC. -/
structure ShardSpec where
  databaseName : String
  tableGroupName : String
  shardName : String
  pools : List (String × PoolSpec)
  pools_nodup : (pools.map Prod.fst).Nodup := by decide
  replicas : Option Replicas := none
  pvcDeletionPolicy : Option PVCDeletionPolicy := none
  durabilityPolicy : String := ""
  backup : Option BackupType := none
  backupStorageRequest : Option ℕ := some 10
  backupStorageClass : Option String := none
  globalTopoServer : String × String := ("", "")
  mode : ShardMode := .distributed
  podHash : String → String → ℕ → Option String
  litePodHash : String → String → Option String := fun _ _ => none

/-- The Shard resource. It carries the label of its MultigresCluster, as the TableGroup controller
builds it. `pendingDeletion` is the annotation of that name, `readyForDeletion` and `backupHealthy`
are conditions. -/
structure Shard where
  name : String
  uid : ℕ
  labels : Labels
  labels_cluster : (labels.lookup .cluster).isSome := by decide
  spec : ShardSpec
  podRoles : List (String × PodRole) := []
  backupHealthy : Bool := false
  readyForDeletion : Bool := false
  pendingDeletion : Bool := false
  deletionTimestamp : Option Time := none

namespace Shard

/-- `shard.Labels["multigres.com/cluster"]` -/
def clusterName (shard : Shard) : String := shard.labels.get .cluster

def pool? (shard : Shard) (poolName : String) : Option PoolSpec := shard.spec.pools.lookup poolName

end Shard

end MultigresOperator

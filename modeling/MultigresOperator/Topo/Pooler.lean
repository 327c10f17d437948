import MultigresOperator.Posture.Disruption

/-!
# Poolers in the topology

What the Shard controller reads off the topology records of its poolers outside the disruption
preflight: which pods have a live pooler, which role each pod plays, and which pods are
quarantined. The readers differ in what they do with a cell that cannot be read.
-/

namespace MultigresOperator

namespace Multipooler

def isLifecycleShutdown (pooler : Multipooler) : Bool := pooler.lifecycle == .shutdown

def isLifecycleQuarantined (pooler : Multipooler) : Bool := pooler.lifecycle == .quarantined

/-- The role a record that is not shut down gives its pod. -/
def role (pooler : Multipooler) : PodRole :=
  if pooler.isLifecycleQuarantined then .quarantined
  else if pooler.isPrimaryPooler then .primary
  else .replica

end Multipooler

/-- `LivePoolerPods`: which of the pods have a pooler registered that is not shut down. -/
def livePoolerPods (store : TopoStore) (shard : Shard) (podNames : List String) :
    Except ObserveError (List String) :=
  (cellRecords store (collectCells shard)).map fun records =>
    podNames.filter fun name =>
      records.any fun pooler => !pooler.isLifecycleShutdown && podMatchesPooler name pooler

/-- `PoolerStatusResult`: in `roles` the entry added last comes first. -/
structure PoolerStatusResult where
  roles : List (String × PodRole) := []
  querySuccess : Bool := true

/-- One record in `GetPoolerStatus`. -/
def PoolerStatusResult.record (podNames : List String) (result : PoolerStatusResult)
    (pooler : Multipooler) : PoolerStatusResult :=
  let podName := matchPod pooler podNames
  if pooler.isLifecycleShutdown || podName == "" then result
  else { result with roles := (podName, pooler.role) :: result.roles }

/-- `GetPoolerStatus`: the roles the topology gives the pods. -/
def getPoolerStatus (store : TopoStore) (shard : Shard) (podNames : List String) :
    PoolerStatusResult :=
  (collectCells shard).foldl (fun result cell =>
    match store cell with
    | .error _ => { result with querySuccess := false }
    | .ok poolers => poolers.foldl (PoolerStatusResult.record podNames) result) {}

/-- The roles of the Shard's status after `reconcilePodRoles` has read the topology. -/
def mergePodRoles (old : List (String × PodRole)) (result : PoolerStatusResult) :
    List (String × PodRole) :=
  if result.querySuccess then result.roles
  else result.roles ++ old.filter fun entry => (result.roles.lookup entry.1).isNone

/-- A quarantined pod and the reason its record gives. -/
structure QuarantinedPod where
  podName : String
  reason : String
  deriving DecidableEq, Repr

def quarantinedPodsOf (store : TopoStore) (podNames : List String) :
    List String → Except TopoError (List QuarantinedPod)
  | [] => .ok []
  | cell :: cells =>
    match store cell with
    | .error e => if e.unavailable then quarantinedPodsOf store podNames cells else .error e
    | .ok poolers =>
      (quarantinedPodsOf store podNames cells).map fun rest =>
        (poolers.filter fun pooler =>
          pooler.isLifecycleQuarantined && matchPod pooler podNames != "").map
            (fun pooler => ⟨matchPod pooler podNames, pooler.lifecycleReason⟩) ++ rest

/-- `GetQuarantinedPods`: the quarantined pods of the shard in name order. -/
def getQuarantinedPods (store : TopoStore) (shard : Shard) (podNames : List String) :
    Except TopoError (List QuarantinedPod) :=
  (quarantinedPodsOf store podNames (collectCells shard)).map fun quarantined =>
    quarantined.insertionSort fun a b => a.podName ≤ b.podName

end MultigresOperator

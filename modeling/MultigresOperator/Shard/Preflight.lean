import MultigresOperator.Shard.Volumes

/-!
# Gates of a disruption

What the controller checks before it starts a voluntary disruption: a fresh list of the shard's
pods, an observation of every pooler over RPC, and the capacity left in the shard and in the cell.

## Main definitions

* `RolloutTracker`: what the pools of one pass tell each other
* `Reconciler.observeDisruption`, `Reconciler.canStartDisruption`: the preflight
* `maintenanceCapacityWithout`: the capacity gate
* `reconcileCellMaintenanceSurge`: temporary capacity in a two-cell shard
-/

namespace MultigresOperator

open Effects MultigresOperator.Action

/-- `shardRolloutTracker`: the disruptions of one pass, shared by its pools. -/
structure RolloutTracker where
  started : Bool := false
  waitingForRecovery : Bool := false
  surgeStartedCells : List String := []
  blocked : String := ""
  unreadyDecided : Bool := false
  unreadyPending : Bool := false
  unreadyDeferred : Bool := false
  deriving DecidableEq, Repr

namespace RolloutTracker

/-- `block`: the first reason counts. -/
def block (t : RolloutTracker) (reason : String) : RolloutTracker :=
  if t.blocked = "" then { t with blocked := reason } else t

def setStarted (t : RolloutTracker) : RolloutTracker := { t with started := true }

def wait (t : RolloutTracker) : RolloutTracker := { t with waitingForRecovery := true }

def hasSurgeStarted (t : RolloutTracker) (cellName : String) : Bool :=
  t.surgeStartedCells.contains cellName

def setSurgeStarted (t : RolloutTracker) (cellName : String) : RolloutTracker :=
  { t with surgeStartedCells := cellName :: t.surgeStartedCells }

/-- From `t` to `u` nothing was said about a replacement of pods that are not Ready. -/
structure Quiet (t u : RolloutTracker) : Prop where
  blocked : u.blocked = t.blocked
  unreadyDeferred : u.unreadyDeferred = t.unreadyDeferred

theorem Quiet.refl (t : RolloutTracker) : t.Quiet t := ⟨rfl, rfl⟩

theorem Quiet.trans {t u v : RolloutTracker} (h : t.Quiet u) (h' : u.Quiet v) : t.Quiet v :=
  ⟨h'.blocked.trans h.blocked, h'.unreadyDeferred.trans h.unreadyDeferred⟩

end RolloutTracker

/-- `ShardReconciler`, as far as it is configured: the consensus library it links, whether it has
pooler clients at all, and how long a pod may take to register (0 means the default). -/
structure Reconciler where
  consensus : Consensus
  poolerClients : Bool := true
  unregisteredPodGrace : Time := 0

def initiateDrain (pod : Pod) : Action Unit := do
  let time ← now
  context ("failed to initiate drain for pod " ++ pod.name)
    (Prog.perform (.patchPod pod.name (.requestDrain time)))

/-- `listDisruptionPods`: the pool pods of the shard, from the API server. -/
def listDisruptionPods (shard : Shard) : Action (List Pod) :=
  listPods .direct (disruptionSelector shard)

/-- `isShardHealthy`: the health of the whole shard on a fresh list. -/
def isShardHealthy (shard : Shard) : Action Bool := do
  let pods ← context "listing pool pods for shard health check" (listDisruptionPods shard)
  pure (shardHealthy shard pods)

/-- `disruptionPreflight`: one fresh list and one observation. -/
structure Preflight where
  pods : List Pod
  observation : Observation

namespace Reconciler

variable (r : Reconciler)

/-- `defaultUnregisteredPodGrace` -/
def grace : Time := if r.unregisteredPodGrace = 0 then 120 else r.unregisteredPodGrace

/-- `mayBeUnregistered`: the pod has had its time to register and is not Ready. -/
def mayBeUnregistered (time : Time) (pod : Pod) : Bool :=
  !isPodReady pod && pod.scheduledAt.any fun scheduled => scheduled + r.grace ≤ time

/-- `observeDisruption`: no preflight while a disruption is in flight or the data plane cannot be
observed; in the second case with the reason. -/
def observeDisruption (shard : Shard) (listed : Option (List Pod)) :
    Action (Option Preflight × String) := do
  let pods ← match listed with
    | some pods => pure pods
    | none => context "list ongoing shard disruptions" (listDisruptionPods shard)
  let terminating ← context "check for mounted PVCs being deleted" (mountedTerminatingPVCs shard)
  if !terminating.isEmpty then pure (none, "")
  else if pods.any Pod.disrupted then pure (none, "")
  else if !r.poolerClients then pure (none, "no multipooler RPC client is configured")
  else do
    let i ← Prog.answer
    match i.rpc, i.topology with
    | none, _ => pure (none, "no multipooler RPC client")
    | some _, none => pure (none, "cannot open the shard's topology")
    | some rpc, some store =>
      match MultigresOperator.observeDisruption r.consensus store rpc shard (pods.map Pod.name) with
      | .ok observation => pure (some ⟨pods, observation⟩, "")
      | .error (.topologyUnavailable _ _) => pure (none, "cannot read the shard's topology")
      | .error e => pure (none, e.message)

/-- `disruptionCheck` at a time: scheduling, readiness and age of the target come from the preflight. -/
def verdict (shard : Shard) (preflight : Preflight) (target : Pod) (time : Time) :
    Except Refusal Unit :=
  let fresh := preflight.pods.find? fun pod => pod.name == target.name && pod.uid == target.uid
  preflight.observation.check r.consensus shard
    { name := target.name
      mayBeUnregistered := fresh.any (r.mayBeUnregistered time)
      unscheduled := fresh.any fun pod =>
        pod.nodeName == "" && pod.phase == .pending && pod.scheduledAt.isNone }

def disruptionCheck (shard : Shard) (preflight : Preflight) (target : Pod) :
    Action (Except Refusal Unit) := do
  let time ← now
  pure (r.verdict shard preflight target time)

/-- `canStartDisruption`: a refusal makes the rest of the pass wait. -/
def canStartDisruption (shard : Shard) (target : Pod) (tracker : RolloutTracker) :
    Action (Bool × RolloutTracker) :=
  if tracker.waitingForRecovery then pure (false, tracker)
  else do
    let (preflight, _) ← r.observeDisruption shard none
    match preflight with
    | none => pure (false, tracker.wait)
    | some preflight => do
      match ← r.disruptionCheck shard preflight target with
      | .ok () => pure (true, tracker)
      | .error _ => pure (false, tracker.wait)

end Reconciler

/-! ## Capacity -/

/-- `maintenanceCapacityWithout`: enough poolers remain in the shard and in the cell without a
pod. -/
def maintenanceCapacityWithout (shard : Shard) (cellName excludedPodName : String)
    (available : Pod → Bool) : Action Bool :=
  if !requiresTwoCellMaintenanceSurge shard then pure true
  else do
    let poolers ← context "list shard poolers for maintenance capacity"
      (listPods .cached (shardPDBSelector shard))
    let surgeCount := poolers.countP (isActiveMaintenanceSurge shard)
    let remaining := poolers.filter fun pod => pod.name != excludedPodName && available pod
    let requiredReady := minAvailableForTotal (shardTotalReplicas shard + surgeCount)
    pure (decide (requiredReady ≤ remaining.length) && remaining.any (·.cell == cellName))

def hasMaintenanceCapacityForPod (shard : Shard) (cellName excludedPodName : String) :
    Action Bool :=
  maintenanceCapacityWithout shard cellName excludedPodName isAvailablePooler

def listCellPoolers (shard : Shard) (cellName : String) : Action (List Pod) :=
  context ("list poolers in cell " ++ cellName) (listPods .cached (cellSelector shard cellName))

/-! ## Maintenance surges -/

/-- `createOrAdoptMaintenanceSurge`: the pod past the desired ones becomes temporary capacity. -/
def createOrAdoptMaintenanceSurge (shard : Shard) (poolName cellName : String) (pool : PoolSpec)
    (existingPods : List Pod) (existingPVCs : List PVC) (replicas : ℕ) : Action Unit :=
  let podName := buildPoolPodName shard poolName cellName replicas
  let pvcName := buildPoolDataPVCName shard poolName cellName replicas
  match existingPods.find? (·.name == podName) with
  | some pod =>
    if pod.disrupted then pure ()
    else context ("adopt pod " ++ pod.name ++ " as maintenance surge")
      (Prog.perform (.patchPod pod.name (.setMaintenanceSurge true)))
  | none => do
    match existingPVCs.find? (·.name == pvcName) with
    | none =>
      match buildPoolDataPVC shard poolName cellName pool replicas with
      | none => .fail (Failure.new ("build maintenance surge PVC " ++ pvcName))
      | some pvc => context ("create maintenance surge PVC " ++ pvcName) (createPVC pvc)
    | some pvc => do
      let (terminating, pvc) ←
        context ("clear orphan label on maintenance surge PVC " ++ pvcName) (reclaimPVC pvc)
      if terminating then pure ()
      else do
        let _ ← expandPVCIfNeeded pvc pool
        pure ()
    match buildPoolPod shard poolName cellName replicas with
    | none => .fail (Failure.new ("build maintenance surge pod " ++ podName))
    | some pod => do
      match ← claimPodVolumes pod.claims with
      | some _ => pure ()
      | none =>
        context ("create maintenance surge pod " ++ podName)
          (createPod { pod with maintenanceSurge := true })

/-- The desired pod of every index of the pools that use a cell, with the pool's name. -/
def cellBasePods (shard : Shard) (cellName : String) (cellPods : List Pod) :
    List (String × ℕ × Option Pod) :=
  (shard.spec.pools.filter fun pool => poolUsesCell pool.2 cellName).flatMap fun (poolName, pool) =>
    (List.range (poolReplicas pool)).map fun index =>
      (poolName, index,
        cellPods.find? (·.name == buildPoolPodName shard poolName cellName index))

/-- A desired pod of the cell that is missing, not available or drifted. -/
def baseUnsettled (shard : Shard) (cellName : String) : String × ℕ × Option Pod → Bool
  | (_, _, none) => true
  | (poolName, index, some pod) =>
    !isAvailablePooler pod || podNeedsUpdate pod shard poolName cellName index

/-- A desired pod of the pool that is available and drifted: the pool is about to disrupt it. -/
def internalTrigger (shard : Shard) (cellName localPool : String) : String × ℕ × Option Pod → Bool
  | (_, _, none) => false
  | (poolName, index, some pod) =>
    isAvailablePooler pod && podNeedsUpdate pod shard poolName cellName index &&
      poolName == localPool

/-- The pods of the cell that someone asks to take out of service, surges apart. -/
def maintenanceRequests (cellPods : List Pod) : List Pod :=
  cellPods.filter fun pod => !isMaintenanceSurge pod && pod.maintenanceRequested

/-- The filesystem of a desired volume of the pool waits for its pod to restart. -/
def poolResizing (shard : Shard) (poolName cellName : String) (replicas : ℕ)
    (existingPVCs : List PVC) : Bool :=
  (List.range replicas).any fun index =>
    pvcNeedsFilesystemResize existingPVCs (buildPoolDataPVCName shard poolName cellName index)

/-- Someone asks for maintenance in the cell, or a desired pod of it is not settled. -/
def keepCellSurge (shard : Shard) (poolName cellName : String) (replicas : ℕ) (cellPods : List Pod)
    (existingPVCs : List PVC) : Bool :=
  !(maintenanceRequests cellPods).isEmpty ||
    ((cellBasePods shard cellName cellPods).any (baseUnsettled shard cellName) ||
      poolResizing shard poolName cellName replicas existingPVCs)

def countPoolSurges (shard : Shard) (poolName : String) (cellPods : List Pod) : ℕ :=
  (cellPods.filter (isActiveMaintenanceSurge shard)).countP (·.pool == poolName)

/-- The maintenance-ready annotation of one pod follows the capacity left without it. -/
def reconcileMaintenanceReady (shard : Shard) (cellName : String) (actionTaken : Bool) (pod : Pod) :
    Action Bool := do
  let wantReady ← if pod.maintenanceRequested then
      hasMaintenanceCapacityForPod shard cellName pod.name
    else pure false
  if pod.maintenanceReady == wantReady then pure actionTaken
  else do
    context ("patch maintenance readiness on pod " ++ pod.name)
      (Prog.perform (.patchPod pod.name (.setMaintenanceReady wantReady)))
    pure true

/-- What the surge phase tells the later phases. -/
structure SurgeResult where
  activeLocalSurges : ℕ := 0
  actionTaken : Bool := false
  tracker : RolloutTracker

/-- `reconcileCellMaintenanceSurge`: keeps one temporary pooler in a cell of a two-cell shard whose
last ready member is about to be disrupted. A surge that the spec has come to want is promoted. -/
def reconcileCellMaintenanceSurge (shard : Shard) (poolName cellName : String) (pool : PoolSpec)
    (existingPods : List Pod) (existingPVCs : List PVC) (replicas : ℕ) (rollout : RolloutTracker) :
    Action SurgeResult :=
  if !requiresTwoCellMaintenanceSurge shard then pure { tracker := rollout }
  else do
    let cellPods ← listCellPoolers shard cellName
    let promoted := cellPods.filter fun pod => isMaintenanceSurge pod && isDesiredPooler shard pod
    Prog.forEach promoted () fun _ pod =>
      context ("promote maintenance surge " ++ pod.name ++ " to desired capacity")
        (Prog.perform (.patchPod pod.name (.setMaintenanceSurge false)))
    let surges := cellPods.filter (isActiveMaintenanceSurge shard)
    let trigger := (cellBasePods shard cellName cellPods).any
        (internalTrigger shard cellName poolName) ||
      poolResizing shard poolName cellName replicas existingPVCs
    let keepSurge := keepCellSurge shard poolName cellName replicas cellPods existingPVCs
    let activeLocalSurges := if keepSurge then countPoolSurges shard poolName cellPods else 0
    if surges.isEmpty && decide (cellPods.countP isAvailablePooler ≤ 1) &&
        ((maintenanceRequests cellPods).any (·.pool == poolName) || trigger) then
      if rollout.hasSurgeStarted cellName then pure { tracker := rollout }
      else do
        createOrAdoptMaintenanceSurge shard poolName cellName pool existingPods existingPVCs replicas
        pure { actionTaken := true, tracker := rollout.setSurgeStarted cellName }
    else do
      let actionTaken ← Prog.forEach existingPods (!promoted.isEmpty)
        (reconcileMaintenanceReady shard cellName)
      pure { activeLocalSurges, actionTaken, tracker := rollout }

end MultigresOperator

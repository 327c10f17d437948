import MultigresOperator.Shard.Preflight
import MultigresOperator.Topo.Pooler

/-!
# The data-plane phases

After its pools, a pass reads the topology, replaces at most one quarantined pod, and advances or
cancels the drains in flight.
-/

namespace MultigresOperator

open Effects MultigresOperator.Action

/-! ## Roles -/

/-- `reconcilePodRoles`: the roles of the Shard's status follow the topology; failures are only
logged. -/
def reconcilePodRoles (shard : Shard) (store : TopoStore) : Action Shard :=
  (listPods .cached (disruptionSelector shard)).bindResult fun
    | .error _ => pure shard
    | .ok pods =>
      let result := getPoolerStatus store shard (pods.map Pod.name)
      otherRequest.bindResult fun _ =>
        pure { shard with podRoles := mergePodRoles shard.podRoles result }

def hasPrimary (podRoles : List (String × PodRole)) : Bool := podRoles.any (·.2 == .primary)

/-! ## Quarantine -/

def quarantineRemediationMinPodAge : Time := 180

/-- `poolHealthyExcluding`: every other undisturbed pod of the target's pool and cell is Ready. -/
def poolHealthyExcluding (pods : List Pod) (target : Pod) (quarantined : List String) : Bool :=
  pods.all fun pod =>
    pod.name == target.name || quarantined.contains pod.name || pod.pool != target.pool ||
      pod.cell != target.cell || pod.disrupted || isPodReady pod

/-- `wipeQuarantinedPod`: deletes the pod, then its data PVC. -/
def wipeQuarantinedPod (shard : Shard) (pod : Pod) : Action Unit :=
  match resolvePodIndex pod.name with
  | none => pure ()
  | some index => do
    context ("failed to delete quarantined pod " ++ pod.name) (deletePod pod.name none)
    let pvcName := buildPoolDataPVCName shard pod.pool pod.cell index
    let forPod := pvcName ++ " for quarantined pod " ++ pod.name
    match ← context ("failed to fetch data PVC " ++ forPod) (getPVC .cached pvcName) with
    | none => pure ()
    | some pvc => context ("failed to delete data PVC " ++ forPod) (deletePVC pvc.name)

/-- One quarantined pod: it is wiped unless it is gone, primary, too young, or its pool is not
otherwise healthy. -/
def remediateQuarantined (shard : Shard) (pods : List Pod) (quarantined : List String)
    (q : QuarantinedPod) : Action (Option Unit) :=
  match pods.find? (·.name == q.podName) with
  | none => pure none
  | some pod =>
    if pod.terminating || shard.podRoles.lookup q.podName == some .primary then pure none
    else do
      let time ← now
      if time < pod.creationTimestamp + quarantineRemediationMinPodAge then pure none
      else if !poolHealthyExcluding pods pod quarantined then pure none
      else do
        wipeQuarantinedPod shard pod
        pure (some ())

/-- `reconcileQuarantineRemediation`: replaces at most one quarantined pod, and only with a healthy
backup and no PVC being deleted under a shard pod. -/
def reconcileQuarantineRemediation (shard : Shard) : Action Bool := do
  let pods ← context "failed to list pods for quarantine remediation"
    (listPods .cached (shardSelector shard))
  let i ← Prog.answer
  match i.topology.map fun store => getQuarantinedPods store shard (pods.map Pod.name) with
  | none | some (.error _) => pure false
  | some (.ok quarantined) =>
    if quarantined.isEmpty || !shard.backupHealthy then pure false
    else do
      let terminating ←
        context "check for mounted PVCs being deleted" (mountedTerminatingPVCs shard)
      if !terminating.isEmpty then pure false
      else do
        let acted ← Prog.firstM quarantined
          (remediateQuarantined shard pods (quarantined.map QuarantinedPod.podName))
        pure acted.isSome

/-! ## Drains -/

def drainTimeout : Time := 300

def updateDrainState (pod : Pod) (state : DrainState) : Action Unit :=
  context "updating pod drain state" (Prog.perform (.patchPod pod.name (.setDrainState state)))

/-- The state that follows in a drain. -/
def DrainState.next : DrainState → DrainState
  | .requested => .draining
  | .draining => .acknowledged
  | .acknowledged | .readyForDeletion => .readyForDeletion

/-- `ExecuteDrainStateMachine`: advances a drain by one state, or ends it once it has timed out. -/
def executeDrainStateMachine (pod : Pod) : Action Unit :=
  match pod.drainState with
  | none | some .readyForDeletion => pure ()
  | some state => do
    let time ← now
    let timedOut := (pod.drainRequestedAt.or pod.deletionTimestamp).any (· + drainTimeout < time)
    updateDrainState pod (if timedOut then .readyForDeletion else state.next)

/-- `isDrainStale`: a requested drain of a pod inside its pool's range and on the desired spec. -/
def isDrainStale (shard : Shard) (pod : Pod) : Bool :=
  if pod.drainState ≠ some .requested || pod.terminating || pod.pool == "" || pod.cell == "" then
    false
  else match shard.pool? pod.pool, resolvePodIndex pod.name with
    | some pool, some index =>
      decide (index < poolReplicas pool) && !podNeedsUpdate pod shard pod.pool pod.cell index
    | _, _ => false

def clearDrainAnnotations (pod : Pod) : Action Unit :=
  context ("failed to clear drain annotations for pod " ++ pod.name)
    (Prog.perform (.patchPod pod.name .clearDrain))

/-- One pod in `reconcileDrainState`; failures are only logged. -/
def reconcileDrain (shard : Shard) (pod : Pod) : Action Unit :=
  if !pod.draining then pure ()
  else if isDrainStale shard pod then (clearDrainAnnotations pod).bindResult fun _ => pure ()
  else (executeDrainStateMachine pod).bindResult fun _ => pure ()

/-- `reconcileDrainState`: cancels the drains nothing wants and advances the others. -/
def reconcileDrainState (shard : Shard) : Action Unit := do
  let pods ← listPods .cached (disruptionSelector shard)
  Prog.forEach pods () fun _ pod => reconcileDrain shard pod

/-! ## The phases in order -/

/-- `reconcileDataPlane`: nothing happens without a topology store, a healthy shard without a
primary is read again later, and a replaced pod ends the pass. While no pooler client can be had the
backup condition is Unknown unless it is False. -/
def reconcileDataPlane (r : Reconciler) (shard : Shard) : Action Unit := do
  let i ← Prog.answer
  match i.topology with
  | none => pure ()
  | some store => do
    let shard ← reconcilePodRoles shard store
    context "update status after data-plane observation" otherRequest
    let i ← Prog.answer
    let shard := if r.poolerClients && i.rpc.isNone then { shard with backupHealthy := false }
      else shard
    if i.phaseHealthy && !hasPrimary shard.podRoles then pure ()
    else do
      if ← reconcileQuarantineRemediation shard then pure ()
      else reconcileDrainState shard

end MultigresOperator

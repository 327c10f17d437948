import MultigresOperator.Shard.Preflight
import MultigresOperator.Topo.Pooler

/-!
# Reconciling the pods of a pool

One visit of a pool in a cell: missing pods and PVCs are created and terminal pods replaced, extra
pods are drained and drained pods deleted, and drifted pods are rolled over one at a time. The visit
works on the list of pods it read first and on fresh lists where it starts a disruption; a drain it
requests is noted in its own list.
-/

namespace MultigresOperator

open Effects MultigresOperator.Action

def noteDrain (pods : List Pod) (name : String) : List Pod :=
  pods.map fun pod => if pod.name = name then { pod with drainState := some .requested } else pod

/-- The PVCs of a visit with one refreshed. -/
def notePVC (pvcs : List PVC) (pvc : PVC) : List PVC :=
  pvcs.map fun old => if old.name = pvc.name then pvc else old

/-- `handleExternalDeletion`: a scheduled pod that someone else deleted is drained. -/
def handleExternalDeletion (pod : Pod) : Action Bool :=
  if pod.scheduledAt.isSome && !pod.draining then do
    initiateDrain pod
    pure true
  else pure false

/-! ## Phase 1 -/

/-- What the loop of `createMissingResources` carries. -/
structure Creation where
  pods : List Pod
  pvcs : List PVC
  driftedCount : ℕ := 0
  actionTaken : Bool := false
  tracker : RolloutTracker

/-- The data PVC of an index: created if missing, otherwise reclaimed and expanded unless it is
being deleted. -/
def ensureDataPVC (shard : Shard) (poolName cellName : String) (pool : PoolSpec) (index : ℕ)
    (pvcs : List PVC) : Action (List PVC) :=
  let pvcName := buildPoolDataPVCName shard poolName cellName index
  match pvcs.find? (·.name == pvcName) with
  | none =>
    match buildPoolDataPVC shard poolName cellName pool index with
    | none => .fail (Failure.new ("failed to build PVC " ++ pvcName))
    | some pvc => do
      context ("failed to create PVC " ++ pvcName) (createPVC pvc)
      pure pvcs
  | some pvc =>
    if pvc.terminating then pure pvcs
    else do
      let (terminating, pvc) ←
        context ("failed to clear orphan label on PVC " ++ pvcName) (reclaimPVC pvc)
      if terminating then pure (notePVC pvcs pvc)
      else do
        let pvc ← expandPVCIfNeeded pvc pool
        pure (notePVC pvcs pvc)

/-- A missing pod is created unless a PVC it mounts is being deleted. -/
def createMissingPod (shard : Shard) (poolName cellName : String) (index : ℕ) (st : Creation) :
    Action Creation :=
  let podName := buildPoolPodName shard poolName cellName index
  match buildPoolPod shard poolName cellName index with
  | none => .fail (Failure.new ("failed to build pod " ++ podName))
  | some pod => do
    match ← claimPodVolumes pod.claims with
    | some _ => pure st
    | none => do
      context ("failed to create pod " ++ podName) (createPod pod)
      pure { st with actionTaken := true }

/-- A terminal pod is deleted for recreation unless a PVC it mounts is being deleted. -/
def replaceTerminalPod (pod : Pod) (st : Creation) : Action Creation := do
  match ← podTerminatingClaim pod.claims with
  | some _ => pure st
  | none =>
    if st.actionTaken then pure st
    else do
      context ("failed to delete terminal pod " ++ pod.name) (deletePod pod.name none)
      pure { st with actionTaken := true }

/-- A pod deleted by someone else is drained, unless the pass has acted already. -/
def handleDeletedPod (pod : Pod) (st : Creation) : Action Creation :=
  if st.actionTaken || st.tracker.started then pure st
  else do
    let drained ← handleExternalDeletion pod
    pure { st with
      pods := if drained then noteDrain st.pods pod.name else st.pods
      actionTaken := true
      tracker := st.tracker.setStarted }

variable (r : Reconciler)

/-- A pod is drained for the filesystem of its data PVC to grow, if every gate passes. -/
def drainForResize (shard : Shard) (cellName : String) (pod : Pod) (st : Creation) :
    Action Creation := do
  if !(← isShardHealthy shard) then pure st
  else if !(← hasMaintenanceCapacityForPod shard cellName pod.name) then pure st
  else do
    let (allowed, tracker) ← r.canStartDisruption shard pod st.tracker
    if !allowed then pure { st with tracker }
    else do
      context ("failed to drain pod " ++ pod.name ++ " for filesystem resize") (initiateDrain pod)
      pure { st with
        pods := noteDrain st.pods pod.name
        actionTaken := true
        tracker := tracker.setStarted }

/-- The existing pod of an index. -/
def reconcileExistingPod (shard : Shard) (poolName cellName : String) (index : ℕ) (pod : Pod)
    (st : Creation) : Action Creation :=
  if pod.terminal && !pod.terminating then replaceTerminalPod pod st
  else if pod.terminating then handleDeletedPod pod st
  else
    let st := if podNeedsUpdate pod shard poolName cellName index then
        { st with driftedCount := st.driftedCount + 1 }
      else st
    if !st.actionTaken && !st.tracker.started &&
        pvcNeedsFilesystemResize st.pvcs (buildPoolDataPVCName shard poolName cellName index) &&
        !pod.draining then
      drainForResize r shard cellName pod st
    else pure st

/-- One index of `createMissingResources`. -/
def createMissingResource (shard : Shard) (poolName cellName : String) (pool : PoolSpec)
    (st : Creation) (index : ℕ) : Action Creation := do
  let pvcs ← ensureDataPVC shard poolName cellName pool index st.pvcs
  let st := { st with pvcs }
  match st.pods.find? (·.name == buildPoolPodName shard poolName cellName index) with
  | none => createMissingPod shard poolName cellName index st
  | some pod => reconcileExistingPod r shard poolName cellName index pod st

/-- `createMissingResources`: the pods and PVCs of every index, maintenance surges included. -/
def createMissingResources (shard : Shard) (poolName cellName : String) (pool : PoolSpec)
    (effectiveReplicas : ℕ) (st : Creation) : Action Creation :=
  Prog.forEach (List.range effectiveReplicas) st (createMissingResource r shard poolName cellName pool)

/-! ## Phase 2 -/

/-- What the phases of a visit tell each other. -/
structure Progress where
  actionTaken : Bool
  inProgress : Bool := false
  tracker : RolloutTracker

/-- A pod past the effective replicas, or without an index. -/
def isExtraPod (effectiveReplicas : ℕ) (pod : Pod) : Bool :=
  (resolvePodIndex pod.name).all (effectiveReplicas ≤ ·)

/-- The pods a visit considers extra: past a bound, and not drained yet. -/
def visitExtras (bound : ℕ) (existingPods : List Pod) : List Pod :=
  ((sortByName existingPods).filter (·.drainState != some .readyForDeletion)).filter
    (isExtraPod bound)

def handleDeletedExtra (p : Progress) (pod : Pod) : Action Progress :=
  if pod.terminating && !pod.draining && !p.actionTaken && !p.tracker.started then do
    let _ ← handleExternalDeletion pod
    pure { p with actionTaken := true, tracker := p.tracker.setStarted }
  else pure p

/-- A drained pod is deleted and its PVC released by policy; while a PVC it mounts is being deleted
only the latter. -/
def cleanupReadyForDeletion (shard : Shard) (poolName : String) (pool : PoolSpec) (replicas : ℕ)
    (p : Progress) (pod : Pod) : Action Progress := do
  match ← podTerminatingClaim pod.claims with
  | some _ => do
    context ("failed to release PVC of drained pod " ++ pod.name)
      (releaseDrainedPodPVC shard pod poolName pool replicas)
    pure { p with inProgress := true }
  | none => do
    context ("failed to cleanup drained pod " ++ pod.name)
      (releaseDrainedPodPVC shard pod poolName pool replicas)
    context ("failed to delete ready-for-deletion pod " ++ pod.name) (deletePod pod.name none)
    pure { p with actionTaken := true, tracker := p.tracker.setStarted }

/-- The pods past the desired replicas of any pool and cell of the spec, surges apart. -/
def shardExtras (shard : Shard) (pods : List Pod) : List Pod :=
  shard.spec.pools.flatMap fun (poolName, pool) => pool.cells.flatMap fun cell =>
    (poolCellPods pods poolName cell).filter fun pod =>
      (resolvePodIndex pod.name).any (poolReplicas pool ≤ ·) && !isMaintenanceSurge pod

/-- The pods a scale-down ranks: the unmarked extras of the whole shard, and the extras of the visit
that are not among them. -/
def scaleDownCandidates (shard : Shard) (pods localExtras : List Pod) : List Pod :=
  (localExtras.filter fun pod => (shardExtras shard pods).all (·.name != pod.name)) ++
    shardExtras shard pods

/-- `selectShardScaleDownPod`: the best candidate of the whole shard; a fresh copy of a pod counts
over the local one. -/
def selectShardScaleDownPod (shard : Shard) (localExtras : List Pod) : Action (Option Pod) := do
  let pods ← context "list shard scale-down candidates" (listDisruptionPods shard)
  pure (selectPodToDrain shard (sortByName (scaleDownCandidates shard pods localExtras)))

/-- The scale-down drain of a visit, behind every gate. -/
def drainExtraPod (shard : Shard) (existingPods : List Pod) (effectiveReplicas : ℕ)
    (extraPods : List Pod) (p : Progress) : Action Progress :=
  if !isPoolHealthy existingPods effectiveReplicas shard then pure p
  else do
    if !(← isShardHealthy shard) then pure p
    else do
      match ← selectShardScaleDownPod shard extraPods with
      | none => pure p
      | some pod =>
        if existingPods.all (·.name != pod.name) || pod.draining then pure p
        else do
          let (allowed, tracker) ← r.canStartDisruption shard pod p.tracker
          if !allowed then pure { p with tracker }
          else if !(← hasMaintenanceCapacityForPod shard pod.cell pod.name) then
            pure { p with tracker }
          else do
            context ("failed to initiate drain for extra pod " ++ pod.name) (initiateDrain pod)
            pure { p with actionTaken := true, tracker := tracker.setStarted }

/-- `handleScaleDown`: drained pods are deleted, and one extra pod is drained if nothing else
happens. -/
def handleScaleDown (shard : Shard) (poolName : String) (pool : PoolSpec) (existingPods : List Pod)
    (replicas effectiveReplicas : ℕ) (actionTaken : Bool) (rollout : RolloutTracker) :
    Action Progress := do
  let sorted := sortByName existingPods
  let readyForDeletion := sorted.filter (·.drainState == some .readyForDeletion)
  let others := sorted.filter (·.drainState != some .readyForDeletion)
  let extraPods := visitExtras effectiveReplicas existingPods
  let p : Progress :=
    { actionTaken, inProgress := others.any Pod.disrupted, tracker := rollout }
  let p ← Prog.forEach extraPods p handleDeletedExtra
  let p ← Prog.forEach readyForDeletion p (cleanupReadyForDeletion shard poolName pool replicas)
  if p.actionTaken || p.inProgress || p.tracker.started || extraPods.isEmpty then pure p
  else drainExtraPod r shard existingPods effectiveReplicas extraPods p

/-! ## Phase 3 -/

/-- `topoStrandedPod`: the first pod on another global topology with no live pooler in the shard's;
whatever cannot be read counts as present. -/
def topoStrandedPod (shard : Shard) (existingPods : List Pod) : Action (Option Pod) :=
  let candidates := (sortByName existingPods).filter fun pod => podTopoDrifted pod shard
  if candidates.isEmpty then pure none
  else (listDisruptionPods shard).bindResult fun
    | .error _ => pure none
    | .ok shardPods =>
      if shardPods.any Pod.disrupted then pure none
      else do
        let i ← Prog.answer
        match i.topology with
        | none => pure none
        | some store =>
          match livePoolerPods store shard (candidates.map Pod.name) with
          | .error _ => pure none
          | .ok live => pure (candidates.find? fun pod => !live.contains pod.name)

/-- The names of the postgres actions a restart would throw away. -/
def discardedAction : PostgresAction → Option String
  | .restoringFromBackup => some "POSTGRES_ACTION_RESTORING_FROM_BACKUP"
  | .creatingFirstBackup => some "POSTGRES_ACTION_CREATING_FIRST_BACKUP"
  | _ => none

/-- `unreadyReplacementBlocked`: why a pod may not be replaced now, and whether its cell needs a
surge. -/
def unreadyReplacementBlocked (shard : Shard) (preflight : Preflight) (pod : Pod) (extra : Bool) :
    Action (Option String × Bool) :=
  let observation := preflight.observation
  match if extra then none else (observation.postgresAction r.consensus pod.name).bind discardedAction with
  | some action => pure (some ("pooler reports in-flight postgres action " ++ action), false)
  | none => do
    let serving (p : Pod) := !p.disrupted && observation.serving r.consensus p.name
    let needsSurge := requiresTwoCellMaintenanceSurge shard &&
      !preflight.pods.any fun p => p.name != pod.name && p.cell == pod.cell && serving p
    let capacity ← if observation.serving r.consensus pod.name then
        maintenanceCapacityWithout shard pod.cell pod.name serving
      else pure true
    if !capacity then
      pure (some ("too few serving poolers would remain in the shard or in cell " ++ pod.cell),
        needsSurge)
    else do
      match ← r.disruptionCheck shard preflight pod with
      | .error e => pure (some e.message, needsSurge && e.insufficientRemainder)
      | .ok () => pure (none, false)

/-- `requestMaintenanceSurge`: temporary capacity for the cell of a pod that is its last to
serve. -/
def requestMaintenanceSurge (shard : Shard) (pod : Pod) (rollout : RolloutTracker) :
    Action RolloutTracker :=
  if !requiresTwoCellMaintenanceSurge shard || rollout.hasSurgeStarted pod.cell then pure rollout
  else match shard.pool? pod.pool with
    | none => pure rollout
    | some pool => do
      let cellPods ← listCellPoolers shard pod.cell
      if cellPods.any (isActiveMaintenanceSurge shard) then pure rollout
      else do
        let pvcs ← context ("list PVCs for maintenance surge in cell " ++ pod.cell)
          (listPVCs .cached (poolSelector shard pod.pool pod.cell))
        createOrAdoptMaintenanceSurge shard pod.pool pod.cell pool
          (cellPods.filter (·.pool == pod.pool)) pvcs (poolReplicas pool)
        pure (rollout.setSurgeStarted pod.cell)

/-- How the attempts of `replaceUnreadyDriftedPod` end: a drain was requested, or the first reason
and the first pod that asks for a surge. -/
structure Attempts where
  drained : Bool := false
  firstBlock : String := ""
  surgeFor : Option Pod := none

/-- The candidates in order until one may be replaced. -/
def replaceFirst (shard : Shard) (preflight : Preflight) (isExtra : String → Bool) :
    List Pod → Attempts → Action Attempts
  | [], a => pure a
  | pod :: pods, a => do
    let (blocked, needsSurge) ←
      unreadyReplacementBlocked r shard preflight pod (isExtra pod.name)
    let surgeFor := if needsSurge then a.surgeFor.or (some pod) else a.surgeFor
    match blocked with
    | some reason =>
      let firstBlock := if a.firstBlock = "" then
          "not replacing pod " ++ pod.name ++ ": " ++ reason
        else a.firstBlock
      replaceFirst shard preflight isExtra pods { a with firstBlock, surgeFor }
    | none => do
      context ("failed to initiate drain for pod " ++ pod.name) (initiateDrain pod)
      pure { a with drained := true }

/-- The candidates of `replaceUnreadyDriftedPod` in the order they are tried. -/
def replacementCandidates (shard : Shard) (pods : List Pod) : List Pod :=
  let desired := classifyDesiredPods shard pods
  unreadyExtras shard pods ++ desired.unready ++
    match desired.primary with
    | none => []
    | some primary => desired.ready ++ [primary]

/-- The part of `replaceUnreadyDriftedPod` behind a preflight. -/
def replaceObserved (shard : Shard) (pods : List Pod) (preflight : Preflight)
    (rollout : RolloutTracker) : Action RolloutTracker :=
  let current := (classifyDesiredPods shard pods).current
  match current.find? fun pod => !preflight.observation.serving r.consensus pod.name with
  | some pod =>
    pure (rollout.wait.block ("pod " ++ pod.name ++
      " on the desired spec is not serving; not replacing more pods onto it"))
  | none => do
    let extras := (unreadyExtras shard pods).map Pod.name
    let a ← replaceFirst r shard preflight extras.contains (replacementCandidates shard pods) {}
    if a.drained then pure rollout.setStarted
    else do
      let rollout ← match a.surgeFor with
        | some pod => requestMaintenanceSurge shard pod rollout
        | none => pure rollout
      pure (rollout.wait.block a.firstBlock)

/-- `replaceUnreadyDriftedPod`: starts the replacement of at most one pod while a drifted pod is not
Ready; reports whether there is one. Nothing is replaced while a desired pod is missing or a pod on
the desired spec is not Ready and serving. -/
def replaceUnreadyDriftedPod (shard : Shard) (rollout : RolloutTracker) :
    Action (Bool × RolloutTracker) :=
  if rollout.unreadyDecided then pure (rollout.unreadyPending, rollout)
  else do
    let rollout := { rollout with unreadyDecided := true }
    let pods ← context "listing pool pods for not-Ready replacement" (listDisruptionPods shard)
    let desired := classifyDesiredPods shard pods
    if desired.unready.isEmpty && desired.primary.isNone then pure (false, rollout)
    else
      let rollout := { rollout with unreadyPending := true }
      if rollout.waitingForRecovery then pure (true, { rollout with unreadyDeferred := true })
      else match missingDesiredPods shard pods with
        | missing :: _ =>
          pure (true, rollout.block ("desired pod " ++ missing ++
            " does not exist yet; not replacing more pods until it is up"))
        | [] =>
          match desired.current.find? fun pod => !isPodReady pod with
          | some pod =>
            pure (true, rollout.block ("pod " ++ pod.name ++
              " on the desired spec is not Ready; not replacing more pods onto it"))
          | none => do
            let (preflight, unobservable) ← r.observeDisruption shard (some pods)
            match preflight with
            | none =>
              pure (true, if unobservable = "" then rollout.wait
                else rollout.wait.block ("cannot observe the data plane: " ++ unobservable))
            | some preflight => do
              let rollout ← replaceObserved r shard pods preflight rollout
              pure (true, rollout)

/-- One drifted pod behind the gates of a rollout; `failure` is the text of a failed request. -/
def drainDriftedPod (shard : Shard) (cellName failure : String) (pod : Pod)
    (rollout : RolloutTracker) : Action RolloutTracker := do
  if !(← hasMaintenanceCapacityForPod shard cellName pod.name) then pure rollout
  else do
    let (allowed, rollout) ← r.canStartDisruption shard pod rollout
    if !allowed then pure rollout
    else do
      context (failure ++ pod.name) (initiateDrain pod)
      pure rollout.setStarted

def driftedPods (shard : Shard) (poolName cellName : String) (existingPods : List Pod) : List Pod :=
  (sortByName existingPods).filter fun pod =>
    podNeedsUpdate pod shard poolName cellName ((resolvePodIndex pod.name).getD 0)

/-- The rollout of Ready pods: the first drifted replica, and the primary once no other is left. -/
def rollReadyPod (shard : Shard) (poolName cellName : String) (existingPods : List Pod)
    (rollout : RolloutTracker) : Action RolloutTracker :=
  let drifted := driftedPods shard poolName cellName existingPods
  match drifted.find? fun pod => resolvePodRole shard pod.name != some .primary with
  | some pod =>
    drainDriftedPod r shard cellName "failed to initiate drain for drifted pod " pod rollout
  | none =>
    match drifted.getLast? with
    | some primary =>
      if primary.draining then pure rollout
      else drainDriftedPod r shard cellName "failed to request drain for primary pod " primary rollout
    | none => pure rollout

/-- `handleRollingUpdates`: starts the replacement of at most one drifted pod. -/
def handleRollingUpdates (shard : Shard) (poolName cellName : String) (existingPods : List Pod)
    (driftedCount : ℕ) (p : Progress) : Action RolloutTracker :=
  let rollout := p.tracker
  if p.actionTaken || p.inProgress || driftedCount == 0 || rollout.started then pure rollout
  else do
    match ← topoStrandedPod shard existingPods with
    | some pod => do
      let terminating ←
        context "check for mounted PVCs being deleted" (mountedTerminatingPVCs shard)
      if !terminating.isEmpty then pure rollout
      else do
        context ("failed to initiate drain for topology-stranded pod " ++ pod.name)
          (initiateDrain pod)
        pure rollout.setStarted
    | none => do
      let (handled, rollout) ← replaceUnreadyDriftedPod r shard rollout
      if handled then pure rollout
      else do
        if !(← isShardHealthy shard) then pure rollout
        else rollReadyPod r shard poolName cellName existingPods rollout

/-! ## A visit -/

/-- `reconcilePoolPods` up to the rolling update. A visit that acts on the surges of the cell ends
there. -/
def earlierPhases (shard : Shard) (poolName cellName : String) (pool : PoolSpec)
    (rollout : RolloutTracker) : Action (RolloutTracker ⊕ Creation × Progress) := do
  let where_ := poolName ++ " cell " ++ cellName
  let selector := poolSelector shard poolName cellName
  let pods ← context ("failed to list pods for pool " ++ where_) (listPods .cached selector)
  let pvcs ← context ("failed to list PVCs for pool " ++ where_) (listPVCs .cached selector)
  let replicas := poolReplicas pool
  let surge ← reconcileCellMaintenanceSurge shard poolName cellName pool pods pvcs replicas rollout
  if surge.actionTaken then pure (.inl surge.tracker)
  else do
    let effectiveReplicas := replicas + surge.activeLocalSurges
    let st ← createMissingResources r shard poolName cellName pool effectiveReplicas
      { pods, pvcs, tracker := surge.tracker }
    let p ← handleScaleDown r shard poolName pool st.pods replicas effectiveReplicas st.actionTaken
      st.tracker
    pure (.inr (st, p))

/-- `reconcilePoolPods`: one visit of a pool in a cell. -/
def reconcilePoolPods (shard : Shard) (poolName cellName : String) (pool : PoolSpec)
    (rollout : RolloutTracker) : Action RolloutTracker :=
  earlierPhases r shard poolName cellName pool rollout >>= fun
    | .inl tracker => pure tracker
    | .inr (st, p) => handleRollingUpdates r shard poolName cellName st.pods st.driftedCount p

/-- `reconcilePool`: the visits of one pool, each followed by its headless Service. -/
def reconcilePool (shard : Shard) (poolName : String) (pool : PoolSpec) (rollout : RolloutTracker) :
    Action RolloutTracker :=
  if pool.cells.isEmpty then
    .fail (Failure.new ("pool " ++ poolName ++
      " has no cells specified - cannot deploy without cell information"))
  else Prog.forEach pool.cells rollout fun rollout cellName => do
    let rollout ← context ("failed to reconcile pool pods for cell " ++ cellName)
      (reconcilePoolPods r shard poolName cellName pool rollout)
    context ("failed to reconcile pool headless Service for cell " ++ cellName) otherRequest
    pure rollout

end MultigresOperator

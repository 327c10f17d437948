import MultigresOperator.Shard.Preflight

/-!
# Lite shards

A Lite shard is one pod and its data PVC. It has no rolling update, no drain and no data plane: a
pod whose spec drifts is deleted and created again, unless a PVC it mounts is being deleted.
-/

namespace MultigresOperator

open Effects MultigresOperator.Action

/-- `litePool`: the only pool and cell of a Lite shard. -/
def litePool (shard : Shard) : Except Failure (String × String × PoolSpec) :=
  match shard.spec.pools with
  | [(poolName, pool)] =>
    match pool.cells with
    | [cellName] => .ok (poolName, cellName, pool)
    | cells => .error (Failure.new ("lite pool " ++ poolName ++ " has " ++ toString cells.length ++
        " cells, want 1"))
  | pools => .error (Failure.new ("lite shard " ++ shard.name ++ " has " ++ toString pools.length ++
      " pools, want 1"))

/-- `buildLitePod`: the desired pod. -/
def buildLitePod (shard : Shard) (poolName cellName : String) : Option Pod :=
  (shard.spec.litePodHash poolName cellName).map fun hash =>
    { name := buildPoolPodName shard poolName cellName 0
      uid := 0
      labels := buildPoolLabelsWithCell shard poolName cellName
      claims := poolPodClaims shard poolName cellName 0
      specHash := some hash }

/-- `validateLiteResourceIdentity`: no pod and no data PVC of another identity is in the way. -/
def validateLiteResourceIdentity (shard : Shard) (poolName cellName : String) : Action Unit := do
  let selector : Labels := [(.cluster, shard.clusterName), (.appComponent, poolComponentName)]
  let pods ← listPods .direct selector
  match pods.find? (·.name != buildPoolPodName shard poolName cellName 0) with
  | some pod => .fail (Failure.new ("lite pool identity is immutable: existing pod " ++ pod.name ++
      " would be replaced by a different identity"))
  | none => do
    let pvcs ← listPVCs .direct selector
    match pvcs.find? fun pvc => pvc.labels.get .pool != "" &&
        pvc.name != buildPoolDataPVCName shard poolName cellName 0 with
    | some pvc => .fail (Failure.new ("lite pool identity is immutable: existing data PVC " ++
        pvc.name ++ " would be replaced by a different identity"))
    | none => pure ()

/-- `reconcileLitePVCMetadata`: the orphan label is cleared before ownership is restored. -/
def reconcileLitePVCMetadata (shard : Shard) (poolName cellName : String) : Action Unit := do
  let pvcName := buildPoolDataPVCName shard poolName cellName 0
  match ← context "read Lite data PVC metadata" (getPVC .cached pvcName) with
  | none => pure ()
  | some pvc =>
    if pvc.terminating then pure ()
    else do
      let _ ← context ("clear orphan label on Lite data PVC " ++ pvc.name) (reclaimPVC pvc)
      pure ()
  reconcilePVCOwnerRefs shard

/-- `ensureLiteDataPVC`: creates or expands the data PVC; one being deleted is left alone. -/
def ensureLiteDataPVC (shard : Shard) (poolName cellName : String) (pool : PoolSpec) :
    Action Unit := do
  let name := buildPoolDataPVCName shard poolName cellName 0
  match ← context ("failed to get PVC " ++ name) (getPVC .cached name) with
  | some existing =>
    if existing.terminating then pure ()
    else do
      let _ ← expandPVCIfNeeded existing pool
      pure ()
  | none =>
    match buildPoolDataPVC shard poolName cellName pool 0 with
    | none => .fail (Failure.new ("failed to build PVC " ++ name))
    | some pvc => context ("failed to create PVC " ++ name) (createPVC pvc)

/-- Whether a live Lite pod on the desired spec is restarted for its filesystem to grow. -/
def liteNeedsResize (shard : Shard) (poolName cellName : String) (existing : Pod) : Action Bool :=
  if !isPodReady existing then pure false
  else do
    let pvcName := buildPoolDataPVCName shard poolName cellName 0
    match ← context ("failed to get PVC " ++ pvcName ++ " for filesystem resize")
        (getPVC .cached pvcName) with
    | none => pure false
    | some pvc => pure (pvcNeedsFilesystemResize [pvc] pvcName)

/-- `ensureLitePod`: creates the pod when it is missing, deletes it when it is terminal, drifted or
waits for a resize. -/
def ensureLitePod (shard : Shard) (poolName cellName : String) : Action Unit :=
  match buildLitePod shard poolName cellName with
  | none => .fail (Failure.new "failed to build Lite pod")
  | some desired => do
    match ← context ("failed to get pod " ++ desired.name) (getPod .cached desired.name) with
    | none => do
      match ← claimPodVolumes desired.claims with
      | some _ => pure ()
      | none => context ("failed to create pod " ++ desired.name) (createPod desired)
    | some existing =>
      if existing.terminating then pure ()
      else do
        match ← podTerminatingClaim existing.claims with
        | some _ => pure ()
        | none => do
          let replace ← if existing.terminal || existing.specHash != desired.specHash then pure true
            else liteNeedsResize shard poolName cellName existing
          if replace then
            context ("failed to delete pod " ++ existing.name)
              (deletePod existing.name (some existing.uid))
          else pure ()

/-- `recoverLitePod`: while the topology is unavailable only a missing or terminal pod is replaced,
on an existing data volume. -/
def recoverLitePod (shard : Shard) (poolName cellName : String) : Action Unit := do
  match ← context "read Lite recovery PVC"
      (getPVC .cached (buildPoolDataPVCName shard poolName cellName 0)) with
  | none => pure ()
  | some pvc =>
    if pvc.terminating || !pvc.bound then pure ()
    else do
      match ← context "read Lite recovery pod"
          (getPod .cached (buildPoolPodName shard poolName cellName 0)) with
      | none => ensureLitePod shard poolName cellName
      | some pod => if pod.terminal then ensureLitePod shard poolName cellName else pure ()

/-- `reconcileLite`: a pass of a Lite shard after the prelude every shard runs. -/
def reconcileLite (shard : Shard) : Action Unit :=
  match litePool shard with
  | .error e => .fail e
  | .ok (poolName, cellName, pool) => do
    validateLiteResourceIdentity shard poolName cellName
    reconcileSharedBackupPVC shard
    let i ← Prog.answer
    if i.storageClassMissing then pure ()
    else do
      otherRequest
      reconcileLitePVCMetadata shard poolName cellName
      let i ← Prog.answer
      match i.registration with
      | .failed text => .fail (Failure.new text)
      | .unavailable => recoverLitePod shard poolName cellName
      | .registered => do
        ensureLiteDataPVC shard poolName cellName pool
        ensureLitePod shard poolName cellName

end MultigresOperator

import MultigresOperator.Shard.Environment
import MultigresOperator.Shard.Health

/-!
# The volumes of the shard's pods

The builders of pool pods and of their PVCs, and the paths that put a PVC into service, expand it,
hold on to it while it is being deleted, and hand it to garbage collection.

## Main definitions

* `buildPoolPod`, `buildPoolDataPVC`: the objects of one index of a pool in a cell
* `mountedTerminatingPVCs`: the gate of every voluntary disruption
* `podTerminatingClaim`, `claimPodVolumes`: the gates of a pod delete and of a pod create
* `markOrphan`, `clearOrphan`, `reclaimPVC`: the orphan label
* `reconcilePVCOwnerRefs`, `reconcileSharedBackupPVC`: the shard-wide PVC phases
-/

namespace MultigresOperator

open Effects MultigresOperator.Action

/-! ## Builders -/

/-- The PVCs a pool pod mounts: its data PVC, and the shared backup PVC when backups go there. -/
def poolPodClaims (shard : Shard) (poolName cellName : String) (index : ℕ) : List String :=
  buildPoolDataPVCName shard poolName cellName index ::
    if shard.spec.backup = some .filesystem then [buildSharedBackupPVCName shard] else []

/-- `BuildPoolPod`: the desired pod of an index. -/
def buildPoolPod (shard : Shard) (poolName cellName : String) (index : ℕ) : Option Pod :=
  (shard.spec.podHash poolName cellName index).map fun hash =>
    { name := buildPoolPodName shard poolName cellName index
      uid := 0
      labels := buildPoolLabelsWithCell shard poolName cellName
      claims := poolPodClaims shard poolName cellName index
      topoFlags := some shard.spec.globalTopoServer
      specHash := some hash }

/-- `ShouldDeletePVCOnShardRemoval`: the effective policy of a pool. -/
def shouldDeletePVCOnShardRemoval (shard : Shard) (pool : PoolSpec) : Bool :=
  (mergePVCDeletionPolicy pool.pvcDeletionPolicy shard.spec.pvcDeletionPolicy).any
    (·.whenDeleted == .delete)

/-- `ShouldDeleteShardLevelPVCOnRemoval`: the policy of PVCs that belong to no pool. -/
def shouldDeleteShardLevelPVCOnRemoval (shard : Shard) : Bool :=
  shard.spec.pvcDeletionPolicy.any (·.whenDeleted == .delete)

def controllerRef (shard : Shard) : OwnerRef where
  group := "multigres.com"
  kind := "Shard"
  name := shard.name
  uid := shard.uid
  controller := true

/-- The owner references of a PVC built for the shard. -/
def builtOwnerRefs (shard : Shard) (deleteOnShardRemoval : Bool) : List OwnerRef :=
  if deleteOnShardRemoval then [controllerRef shard] else []

/-- `BuildPoolDataPVC`: the data PVC of an index; the storage size may not parse. -/
def buildPoolDataPVC (shard : Shard) (poolName cellName : String) (pool : PoolSpec) (index : ℕ) :
    Option PVC :=
  pool.storageRequest.map fun request =>
    { name := buildPoolDataPVCName shard poolName cellName index
      uid := 0
      labels := (.cluster, shard.clusterName) :: buildPoolLabelsWithCell shard poolName cellName
      ownerRefs := builtOwnerRefs shard (shouldDeletePVCOnShardRemoval shard pool)
      storageClass := pool.storageClass
      request := request }

/-- `BuildSharedBackupPVC`: the PVC all pooler pods of the shard keep their backups on. -/
def buildSharedBackupPVC (shard : Shard) : Option PVC :=
  shard.spec.backupStorageRequest.map fun request =>
    { name := buildSharedBackupPVCName shard
      uid := 0
      labels := buildStandardLabels shard.clusterName poolComponentName ++ shardSelector shard
      ownerRefs := builtOwnerRefs shard (shouldDeleteShardLevelPVCOnRemoval shard)
      storageClass := shard.spec.backupStorageClass
      request := request }

/-! ## The orphan label -/

/-- `MarkOrphan`: labels the PVC unless it is labelled, and strips an owner's references. -/
def markOrphan (pvc : PVC) (ownerUID : ℕ) (time : Time) : Action Unit :=
  let filtered := pvc.ownerRefs.filter (·.uid != ownerUID)
  let patch : PVCPatch :=
    { orphanSince := if pvc.orphaned then none else some (some (.since time))
      ownerRefs := if filtered.length ≠ pvc.ownerRefs.length then some filtered else none }
  if patch.orphanSince.isNone && patch.ownerRefs.isNone then pure ()
  else Prog.perform (.patchPVC pvc.name patch)

/-- `ClearOrphan`: puts a labelled PVC back into service, under the resource version just read. -/
def clearOrphan (pvc : PVC) : Action PVC :=
  if pvc.terminating then .fail (Failure.new ("PVC is being deleted: " ++ pvc.name))
  else if pvc.orphaned then do
    Prog.perform (.patchPVC pvc.name
      { orphanSince := some none, resourceVersion := some pvc.resourceVersion })
    pure { pvc with orphanSince := none }
  else pure pvc

/-- `reclaimPVC`: clears the orphan label after a fresh read; reports a PVC being deleted. -/
def reclaimPVC (pvc : PVC) : Action (Bool × PVC) :=
  if !pvc.orphaned then pure (false, pvc)
  else do
    match ← context ("get PVC " ++ pvc.name) (getPVC .direct pvc.name) with
    | none => .fail ⟨.notFound, "get PVC " ++ pvc.name ++ ": not found"⟩
    | some fresh =>
      if fresh.terminating then pure (true, fresh)
      else do
        let cleared ← clearOrphan fresh
        pure (false, cleared)

/-! ## PVCs being deleted -/

/-- `mountedTerminatingPVCs`: the shard's PVCs that are being deleted under a shard pod. -/
def mountedTerminatingPVCs (shard : Shard) : Action (List String) := do
  let pvcs ← context "list shard PVCs" (listPVCs .direct (shardSelector shard))
  if !pvcs.any PVC.terminating then pure []
  else do
    let pods ← context "list shard pods" (listPods .direct (shardSelector shard))
    let time ← now
    pure (terminatingClaimsInUse pods pvcs time)

/-- `podTerminatingClaim`: the first PVC of a pod that is being deleted, read by name. -/
def podTerminatingClaim (claims : List String) : Action (Option String) :=
  Prog.firstM claims fun claim => do
    match ← context ("get PVC " ++ claim) (getPVC .direct claim) with
    | none => pure none
    | some pvc => pure (if pvc.terminating then some pvc.name else none)

/-- `claimPodVolumes`: readies the PVCs of a pod about to be created; reports the first one being
deleted, and clears the orphan label of the ones before it. -/
def claimPodVolumes (claims : List String) : Action (Option String) :=
  Prog.firstM claims fun claim => do
    match ← context ("get PVC " ++ claim) (getPVC .direct claim) with
    | none => pure none
    | some pvc =>
      if pvc.terminating then pure (some pvc.name)
      else do
        let _ ← context ("reclaim PVC " ++ pvc.name) (clearOrphan pvc)
        pure none

/-! ## Expansion -/

/-- `storageRequestFor`: the request written to an existing PVC, and why it is not the one wanted. -/
def storageRequestFor (pvc : PVC) (want : ℕ) : Action (ℕ × String) :=
  if want = pvc.request then pure (want, "")
  else if want < pvc.request then pure (pvc.request, "a PVC cannot shrink")
  else if !pvc.bound then pure (pvc.request, "only a bound PVC can be expanded")
  else match pvc.storageClass with
    | none => pure (pvc.request, "the PVC has no StorageClass, so it cannot be expanded")
    | some className => do
      let expandable ← context ("failed to get StorageClass \"" ++ className ++ "\"")
        (Prog.fetch .cached fun s => s.storageClasses.lookup className)
      match expandable with
      | none => pure (pvc.request, "StorageClass \"" ++ className ++ "\" does not exist")
      | some true => pure (want, "")
      | some false =>
        pure (pvc.request, "StorageClass \"" ++ className ++ "\" does not allow volume expansion")

/-- `expandPVCIfNeeded`: raises the storage request to the pool's. -/
def expandPVCIfNeeded (pvc : PVC) (pool : PoolSpec) : Action PVC :=
  match pool.storageRequest with
  | none => .fail (Failure.new "invalid storage size")
  | some want => do
    let (desired, _) ← storageRequestFor pvc want
    if desired ≤ pvc.request then pure pvc
    else do
      context ("failed to expand PVC " ++ pvc.name)
        (Prog.perform (.patchPVC pvc.name { request := some desired }))
      pure { pvc with request := desired }

/-- `pvcNeedsFilesystemResize`: the PVC waits for a pod restart to grow its filesystem. -/
def pvcNeedsFilesystemResize (pvcs : List PVC) (pvcName : String) : Bool :=
  (pvcs.find? (·.name == pvcName)).any (·.fileSystemResizePending)

/-! ## Releasing -/

/-- `cleanupPodPVC`: hands a drained pod's data PVC to garbage collection. -/
def cleanupPodPVC (shard : Shard) (pod : Pod) (poolName : String) : Action Unit :=
  match resolvePodIndex pod.name with
  | none => pure ()
  | some index => do
    let pvcName := buildPoolDataPVCName shard poolName pod.cell index
    match ← context ("failed to fetch PVC " ++ pvcName ++ " for cleanup") (getPVC .cached pvcName) with
    | none => pure ()
    | some pvc => do
      let time ← now
      context ("failed to mark PVC " ++ pvcName ++ " orphan") (markOrphan pvc shard.uid time)

/-- `releaseDrainedPodPVC`: the WhenScaled policy, Delete unless the spec says otherwise, for a pod
past the desired replicas. -/
def releaseDrainedPodPVC (shard : Shard) (pod : Pod) (poolName : String) (pool : PoolSpec)
    (replicas : ℕ) : Action Unit :=
  let merged := mergePVCDeletionPolicy pool.pvcDeletionPolicy shard.spec.pvcDeletionPolicy
  let whenScaled : RetentionPolicy := match merged with
    | some policy => if policy.whenScaled = .unset then .delete else policy.whenScaled
    | none => .delete
  if whenScaled = .delete then
    match resolvePodIndex pod.name with
    | none => pure ()
    | some index =>
      if replicas ≤ index then cleanupPodPVC shard pod poolName else pure ()
  else pure ()

/-- `shardPVCShouldBeCleaned`: the PVC is the shard's own and its policy is Delete. -/
def shardPVCShouldBeCleaned (shard : Shard) (pvc : PVC) : Bool :=
  isShardBuiltPVC shard pvc &&
    if pvc.labels.get .pool = "" then shouldDeleteShardLevelPVCOnRemoval shard
    else match shard.pool? (pvc.labels.get .pool) with
      | none => shouldDeleteShardLevelPVCOnRemoval shard
      | some pool => shouldDeletePVCOnShardRemoval shard pool

/-- `releasePVCFromShard`: removes the Shard's references from a PVC. -/
def releasePVCFromShard (shard : Shard) (pvc : PVC) : Action Unit :=
  if !pvc.ownerRefs.any (·.uid == shard.uid) then pure ()
  else
    context ("failed to remove Shard ownerRef from PVC " ++ pvc.name)
      (Prog.performUnless Failure.isNotFound
        (.patchPVC pvc.name { ownerRefs := some (pvc.ownerRefs.filter (·.uid != shard.uid)) }))

/-- `referSameObject`: the references agree in group, kind and name, whatever the UIDs. -/
def OwnerRef.refersSame (a b : OwnerRef) : Bool :=
  a.group == b.group && a.kind == b.kind && a.name == b.name

/-- `SetControllerReference`: refused when another object controls the PVC. A reference to an object of
the Shard's kind and name is replaced in its place. -/
def setControllerReference (shard : Shard) (pvc : PVC) : Except Failure (List OwnerRef) :=
  let ref := controllerRef shard
  if (pvc.ownerRefs.find? (·.controller)).any (!·.refersSame ref) then
    .error (Failure.new "already owned by another controller")
  else match pvc.ownerRefs.findIdx? (·.refersSame ref) with
    | none => .ok (pvc.ownerRefs ++ [ref])
    | some i => .ok (pvc.ownerRefs.set i ref)

/-- `reconcilePVCOwnerRefs`: references follow the deletion policy, orphans are left alone. -/
def reconcilePVCOwnerRefs (shard : Shard) : Action Unit := do
  let pvcs ← context "failed to list PVCs for ownerRef reconciliation"
    (listPVCs .cached (shardSelector shard))
  Prog.forEach pvcs () fun _ pvc =>
    let hasOwnerRef := pvc.ownerRefs.any (·.uid == shard.uid)
    let wantOwnerRef := shardPVCShouldBeCleaned shard pvc
    if pvc.orphaned then pure ()
    else if wantOwnerRef && !hasOwnerRef then
      match setControllerReference shard pvc with
      | .error e => .fail (e.wrap ("failed to add ownerRef to PVC " ++ pvc.name))
      | .ok refs =>
        context ("failed to patch PVC " ++ pvc.name ++ " ownerRef")
          (Prog.perform (.patchPVC pvc.name { ownerRefs := some refs }))
    else if !wantOwnerRef && hasOwnerRef then releasePVCFromShard shard pvc
    else pure ()

/-- `reconcileSharedBackupPVC`: applies the shared backup PVC unless it is being deleted. -/
def reconcileSharedBackupPVC (shard : Shard) : Action Unit :=
  if shard.spec.backup = some .s3 then pure ()
  else match buildSharedBackupPVC shard with
    | none => .fail (Failure.new "failed to build shared backup PVC")
    | some desired => do
      let apply (pvc : PVC) : Action Unit :=
        context "failed to apply shared backup PVC" (Prog.perform (.applyPVC pvc))
      match ← context "failed to get shared backup PVC" (getPVC .cached desired.name) with
      | none => apply desired
      | some existing =>
        if existing.terminating then pure ()
        else do
          let (terminating, pvc) ←
            context "failed to reclaim shared backup PVC" (reclaimPVC existing)
          if terminating then pure ()
          else do
            let (request, _) ← storageRequestFor pvc desired.request
            apply { desired with request := request, storageClass := pvc.storageClass }

end MultigresOperator

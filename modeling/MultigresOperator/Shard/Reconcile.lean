import MultigresOperator.Shard.DataPlane
import MultigresOperator.Shard.Lite
import MultigresOperator.Shard.PoolPods

/-!
# A reconcile pass

A pass of a Shard that is neither being deleted nor pending deletion. The pools are visited in the
order of a Go map, so the order is a parameter of the pass.
-/

namespace MultigresOperator

open Effects MultigresOperator.Action

variable (r : Reconciler)

/-- The pools of a pass in some order, with the tracker they share. -/
def reconcilePools (shard : Shard) (pools : List (String × PoolSpec)) : Action RolloutTracker :=
  Prog.forEach pools {} fun rollout (poolName, pool) => reconcilePool r shard poolName pool rollout

/-- The Shard gets its finalizer before anything else is done for it. -/
def ensureFinalizer : Action Unit := do
  if ← Prog.fetch .cached fun s => s.shardFinalizer then pure ()
  else context "failed to add shard finalizer" (Prog.perform (.setFinalizer true))

/-- `Reconcile` of a Shard that stays. The requests for ConfigMaps, Secrets, Deployments, Services
and the status are left out; each may be refused. -/
def reconcileShard (shard : Shard) (pools : List (String × PoolSpec)) : Action Unit := do
  ensureFinalizer
  otherRequest
  let i ← Prog.answer
  if i.storageClassMissing then pure ()
  else if shard.spec.mode = .lite then reconcileLite shard
  else do
    otherRequest
    reconcileSharedBackupPVC shard
    let i ← Prog.answer
    if i.storageClassMissing then pure ()
    else do
      otherRequest
      let _ ← reconcilePools r shard pools
      reconcilePVCOwnerRefs shard
      reconcileDataPlane r shard

end MultigresOperator

import MultigresOperator.Shard.Lite

/-!
# Requests on PVCs

The phases that only create and patch PVCs leave every pod as it is and start the deletion of no
PVC. That is said once for the requests, and each phase only has to be seen to make no other.

## Main results

* `calm_of_onPVC`: such a request is calm
* `Ensures.of_onPVC`: so is a program that makes no other
* `onPVC_reclaimPVC`, …, `onPVC_reconcileSharedBackupPVC`: the phases
-/

namespace MultigresOperator

open Effects MultigresOperator.Action Prog

/-- A request that creates or patches a PVC, or sets the finalizer. -/
def Op.OnPVC : Op → Prop
  | .createPVC pvc | .applyPVC pvc => pvc.deletionTimestamp = none
  | .patchPVC _ _ | .setFinalizer _ => True
  | _ => False

/-- The pods are the same and no further PVC is being deleted. -/
structure Calm (s t : Server) : Prop where
  pods : t.pods = s.pods
  terminating : ∀ pvc ∈ t.pvcs, pvc.terminating = true →
    ∃ old ∈ s.pvcs, old.name = pvc.name ∧ old.terminating = true

theorem Calm.refl (s : Server) : Calm s s := ⟨rfl, fun pvc h ht => ⟨pvc, h, rfl, ht⟩⟩

variable {s t : Server} {pvc : PVC}

theorem Calm.trans {u : Server} (h₁ : Calm s t) (h₂ : Calm t u) : Calm s u := by
  refine ⟨h₂.pods.trans h₁.pods, fun pvc hpvc ht => ?_⟩
  obtain ⟨mid, hmid, hname, ht⟩ := h₂.terminating pvc hpvc ht
  obtain ⟨old, hold, hname', ht⟩ := h₁.terminating mid hmid ht
  exact ⟨old, hold, hname'.trans hname, ht⟩

theorem Calm.claims (h : Calm s t) {claims : List String}
    (hs : ∀ pvc ∈ s.pvcs, pvc.name ∈ claims → pvc.terminating = false) :
    ∀ pvc ∈ t.pvcs, pvc.name ∈ claims → pvc.terminating = false := by
  intro pvc hpvc hclaim
  by_contra ht
  obtain ⟨old, hold, hname, ht⟩ := h.terminating pvc hpvc (by simpa using ht)
  simp [hs old hold (hname ▸ hclaim)] at ht

/-- A PVC that is not being deleted, or has the name and the deletion timestamp of one of before. -/
def PVC.Kept (s : Server) (pvc : PVC) : Prop :=
  pvc.deletionTimestamp = none ∨
    ∃ old ∈ s.pvcs, old.name = pvc.name ∧ old.deletionTimestamp = pvc.deletionTimestamp

theorem PVC.kept_of_mem (h : pvc ∈ s.pvcs) : pvc.Kept s :=
  .inr ⟨pvc, h, rfl, rfl⟩

theorem PVC.kept_modify {name : String} {f : PVC → PVC}
    (hf : ∀ pvc, (f pvc).name = pvc.name ∧ (f pvc).deletionTimestamp = pvc.deletionTimestamp)
    (h : ∃ old ∈ s.pvcs, pvc = if old.name = name then f old else old) : pvc.Kept s := by
  obtain ⟨old, hold, rfl⟩ := h
  split
  · exact .inr ⟨old, hold, (hf old).1.symm, (hf old).2.symm⟩
  · exact PVC.kept_of_mem hold

theorem calm_of_kept (hpods : t.pods = s.pods) (hpvcs : ∀ pvc ∈ t.pvcs, pvc.Kept s) : Calm s t := by
  refine ⟨hpods, fun pvc hpvc ht => ?_⟩
  rcases hpvcs pvc hpvc with hnone | ⟨old, hold, hname, hdel⟩
  · simp [PVC.terminating, hnone] at ht
  · exact ⟨old, hold, hname, by rwa [PVC.terminating, hdel]⟩

theorem calm_of_onPVC {o : Op} (ho : o.OnPVC) (h : s.exec o = .ok t) : Calm s t := by
  cases o with
  | createPVC pvc =>
    have ⟨_, hpvcs, hpods⟩ := Server.exec_createPVC h
    refine calm_of_kept hpods fun p hp => ?_
    rcases (hpvcs p).mp hp with rfl | hp
    · exact .inl ho
    · exact PVC.kept_of_mem hp
  | patchPVC name patch =>
    have ⟨_, hpvcs, hpods⟩ := Server.exec_patchPVC h
    exact calm_of_kept hpods fun p hp =>
      PVC.kept_modify (f := s.patchedPVC patch) (fun _ => ⟨rfl, rfl⟩) ((hpvcs p).mp hp)
  | applyPVC pvc =>
    have ⟨hpods, hpvcs⟩ := Server.exec_applyPVC h
    refine calm_of_kept hpods fun p hp => ?_
    rcases hpvcs p hp with rfl | hold
    · exact .inl ho
    · exact PVC.kept_modify (f := s.appliedPVC pvc) (fun _ => ⟨rfl, rfl⟩) hold
  | setFinalizer present => cases h; exact ⟨rfl, (Calm.refl s).terminating⟩
  | createPod _ => exact ho.elim
  | patchPod _ _ => exact ho.elim
  | deletePod _ _ _ => exact ho.elim
  | deletePVC _ _ _ => exact ho.elim
  | deleteDeployment _ _ => exact ho.elim

theorem Ensures.of_onPVC {B : Server → Answer → Prop} {G : Server → Op → Prop} {α : Type}
    {p : Action α} (h : p.Only Op.OnPVC) (hG : ∀ s o, o.OnPVC → G s o) {Q : α → Server → Prop}
    (hQ : ∀ a t, Calm s t → Q a t) : Ensures B G p Q s :=
  Ensures.of_only Calm.refl Calm.trans (fun s o _ ho hs => ⟨hG s o ho, calm_of_onPVC ho hs⟩) h hQ

/-! ## The phases -/

theorem onPVC_context {α : Type} {text : String} {p : Action α} (h : p.Only Op.OnPVC) :
    (context text p).Only Op.OnPVC := only_mapError h

theorem onPVC_now : now.Only Op.OnPVC := only_bind only_answer fun _ => only_pure

theorem onPVC_clearOrphan (pvc : PVC) : (clearOrphan pvc).Only Op.OnPVC := by
  unfold clearOrphan
  split
  · exact only_fail
  · split
    · exact only_bind (only_perform trivial) fun _ => only_pure
    · exact only_pure

theorem onPVC_claimPodVolumes (claims : List String) : (claimPodVolumes claims).Only Op.OnPVC := by
  refine only_firstM fun claim _ => only_bind (onPVC_context only_fetch) fun found => ?_
  split
  · exact only_pure
  · split
    · exact only_pure
    · exact only_bind (onPVC_context (onPVC_clearOrphan _)) fun _ => only_pure

theorem onPVC_reclaimPVC (pvc : PVC) : (reclaimPVC pvc).Only Op.OnPVC := by
  unfold reclaimPVC
  split
  · exact only_pure
  · refine only_bind (onPVC_context only_fetch) fun fresh => ?_
    split
    · exact only_fail
    · split
      · exact only_pure
      · exact only_bind (onPVC_clearOrphan _) fun _ => only_pure

theorem onPVC_storageRequestFor (pvc : PVC) (want : ℕ) :
    (storageRequestFor pvc want).Only Op.OnPVC := by
  unfold storageRequestFor
  repeat' split
  any_goals exact only_pure
  refine only_bind (onPVC_context only_fetch) fun expandable => ?_
  split <;> exact only_pure

theorem onPVC_expandPVCIfNeeded (pvc : PVC) (pool : PoolSpec) :
    (expandPVCIfNeeded pvc pool).Only Op.OnPVC := by
  unfold expandPVCIfNeeded
  split
  · exact only_fail
  · refine only_bind (onPVC_storageRequestFor _ _) fun (desired, _) => ?_
    dsimp only
    split
    · exact only_pure
    · exact only_bind (onPVC_context (only_perform trivial)) fun _ => only_pure

theorem onPVC_markOrphan (pvc : PVC) (ownerUID : ℕ) (time : Time) :
    (markOrphan pvc ownerUID time).Only Op.OnPVC := by
  unfold markOrphan
  extract_lets filtered patch
  split
  · exact only_pure
  · exact only_perform trivial

theorem onPVC_releaseDrainedPodPVC (shard : Shard) (pod : Pod) (poolName : String)
    (pool : PoolSpec) (replicas : ℕ) :
    (releaseDrainedPodPVC shard pod poolName pool replicas).Only Op.OnPVC := by
  have cleanup : (cleanupPodPVC shard pod poolName).Only Op.OnPVC := by
    unfold cleanupPodPVC
    split
    · exact only_pure
    · refine only_bind (onPVC_context only_fetch) fun pvc => ?_
      split
      · exact only_pure
      · exact only_bind onPVC_now fun _ => onPVC_context (onPVC_markOrphan _ _ _)
  unfold releaseDrainedPodPVC
  extract_lets merged whenScaled
  split
  · split
    · exact only_pure
    · split
      · exact cleanup
      · exact only_pure
  · exact only_pure

theorem onPVC_createPVC (h : pvc.deletionTimestamp = none) :
    (createPVC pvc).Only Op.OnPVC := only_performUnless h

theorem deletionTimestamp_of_buildPoolDataPVC {shard : Shard} {poolName cellName : String}
    {pool : PoolSpec} {index : ℕ}
    (h : buildPoolDataPVC shard poolName cellName pool index = some pvc) :
    pvc.deletionTimestamp = none := by
  obtain ⟨request, _, rfl⟩ := Option.map_eq_some_iff.mp h
  rfl

theorem onPVC_reconcilePVCOwnerRefs (shard : Shard) :
    (reconcilePVCOwnerRefs shard).Only Op.OnPVC := by
  refine only_bind (onPVC_context only_fetch) fun pvcs => only_forEach fun _ pvc _ => ?_
  unfold releasePVCFromShard
  simp only
  repeat' split
  any_goals exact only_pure
  any_goals exact only_fail
  · exact onPVC_context (only_perform trivial)
  · exact onPVC_context (only_performUnless trivial)

theorem onPVC_reconcileSharedBackupPVC (shard : Shard) :
    (reconcileSharedBackupPVC shard).Only Op.OnPVC := by
  unfold reconcileSharedBackupPVC
  split
  · exact only_pure
  split
  · exact only_fail
  next desired hdesired =>
  have hdel : desired.deletionTimestamp = none := by
    obtain ⟨request, _, rfl⟩ := Option.map_eq_some_iff.mp hdesired
    rfl
  refine only_bind (onPVC_context only_fetch) fun existing => ?_
  split
  · exact onPVC_context (only_perform hdel)
  split
  · exact only_pure
  refine only_bind (onPVC_context (onPVC_reclaimPVC _)) fun (terminating, pvc) => ?_
  dsimp only
  split
  · exact only_pure
  refine only_bind (onPVC_storageRequestFor _ _) fun (request, _) => ?_
  exact onPVC_context (only_perform hdel)

theorem onPVC_reconcileLitePVCMetadata (shard : Shard) (poolName cellName : String) :
    (reconcileLitePVCMetadata shard poolName cellName).Only Op.OnPVC := by
  refine only_bind (onPVC_context only_fetch) fun pvc => ?_
  split
  · exact onPVC_reconcilePVCOwnerRefs shard
  · split
    · exact onPVC_reconcilePVCOwnerRefs shard
    · exact only_bind (onPVC_context (onPVC_reclaimPVC _)) fun _ =>
        onPVC_reconcilePVCOwnerRefs shard

theorem onPVC_ensureLiteDataPVC (shard : Shard) (poolName cellName : String) (pool : PoolSpec) :
    (ensureLiteDataPVC shard poolName cellName pool).Only Op.OnPVC := by
  refine only_bind (onPVC_context only_fetch) fun existing => ?_
  split
  · split
    · exact only_pure
    · exact only_bind (onPVC_expandPVCIfNeeded _ _) fun _ => only_pure
  · split
    · exact only_fail
    · next pvc hpvc =>
      exact onPVC_context (onPVC_createPVC (deletionTimestamp_of_buildPoolDataPVC hpvc))

end MultigresOperator

import MultigresOperator.Shard.Volumes

/-!
# Deletion of a Shard

A Shard that is being deleted has its Deployments and pods deleted first. Once no pod of it is left,
or only pods that have been terminating for long, its PVCs are settled by the deletion policy, and
the finalizer goes last.

## Main definitions

* `handleDeletion`, `cleanupShardPVCs`: a deletion pass
* `BuilderNamed`, `effectiveWhenDeleted`: which PVCs are the shard's, and the policy of a PVC
* `Released`, `Orphaned`, `Deleted`: what a deletion pass may do to a PVC
* `checkTime`: the clock at the check of a pod

## Main results

* `shardPVCShouldBeCleaned_iff`: the PVCs the pass gives up are the shard's under a Delete policy
* `wpAlone_handleDeletion`: what a deletion pass rests on
* `wpAlone_cleanupFrom`: the cleanup settles the PVCs it has listed
* `handleDeletion_settles_volumes`: a pass that removes the finalizer has settled every PVC, one that
  fails keeps it, and one that waits for pods leaves the PVCs alone
-/

namespace MultigresOperator

open Effects MultigresOperator.Action Prog

/-- `terminatingTimeout`, in seconds: how long a terminating pod is waited for. -/
def terminatingTimeout : Time := 60

/-- `podTerminationRequeueDelay`, in seconds. -/
def podTerminationRequeueDelay : Time := 2

/-- `clusterIsChurning`: the MultigresCluster exists and is being deleted. -/
def clusterIsChurning (clusterName : String) : Action Bool :=
  if clusterName = "" then pure false
  else do
    let cluster ← context ("failed to get MultigresCluster " ++ clusterName)
      (Prog.fetch .cached fun s => s.clusters.lookup clusterName)
    pure (cluster.getD false)

/-- What `cleanupShardPVCs` does with one PVC. -/
def settlePVC (shard : Shard) (churning : Bool) (time : Time) (pvc : PVC) : Action Unit :=
  if !shardPVCShouldBeCleaned shard pvc then releasePVCFromShard shard pvc
  else if churning then context ("failed to delete PVC " ++ pvc.name) (deletePVC pvc.name)
  else context ("failed to mark PVC " ++ pvc.name ++ " orphan") (markOrphan pvc shard.uid time)

/-- `cleanupShardPVCs`: every PVC of the shard is released, deleted or labelled orphan. -/
def cleanupShardPVCs (shard : Shard) : Action Unit := do
  let pvcs ← context "failed to list PVCs for cleanup" (listPVCs .cached (shardSelector shard))
  let churning ← context "failed to determine MultigresCluster deletion state"
    (clusterIsChurning shard.clusterName)
  let time ← now
  Prog.forEach pvcs () fun _ pvc => settlePVC shard churning time pvc

def deleteDeployments (shard : Shard) : Action Unit := do
  let deployments ← context "failed to list deployments for deletion"
    (Prog.fetch .cached fun s =>
      s.deployments.items.filter fun deploy => (shardSelector shard).Matches deploy.labels)
  Prog.forEach deployments () fun _ deploy =>
    if deploy.deletionTimestamp.isNone then do
      let i ← Prog.answer
      context ("failed to delete deployment " ++ deploy.name)
        (Prog.performUnless Failure.isNotFound (.deleteDeployment deploy.name i.removal))
    else pure ()

def podsForDeletion (shard : Shard) : Action (List Pod) := do
  deleteDeployments shard
  context "failed to list pods for deletion" (listPods .cached (shardSelector shard))

/-- Deletes a pod unless it is terminating, and counts it if it has to be waited for. -/
def checkPod (blocking : ℕ) (pod : Pod) : Action ℕ :=
  match pod.deletionTimestamp with
  | none => do
    context ("failed to delete pod " ++ pod.name) (deletePod pod.name none)
    pure (blocking + 1)
  | some since => do
    let time ← now
    -- a pod stuck past the timeout counts as gone
    pure (if time < since + terminatingTimeout then blocking + 1 else blocking)

/-- The pods are deleted; counts the ones to wait for. -/
def checkPods (pods : List Pod) (blocking : ℕ) : Action ℕ := Prog.forEach pods blocking checkPod

/-- The end of a deletion pass, with the number of pods to wait for. -/
def finishDeletion (shard : Shard) (hasFinalizer : Bool) (blocking : ℕ) : Action (Option Time) :=
  if 0 < blocking then pure (some podTerminationRequeueDelay)
  else do
    cleanupShardPVCs shard
    if hasFinalizer then
      context "failed to remove shard finalizer" (Prog.perform (.setFinalizer false))
    pure none

/-- `handleDeletion`: returns the delay after which the pass is repeated, if it is. `hasFinalizer`
says whether the Shard carries the finalizer as the pass read it. -/
def handleDeletion (shard : Shard) (hasFinalizer : Bool) : Action (Option Time) := do
  let pods ← podsForDeletion shard
  let blocking ← checkPods pods 0
  finishDeletion shard hasFinalizer blocking

/-! ## Whose a PVC is, and its policy -/

/-- The PVC bears a name that the builders make, or once made, for the pool and cell on its labels.
The index of a data PVC is an `int`. -/
inductive BuilderNamed (shard : Shard) (pvc : PVC) : Prop
  | data {index : ℕ} (bound : index < 2 ^ 63) (pool : pvc.labels.get .pool ≠ "")
      (cell : pvc.labels.get .cell ≠ "")
      (name : pvc.name =
        buildPoolDataPVCName shard (pvc.labels.get .pool) (pvc.labels.get .cell) index)
  | sharedBackup (pool : pvc.labels.get .pool = "") (name : pvc.name = buildSharedBackupPVCName shard)
  | legacyBackup (pool : pvc.labels.get .pool = "") (cell : pvc.labels.get .cell ≠ "")
      (name : pvc.name = legacyCellBackupPVCName shard (pvc.labels.get .cell))

variable {shard : Shard} {s : Server} {blocking : ℕ} {orc : ℕ → Answer} {pvc : PVC} {pod : Pod}

theorem isShardBuiltPVC_iff : isShardBuiltPVC shard pvc = true ↔ BuilderNamed shard pvc := by
  constructor
  · intro h
    by_cases hpool : pvc.labels.get .pool = ""
    · rw [isShardBuiltPVC, if_pos hpool, Bool.or_eq_true, Bool.and_eq_true] at h
      rcases h with hname | ⟨hcell, hname⟩
      · exact .sharedBackup hpool (eq_of_beq hname)
      · exact .legacyBackup hpool (by simpa using hcell) (eq_of_beq hname)
    · by_cases hcell : pvc.labels.get .cell = ""
      · rw [isShardBuiltPVC, if_neg hpool, if_pos hcell] at h
        cases h
      · obtain ⟨index, hbound, hname⟩ := (isShardBuiltPVC_dataPVC_iff hpool hcell).mp h
        exact .data hbound hpool hcell hname
  · rintro (⟨hbound, hpool, hcell, hname⟩ | ⟨hpool, hname⟩ | ⟨hpool, hcell, hname⟩)
    · exact (isShardBuiltPVC_dataPVC_iff hpool hcell).mpr ⟨_, hbound, hname⟩
    · simp [isShardBuiltPVC, hpool, hname]
    · simp [isShardBuiltPVC, hpool, hcell, hname]

/-- The WhenDeleted policy that holds for a PVC: the one of its pool where the pool is in the spec
and sets one, and the shard's otherwise. -/
def effectiveWhenDeleted (shard : Shard) (pvc : PVC) : RetentionPolicy :=
  let own := if pvc.labels.get .pool = "" then none
    else (shard.pool? (pvc.labels.get .pool)).bind (·.pvcDeletionPolicy)
  let ofShard := (shard.spec.pvcDeletionPolicy.map (·.whenDeleted)).getD .unset
  match own with
  | none => ofShard
  | some policy => if policy.whenDeleted = .unset then ofShard else policy.whenDeleted

theorem whenDeleted_mergePVCDeletionPolicy (child parent : Option PVCDeletionPolicy) :
    (mergePVCDeletionPolicy child parent).any (·.whenDeleted == .delete) =
      match child with
      | none => (parent.map (·.whenDeleted)).getD .unset == .delete
      | some policy =>
        (if policy.whenDeleted = .unset then (parent.map (·.whenDeleted)).getD .unset
          else policy.whenDeleted) == .delete := by
  rcases child with _ | child
  · cases parent <;> rfl
  · simp only [mergePVCDeletionPolicy]
    -- a merged policy with nothing set is dropped, and it would not be Delete
    by_cases hown : child.whenDeleted = .unset
    · generalize (if child.whenScaled ≠ .unset then child.whenScaled
        else (parent.map (·.whenScaled)).getD .unset) = scaled
      simp only [hown, ne_eq, not_true_eq_false, if_false, if_true]
      split
      · next hunset => simp [hunset.1]
      · simp
    · simp [hown]

/-- **The PVCs a deletion gives up** are the shard's own under the policy Delete. -/
theorem shardPVCShouldBeCleaned_iff :
    shardPVCShouldBeCleaned shard pvc = true ↔
      BuilderNamed shard pvc ∧ effectiveWhenDeleted shard pvc = .delete := by
  rw [shardPVCShouldBeCleaned, Bool.and_eq_true_iff, isShardBuiltPVC_iff]
  refine and_congr_right fun _ => ?_
  have shardLevel : shouldDeleteShardLevelPVCOnRemoval shard = true ↔
      (shard.spec.pvcDeletionPolicy.map (·.whenDeleted)).getD .unset = .delete := by
    cases h : shard.spec.pvcDeletionPolicy <;> simp [shouldDeleteShardLevelPVCOnRemoval, h]
  by_cases hpool : pvc.labels.get .pool = ""
  · simp [hpool, effectiveWhenDeleted, shardLevel]
  · rcases hspec : shard.pool? (pvc.labels.get .pool) with _ | pool
    · simp [hpool, hspec, effectiveWhenDeleted, shardLevel]
    · simp only [hpool, if_false, hspec, effectiveWhenDeleted, Option.bind_some,
        shouldDeletePVCOnShardRemoval, whenDeleted_mergePVCDeletionPolicy]
      cases pool.pvcDeletionPolicy <;> simp

/-! ## Requests of a deletion pass -/

def Op.Clears : Op → Prop
  | .deletePod _ _ _ | .deleteDeployment _ _ => True
  | _ => False

/-- Writes to PVCs that are there. -/
def Op.OnVolume : Op → Prop
  | .patchPVC _ _ | .deletePVC _ _ _ => True
  | _ => False

namespace Server

variable {s s' : Server} {o : Op}

theorem exec_clears (ho : o.Clears) (h : s.exec o = .ok s') :
    s'.pvcs = s.pvcs ∧ s'.clusters = s.clusters ∧ s'.shardFinalizer = s.shardFinalizer := by
  cases o with
  | deletePod name uid how =>
    simp only [exec] at h
    split at h
    · cases h
    · split at h <;> cases h
      exact ⟨rfl, rfl, rfl⟩
  | deleteDeployment name how =>
    simp only [exec] at h
    split at h <;> cases h
    exact ⟨rfl, rfl, rfl⟩
  | createPod | patchPod | createPVC | patchPVC | applyPVC | deletePVC | setFinalizer =>
    exact ho.elim

theorem exec_onVolume (ho : o.OnVolume) (h : s.exec o = .ok s') :
    s'.pods = s.pods ∧ s'.clusters = s.clusters ∧ s'.shardFinalizer = s.shardFinalizer := by
  cases o with
  | patchPVC name patch =>
    simp only [exec] at h
    split at h
    · cases h
    · split at h <;> cases h
      exact ⟨rfl, rfl, rfl⟩
  | deletePVC name resourceVersion how =>
    simp only [exec] at h
    split at h
    · cases h
    · split at h <;> cases h
      exact ⟨rfl, rfl, rfl⟩
  | createPod | patchPod | deletePod | createPVC | applyPVC | deleteDeployment | setFinalizer =>
    exact ho.elim

/-- The PVCs of all names but one are the same. -/
def SameBut (name : String) (s t : Server) : Prop :=
  ∀ p : PVC, p.name ≠ name → (p ∈ t.pvcs ↔ p ∈ s.pvcs)

theorem SameBut.refl (name : String) (s : Server) : SameBut name s s := fun _ _ => Iff.rfl

variable {name : String}

theorem sameBut_patchPVC {patch : PVCPatch} (h : s.exec (.patchPVC name patch) = .ok s') :
    SameBut name s s' := by
  intro p hp
  rw [(exec_patchPVC h).2.1]
  constructor
  · rintro ⟨q, hq, rfl⟩
    split at hp
    · next hname => exact absurd hname hp
    · next hname => rwa [if_neg hname]
  · exact fun hmem => ⟨p, hmem, by rw [if_neg hp]⟩

theorem sameBut_deletePVC {resourceVersion : Option ℕ} {how : Removal}
    (h : s.exec (.deletePVC name resourceVersion how) = .ok s') : SameBut name s s' := by
  intro p hp
  rw [(exec_deletePVC h).2.1, mem_removePVC]
  constructor
  · rintro ⟨q, hq, ⟨rfl, -⟩ | ⟨hname, -, rfl⟩⟩
    · exact hq
    · exact absurd hname hp
  · exact fun hmem => ⟨p, hmem, .inl ⟨rfl, hp⟩⟩

theorem notFound_of_attempt {i : Answer} {e : Failure}
    (ho : (∃ patch, o = .patchPVC name patch) ∨ ∃ v how, o = .deletePVC name v how)
    (h : machine.attempt i s o = .error e) (he : e.isNotFound = true) :
    ∀ p ∈ s.pvcs, p.name ≠ name := by
  unfold Machine.attempt at h
  split at h
  · next fault hfault =>
    -- the faults of the environment are of no kind the controller distinguishes
    cases h
    obtain ⟨text, -, rfl⟩ := Option.map_eq_some_iff.mp hfault
    simp [Failure.isNotFound, Failure.new] at he
  · rcases ho with ⟨patch, rfl⟩ | ⟨v, how, rfl⟩
    all_goals
      simp only [machine, exec] at h
      split at h
      · next hnone => exact Keyed.find_eq_none.mp hnone
      · split at h <;> cases h
        simp [Failure.isNotFound] at he

end Server

/-! ## What a deletion pass owes a PVC -/

section Debt

variable (shard : Shard) (pvc : PVC) (t : Server)

/-- No reference to the Shard is left on the PVC. -/
def PVC.FreeOf (shard : Shard) (pvc : PVC) : Prop := ∀ ref ∈ pvc.ownerRefs, ref.uid ≠ shard.uid

/-- The PVC is kept: it is not deleted, its orphan label is as before, and no reference to the Shard
is left. -/
def Released : Prop :=
  ∃ p ∈ t.pvcs, p.name = pvc.name ∧ p.uid = pvc.uid ∧ p.deletionTimestamp = pvc.deletionTimestamp ∧
    p.orphanSince = pvc.orphanSince ∧ p.FreeOf shard

/-- The PVC is left to garbage collection. -/
def Orphaned : Prop :=
  ∃ p ∈ t.pvcs, p.name = pvc.name ∧ p.uid = pvc.uid ∧ p.orphaned = true ∧ p.FreeOf shard

/-- The PVC is gone or going. -/
def Deleted : Prop := ∀ p ∈ t.pvcs, p.name = pvc.name → p.terminating = true

/-- The PVC has been dealt with, by the cleanup's decision and the state of the cluster. -/
inductive Settled (churning : Bool) : Prop
  | released (keep : shardPVCShouldBeCleaned shard pvc = false) (h : Released shard pvc t)
  | deleted (clean : shardPVCShouldBeCleaned shard pvc = true) (hc : churning = true)
      (h : Deleted pvc t)
  | orphaned (clean : shardPVCShouldBeCleaned shard pvc = true) (hc : churning = false)
      (h : Orphaned shard pvc t)

end Debt

section Cleanup

variable {shard : Shard} {pvc : PVC} {s t : Server} {churning : Bool}

theorem Settled.of_same (h : Settled shard pvc s churning)
    (keep : ∀ p : PVC, p.name = pvc.name → (p ∈ t.pvcs ↔ p ∈ s.pvcs)) :
    Settled shard pvc t churning := by
  rcases h with ⟨hkeep, p, hp, hpn, hrest⟩ | ⟨hclean, hc, h⟩ | ⟨hclean, hc, p, hp, hpn, hrest⟩
  · exact .released hkeep ⟨p, (keep p hpn).mpr hp, hpn, hrest⟩
  · exact .deleted hclean hc fun p hp hpn => h p ((keep p hpn).mp hp) hpn
  · exact .orphaned hclean hc ⟨p, (keep p hpn).mpr hp, hpn, hrest⟩

theorem freeOf_filter {refs : List OwnerRef} :
    ∀ ref ∈ refs.filter (·.uid != shard.uid), ref.uid ≠ shard.uid := by
  intro ref href
  simpa using (List.mem_filter.mp href).2

theorem mem_of_patchPVC {patch : PVCPatch} (hpvc : pvc ∈ s.pvcs)
    (h : s.exec (.patchPVC pvc.name patch) = .ok t) : s.patchedPVC patch pvc ∈ t.pvcs :=
  ((Server.exec_patchPVC h).2.1 _).mpr ⟨pvc, hpvc, by simp⟩

theorem freeOf_of_length (h : ¬ (pvc.ownerRefs.filter (·.uid != shard.uid)).length ≠
    pvc.ownerRefs.length) : pvc.FreeOf shard := by
  rw [not_not, List.length_filter_eq_length_iff] at h
  exact fun ref href => by simpa using h ref href

variable {A : Server → Answer → Prop}

theorem wpAlone_releasePVCFromShard (hpvc : pvc ∈ s.pvcs) :
    wpAlone machine A (fun _ _ => True) (releasePVCFromShard shard pvc)
      (fun _ t => Server.SameBut pvc.name s t ∧ Released shard pvc t) (fun _ _ => True) s := by
  unfold releasePVCFromShard
  split
  · next hnone =>
    refine wpAlone_pure.mpr ⟨.refl _ s, pvc, hpvc, rfl, rfl, rfl, rfl, fun ref href => ?_⟩
    have hall : ∀ ref ∈ pvc.ownerRefs, ¬ ref.uid = shard.uid := by simpa using hnone
    exact hall ref href
  · refine wpAlone_mapError (wpAlone_performUnless (fun i e he => ?_) fun t ht => ?_)
    · split
      · next hfound => exact absurd rfl (Server.notFound_of_attempt (.inl ⟨_, rfl⟩) he hfound pvc hpvc)
      · trivial
    · exact ⟨trivial, Server.sameBut_patchPVC ht, _, mem_of_patchPVC hpvc ht, rfl, rfl, rfl, rfl,
        freeOf_filter⟩

variable {text : String} {time : Time}

theorem wpAlone_deletePVC :
    wpAlone machine A (fun _ _ => True) (context text (deletePVC pvc.name))
      (fun _ t => Server.SameBut pvc.name s t ∧ Deleted pvc t) (fun _ _ => True) s := by
  refine wpAlone_mapError (wpAlone_bind (wpAlone_answer.mpr fun i _ => ?_))
  refine wpAlone_performUnless (fun i e he => ?_) fun t ht => ?_
  · split
    · next hfound =>
      -- already gone
      have hnone := Server.notFound_of_attempt (.inr ⟨_, _, rfl⟩) he hfound
      exact ⟨.refl _ s, fun p hp hname => absurd hname (hnone p hp)⟩
    · trivial
  · refine ⟨trivial, Server.sameBut_deletePVC ht, fun p hp hname => ?_⟩
    rw [(Server.exec_deletePVC ht).2.1, Server.mem_removePVC] at hp
    obtain ⟨q, -, ⟨rfl, hne⟩ | ⟨-, -, rfl⟩⟩ := hp
    · exact absurd hname hne
    · cases h : q.deletionTimestamp <;> simp [PVC.terminating, Server.stampedPVC, h]

theorem wpAlone_markOrphan (hpvc : pvc ∈ s.pvcs) :
    wpAlone machine A (fun _ _ => True) (context text (markOrphan pvc shard.uid time))
      (fun _ t => Server.SameBut pvc.name s t ∧ Orphaned shard pvc t) (fun _ _ => True) s := by
  refine wpAlone_mapError ?_
  unfold markOrphan
  extract_lets filtered patch
  split
  · next hnothing =>
    -- labelled already, and no reference to strip
    have ⟨hlabel, hrefs⟩ := Bool.and_eq_true_iff.mp hnothing
    refine wpAlone_pure.mpr ⟨.refl _ s, pvc, hpvc, rfl, rfl, ?_, ?_⟩
    · by_contra hnot
      simp [patch, hnot] at hlabel
    · refine freeOf_of_length fun hlen => ?_
      simp [patch, filtered, hlen] at hrefs
  · refine wpAlone_perform (fun _ _ _ => trivial) fun t ht => ?_
    refine ⟨trivial, Server.sameBut_patchPVC ht, _, mem_of_patchPVC hpvc ht, rfl, rfl, ?_, ?_⟩
    · cases hlabel : pvc.orphanSince <;>
        simp [PVC.orphaned, Server.patchedPVC, PVCPatch.apply, patch, hlabel]
    · by_cases hlen : filtered.length ≠ pvc.ownerRefs.length
      · have hfree : ∀ ref ∈ filtered, ref.uid ≠ shard.uid := freeOf_filter
        simpa [PVC.FreeOf, Server.patchedPVC, PVCPatch.apply, patch, hlen] using hfree
      · have hfree := freeOf_of_length hlen
        simpa [PVC.FreeOf, Server.patchedPVC, PVCPatch.apply, patch, hlen] using hfree

theorem wpAlone_settlePVC (hpvc : pvc ∈ s.pvcs) :
    wpAlone machine A (fun _ _ => True) (settlePVC shard churning time pvc)
      (fun _ t => Server.SameBut pvc.name s t ∧ Settled shard pvc t churning) (fun _ _ => True) s := by
  unfold settlePVC
  split
  · next hkeep =>
    exact wpAlone_conseq (wpAlone_releasePVCFromShard hpvc)
      (fun _ _ h => ⟨h.1, .released (by simpa using hkeep) h.2⟩) fun _ _ h => h
  · next hclean =>
    have hclean : shardPVCShouldBeCleaned shard pvc = true := by simpa using hclean
    split
    · next hc =>
      exact wpAlone_conseq wpAlone_deletePVC (fun _ _ h => ⟨h.1, .deleted hclean hc h.2⟩)
        fun _ _ h => h
    · next hc =>
      exact wpAlone_conseq (wpAlone_markOrphan hpvc)
        (fun _ _ h => ⟨h.1, .orphaned hclean (by simpa using hc) h.2⟩) fun _ _ h => h

end Cleanup

/-- The MultigresCluster of the shard exists and is being deleted. -/
def ClusterDeleted (shard : Shard) (s : Server) : Prop :=
  shard.clusterName ≠ "" ∧ s.clusters.lookup shard.clusterName = some true

instance (shard : Shard) (s : Server) : Decidable (ClusterDeleted shard s) :=
  inferInstanceAs (Decidable (_ ∧ _))

section Pass

variable {shard : Shard} {A : Server → Answer → Prop} {G : Server → Op → Prop}
  {E : Failure → Server → Prop} {s : Server}

def Pod.GoneAt (time : Time) (pod : Pod) : Prop :=
  ∃ since, pod.deletionTimestamp = some since ∧ since + terminatingTimeout ≤ time

variable {J : Server → Prop}

/-- Pods that are not waited for have been terminating past the timeout, and nothing was done. -/
theorem wpAlone_checkPods (pods : List Pod)
    (clears : ∀ t o t', o.Clears → J t → t.exec o = .ok t' → G t o ∧ J t') (hE : ∀ e t, J t → E e t)
    (hs : J s) :
    wpAlone machine A G (checkPods pods 0)
      (fun blocking t => J t ∧
        (blocking = 0 → t = s ∧ ∀ pod ∈ pods, ∃ i, A s i ∧ pod.GoneAt i.now)) E s := by
  refine wpAlone_conseq (wpAlone_forEach (I := fun rest blocking t => J t ∧
    (blocking = 0 → t = s ∧ ∀ pod ∈ pods, pod ∈ rest ∨ ∃ i, A s i ∧ pod.GoneAt i.now))
    (fun pod rest blocking t ⟨hJ, hgone⟩ => ?_) ⟨hs, fun _ => ⟨rfl, fun _ h => .inl h⟩⟩)
    (fun blocking t ⟨hJ, hgone⟩ => ⟨hJ, fun h0 => (hgone h0).imp_right fun h pod hpod =>
      (h pod hpod).resolve_left (by simp)⟩) fun _ _ h => h
  unfold checkPod
  split
  · refine wpAlone_bind (wpAlone_mapError (wpAlone_bind (wpAlone_answer.mpr fun i _ => ?_)))
    have done {u : Server} (hu : J u) : wpAlone machine A G (pure (blocking + 1) : Action ℕ)
        (fun blocking t => J t ∧ (blocking = 0 → t = s ∧
          ∀ pod ∈ pods, pod ∈ rest ∨ ∃ i, A s i ∧ pod.GoneAt i.now)) E u :=
      wpAlone_pure.mpr ⟨hu, by simp⟩
    refine wpAlone_performUnless (fun i e _ => ?_) fun u hu => ?_
    · split
      · exact done hJ
      · exact hE _ _ hJ
    · have ⟨hG, hJ⟩ := clears t (.deletePod _ _ _) u trivial hJ hu
      exact ⟨hG, done hJ⟩
  · next since hsince =>
    refine wpAlone_bind (wpAlone_bind (wpAlone_answer.mpr fun i hi => wpAlone_pure.mpr ?_))
    refine wpAlone_pure.mpr ⟨hJ, fun h0 => ?_⟩
    split at h0
    · simp at h0
    · next hlate =>
      obtain ⟨rfl, hgone⟩ := hgone h0
      refine ⟨rfl, fun q hq => ?_⟩
      rcases hgone q hq with hmem | hgone
      · rcases List.mem_cons.mp hmem with rfl | hmem
        · exact .inr ⟨i, hi, since, hsince, Nat.not_lt.mp hlate⟩
        · exact .inl hmem
      · exact .inr hgone

theorem clears_deleteDeployments (shard : Shard) : (deleteDeployments shard).Only Op.Clears := by
  refine only_bind (only_mapError only_fetch) fun deployments => only_forEach fun _ deploy _ => ?_
  split
  · exact only_bind only_answer fun i => only_mapError (only_performUnless trivial)
  · exact only_pure

theorem clears_podsForDeletion (shard : Shard) : (podsForDeletion shard).Only Op.Clears :=
  only_bind (clears_deleteDeployments shard) fun _ => only_mapError only_fetch

/-- **What a deletion pass rests on**: it finishes in the state it listed the pods in, having found
every pod of the list terminating past the timeout. -/
theorem wpAlone_handleDeletion {Q : Option Time → Server → Prop} {hasFinalizer : Bool}
    (clears : ∀ t o t', o.Clears → J t → t.exec o = .ok t' → G t o ∧ J t') (hE : ∀ e t, J t → E e t)
    (wait : ∀ t, J t → Q (some podTerminationRequeueDelay) t) (finish : ∀ i t, J t → A t i →
      (∀ pod ∈ (machine.shown .cached i t).listPods (shardSelector shard),
        ∃ i, A t i ∧ pod.GoneAt i.now) →
      wpAlone machine A G (finishDeletion shard hasFinalizer 0) Q E t) (hs : J s) :
    wpAlone machine A G (handleDeletion shard hasFinalizer) Q E s := by
  have listed : wpAlone machine A G (podsForDeletion shard) (fun pods t => J t ∧ ∃ i, A t i ∧
      pods = (machine.shown .cached i t).listPods (shardSelector shard)) E s := by
    refine wpAlone_bind (wpAlone_conseq (wpAlone_of_only_invariant clears
      (clears_deleteDeployments shard) hs) (fun _ t hJ => ?_) hE)
    exact wpAlone_mapError (wpAlone_fetch.mpr ⟨fun _ _ _ => hE _ _ hJ, fun i hi => ⟨hJ, i, hi, rfl⟩⟩)
  refine wpAlone_bind (wpAlone_conseq listed (fun pods t ⟨hJ, i, hi, hpods⟩ => ?_) fun _ _ h => h)
  refine wpAlone_bind (wpAlone_conseq (wpAlone_checkPods pods clears hE hJ)
    (fun blocking u ⟨hJu, hgone⟩ => ?_) fun _ _ h => h)
  rcases blocking.eq_zero_or_pos with rfl | hpos
  · obtain ⟨rfl, hgone⟩ := hgone rfl
    exact finish i u hJu hi (hpods ▸ hgone)
  · rw [finishDeletion, if_pos hpos]
    exact wpAlone_pure.mpr (wait u hJu)

end Pass

/-! ## A pass that waits -/

theorem not_onVolume_of_clears {o : Op} (h : o.Clears) : ¬ o.OnVolume := by
  cases o <;> first | exact h.elim | exact not_false

theorem clears_checkPod (blocking : ℕ) (pod : Pod) : (checkPod blocking pod).Only Op.Clears := by
  unfold checkPod
  split
  · exact only_bind (only_mapError (only_bind only_answer fun _ => only_performUnless trivial))
      fun _ => only_pure
  · exact only_bind (only_bind only_answer fun _ => only_pure) fun _ => only_pure

theorem clears_checkPods (pods : List Pod) (blocking : ℕ) :
    (checkPods pods blocking).Only Op.Clears :=
  only_forEach fun blocking pod _ => clears_checkPod blocking pod

theorem yields_checkPods_pos (pods : List Pod) (h : 0 < blocking) :
    (checkPods pods blocking).Yields Op.Clears (0 < ·) := by
  refine yields_forEach (fun blocking pod _ hpos => ?_) h
  unfold checkPod
  split
  · exact yields_bind_of_only (only_mapError (only_bind only_answer fun _ => only_performUnless trivial))
      fun _ => yields_pure (by omega)
  · exact yields_bind_of_only (only_bind only_answer fun _ => only_pure)
      fun _ => yields_pure (by split <;> omega)

/-- Once a pod has to be waited for, no PVC is touched. -/
theorem not_onVolume_of_pos (shard : Shard) (hasFinalizer : Bool) {pods : List Pod}
    (h : 0 < blocking) {e : Server × Op}
    (he : e ∈ ((checkPods pods blocking >>= finishDeletion shard hasFinalizer).run machine orc s).trace) :
    ¬ e.2.OnVolume := by
  have hyields : (checkPods pods blocking >>= finishDeletion shard hasFinalizer).Yields Op.Clears
      fun _ => True := by
    refine yields_bind (yields_checkPods_pos pods h) fun blocking hpos => ?_
    rw [finishDeletion, if_pos hpos]
    exact yields_pure trivial
  exact not_onVolume_of_clears (only_run (only_of_yields hyields) orc s e he)

/-- The clock as the pass reads it when it checks the pod that follows `before` in its list. -/
def checkTime (shard : Shard) (orc : ℕ → Answer) (s : Server) (before : List Pod) : Time :=
  let listing := (podsForDeletion shard).run machine orc s
  (((checkPods before 0).run machine listing.rest listing.state).rest 0).now

theorem pos_of_checkPod {count : ℕ}
    (h : ((checkPod blocking pod).run machine orc s).result = .ok count)
    (hpod : ∀ since, pod.deletionTimestamp = some since →
      (orc 0).now < since + terminatingTimeout) : 0 < count := by
  rcases hdt : pod.deletionTimestamp with _ | since
  · have hwp : wpAlone machine (fun _ _ => True) (fun _ _ => True) (checkPod blocking pod)
        (fun count _ => 0 < count) (fun _ _ => True) s := by
      unfold checkPod
      simp only [hdt]
      refine wpAlone_bind (wpAlone_mapError (wpAlone_conseq (wpAlone_of_only_invariant
        (I := fun _ => True) (P := fun _ => True) (fun _ _ _ _ _ _ => ⟨trivial, trivial⟩) ?_ trivial)
        (fun _ _ _ => wpAlone_pure.mpr (Nat.succ_pos _)) fun _ _ _ => trivial))
      exact only_bind only_answer fun _ => only_performUnless trivial
    exact (run_of_wp hwp (admits_of_forall fun _ _ => trivial)).2.ok h
  · have hrun : ((checkPod blocking pod).run machine orc s).result =
        .ok (if (orc 0).now < since + terminatingTimeout then blocking + 1 else blocking) := by
      simp only [checkPod, hdt]
      rfl
    rw [hrun, if_pos (hpod since hdt)] at h
    cases h
    exact Nat.succ_pos _

/-- **A pass that waits** for a pod of its list touches no PVC. -/
theorem not_onVolume_of_blocked {hasFinalizer : Bool} {before after : List Pod}
    (hlist : ((podsForDeletion shard).run machine orc s).result = .ok (before ++ pod :: after))
    (hpod : ∀ since, pod.deletionTimestamp = some since →
      checkTime shard orc s before < since + terminatingTimeout) :
    ∀ e ∈ ((handleDeletion shard hasFinalizer).run machine orc s).trace, ¬ e.2.OnVolume := by
  intro e he
  rcases mem_trace_bind he with he | ⟨pods, hpods, he⟩
  · exact not_onVolume_of_clears (only_run (clears_podsForDeletion shard) orc s e he)
  rw [hlist] at hpods
  cases hpods
  -- the pods before this one, this one, and the ones after it
  have hsplit : (checkPods (before ++ pod :: after) 0 >>= finishDeletion shard hasFinalizer) =
      checkPods before 0 >>= fun blocking => checkPod blocking pod >>= fun blocking =>
        checkPods after blocking >>= finishDeletion shard hasFinalizer := by
    rw [checkPods, forEach_append, bind_assoc]
    exact bind_congr fun blocking => bind_assoc _ _ _
  rw [hsplit] at he
  rcases mem_trace_bind he with he | ⟨blocking, hblocking, he⟩
  · exact not_onVolume_of_clears (only_run (clears_checkPods before 0) _ _ e he)
  rcases mem_trace_bind he with he | ⟨blocking', hblocking', he⟩
  · exact not_onVolume_of_clears (only_run (clears_checkPod _ pod) _ _ e he)
  exact not_onVolume_of_pos shard hasFinalizer (pos_of_checkPod hblocking' hpod) he

/-! ## The outcome of a pass -/

theorem onVolume_markOrphan (pvc : PVC) (ownerUID : ℕ) (time : Time) :
    (markOrphan pvc ownerUID time).Only Op.OnVolume := by
  unfold markOrphan
  extract_lets filtered patch
  split
  · exact only_pure
  · exact only_perform trivial

theorem onVolume_cleanupShardPVCs (shard : Shard) : (cleanupShardPVCs shard).Only Op.OnVolume := by
  have churning : (clusterIsChurning shard.clusterName).Only Op.OnVolume := by
    unfold clusterIsChurning
    split
    · exact only_pure
    · exact only_bind (only_mapError only_fetch) fun _ => only_pure
  refine only_bind (only_mapError only_fetch) fun pvcs => only_bind (only_mapError churning)
    fun churning => only_bind (only_bind only_answer fun _ => only_pure) fun time =>
    only_forEach fun _ pvc _ => ?_
  unfold settlePVC
  split
  · unfold releasePVCFromShard
    split
    · exact only_pure
    · exact only_mapError (only_performUnless trivial)
  · split
    · exact only_mapError (only_bind only_answer fun _ => only_performUnless trivial)
    · exact only_mapError (onVolume_markOrphan pvc shard.uid time)

section Outcome

variable {shard : Shard} {hasFinalizer : Bool} {s : Server}

theorem wpAlone_keeps_finalizer (hasFinalizer : Bool) :
    wpAlone machine (fun _ _ => True) (fun _ _ => True) (handleDeletion shard hasFinalizer)
      (fun _ _ => True) (fun _ t => t.shardFinalizer = s.shardFinalizer) s := by
  refine wpAlone_handleDeletion (J := fun t => t.shardFinalizer = s.shardFinalizer)
    (fun t o t' ho hJ h => ⟨trivial, (Server.exec_clears ho h).2.2.trans hJ⟩) (fun _ _ h => h)
    (fun _ _ => trivial) (fun i t hJ _ _ => ?_) rfl
  rw [finishDeletion, if_neg (by omega)]
  refine wpAlone_bind (wpAlone_conseq (wpAlone_of_only_invariant
    (I := fun t => t.shardFinalizer = s.shardFinalizer)
    (fun t o t' ho hJ h => ⟨trivial, (Server.exec_onVolume ho h).2.2.trans hJ⟩)
    (onVolume_cleanupShardPVCs shard) hJ) (fun _ u hu => ?_) fun _ _ h => h)
  split
  · exact wpAlone_bind (wpAlone_mapError (wpAlone_perform (fun _ _ _ => hu) fun v hv =>
      ⟨trivial, wpAlone_pure.mpr trivial⟩))
  · exact wpAlone_pure.mpr trivial

/-- The cached client shows the MultigresClusters as they are. -/
def ClustersCurrent (s : Server) (i : Answer) : Prop :=
  ∀ shown, i.cache = some shown → shown.clusters = s.clusters

/-- What a pass reads for its cleanup, unless it waits for a pod: the PVCs of the shard, and whether
the MultigresCluster is being deleted. -/
def readForCleanup (shard : Shard) : Action (Option (List PVC × Bool)) := do
  let pods ← podsForDeletion shard
  let blocking ← checkPods pods 0
  if 0 < blocking then pure none
  else do
    let pvcs ← context "failed to list PVCs for cleanup" (listPVCs .cached (shardSelector shard))
    let churning ← context "failed to determine MultigresCluster deletion state"
      (clusterIsChurning shard.clusterName)
    pure (some (pvcs, churning))

/-- What a pass does with what it has read. -/
def cleanupFrom (shard : Shard) (hasFinalizer : Bool) : Option (List PVC × Bool) → Action (Option Time)
  | none => pure (some podTerminationRequeueDelay)
  | some (pvcs, churning) => do
    let time ← now
    Prog.forEach pvcs () fun _ pvc => settlePVC shard churning time pvc
    if hasFinalizer then
      context "failed to remove shard finalizer" (Prog.perform (.setFinalizer false))
    pure none

theorem handleDeletion_eq :
    handleDeletion shard hasFinalizer = readForCleanup shard >>= cleanupFrom shard hasFinalizer := by
  rw [handleDeletion, readForCleanup, bind_assoc]
  refine bind_congr fun pods => ?_
  rw [bind_assoc]
  refine bind_congr fun blocking => ?_
  unfold finishDeletion
  split
  · rfl
  · rw [cleanupShardPVCs]
    simp only [bind_assoc, pure_bind]
    rfl

theorem wpAlone_clusterIsChurning {A : Server → Answer → Prop} :
    wpAlone machine A (fun _ _ => True) (clusterIsChurning shard.clusterName)
      (fun churning t => t = s ∧
        ((∀ i, A s i → ClustersCurrent s i) → churning = decide (ClusterDeleted shard s)))
      (fun _ _ => True) s := by
  unfold clusterIsChurning
  split
  · next hname => exact wpAlone_pure.mpr ⟨rfl, fun _ => by simp [ClusterDeleted, hname]⟩
  · next hname =>
    refine wpAlone_bind (wpAlone_mapError (wpAlone_fetch.mpr ⟨fun _ _ _ => trivial, fun i hi => ?_⟩))
    refine wpAlone_pure.mpr ⟨rfl, fun hcurrent => ?_⟩
    have hshown : (machine.shown .cached i s).clusters = s.clusters := by
      rcases hcache : i.cache with _ | shown
      · simp [Machine.shown, machine, hcache]
      · simpa [Machine.shown, machine, hcache] using hcurrent i hi shown hcache
    rw [hshown]
    rcases hcluster : s.clusters.lookup shard.clusterName with _ | deleted
    · simp [ClusterDeleted, hcluster]
    · cases deleted <;> simp [ClusterDeleted, hname, hcluster]

theorem wpAlone_readForCleanup {A : Server → Answer → Prop} :
    wpAlone machine A (fun _ _ => True) (readForCleanup shard)
      (fun out t => t.pvcs = s.pvcs ∧ t.shardFinalizer = s.shardFinalizer ∧
        ∀ pvcs churning, out = some (pvcs, churning) → (∀ t i, A t i → ClustersCurrent t i) →
          churning = decide (ClusterDeleted shard s))
      (fun _ _ => True) s := by
  have clears (t : Server) (o : Op) (t' : Server) (ho : o.Clears) (hJ : t.pvcs = s.pvcs ∧
      t.clusters = s.clusters ∧ t.shardFinalizer = s.shardFinalizer) (h : t.exec o = .ok t') :
      True ∧ t'.pvcs = s.pvcs ∧ t'.clusters = s.clusters ∧ t'.shardFinalizer = s.shardFinalizer := by
    obtain ⟨hpvcs, hclusters, hfin⟩ := Server.exec_clears ho h
    exact ⟨trivial, hpvcs.trans hJ.1, hclusters.trans hJ.2.1, hfin.trans hJ.2.2⟩
  refine wpAlone_bind (wpAlone_conseq (wpAlone_of_only_invariant clears (clears_podsForDeletion shard)
    ⟨rfl, rfl, rfl⟩) (fun pods t hJ => ?_) fun _ _ _ => trivial)
  refine wpAlone_bind (wpAlone_conseq (wpAlone_of_only_invariant clears (clears_checkPods pods 0) hJ)
    (fun blocking u hJ => ?_) fun _ _ _ => trivial)
  split
  · exact wpAlone_pure.mpr ⟨hJ.1, hJ.2.2, nofun⟩
  refine wpAlone_bind (wpAlone_mapError (wpAlone_fetch.mpr ⟨fun _ _ _ => trivial, fun i _ => ?_⟩))
  refine wpAlone_bind (wpAlone_mapError (wpAlone_conseq wpAlone_clusterIsChurning
    (fun churning v hv => ?_) fun _ _ _ => trivial))
  obtain ⟨rfl, hchurning⟩ := hv
  refine wpAlone_pure.mpr ⟨hJ.1, hJ.2.2, ?_⟩
  rintro _ _ ⟨⟩ hcurrent
  rw [hchurning (hcurrent v), decide_eq_decide, ClusterDeleted, hJ.2.1, ClusterDeleted]

/-- **The cleanup settles every PVC** it has listed, if the list is current. -/
theorem wpAlone_cleanupFrom {churning : Bool} :
    wpAlone machine (fun _ _ => True) (fun _ _ => True)
      (cleanupFrom shard hasFinalizer (some (s.listPVCs (shardSelector shard), churning)))
      (fun _ t => ∀ pvc ∈ s.listPVCs (shardSelector shard), Settled shard pvc t churning)
      (fun _ _ => True) s := by
  refine wpAlone_bind (wpAlone_bind (wpAlone_answer.mpr fun i _ => wpAlone_pure.mpr ?_))
  -- the PVCs still to come are as they were listed, the others are settled
  refine wpAlone_bind (wpAlone_conseq (wpAlone_forEach (I := fun rest _ t =>
      (rest.map PVC.name).Nodup ∧ (∀ pvc ∈ rest, pvc ∈ s.pvcs ∧ pvc ∈ t.pvcs) ∧
        ∀ pvc ∈ s.listPVCs (shardSelector shard), pvc ∈ rest ∨ Settled shard pvc t churning)
    (fun pvc rest _ t ⟨hnodup, hrest, hsettled⟩ => ?_) ⟨?_, ?_, fun _ h => .inl h⟩)
    (fun _ t ⟨_, _, hsettled⟩ => ?_) fun _ _ h => h)
  · have ⟨hnew, hnodup⟩ := List.nodup_cons.mp hnodup
    have hne {q : PVC} (hq : q ∈ rest) : q.name ≠ pvc.name := fun heq =>
      hnew (heq ▸ List.mem_map_of_mem hq)
    refine wpAlone_conseq (wpAlone_settlePVC (hrest pvc (by simp)).2)
      (fun _ u ⟨hsame, hdone⟩ => ⟨hnodup, fun q hq => ?_, fun q hq => ?_⟩) fun _ _ h => h
    · have ⟨hlisted, hstored⟩ := hrest q (by simp [hq])
      exact ⟨hlisted, (hsame q (hne hq)).mpr hstored⟩
    · rcases hsettled q hq with hmem | hq'
      · rcases List.mem_cons.mp hmem with rfl | hmem
        · exact .inr hdone
        · exact .inl hmem
      · by_cases hname : q.name = pvc.name
        · have heq := s.pvcs.eq_of_key_eq (List.mem_filter.mp hq).1 (hrest pvc (by simp)).1 hname
          exact .inr (heq ▸ hdone)
        · exact .inr (hq'.of_same fun p hp => hsame p (hp ▸ hname))
  · exact s.pvcs.nodup.sublist (List.filter_sublist.map _)
  · exact fun pvc hpvc => ⟨(List.mem_filter.mp hpvc).1, (List.mem_filter.mp hpvc).1⟩
  · have hdone (pvc : PVC) (hpvc : pvc ∈ s.listPVCs (shardSelector shard)) :
        Settled shard pvc t churning := (hsettled pvc hpvc).resolve_left (by simp)
    split
    · refine wpAlone_bind (wpAlone_mapError (wpAlone_perform (fun _ _ _ => trivial) fun u hu =>
        ⟨trivial, wpAlone_pure.mpr fun pvc hpvc => (hdone pvc hpvc).of_same fun p _ => ?_⟩))
      cases hu
      rfl
    · exact wpAlone_pure.mpr hdone

/-- A pass that removes the finalizer has read the PVCs and settled the ones it has read. -/
theorem settled_of_removed {orc : ℕ → Answer} (hs : s.shardFinalizer = true)
    (hfin : ((handleDeletion shard hasFinalizer).run machine orc s).state.shardFinalizer = false) :
    ∃ pvcs churning, ((readForCleanup shard).run machine orc s).result = .ok (some (pvcs, churning)) ∧
      (pvcs = s.listPVCs (shardSelector shard) → ∀ pvc ∈ pvcs, Settled shard pvc
        ((handleDeletion shard hasFinalizer).run machine orc s).state churning) := by
  rcases hr : ((handleDeletion shard hasFinalizer).run machine orc s).result with e | delay
  · have hkeep := (run_of_wp (wpAlone_keeps_finalizer hasFinalizer)
      (admits_of_forall fun _ _ => trivial)).2.error hr
    rw [hfin, hs] at hkeep
    cases hkeep
  · rw [handleDeletion_eq] at hr hfin ⊢
    obtain ⟨out, hout, hok, hstate⟩ := run_bind_of_ok hr
    obtain ⟨hpvcs, hkept, -⟩ := (run_of_wp (wpAlone_readForCleanup (A := fun _ _ => True))
      (admits_of_forall fun _ _ => trivial)).2.ok hout
    rw [hstate] at hfin ⊢
    rcases out with _ | ⟨pvcs, churning⟩
    · exact absurd ((hkept.trans hs).symm.trans hfin) (by simp)
    · refine ⟨pvcs, churning, hout, fun hlist => ?_⟩
      set t := ((readForCleanup shard).run machine orc s).state with ht
      have hlist : pvcs = t.listPVCs (shardSelector shard) := by
        rw [hlist, Server.listPVCs, Server.listPVCs, hpvcs]
      rw [hlist] at hok ⊢
      exact (run_of_wp wpAlone_cleanupFrom (admits_of_forall fun _ _ => trivial)).2.ok hok

/-- **The PVCs of a deleted Shard.** A pass that removes the finalizer, the list of the PVCs being
current, has kept the PVCs that are not the shard's own or not under the policy Delete, and has deleted
the others with their cluster, as it reads it, or left them to garbage collection. A pass that fails
keeps the finalizer, and a pass with a pod to wait for touches no PVC. -/
theorem handleDeletion_settles_volumes (shard : Shard) (hasFinalizer : Bool) (orc : ℕ → Answer)
    (s : Server) :
    let pass := (handleDeletion shard hasFinalizer).run machine orc s
    (s.shardFinalizer = true → pass.state.shardFinalizer = false →
      ∃ pvcs churning,
        ((readForCleanup shard).run machine orc s).result = .ok (some (pvcs, churning)) ∧
        ((readForCleanup shard).Admits machine ClustersCurrent orc s →
          (churning = true ↔ ClusterDeleted shard s)) ∧
        (pvcs = s.listPVCs (shardSelector shard) → ∀ pvc ∈ pvcs,
          (¬ (BuilderNamed shard pvc ∧ effectiveWhenDeleted shard pvc = .delete) →
            Released shard pvc pass.state) ∧
          (BuilderNamed shard pvc → effectiveWhenDeleted shard pvc = .delete →
            (churning = true → Deleted pvc pass.state) ∧
            (churning = false → Orphaned shard pvc pass.state)))) ∧
    (∀ e, pass.result = .error e → pass.state.shardFinalizer = s.shardFinalizer) ∧
    ∀ before pod after,
      ((podsForDeletion shard).run machine orc s).result = .ok (before ++ pod :: after) →
      (∀ since, pod.deletionTimestamp = some since →
        checkTime shard orc s before < since + terminatingTimeout) →
      ∀ e ∈ pass.trace, ¬ e.2.OnVolume := by
  intro pass
  refine ⟨fun hs hfin => ?_, fun e he => ?_, fun before pod after hlist hpod =>
    not_onVolume_of_blocked hlist hpod⟩
  · obtain ⟨pvcs, churning, hread, hsettled⟩ := settled_of_removed hs hfin
    refine ⟨pvcs, churning, hread, fun hcurrent => ?_, fun hlist pvc hpvc => ?_⟩
    · have hchurning := ((run_of_wp wpAlone_readForCleanup hcurrent).2.ok hread).2.2 pvcs churning rfl
        fun _ _ h => h
      rw [hchurning, decide_eq_true_iff]
    · rw [← shardPVCShouldBeCleaned_iff]
      rcases hsettled hlist pvc hpvc with ⟨hkeep, h⟩ | ⟨hclean, hc, h⟩ | ⟨hclean, hc, h⟩
      · refine ⟨fun _ => h, fun hname hpolicy => ?_⟩
        simp [shardPVCShouldBeCleaned_iff.mpr ⟨hname, hpolicy⟩] at hkeep
      · exact ⟨fun hnot => absurd hclean hnot, fun _ _ => ⟨fun _ => h, fun hnot => by simp [hc] at hnot⟩⟩
      · exact ⟨fun hnot => absurd hclean hnot, fun _ _ => ⟨fun hdel => by simp [hc] at hdel, fun _ => h⟩⟩
  · exact (run_of_wp (wpAlone_keeps_finalizer _) (admits_of_forall fun _ _ => trivial)).2.error he

end Outcome

namespace Sample

def goingShard : Shard where
  name := "s"
  uid := 7
  labels := [(.cluster, "mg")]
  labels_cluster := rfl
  deletionTimestamp := some 0
  spec :=
    { databaseName := "db", tableGroupName := "tg", shardName := "0"
      pools := [("main", { cells := ["z1"] })]
      pools_nodup := List.nodup_singleton "main"
      pvcDeletionPolicy := some { whenDeleted := .delete }
      backup := some .s3
      podHash := fun _ _ _ => some "" }

def goingPVC : PVC where
  name := buildPoolDataPVCName goingShard "main" "z1" 0
  uid := 1
  labels := (.cluster, "mg") :: buildPoolLabelsWithCell goingShard "main" "z1"
  ownerRefs := [controllerRef goingShard]

/-- A PVC that bears the labels of the shard and is not its own. -/
def strangerPVC : PVC := { goingPVC with name := "stranger", uid := 2 }

def goingServer : Server where
  pods := ⟨[], List.nodup_nil⟩
  pvcs := ⟨[goingPVC, strangerPVC], by decide +kernel⟩
  deployments := ⟨[], List.nodup_nil⟩
  storageClasses := []
  clusters := [("mg", false)]
  shardFinalizer := true
  revision := 9

end Sample

section

open Sample

/-- With no pod left, the shard's PVC goes to garbage collection and the stranger is released. -/
theorem handleDeletion_settles_volumes_going :
    Orphaned goingShard goingPVC
        ((handleDeletion goingShard true).run machine (fun _ => {}) goingServer).state ∧
      Released goingShard strangerPVC
        ((handleDeletion goingShard true).run machine (fun _ => {}) goingServer).state := by
  have hfin : ((handleDeletion goingShard true).run machine (fun _ => {})
      goingServer).state.shardFinalizer = false := by decide +kernel
  have hpvcs : goingPVC ∈ goingServer.listPVCs (shardSelector goingShard) ∧
      strangerPVC ∈ goingServer.listPVCs (shardSelector goingShard) := by decide +kernel
  have hown : shardPVCShouldBeCleaned goingShard goingPVC = true ∧
      shardPVCShouldBeCleaned goingShard strangerPVC = false := by decide +kernel
  have hread : ((readForCleanup goingShard).run machine (fun _ => {}) goingServer).result =
      .ok (some (goingServer.listPVCs (shardSelector goingShard), false)) := by decide +kernel
  obtain ⟨pvcs, churning, hread', -, settled⟩ :=
    (handleDeletion_settles_volumes goingShard true (fun _ => {}) goingServer).1 rfl hfin
  rw [hread] at hread'
  cases hread'
  have ⟨hname, hpolicy⟩ := shardPVCShouldBeCleaned_iff.mp hown.1
  refine ⟨((settled rfl _ hpvcs.1).2 hname hpolicy).2 rfl, (settled rfl _ hpvcs.2).1 ?_⟩
  rw [← shardPVCShouldBeCleaned_iff, hown.2]
  exact Bool.false_ne_true

end

end MultigresOperator

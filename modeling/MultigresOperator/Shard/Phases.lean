import MultigresOperator.Shard.Surges

/-!
# The phases of a visit

A visit of a pool in a cell acts on the surges of the cell, creates what is missing, scales down, and
then rolls over the pods that are not on the spec. The last phase works on the list of pods the visit
has read first, and only if none of the others has acted.
-/

namespace MultigresOperator

open Effects MultigresOperator.Action

/-! ### Pods the visit still sees -/

/-- The pod `q` is the pod `p` at a later time: annotations may differ, and it may be deleted. -/
structure Pod.Kin (p q : Pod) : Prop where
  name : p.name = q.name
  labels : p.labels = q.labels
  specHash : p.specHash = q.specHash
  topoFlags : p.topoFlags = q.topoFlags
  poolerDataReady : p.poolerDataReady = q.poolerDataReady
  terminating : p.terminating = true → q.terminating = true

/-- Every pod of `t` was there in `s`. -/
def Derived (s t : Server) : Prop := ∀ q ∈ t.pods, ∃ p ∈ s.pods, Pod.Kin p q

section Derived

variable {s t u : Server} {p q : Pod}

theorem Pod.Kin.refl (p : Pod) : Pod.Kin p p := ⟨rfl, rfl, rfl, rfl, rfl, id⟩

theorem Pod.Kin.trans {p q o : Pod} (h : Pod.Kin p q) (h' : Pod.Kin q o) : Pod.Kin p o where
  name := h.name.trans h'.name
  labels := h.labels.trans h'.labels
  specHash := h.specHash.trans h'.specHash
  topoFlags := h.topoFlags.trans h'.topoFlags
  poolerDataReady := h.poolerDataReady.trans h'.poolerDataReady
  terminating := fun hp => h'.terminating (h.terminating hp)

theorem Pod.kin_patched (patch : PodPatch) (p : Pod) : Pod.Kin p (patch.apply p) := by
  cases patch <;> exact ⟨rfl, rfl, rfl, rfl, rfl, id⟩

theorem Derived.refl (s : Server) : Derived s s := fun q hq => ⟨q, hq, .refl q⟩

theorem Derived.trans (h : Derived s t) (h' : Derived t u) : Derived s u := by
  intro o ho
  obtain ⟨q, hq, hqo⟩ := h' o ho
  obtain ⟨p, hp, hpq⟩ := h q hq
  exact ⟨p, hp, hpq.trans hqo⟩

theorem derived_of_exec {o : Op} (ho : o.NoCreate) (h : s.exec o = .ok t) : Derived s t := by
  intro q hq
  cases Server.origin_of_exec h hq with
  | created hop _ =>
    subst hop
    exact ho.elim
  | kept hmem _ => exact ⟨q, hmem, .refl q⟩
  | @patched old patch hmem _ heq => exact ⟨old, hmem, heq ▸ old.kin_patched patch⟩
  | @stamped old uid how hmem _ heq =>
    exact ⟨old, hmem, heq ▸ ⟨rfl, rfl, rfl, rfl, rfl, fun _ => old.terminating_stamped _⟩⟩

theorem Ensures.derived_yields {B : Server → Answer → Prop} {α : Type} {p : Action α} {Q : α → Prop}
    (h : p.Yields Op.NoCreate Q) :
    Ensures B (fun _ _ => True) p (fun a t => Q a ∧ Derived s t) s :=
  Prog.wpAlone_conseq (Prog.wpAlone_of_yields (I := Derived s)
    (fun _ _ _ ho hs ht => ⟨trivial, hs.trans (derived_of_exec ho ht)⟩) h (.refl s)) (fun _ _ => id)
    fun _ _ _ => trivial

theorem Ensures.derived {B : Server → Answer → Prop} {α : Type} {p : Action α}
    (h : p.Only Op.NoCreate) : Ensures B (fun _ _ => True) p (fun _ t => Derived s t) s :=
  .conseq (.derived_yields (Prog.yields_of_only h)) fun _ _ ht => ht.2

end Derived

/-! ### The earlier phases of a visit -/

section Earlier

variable {B : Server → Answer → Prop} {r : Reconciler} {shard : Shard} {s t : Server}
  {poolName cellName : String} {pool : PoolSpec} {st : Creation} {pods : List Pod}

/-- What phase 1 leaves as long as it has not acted: the list it began with, and no new pod. -/
def Creation.Idle (s : Server) (pods : List Pod) (st : Creation) (t : Server) : Prop :=
  st.actionTaken = false → st.pods = pods ∧ Derived s t

theorem Creation.Idle.follows {st' : Creation} {u : Server} (h : st.Idle s pods t)
    (hst : st.Follows st') (hu : Derived t u) : st'.Idle s pods u := by
  intro hidle
  obtain ⟨hact, hpods⟩ := hst.idle hidle
  obtain ⟨hlist, hderived⟩ := h hact
  exact ⟨hpods.trans hlist, hderived.trans hu⟩

theorem Ensures.idle_createMissingPod {index : ℕ} (h : st.Idle s pods t) :
    Ensures B (fun _ _ => True) (createMissingPod shard poolName cellName index st)
      (fun st' u => st'.Idle s pods u) t := by
  unfold createMissingPod
  extract_lets podName
  split
  · exact .fail
  next built _ =>
  refine .bind (.conseq (.derived (noCreate_of_onPVC (onPVC_claimPodVolumes built.claims)))
    fun claim u hu => ?_)
  split
  · exact .ret (h.follows (.refl st) hu)
  · -- the creation of a pod is an action
    exact .bind (.conseq (.any _) fun _ _ _ => .ret fun hidle => nomatch hidle)

theorem Ensures.idle_createMissingResources {bound : ℕ} (h : st.Idle s pods t) :
    Ensures B (fun _ _ => True) (createMissingResources r shard poolName cellName pool bound st)
      (fun st' u => st'.Idle s pods u) t := by
  refine .forEach_mem (I := fun (st : Creation) u => st.Idle s pods u) (fun index _ st u h => ?_) h
  refine .bind (.conseq (.derived (noCreate_of_onPVC (onPVC_ensureDataPVC _ _ _ _ _)))
    fun pvcs v hv => ?_)
  have hpvcs : Creation.Idle s pods { st with pvcs } v := 
    h.follows ⟨.refl _, fun hact => ⟨hact, rfl⟩, .refl _, le_rfl⟩ hv
  dsimp only
  split
  · exact .idle_createMissingPod hpvcs
  · exact .conseq (.derived_yields yields_reconcileExistingPod) fun st' w hw =>
      hpvcs.follows hw.1 hw.2

/-- What a phase adds to those before it: once one has acted, the visit has, a drain stays in
progress, and nothing was said about pods that are not Ready. -/
structure Progress.Since (first p : Progress) : Prop where
  idle : p.actionTaken = false → first.actionTaken = false
  inProgress : first.inProgress = true → p.inProgress = true
  tracker : first.tracker.Quiet p.tracker

theorem Progress.Since.refl (p : Progress) : p.Since p := ⟨id, id, .refl _⟩

/-- The progress scale-down begins with. -/
def scaleDownStart (pods : List Pod) (acted : Bool) (rollout : RolloutTracker) : Progress where
  actionTaken := acted
  inProgress := ((sortByName pods).filter (!·.drainState == some .readyForDeletion)).any Pod.disrupted
  tracker := rollout

variable {acted : Bool} {rollout : RolloutTracker} {first p : Progress} {pod : Pod}
  {replicas bound : ℕ}

theorem yields_handleDeletedExtra (h : first.Since p) :
    (handleDeletedExtra p pod).Yields Op.NoCreate (Progress.Since first) := by
  unfold handleDeletedExtra
  split
  · exact Prog.yields_bind_of_only (noCreate_handleExternalDeletion pod) fun _ =>
      Prog.yields_pure ⟨(fun hact => nomatch hact), h.inProgress, ⟨h.tracker.1, h.tracker.2⟩⟩
  · exact Prog.yields_pure h

theorem yields_cleanupReadyForDeletion (h : first.Since p) :
    (cleanupReadyForDeletion shard poolName pool replicas p pod).Yields Op.NoCreate
      (Progress.Since first) := by
  refine Prog.yields_bind_of_only (noCreate_of_reads (reads_podTerminatingClaim _)) fun claim => ?_
  have hrelease := noCreate_of_onPVC (onPVC_releaseDrainedPodPVC shard pod poolName pool replicas)
  split
  · exact Prog.yields_bind_of_only (Prog.only_mapError hrelease) fun _ =>
      Prog.yields_pure ⟨h.idle, fun _ => rfl, h.tracker⟩
  · refine Prog.yields_bind_of_only (Prog.only_mapError hrelease) fun _ => ?_
    refine Prog.yields_bind_of_only (Prog.only_mapError ?_) fun _ =>
      Prog.yields_pure ⟨(fun hact => nomatch hact), h.inProgress, ⟨h.tracker.1, h.tracker.2⟩⟩
    exact Prog.only_bind Prog.only_answer fun i => Prog.only_performUnless trivial

theorem yields_drainExtraPod {extraPods : List Pod} (h : first.Since p) :
    (drainExtraPod r shard pods bound extraPods p).Yields Op.NoCreate
      (Progress.Since first) := by
  unfold drainExtraPod
  split
  · exact Prog.yields_pure h
  refine Prog.yields_bind_of_only (noCreate_of_reads (reads_isShardHealthy shard)) fun healthy => ?_
  split
  · exact Prog.yields_pure h
  refine Prog.yields_bind_of_only (noCreate_of_reads (reads_selectShardScaleDownPod _)) fun pod => ?_
  split
  · exact Prog.yields_pure h
  split
  · exact Prog.yields_pure h
  refine Prog.yields_bind (yields_canStartDisruption r shard _ p.tracker) fun result hquiet => ?_
  have hsince := h.tracker.trans hquiet
  obtain ⟨allowed, tracker⟩ := result
  dsimp only
  split
  · exact Prog.yields_pure ⟨h.idle, h.inProgress, hsince⟩
  refine Prog.yields_bind_of_only
    (noCreate_of_reads (reads_maintenanceCapacityWithout _ _ _)) fun capacity => ?_
  split
  · exact Prog.yields_pure ⟨h.idle, h.inProgress, hsince⟩
  · exact Prog.yields_bind_of_only (Prog.only_mapError (noCreate_initiateDrain _)) fun _ =>
      Prog.yields_pure ⟨(fun hact => nomatch hact), h.inProgress, ⟨hsince.1, hsince.2⟩⟩

theorem yields_handleScaleDown :
    (handleScaleDown r shard poolName pool pods replicas bound acted rollout).Yields Op.NoCreate
      (scaleDownStart pods acted rollout).Since := by
  unfold handleScaleDown
  extract_lets sorted readyForDeletion others extraPods start
  refine Prog.yields_bind (Prog.yields_forEach (fun p pod _ h => yields_handleDeletedExtra h)
    (.refl (scaleDownStart pods acted rollout))) fun p hp => ?_
  refine Prog.yields_bind (Prog.yields_forEach (fun p pod _ h => yields_cleanupReadyForDeletion h)
    hp) fun p hp => ?_
  split
  · exact Prog.yields_pure hp
  · exact yields_drainExtraPod hp

theorem noCreate_reconcileMaintenanceReady (acted : Bool) (pod : Pod) :
    (reconcileMaintenanceReady shard cellName acted pod).Only Op.NoCreate := by
  unfold reconcileMaintenanceReady
  extract_lets patch
  have hpatch (wantReady : Bool) : (patch wantReady).Only Op.NoCreate := by
    unfold patch
    split
    · exact Prog.only_pure
    · exact Prog.only_bind (Prog.only_mapError (Prog.only_perform trivial)) fun _ => Prog.only_pure
  split
  · exact Prog.only_bind (noCreate_of_reads (reads_hasMaintenanceCapacityForPod _ _)) hpatch
  · exact hpatch false

theorem Ensures.derived_reconcileCellMaintenanceSurge {pvcs : List PVC} :
    Ensures B (fun _ _ => True)
      (reconcileCellMaintenanceSurge shard poolName cellName pool pods pvcs replicas rollout)
      (fun surge t => surge.actionTaken = false → Derived s t) s := by
  unfold reconcileCellMaintenanceSurge
  split
  · exact .ret fun _ => .refl s
  refine .bind (.context (.fetch ?_))
  extract_lets promoted surges trigger keepSurge activeLocalSurges
  refine .bind (.conseq (.derived (Prog.only_forEach fun _ _ _ =>
    Prog.only_mapError (Prog.only_perform trivial))) fun _ t ht => ?_)
  split
  · split
    · exact .ret fun _ => ht
    · exact .bind (.conseq (.any _) fun _ _ _ => .ret fun hact => nomatch hact)
  · refine .bind (.conseq (.derived (Prog.only_forEach fun _ _ _ =>
      noCreate_reconcileMaintenanceReady _ _)) fun _ u hu => ?_)
    exact .ret fun _ => ht.trans hu

/-- **The rolling update still sees every pod** of its pool and cell: unless the visit has acted, its
list is the one it began with and no pod has been created since. -/
theorem Ensures.earlierPhases :
    Ensures B (fun _ _ => True) (earlierPhases r shard poolName cellName pool rollout)
      (fun result t => ∀ st p, result = .inr (st, p) → p.actionTaken = false →
        st.pods = visitPods shard s poolName cellName ∧ Derived s t) s := by
  unfold MultigresOperator.earlierPhases
  extract_lets where_ selector replicas
  refine .bind (.context (.fetch (.bind (.context (.fetch ?_)))))
  refine .bind (.conseq .derived_reconcileCellMaintenanceSurge fun surge t ht => ?_)
  split
  · exact .ret fun _ _ h => nomatch h
  next hact =>
  extract_lets effectiveReplicas
  have hidle : Creation.Idle s (visitPods shard s poolName cellName)
      { pods := s.listPods selector, pvcs := s.listPVCs selector, tracker := surge.tracker } t :=
    fun _ => ⟨rfl, ht (by simpa using hact)⟩
  refine .bind (.conseq (.idle_createMissingResources hidle) fun st u hst => ?_)
  refine .bind (.conseq (.derived_yields yields_handleScaleDown) fun p v hp => .ret ?_)
  rintro _ _ ⟨⟩ hnone
  obtain ⟨hpods, hu⟩ := hst (hp.1.idle hnone)
  exact ⟨hpods, hu.trans hp.2⟩

end Earlier

end MultigresOperator

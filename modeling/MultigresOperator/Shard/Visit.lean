import MultigresOperator.Shard.Guard

/-!
# A visit of a pool

A visit works on the pods it listed first, which its own requests outdate. What the list still says
about the API server is kept as an invariant of the visit, and is enough for every request that is
decided on the list alone. The other requests are decided on a fresh list.

## Main results

* `View.requestDrain`, `View.deletePod`, `View.createPod`: requests keep the view
* `guard_reconcilePoolPods`, `guard_reconcilePools`: a visit, and all visits of a pass, request only
  what `Guard` allows
-/

namespace MultigresOperator

open Effects MultigresOperator.Action Prog

variable {B : Server → Answer → Prop} {shard : Shard} {s t : Server}

/-! ## The view of a visit -/

/-- The pod `q` is `p` but for annotations of a maintenance surge, and may have been deleted. -/
structure Agrees (p q : Pod) : Prop where
  labels : q.labels = p.labels
  claims : q.claims = p.claims
  drainState : q.drainState = p.drainState
  topoFlags : q.topoFlags = p.topoFlags
  poolerDataReady : q.poolerDataReady = p.poolerDataReady
  terminating : p.terminating = true → q.terminating = true

theorem Agrees.refl (p : Pod) : Agrees p p := ⟨rfl, rfl, rfl, rfl, rfl, id⟩

variable {p q : Pod} {on : Bool} {text : String} {index replicas : ℕ} {rollout : RolloutTracker}

theorem Agrees.setMaintenanceSurge (h : Agrees p q) :
    Agrees p ((PodPatch.setMaintenanceSurge on).apply q) := { h with }

theorem Agrees.setMaintenanceReady (h : Agrees p q) :
    Agrees p ((PodPatch.setMaintenanceReady on).apply q) := { h with }

/-- The listed pods are pool pods, and the stored pods of their names agree with them. -/
structure View (shard : Shard) (pods : List Pod) (s : Server) : Prop where
  pool : ∀ p ∈ pods, (disruptionSelector shard).Matches p.labels = true
  agrees : ∀ p ∈ pods, ∀ q ∈ s.pods, q.name = p.name → Agrees p q

namespace View

variable {pods : List Pod}

theorem of_listPods {poolName cellName : String} :
    View shard (s.listPods (poolSelector shard poolName cellName)) s := by
  refine ⟨fun p hp => matches_disruptionSelector (Server.mem_listPods.mp hp).2, ?_⟩
  intro p hp q hq hname
  rw [s.pods.eq_of_key_eq hq (Server.mem_listPods.mp hp).1 hname]
  exact Agrees.refl p

theorem of_forall (h : View shard pods s)
    (ht : ∀ q' ∈ t.pods, (∀ p ∈ pods, q'.name ≠ p.name) ∨
      ∃ q ∈ s.pods, q'.name = q.name ∧ ∀ p, Agrees p q → Agrees p q') : View shard pods t := by
  refine ⟨h.pool, fun p hp q' hq' hname => ?_⟩
  rcases ht q' hq' with hnew | ⟨q, hq, hqname, hagrees⟩
  · exact absurd hname (hnew p hp)
  · exact hagrees p (h.agrees p hp q hq (hqname ▸ hname))

theorem calm (h : View shard pods s) (hcalm : Calm s t) : View shard pods t :=
  ⟨h.pool, hcalm.pods ▸ h.agrees⟩

theorem createPod {pod : Pod} (h : View shard pods s) (hnew : ∀ p ∈ pods, p.name ≠ pod.name)
    (ht : s.exec (.createPod pod) = .ok t) : View shard pods t := by
  refine h.of_forall fun q' hq' => ?_
  rcases ((Server.exec_createPod ht).2.1 q').mp hq' with rfl | hq'
  · exact .inl fun p hp => (hnew p hp).symm
  · exact .inr ⟨q', hq', rfl, fun _ => id⟩

variable {name : String}

theorem deletePod {uid : Option ℕ} {how : Removal} (h : View shard pods s)
    (ht : s.exec (.deletePod name uid how) = .ok t) : View shard pods t := by
  refine h.of_forall fun q' hq' => ?_
  obtain ⟨q, hq, ⟨rfl, -⟩ | ⟨-, -, rfl⟩⟩ :=
    Server.mem_removePod ((Server.exec_deletePod ht).2.1 ▸ hq')
  · exact .inr ⟨q', hq, rfl, fun _ => id⟩
  · exact .inr ⟨q, hq, rfl, fun p hp => { hp with terminating := fun _ => q.terminating_stamped _ }⟩

theorem setMaintenance {patch : PodPatch} (h : View shard pods s)
    (hpatch : ∀ p q, Agrees p q → Agrees p (patch.apply q))
    (ht : s.exec (.patchPod name patch) = .ok t) : View shard pods t := by
  refine h.of_forall fun q' hq' => ?_
  obtain ⟨q, hq, rfl⟩ := ((Server.exec_patchPod ht).2.1 q').mp hq'
  refine .inr ⟨q, hq, ?_, fun p hp => ?_⟩
  · split
    · exact patch.apply_name q
    · rfl
  · split
    · exact hpatch p q hp
    · exact hp

theorem requestDrain {time : Time} (h : View shard pods s)
    (ht : s.exec (.patchPod name (.requestDrain time)) = .ok t) :
    View shard (noteDrain pods name) t := by
  have hpods := (Server.exec_patchPod ht).2.1
  constructor
  · intro p' hp'
    obtain ⟨p, hp, rfl⟩ := List.mem_map.mp hp'
    split <;> exact h.pool p hp
  · intro p' hp' q' hq' hname
    obtain ⟨p, hp, rfl⟩ := List.mem_map.mp hp'
    obtain ⟨q, hq, rfl⟩ := (hpods q').mp hq'
    have hname' : q.name = p.name := by
      revert hname
      split <;> split <;> exact id
    have hagrees := h.agrees p hp q hq hname'
    by_cases hn : p.name = name
    · rw [if_pos hn, if_pos (hname'.trans hn)]
      exact { hagrees with drainState := rfl }
    · rw [if_neg hn, if_neg (hname' ▸ hn)]
      exact hagrees

end View

/-! ## Drains and surges -/

variable {pod : Pod} {Q : Unit → Server → Prop} {pods : List Pod} {poolName cellName : String}
  {pool : PoolSpec}

theorem Ensures.initiateDrain {G : Server → Op → Prop}
    (h : ∀ time t, s.exec (.patchPod pod.name (.requestDrain time)) = .ok t →
      G s (.patchPod pod.name (.requestDrain time)) ∧ Q () t) :
    Ensures B G (initiateDrain pod) Q s :=
  .bind (.now fun time => .context (.perform (h time)))

theorem guard_initiateDrain (clear : Clear shard s)
    (cause : (∃ q ∈ s.pods, q.name = pod.name) → DrainCause B shard s pod.name)
    (hQ : ∀ time t, s.exec (.patchPod pod.name (.requestDrain time)) = .ok t → Q () t) :
    Ensures B (Guard B shard) (context text (initiateDrain pod)) Q s :=
  .context (.initiateDrain fun time t ht =>
    ⟨.voluntary clear (cause (Server.exec_patchPod ht).1), hQ time t ht⟩)

theorem guard_handleExternalDeletion {Q : Bool → Server → Prop} (hview : View shard pods s)
    (hmem : pod ∈ pods) (hterm : pod.terminating = true) (hQ₀ : Q false s)
    (hQ : ∀ time t, s.exec (.patchPod pod.name (.requestDrain time)) = .ok t → Q true t) :
    Ensures B (Guard B shard) (handleExternalDeletion pod) Q s := by
  unfold handleExternalDeletion
  split
  · next h =>
    refine .bind (.initiateDrain fun time t ht => ⟨.external fun q hq hname => ?_, .ret (hQ time t ht)⟩)
    have hagrees := hview.agrees pod hmem q hq hname
    refine ⟨hagrees.terminating hterm, ?_⟩
    simp only [Bool.and_eq_true, Bool.not_eq_true'] at h
    simpa [Pod.draining, hagrees.drainState] using h.2
  · exact .ret hQ₀

theorem guard_createBuilt {built : Pod} (surge : Bool) (hpool : (poolName, pool) ∈ shard.spec.pools)
    (hcell : cellName ∈ pool.cells)
    (hbuild : buildPoolPod shard poolName cellName index = some built)
    (hpod : pod = { built with maintenanceSurge := surge }) (hlive : ClaimsLive s built.claims)
    (hQ₀ : Q () s)
    (hQ : ∀ time t, s.exec (.createPod { pod with creationTimestamp := time }) = .ok t → Q () t) :
    Ensures B (Guard B shard) (context text (createPod pod)) Q s := by
  refine .context (.createPod hQ₀ fun time t ht => ⟨⟨?_, ?_⟩, hQ time t ht⟩)
  · exact .pool time hpool hcell hbuild (by rw [hpod])
  · simpa [hpod] using hlive

theorem name_of_buildPoolPod (h : buildPoolPod shard poolName cellName index = some pod) :
    pod.name = buildPoolPodName shard poolName cellName index := by
  obtain ⟨hash, -, rfl⟩ := Option.map_eq_some_iff.mp h
  rfl

theorem guard_onPVC {α : Type} {p : Action α} (h : p.Only Op.OnPVC) {Q : α → Server → Prop}
    (hQ : ∀ a t, Calm s t → Q a t) : Ensures B (Guard B shard) p Q s :=
  .of_onPVC h (fun s o => guard_of_onPVC s o) hQ

/-- A surge is created, or an existing pod becomes one; the visit ends with it. -/
theorem guard_createOrAdoptMaintenanceSurge {existingPods : List Pod} {existingPVCs : List PVC}
    (hpool : (poolName, pool) ∈ shard.spec.pools) (hcell : cellName ∈ pool.cells) :
    Ensures B (Guard B shard) (createOrAdoptMaintenanceSurge shard poolName cellName pool existingPods
      existingPVCs replicas) (fun _ _ => True) s := by
  unfold createOrAdoptMaintenanceSurge
  extract_lets podName pvcName
  split
  · split
    · exact .ret trivial
    · exact .context (.perform fun _ _ => ⟨trivial, trivial⟩)
  next create _ _ =>
  have hcreate (t : Server) : Ensures B (Guard B shard) (create ()) (fun _ _ => True) t := by
    unfold create
    split
    · exact .fail
    · next pod hpod =>
      refine .bind (.claimPodVolumes (fun s o => guard_of_onPVC s o) fun claim u _ hlive => ?_)
      split
      · exact .ret trivial
      · exact guard_createBuilt _ hpool hcell hpod rfl (hlive rfl) trivial fun _ _ _ => trivial
  split
  · split
    · exact .fail
    · next pvc hpvc =>
      exact .bind (guard_onPVC (onPVC_context
        (onPVC_createPVC (deletionTimestamp_of_buildPoolDataPVC hpvc))) fun _ t _ => hcreate t)
  · refine .bind (guard_onPVC (onPVC_context (onPVC_reclaimPVC _)) fun (terminating, pvc) t _ => ?_)
    dsimp only
    split
    · exact hcreate t
    · exact .bind (guard_onPVC (onPVC_expandPVCIfNeeded _ _) fun _ t _ => hcreate t)

theorem reads_hasMaintenanceCapacityForPod (cellName excludedPodName : String) :
    Reads (hasMaintenanceCapacityForPod shard cellName excludedPodName) :=
  reads_maintenanceCapacityWithout _ _ _

theorem guard_reconcileMaintenanceReady {actionTaken : Bool} (hview : View shard pods s) :
    Ensures B (Guard B shard) (reconcileMaintenanceReady shard cellName actionTaken pod)
      (fun _ t => View shard pods t) s := by
  unfold reconcileMaintenanceReady
  extract_lets patch
  have hpatch (wantReady : Bool) :
      Ensures B (Guard B shard) (patch wantReady) (fun _ t => View shard pods t) s := by
    unfold patch
    split
    · exact .ret hview
    · exact .bind (.context (.perform fun t ht =>
        ⟨trivial, .ret (hview.setMaintenance (fun _ _ => .setMaintenanceReady) ht)⟩))
  split
  · exact .bind (.of_reads (reads_hasMaintenanceCapacityForPod _ _) hpatch)
  · exact hpatch false

/-- **The surge phase** keeps the view unless it acts. -/
theorem guard_reconcileCellMaintenanceSurge {pvcs : List PVC}
    (hpool : (poolName, pool) ∈ shard.spec.pools) (hcell : cellName ∈ pool.cells)
    (hview : View shard pods s) :
    Ensures B (Guard B shard) (reconcileCellMaintenanceSurge shard poolName cellName pool pods pvcs
      replicas rollout) (fun surge t => surge.actionTaken = false → View shard pods t) s := by
  unfold reconcileCellMaintenanceSurge
  split
  · exact .ret fun _ => hview
  refine .bind (.context (.fetch ?_))
  extract_lets promoted surges trigger keepSurge activeLocalSurges
  refine .bind (.conseq (.forEach_mem (I := fun _ t => View shard pods t) ?_ hview)
    fun _ t hview => ?_)
  · intro pod _ _ t hview
    exact .context (.perform fun u hu =>
      ⟨trivial, hview.setMaintenance (fun _ _ => .setMaintenanceSurge) hu⟩)
  split
  · split
    · exact .ret fun _ => hview
    · exact .bind (.conseq (guard_createOrAdoptMaintenanceSurge hpool hcell)
        fun _ _ _ => .ret (by simp))
  · refine .bind (.conseq (.forEach_mem (I := fun _ t => View shard pods t) ?_ hview) ?_)
    · exact fun _ _ _ _ hview => guard_reconcileMaintenanceReady hview
    · exact fun _ _ hview => .ret fun _ => hview

/-! ## Phase 1 -/

theorem onPVC_ensureDataPVC (poolName cellName : String) (pool : PoolSpec) (index : ℕ)
    (pvcs : List PVC) : (ensureDataPVC shard poolName cellName pool index pvcs).Only Op.OnPVC := by
  unfold ensureDataPVC
  extract_lets pvcName
  split
  · split
    · exact only_fail
    · next pvc hpvc =>
      have hdel := deletionTimestamp_of_buildPoolDataPVC hpvc
      exact only_bind (onPVC_context (onPVC_createPVC hdel)) fun _ => only_pure
  · split
    · exact only_pure
    · refine only_bind (onPVC_context (onPVC_reclaimPVC _)) fun (terminating, pvc) => ?_
      dsimp only
      split
      · exact only_pure
      · exact only_bind (onPVC_expandPVCIfNeeded _ _) fun _ => only_pure

section Creation

variable {poolName cellName : String} {pool : PoolSpec} {index : ℕ} {st : Creation} {pod : Pod}
  {r : Reconciler}

theorem guard_createMissingPod (hpool : (poolName, pool) ∈ shard.spec.pools)
    (hcell : cellName ∈ pool.cells) (hview : View shard st.pods s)
    (hnew : ∀ p ∈ st.pods, p.name ≠ buildPoolPodName shard poolName cellName index) :
    Ensures B (Guard B shard) (createMissingPod shard poolName cellName index st)
      (fun st t => View shard st.pods t) s := by
  unfold createMissingPod
  extract_lets podName
  split
  · exact .fail
  next pod hpod =>
  refine .bind (.claimPodVolumes (fun s o => guard_of_onPVC s o) fun claim t hcalm hlive => ?_)
  have hview := hview.calm hcalm
  split
  · exact .ret hview
  · refine .bind (guard_createBuilt pod.maintenanceSurge hpool hcell hpod rfl (hlive rfl)
      (.ret hview) fun time u hu => .ret (hview.createPod ?_ hu))
    exact fun p hp => name_of_buildPoolPod hpod ▸ hnew p hp

theorem guard_replaceTerminalPod (hview : View shard st.pods s) (hmem : pod ∈ st.pods) :
    Ensures B (Guard B shard) (replaceTerminalPod pod st) (fun st t => View shard st.pods t) s := by
  refine .bind (.podTerminatingClaim fun claim hlive => ?_)
  split
  · exact .ret hview
  split
  · exact .ret hview
  · refine .bind (.context (.deletePod (.ret hview) fun how t ht => ⟨fun q hq hname => ?_, ?_⟩))
    · exact .inl ((hview.agrees pod hmem q hq hname).claims ▸ hlive rfl)
    · exact .ret (hview.deletePod ht)

theorem guard_handleDeletedPod (hview : View shard st.pods s) (hmem : pod ∈ st.pods)
    (hterm : pod.terminating = true) :
    Ensures B (Guard B shard) (handleDeletedPod pod st) (fun st t => View shard st.pods t) s := by
  unfold handleDeletedPod
  split
  · exact .ret hview
  · refine .bind (guard_handleExternalDeletion hview hmem hterm (.ret hview) fun time t ht => .ret ?_)
    exact hview.requestDrain ht

theorem guard_drainForResize (hview : View shard st.pods s) :
    Ensures B (Guard B shard) (drainForResize r shard cellName pod st)
      (fun st t => View shard st.pods t) s := by
  refine .bind (.isShardHealthy fun healthy hhealthy => ?_)
  split
  · exact .ret hview
  next hnot =>
  have hhealthy := hhealthy (by simpa using hnot)
  refine .bind (.of_reads (reads_hasMaintenanceCapacityForPod _ _) fun capacity => ?_)
  split
  · exact .ret hview
  refine .bind (.canStartDisruption fun allowed tracker hclear => ?_)
  dsimp only
  split
  · exact .ret hview
  · next hallowed =>
    refine .bind (guard_initiateDrain (hclear (by simpa using hallowed)) (fun _ => .healthy hhealthy)
      fun time t ht => .ret (hview.requestDrain ht))

theorem guard_reconcileExistingPod (hview : View shard st.pods s) (hmem : pod ∈ st.pods) :
    Ensures B (Guard B shard) (reconcileExistingPod r shard poolName cellName index pod st)
      (fun st t => View shard st.pods t) s := by
  unfold reconcileExistingPod
  split
  · exact guard_replaceTerminalPod hview hmem
  split
  · next hterm => exact guard_handleDeletedPod hview hmem hterm
  extract_lets st'
  have hview' : View shard st'.pods s := by
    unfold st'
    split <;> exact hview
  split
  · exact guard_drainForResize hview'
  · exact .ret hview'

/-- **Phase 1** keeps the view. -/
theorem guard_createMissingResources {effectiveReplicas : ℕ}
    (hpool : (poolName, pool) ∈ shard.spec.pools) (hcell : cellName ∈ pool.cells)
    (hview : View shard st.pods s) :
    Ensures B (Guard B shard)
      (createMissingResources r shard poolName cellName pool effectiveReplicas st)
      (fun st t => View shard st.pods t) s := by
  refine .forEach_mem (I := fun (st : Creation) t => View shard st.pods t)
    (fun index _ st t hview => ?_) hview
  refine .bind (guard_onPVC (onPVC_ensureDataPVC _ _ _ _ _) fun pvcs u hcalm => ?_)
  have hview := hview.calm hcalm
  dsimp only
  split
  · next hnone =>
    refine guard_createMissingPod hpool hcell hview fun p hp => ?_
    simpa using List.find?_eq_none.mp hnone p hp
  · next pod hpod => exact guard_reconcileExistingPod hview (List.mem_of_find?_eq_some hpod)

end Creation

/-! ## Phase 2

Once the phase has acted, the list is only trusted for what the pods mount. -/

/-- The stored pods of the listed names mount what the list says, and agree with it otherwise unless
the visit has acted. -/
structure Progress.Sees (shard : Shard) (pods : List Pod) (p : Progress) (s : Server) : Prop where
  claims : ∀ pod ∈ pods, ∀ q ∈ s.pods, q.name = pod.name → q.claims = pod.claims
  view : p.actionTaken = false → View shard pods s

theorem View.sees {p : Progress} (h : View shard pods s) : p.Sees shard pods s :=
  ⟨fun pod hpod q hq hname => (h.agrees pod hpod q hq hname).claims, fun _ => h⟩

section ScaleDown

variable {poolName : String} {pool : PoolSpec} {replicas effectiveReplicas : ℕ} {p : Progress}
  {pods : List Pod} {pod : Pod} {r : Reconciler}

theorem Progress.Sees.calm (h : p.Sees shard pods s) (hcalm : Calm s t) : p.Sees shard pods t :=
  ⟨hcalm.pods ▸ h.claims, fun hact => (h.view hact).calm hcalm⟩

/-- A change that keeps what the pods mount is seen once the visit has acted. -/
theorem Progress.Sees.acted {p' : Progress} (h : p.Sees shard pods s) (hact : p'.actionTaken = true)
    (ht : ∀ q' ∈ t.pods, ∃ q ∈ s.pods, q'.name = q.name ∧ q'.claims = q.claims) :
    p'.Sees shard pods t := by
  refine ⟨fun pod hpod q' hq' hname => ?_, by simp [hact]⟩
  obtain ⟨q, hq, hqname, hclaims⟩ := ht q' hq'
  exact hclaims.trans (h.claims pod hpod q hq (hqname ▸ hname))

variable {name : String}

theorem claims_requestDrain {time : Time}
    (ht : s.exec (.patchPod name (.requestDrain time)) = .ok t) :
    ∀ q' ∈ t.pods, ∃ q ∈ s.pods, q'.name = q.name ∧ q'.claims = q.claims := by
  intro q' hq'
  obtain ⟨q, hq, rfl⟩ := ((Server.exec_patchPod ht).2.1 q').mp hq'
  refine ⟨q, hq, ?_⟩
  split <;> exact ⟨rfl, rfl⟩

theorem claims_deletePod {uid : Option ℕ} {how : Removal}
    (ht : s.exec (.deletePod name uid how) = .ok t) :
    ∀ q' ∈ t.pods, ∃ q ∈ s.pods, q'.name = q.name ∧ q'.claims = q.claims := by
  intro q' hq'
  obtain ⟨q, hq, ⟨rfl, -⟩ | ⟨-, -, rfl⟩⟩ :=
    Server.mem_removePod ((Server.exec_deletePod ht).2.1 ▸ hq')
  · exact ⟨q', hq, rfl, rfl⟩
  · exact ⟨q, hq, rfl, rfl⟩

theorem guard_handleDeletedExtra (hsees : p.Sees shard pods s) (hmem : pod ∈ pods) :
    Ensures B (Guard B shard) (handleDeletedExtra p pod) (fun p t => p.Sees shard pods t) s := by
  unfold handleDeletedExtra
  split
  · next h =>
    simp only [Bool.and_eq_true, Bool.not_eq_true'] at h
    obtain ⟨⟨⟨hterm, -⟩, hact⟩, -⟩ := h
    refine .bind (guard_handleExternalDeletion (hsees.view hact) hmem hterm ?_ fun time t ht => ?_)
    · exact .ret ⟨hsees.claims, by simp⟩
    · exact .ret (hsees.acted rfl (claims_requestDrain ht))
  · exact .ret hsees

theorem guard_cleanupReadyForDeletion (hsees : p.Sees shard pods s) (hmem : pod ∈ pods) :
    Ensures B (Guard B shard) (cleanupReadyForDeletion shard poolName pool replicas p pod)
      (fun p t => p.Sees shard pods t) s := by
  refine .bind (.podTerminatingClaim fun claim hlive => ?_)
  have hrelease := onPVC_releaseDrainedPodPVC shard pod poolName pool replicas
  split
  · exact .bind (guard_onPVC (onPVC_context hrelease) fun _ t hcalm =>
      .ret ⟨(hsees.calm hcalm).claims, (hsees.calm hcalm).view⟩)
  · refine .bind (guard_onPVC (onPVC_context hrelease) fun _ t hcalm => ?_)
    have hsees := hsees.calm hcalm
    refine .bind (.context (.deletePod (.ret ⟨hsees.claims, by simp⟩) fun how u hu =>
      ⟨fun q hq hname => .inl ?_, .ret (hsees.acted rfl (claims_deletePod hu))⟩))
    exact hsees.claims pod hmem q hq hname ▸ hcalm.claims (hlive rfl)

theorem guard_drainExtraPod {extraPods : List Pod} (hview : View shard pods s) :
    Ensures B (Guard B shard) (drainExtraPod r shard pods effectiveReplicas extraPods p)
      (fun p t => p.actionTaken = false → View shard pods t) s := by
  unfold drainExtraPod
  split
  · exact .ret fun _ => hview
  refine .bind (.isShardHealthy fun healthy hhealthy => ?_)
  split
  · exact .ret fun _ => hview
  next hnot =>
  have hhealthy := hhealthy (by simpa using hnot)
  refine .bind (.of_reads (reads_selectShardScaleDownPod _) fun selected => ?_)
  split
  · exact .ret fun _ => hview
  split
  · exact .ret fun _ => hview
  refine .bind (.canStartDisruption fun allowed tracker hclear => ?_)
  dsimp only
  split
  · exact .ret fun _ => hview
  next hallowed =>
  refine .bind (.of_reads (reads_hasMaintenanceCapacityForPod _ _) fun capacity => ?_)
  split
  · exact .ret fun _ => hview
  · exact .bind (guard_initiateDrain (hclear (by simpa using hallowed)) (fun _ => .healthy hhealthy)
      fun _ _ _ => .ret (by simp))

/-- **Phase 2** keeps the view unless it acts. -/
theorem guard_handleScaleDown {actionTaken : Bool} {rollout : RolloutTracker}
    (hview : View shard pods s) :
    Ensures B (Guard B shard) (handleScaleDown r shard poolName pool pods replicas effectiveReplicas
      actionTaken rollout) (fun p t => p.actionTaken = false → View shard pods t) s := by
  have hsorted {pod : Pod} (h : pod ∈ sortByName pods) : pod ∈ pods :=
    (List.mem_insertionSort _).mp h
  unfold handleScaleDown
  extract_lets sorted readyForDeletion others extraPods start
  refine .bind (.conseq (.forEach_mem (I := fun p t => p.Sees shard pods t) ?_ hview.sees) ?_)
  · intro pod hpod p t hsees
    have hmem := (List.mem_filter.mp (List.mem_filter.mp hpod).1).1
    exact guard_handleDeletedExtra hsees (hsorted hmem)
  intro p t hsees
  refine .bind (.conseq (.forEach_mem (I := fun p t => p.Sees shard pods t) ?_ hsees) ?_)
  · intro pod hpod p t hsees
    exact guard_cleanupReadyForDeletion hsees (hsorted (List.mem_filter.mp hpod).1)
  intro p t hsees
  split
  · exact .ret hsees.view
  · next h =>
    have hact : p.actionTaken = false := by
      simp only [Bool.or_eq_true, not_or, Bool.not_eq_true] at h
      exact h.1.1.1
    exact guard_drainExtraPod (hsees.view hact)

end ScaleDown

/-! ## Phase 3 -/

section Rollout

variable {poolName cellName : String} {pool : PoolSpec} {pods : List Pod} {pod : Pod}
  {r : Reconciler} {rollout : RolloutTracker}

theorem livePoolerPods_singleton {store : TopoStore} {names live : List String} {name : String}
    (h : livePoolerPods store shard names = .ok live) (hmem : name ∈ names) (hlive : name ∉ live) :
    livePoolerPods store shard [name] = .ok [] := by
  unfold livePoolerPods at h ⊢
  cases hrecords : cellRecords store (collectCells shard) with
  | error e => simp [hrecords, Except.map] at h
  | ok records =>
    simp only [hrecords, Except.map, Except.ok.injEq] at h ⊢
    subst h
    simp only [List.mem_filter, hmem, true_and, Bool.not_eq_true] at hlive
    simp [hlive]

theorem Ensures.topoStrandedPod {G : Server → Op → Prop} {Q : Option Pod → Server → Prop}
    (h₀ : Q none s)
    (h : ∀ pod ∈ pods, ∀ i, Quiet shard s → B s i → Stranded shard i pod → Q (some pod) s) :
    Ensures B G (topoStrandedPod shard pods) Q s := by
  unfold MultigresOperator.topoStrandedPod
  extract_lets candidates
  split
  · exact .ret h₀
  refine .fetchResult ?_ fun _ => .ret h₀
  dsimp only
  split
  · exact .ret h₀
  next hquiet =>
  refine .bind (.answer fun i hi => ?_)
  split
  · exact .ret h₀
  next store hstore =>
  split
  · exact .ret h₀
  next live hlive =>
  refine .ret ?_
  cases hfound : candidates.find? fun pod => !live.contains pod.name with
  | none => exact h₀
  | some pod =>
    have hmem := List.mem_of_find?_eq_some hfound
    have ⟨hpod, hdrifted⟩ := List.mem_filter.mp hmem
    have hnot : pod.name ∉ live := by simpa using List.find?_some hfound
    refine h pod ((List.mem_insertionSort _).mp hpod) i (fun q hq => ?_) hi ⟨hdrifted, store, hstore,
      livePoolerPods_singleton hlive (List.mem_map_of_mem hmem) hnot⟩
    simp only [List.any_eq_true, not_exists, not_and, Bool.not_eq_true] at hquiet
    exact hquiet q hq

/-- A pod of the view that is stranded is stored as such while no disruption is in flight. -/
theorem View.stranded {i : Answer} {q : Pod} (hview : View shard pods s) (hmem : pod ∈ pods)
    (hquiet : Quiet shard s) (h : Stranded shard i pod) (hq : q ∈ s.pods)
    (hname : q.name = pod.name) : q ∈ s.poolPods shard ∧ Stranded shard i q := by
  have hagrees := hview.agrees pod hmem q hq hname
  have hpool : q ∈ s.poolPods shard :=
    Server.mem_listPods.mpr ⟨hq, hagrees.labels ▸ hview.pool pod hmem⟩
  have hundisturbed := hquiet q hpool
  refine ⟨hpool, ?_, hname ▸ h.2⟩
  have hdrifted := h.1
  simp only [podTopoDrifted, hagrees.topoFlags, hagrees.poolerDataReady, hundisturbed] at hdrifted ⊢
  split at hdrifted
  · exact absurd hdrifted (by simp)
  · next hcond =>
    simp only [Bool.or_eq_true, not_or, Bool.not_eq_true] at hcond
    simpa [hcond.2] using hdrifted

theorem poolUsesCell_of_rolloutClass {c : RolloutClass} (h : rolloutClass shard pod = some c)
    (hpool : shard.pool? pod.pool = some pool) : poolUsesCell pool pod.cell = true := by
  simp only [rolloutClass, hpool] at h
  split at h
  · next heq _ =>
    cases heq
    by_contra huses
    simp [Bool.eq_false_iff.mpr huses] at h
  · cases h

theorem poolUsesCell_of_mem_unreadyExtras (h : pod ∈ unreadyExtras shard pods)
    (hpool : shard.pool? pod.pool = some pool) : poolUsesCell pool pod.cell = true := by
  have hfilter := (List.mem_filter.mp ((List.mem_insertionSort _).mp h)).2
  simp only [hpool] at hfilter
  split at hfilter
  · next heq _ =>
    cases heq
    simp only [Bool.and_eq_true] at hfilter
    exact hfilter.1.1.1.1.1.1
  · cases hfilter

theorem poolUsesCell_of_mem_replacementCandidates (h : pod ∈ replacementCandidates shard pods)
    (hpool : shard.pool? pod.pool = some pool) : poolUsesCell pool pod.cell = true := by
  have ofClass {c : RolloutClass} {pod : Pod} (hpool : shard.pool? pod.pool = some pool)
      (h : pod ∈ (sortByName pods).filter fun pod => rolloutClass shard pod == some c) :
      poolUsesCell pool pod.cell = true :=
    poolUsesCell_of_rolloutClass (by simpa using (List.mem_filter.mp h).2) hpool
  simp only [replacementCandidates, List.mem_append] at h
  rcases h with (hextra | hunready) | hprimary
  · exact poolUsesCell_of_mem_unreadyExtras hextra hpool
  · exact ofClass hpool hunready
  · cases hp : (classifyDesiredPods shard pods).primary with
    | none => simp [hp] at hprimary
    | some primary =>
      simp only [hp, List.mem_append, List.mem_singleton] at hprimary
      rcases hprimary with hready | rfl
      · exact ofClass hpool hready
      · exact ofClass hpool (List.mem_of_getLast? hp)

variable {preflight : Preflight}

/-- The candidates are tried in order until one is drained; the surge is for one of them. -/
theorem guard_replaceFirst {isExtra : String → Bool} {candidates : List Pod} {a : Attempts}
    (clear : Clear shard s) (cause : ∀ name, DrainCause B shard s name) :
    Ensures B (Guard B shard) (replaceFirst r shard preflight isExtra candidates a)
      (fun a' _ => ∀ pod, a'.surgeFor = some pod → pod ∈ candidates ∨ a.surgeFor = some pod) s := by
  induction candidates generalizing a with
  | nil => exact .ret fun _ => .inr
  | cons pod candidates ih =>
    refine .bind (.of_reads (reads_unreadyReplacementBlocked _ _ _ _) fun (blocked, needsSurge) => ?_)
    dsimp only
    split
    · refine .conseq ih fun a' _ h q hq => ?_
      rcases h q hq with hmem | hsurge
      · exact .inl (List.mem_cons_of_mem _ hmem)
      · revert hsurge
        dsimp only
        split
        · cases a.surgeFor with
          | none => exact fun hpod => .inl (by simp [← Option.some.inj hpod])
          | some _ => exact .inr
        · exact .inr
    · exact .bind (guard_initiateDrain clear (fun _ => cause _) fun _ _ _ => .ret fun _ => .inr)

theorem guard_requestMaintenanceSurge
    (hcell : ∀ pool, shard.pool? pod.pool = some pool → poolUsesCell pool pod.cell = true) :
    Ensures B (Guard B shard) (requestMaintenanceSurge shard pod rollout) (fun _ _ => True) s := by
  unfold requestMaintenanceSurge
  split
  · exact .ret trivial
  split
  · exact .ret trivial
  next pool hpool =>
  refine .bind (.context (.fetch ?_))
  split
  · exact .ret trivial
  refine .bind (.context (.fetch (.bind (.conseq (guard_createOrAdoptMaintenanceSurge ?_ ?_)
    fun _ _ _ => .ret trivial))))
  · exact Assoc.mem_of_lookup hpool
  · simpa [poolUsesCell] using hcell pool hpool

theorem guard_replaceObserved (clear : Clear shard s) (cause : ∀ name, DrainCause B shard s name) :
    Ensures B (Guard B shard) (replaceObserved r shard pods preflight rollout) (fun _ _ => True) s := by
  unfold replaceObserved
  extract_lets current
  split
  · exact .ret trivial
  refine .bind (.conseq (guard_replaceFirst clear cause) fun a t hsurge => ?_)
  split
  · exact .ret trivial
  split
  · next pod hpod =>
    refine .bind (.conseq (guard_requestMaintenanceSurge fun pool hpool => ?_) fun _ _ _ => .ret trivial)
    have hmem := (hsurge pod hpod).resolve_right (by simp)
    exact poolUsesCell_of_mem_replacementCandidates hmem hpool
  · exact .ret trivial

/-- **The not-Ready rollout** starts a drain only when every desired pod exists and those on the
desired spec are Ready. -/
theorem guard_replaceUnreadyDriftedPod :
    Ensures B (Guard B shard) (replaceUnreadyDriftedPod r shard rollout) (fun _ _ => True) s := by
  unfold replaceUnreadyDriftedPod
  split
  · exact .ret trivial
  refine .bind (.context (.fetch ?_))
  dsimp only
  split
  · exact .ret trivial
  split
  · exact .ret trivial
  split
  · exact .ret trivial
  next hmissing =>
  split
  · exact .ret trivial
  next hcurrent =>
  refine .bind (.observeDisruption (by simp [Server.poolPods]) fun preflight reason hclear => ?_)
  dsimp only
  split
  · exact .ret trivial
  · refine .bind (.conseq (guard_replaceObserved (hclear _ rfl).1 fun name => ?_) fun _ _ _ => .ret trivial)
    refine .unready hmissing fun pod hpod => ?_
    simpa using List.find?_eq_none.mp hcurrent pod hpod

theorem guard_drainDriftedPod {failure : String}
    (hhealthy : shardHealthy shard (s.poolPods shard) = true) :
    Ensures B (Guard B shard) (drainDriftedPod r shard cellName failure pod rollout)
      (fun _ _ => True) s := by
  refine .bind (.of_reads (reads_hasMaintenanceCapacityForPod _ _) fun capacity => ?_)
  split
  · exact .ret trivial
  refine .bind (.canStartDisruption fun allowed tracker hclear => ?_)
  dsimp only
  split
  · exact .ret trivial
  · next hallowed =>
    exact .bind (guard_initiateDrain (hclear (by simpa using hallowed)) (fun _ => .healthy hhealthy)
      fun _ _ _ => .ret trivial)

/-- **Phase 3** starts at most one disruption, behind its gates. -/
theorem guard_handleRollingUpdates {driftedCount : ℕ} {p : Progress}
    (hview : p.actionTaken = false → View shard pods s) :
    Ensures B (Guard B shard) (handleRollingUpdates r shard poolName cellName pods driftedCount p)
      (fun _ _ => True) s := by
  unfold handleRollingUpdates
  extract_lets rollout
  split
  · exact .ret trivial
  next hnot =>
  have hview := hview (by
    simp only [Bool.or_eq_true, not_or, Bool.not_eq_true] at hnot
    exact hnot.1.1.1)
  refine .bind (.topoStrandedPod ?_ fun pod hmem i hquiet hi hstranded => ?_)
  · refine .bind (.conseq guard_replaceUnreadyDriftedPod fun (handled, rollout) t _ => ?_)
    dsimp only
    split
    · exact .ret trivial
    refine .bind (.isShardHealthy fun healthy hhealthy => ?_)
    split
    · exact .ret trivial
    next hnot =>
    have hhealthy := hhealthy (by simpa using hnot)
    unfold rollReadyPod
    extract_lets drifted
    split
    · exact guard_drainDriftedPod hhealthy
    · split
      · split
        · exact .ret trivial
        · exact guard_drainDriftedPod hhealthy
      · exact .ret trivial
  · refine .bind (.context (.mountedTerminatingPVCs fun names hintact => ?_))
    split
    · exact .ret trivial
    · next hempty =>
      have clear : Clear shard s := ⟨hquiet, hintact (by simpa using hempty)⟩
      refine .bind (guard_initiateDrain clear ?_ fun _ _ _ => .ret trivial)
      rintro ⟨q, hq, hname⟩
      have ⟨hpool, hstranded⟩ := hview.stranded hmem hquiet hstranded hq hname
      exact .stranded hpool hname hi hstranded

end Rollout

/-! ## All visits -/

variable {r : Reconciler}

/-- **A visit** keeps to the guard. -/
theorem guard_reconcilePoolPods (hpool : (poolName, pool) ∈ shard.spec.pools)
    (hcell : cellName ∈ pool.cells) :
    Ensures B (Guard B shard) (reconcilePoolPods r shard poolName cellName pool rollout)
      (fun _ _ => True) s := by
  refine .bind ?_
  unfold earlierPhases
  extract_lets where_ selector replicas
  refine .bind (.context (.fetch (.bind (.context (.fetch ?_)))))
  refine .bind (.conseq (guard_reconcileCellMaintenanceSurge hpool hcell .of_listPods)
    fun surge t hview => ?_)
  split
  · exact .ret (.ret trivial)
  next hnot =>
  extract_lets effectiveReplicas
  have hview := hview (by simpa using hnot)
  refine .bind (.conseq (guard_createMissingResources hpool hcell hview) fun st t hview => ?_)
  refine .bind (.conseq (guard_handleScaleDown hview) fun p t hview => .ret ?_)
  exact guard_handleRollingUpdates hview

/-- **All visits** of a pass keep to the guard, in any order of the pools. -/
theorem guard_reconcilePools {pools : List (String × PoolSpec)}
    (hpools : ∀ pool ∈ pools, pool ∈ shard.spec.pools) :
    Ensures B (Guard B shard) (reconcilePools r shard pools) (fun _ _ => True) s := by
  refine .forEach_mem (I := fun _ _ => True) (fun (poolName, pool) hpool rollout t _ => ?_) trivial
  dsimp only
  unfold reconcilePool
  split
  · exact .fail
  · refine .forEach_mem (I := fun _ _ => True) (fun cellName hcell rollout t _ => ?_) trivial
    refine .bind (.conseq (.context (guard_reconcilePoolPods (hpools _ hpool) hcell)) fun _ t _ => ?_)
    exact .bind (.context (.otherRequest (.ret trivial)))

end MultigresOperator

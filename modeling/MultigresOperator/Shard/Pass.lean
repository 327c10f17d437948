import MultigresOperator.Shard.Visit

/-!
# A pass keeps to its guard

The remaining phases of a pass, and the pass as a whole: every request it makes, whatever the
environment answers and in whatever order it visits the pools, satisfies `Guard` in the state of the
API server it is made in.

## Main results

* `guard_reconcileLite`, `guard_reconcileDataPlane`: the phases besides the pools
* `guard_reconcileShard`: **a pass keeps to its guard**
* `noPodPatch_reconcileShard`: the pass of a Lite shard writes no annotation of a pod
-/

namespace MultigresOperator

open Effects MultigresOperator.Action Prog

variable {B : Server → Answer → Prop} {shard : Shard} {s t : Server}

/-! ## Lite shards -/

section Lite

variable {poolName cellName : String}

theorem reads_validateLiteResourceIdentity :
    Reads (validateLiteResourceIdentity shard poolName cellName) := by
  refine only_bind only_fetch fun pods => ?_
  split
  · exact only_fail
  · refine only_bind only_fetch fun pvcs => ?_
    split
    · exact only_fail
    · exact only_pure

theorem reads_liteNeedsResize {pod : Pod} :
    Reads (liteNeedsResize shard poolName cellName pod) := by
  unfold liteNeedsResize
  split
  · exact only_pure
  · refine only_bind (reads_context only_fetch) fun pvc => ?_
    split <;> exact only_pure

theorem guard_ensureLitePod (hmode : shard.spec.mode = .lite) :
    Ensures B (Guard B shard) (ensureLitePod shard poolName cellName) (fun _ _ => True) s := by
  unfold ensureLitePod
  split
  · exact .fail
  next desired hdesired =>
  refine .bind (.context (.fetch ?_))
  split
  · refine .bind (.claimPodVolumes (fun s o => guard_of_onPVC s o) fun claim t _ hlive => ?_)
    split
    · exact .ret trivial
    · exact .context (.createPod trivial fun time u _ =>
        ⟨⟨.lite time hmode hdesired rfl, hlive rfl⟩, trivial⟩)
  next existing hexisting =>
  have hmem := (Keyed.find_eq_some.mp hexisting).1
  split
  · exact .ret trivial
  refine .bind (.podTerminatingClaim fun claim hlive => ?_)
  split
  · exact .ret trivial
  extract_lets replace
  have hreplace (b : Bool) :
      Ensures B (Guard B shard) (replace b) (fun _ _ => True) s := by
    unfold replace
    split
    · refine .context (.deletePod trivial fun how u _ => ⟨fun q hq hname => .inl ?_, trivial⟩)
      rw [s.pods.eq_of_key_eq hq hmem hname]
      exact hlive rfl
    · exact .ret trivial
  split
  · exact hreplace true
  · exact .bind (.of_reads reads_liteNeedsResize hreplace)

/-- **A Lite pass** keeps to the guard. -/
theorem guard_reconcileLite (hmode : shard.spec.mode = .lite) :
    Ensures B (Guard B shard) (reconcileLite shard) (fun _ _ => True) s := by
  unfold reconcileLite
  split
  · exact .fail
  next poolName cellName pool _ =>
  refine .bind (.of_reads reads_validateLiteResourceIdentity fun _ => ?_)
  refine .bind (guard_onPVC (onPVC_reconcileSharedBackupPVC shard) fun _ t _ => ?_)
  refine .bind (.answer fun i _ => ?_)
  split
  · exact .ret trivial
  refine .bind (.otherRequest ?_)
  refine .bind (guard_onPVC (onPVC_reconcileLitePVCMetadata shard poolName cellName) fun _ t _ => ?_)
  refine .bind (.answer fun i _ => ?_)
  split
  · exact .fail
  · unfold recoverLitePod
    refine .bind (.context (.fetch ?_))
    split
    · exact .ret trivial
    split
    · exact .ret trivial
    refine .bind (.context (.fetch ?_))
    split
    · exact guard_ensureLitePod hmode
    · split
      · exact guard_ensureLitePod hmode
      · exact .ret trivial
  · exact .bind (guard_onPVC (onPVC_ensureLiteDataPVC shard poolName cellName pool) fun _ t _ =>
      guard_ensureLitePod hmode)

/-- A request that writes no annotation of a pod. -/
def Op.NoPodPatch (o : Op) : Prop := ∀ name patch, o ≠ .patchPod name patch

theorem Op.OnPVC.noPodPatch (o : Op) (h : o.OnPVC) : o.NoPodPatch := by
  rintro name patch rfl
  exact h

theorem noPodPatch_ensureLitePod : (ensureLitePod shard poolName cellName).Only Op.NoPodPatch := by
  have reads {α : Type} {p : Action α} (h : Reads p) : p.Only Op.NoPodPatch :=
    only_mono h fun _ => False.elim
  unfold ensureLitePod
  split
  · exact only_fail
  refine only_bind (only_mapError only_fetch) fun existing => ?_
  split
  · refine only_bind (only_firstM fun claim _ => ?_) fun claim => ?_
    · refine only_bind (only_mapError only_fetch) fun found => ?_
      split
      · exact only_pure
      split
      · exact only_pure
      · exact only_bind (only_mono (onPVC_context (onPVC_clearOrphan _)) Op.OnPVC.noPodPatch)
          fun _ => only_pure
    · split
      · exact only_pure
      · exact only_mapError (only_bind only_answer fun _ => only_performUnless (by simp [Op.NoPodPatch]))
  split
  · exact only_pure
  refine only_bind (only_firstM fun claim _ => only_bind (only_mapError only_fetch) fun found => ?_)
    fun claim => ?_
  · split <;> exact only_pure
  split
  · exact only_pure
  extract_lets replace
  have hreplace (b : Bool) : (replace b).Only Op.NoPodPatch := by
    unfold replace
    split
    · exact only_mapError (only_bind only_answer fun _ => only_performUnless (by simp [Op.NoPodPatch]))
    · exact only_pure
  split
  · exact hreplace true
  · exact only_bind (reads reads_liteNeedsResize) hreplace

/-- **A Lite pass** writes no annotation of a pod; in particular it drains none. -/
theorem noPodPatch_reconcileLite : (reconcileLite shard).Only Op.NoPodPatch := by
  have onPVC {α : Type} {p : Action α} (h : p.Only Op.OnPVC) : p.Only Op.NoPodPatch :=
    only_mono h Op.OnPVC.noPodPatch
  unfold reconcileLite
  split
  · exact only_fail
  next poolName cellName pool _ =>
  refine only_bind (only_mono reads_validateLiteResourceIdentity fun _ => False.elim) fun _ => ?_
  refine only_bind (onPVC (onPVC_reconcileSharedBackupPVC shard)) fun _ => ?_
  refine only_bind only_answer fun i => ?_
  split
  · exact only_pure
  refine only_bind only_fetch fun _ => ?_
  refine only_bind (onPVC (onPVC_reconcileLitePVCMetadata shard poolName cellName)) fun _ => ?_
  refine only_bind only_answer fun i => ?_
  split
  · exact only_fail
  · unfold recoverLitePod
    refine only_bind (only_mapError only_fetch) fun pvc => ?_
    split
    · exact only_pure
    split
    · exact only_pure
    refine only_bind (only_mapError only_fetch) fun pod => ?_
    split
    · exact noPodPatch_ensureLitePod
    · split
      · exact noPodPatch_ensureLitePod
      · exact only_pure
  · exact only_bind (onPVC (onPVC_ensureLiteDataPVC shard poolName cellName pool)) fun _ =>
      noPodPatch_ensureLitePod

end Lite

/-! ## Quarantined pods -/

def quarantinedNames (store : TopoStore) (shard : Shard) (s : Server) : List String :=
  match getQuarantinedPods store shard ((s.listPods (shardSelector shard)).map Pod.name) with
  | .ok found => found.map QuarantinedPod.podName
  | .error _ => []

/-- What a pass has made sure of when it wipes a pod. -/
structure Chosen (store : TopoStore) (shard : Shard) (s : Server) (pod : Pod) : Prop where
  mem : pod ∈ s.listPods (shardSelector shard)
  backup : shard.backupHealthy = true
  intact : Intact shard s
  staying : pod.terminating = false
  quarantined : pod.name ∈ quarantinedNames store shard s
  calm : poolHealthyExcluding (s.listPods (shardSelector shard)) pod (quarantinedNames store shard s)
  index : (resolvePodIndex pod.name).isSome

def dataPVCName (shard : Shard) (pod : Pod) : Option String :=
  (resolvePodIndex pod.name).map (buildPoolDataPVCName shard pod.pool pod.cell)

section Quarantine

variable {G : Server → Op → Prop} {known : Shard} {pod : Pod}

theorem Ensures.wipeQuarantinedPod
    (hdelete : (resolvePodIndex pod.name).isSome → ∀ how, G s (.deletePod pod.name none how))
    (hpvc : ∀ name, dataPVCName known pod = some name → ∀ t how, G t (.deletePVC name none how)) :
    Ensures B G (wipeQuarantinedPod known pod) (fun _ _ => True) s := by
  unfold MultigresOperator.wipeQuarantinedPod
  split
  · exact .ret trivial
  next index hindex =>
  refine .bind (.conseq (.context (.deletePod (Q := fun _ _ => True) trivial fun how t _ =>
    ⟨hdelete (by rw [hindex]; rfl) how, trivial⟩)) fun _ t _ => ?_)
  extract_lets pvcName forPod
  refine .bind (.context (.fetch ?_))
  split
  · exact .ret trivial
  next pvc hfound =>
  -- the PVC was found under the name that the pod's index gives
  have hname : dataPVCName known pod = some pvc.name := by
    rw [dataPVCName, hindex, (Keyed.find_eq_some.mp hfound).2]
    rfl
  exact .context (.bind (.answer fun i _ => .performUnless trivial fun _ _ =>
    ⟨hpvc _ hname _ _, trivial⟩))

/-- **The remediation** wipes only a chosen pod: there is no request between its checks and the
deletion. -/
theorem Ensures.reconcileQuarantineRemediation
    (hdelete : ∀ i store pod, B s i → i.topology = some store → Chosen store known s pod →
      (∀ how, G s (.deletePod pod.name none how)) ∧
        ∀ name, dataPVCName known pod = some name → ∀ t how, G t (.deletePVC name none how)) :
    Ensures B G (reconcileQuarantineRemediation known) (fun _ _ => True) s := by
  refine .bind (.context (.fetch (.bind (.answer fun i hi => ?_))))
  cases htopology : i.topology with
  | none => exact .ret trivial
  | some store =>
  cases hfound : getQuarantinedPods store known ((s.listPods (shardSelector known)).map Pod.name) with
  | error e => simpa only [Option.map_some, hfound] using .ret trivial
  | ok found =>
  simp only [Option.map_some, hfound]
  have hnames : quarantinedNames store known s = found.map QuarantinedPod.podName := by
    rw [quarantinedNames, hfound]
  split
  · exact .ret trivial
  next hgate =>
  simp only [Bool.or_eq_true, not_or, Bool.not_eq_true, Bool.not_eq_false'] at hgate
  refine .bind (.context (.mountedTerminatingPVCs fun names hintact => ?_))
  split
  · exact .ret trivial
  next hempty =>
  refine .bind (.conseq (Q := fun _ _ => True) ?_ fun _ _ _ => .ret trivial)
  -- the quarantined pods that are passed over cost no request
  refine .firstM (I := fun rest t => t = s ∧ ∀ q ∈ rest, q ∈ found) ?_ (fun _ _ => trivial)
    ⟨rfl, fun _ hq => hq⟩
  rintro q rest t ⟨rfl, hrest⟩
  have hskip : t = t ∧ ∀ q ∈ rest, q ∈ found := ⟨rfl, fun q hq => hrest q (.tail _ hq)⟩
  unfold remediateQuarantined
  split
  · exact .ret hskip
  next pod hpod =>
  split
  · exact .ret hskip
  next hstaying =>
  simp only [Bool.or_eq_true, not_or, Bool.not_eq_true] at hstaying
  refine .bind (.now fun time => ?_)
  split
  · exact .ret hskip
  split
  · exact .ret hskip
  next hcalm =>
  simp only [Bool.not_eq_true', Bool.not_eq_false] at hcalm
  have hname : pod.name = q.podName := by simpa using List.find?_some hpod
  have hchosen (hindex : (resolvePodIndex pod.name).isSome) : Chosen store known t pod :=
    { mem := List.mem_of_find?_eq_some hpod
      backup := hgate.2
      intact := hintact (by simpa using hempty)
      staying := hstaying.1
      quarantined := hnames ▸ hname ▸ List.mem_map.mpr ⟨q, hrest q (.head _), rfl⟩
      calm := hnames ▸ hcalm
      index := hindex }
  refine .bind (.conseq (.wipeQuarantinedPod (fun hindex => ?_) fun name hname' => ?_) fun _ _ _ =>
    .ret trivial)
  · exact (hdelete i store pod hi htopology (hchosen hindex)).1
  · refine (hdelete i store pod hi htopology (hchosen ?_)).2 name hname'
    rw [dataPVCName, Option.map_eq_some_iff] at hname'
    obtain ⟨index, hindex, -⟩ := hname'
    rw [hindex]
    rfl

end Quarantine

/-! ## The data plane

The roles and the backup health that a pass learns are no part of the guard of what follows:
`isDrainStale` and the selectors read the spec only. -/

section DataPlane

variable {G : Server → Op → Prop} {shard' : Shard}

/-- The Shard as a pass sees it once it has read the roles and the backup health. -/
structure Known (shard known : Shard) : Prop where
  update : ∃ roles healthy, known = { shard with podRoles := roles, backupHealthy := healthy }
  backup : known.backupHealthy = true → shard.backupHealthy = true

theorem Chosen.of_known {store : TopoStore} {pod : Pod} (hknown : Known shard shard')
    (h : Chosen store shard' s pod) : Chosen store shard s pod := by
  obtain ⟨roles, healthy, rfl⟩ := hknown.update
  exact ⟨h.mem, hknown.backup h.backup, h.intact, h.staying, h.quarantined, h.calm, h.index⟩

theorem Ensures.reconcileDataPlane {r : Reconciler}
    (hdelete : ∀ i store pod, B s i → i.topology = some store → Chosen store shard s pod →
      (∀ how, G s (.deletePod pod.name none how)) ∧
        ∀ name, dataPVCName shard pod = some name → ∀ t how, G t (.deletePVC name none how))
    (hdrain : ∀ known t, Known shard known →
      Ensures B G (reconcileDrainState known) (fun _ _ => True) t) :
    Ensures B G (reconcileDataPlane r shard) (fun _ _ => True) s := by
  refine .bind (.answer fun i _ => ?_)
  split
  · exact .ret trivial
  refine .bind (.conseq (Q := fun known t => Known shard known ∧ t = s) ?_ ?_)
  · refine .fetchResult (.fetchResult ?_ fun _ => ?_) fun _ => ?_ <;>
      exact .ret ⟨⟨⟨_, _, rfl⟩, id⟩, rfl⟩
  rintro known t ⟨hknown, rfl⟩
  refine .bind (.context (.otherRequest (.bind (.answer fun i _ => ?_))))
  extract_lets seen
  have hseen : Known shard seen := by
    obtain ⟨roles, healthy, rfl⟩ := hknown.update
    unfold seen
    split
    · exact ⟨⟨_, _, rfl⟩, nofun⟩
    · exact hknown
  split
  · exact .ret trivial
  refine .bind (.conseq (.reconcileQuarantineRemediation fun i store pod hi htopology hchosen => ?_)
    fun acted u _ => ?_)
  · obtain ⟨roles, healthy, hupdate⟩ := hseen.update
    have hpvc : dataPVCName seen pod = dataPVCName shard pod := by rw [hupdate]; rfl
    rw [hpvc]
    exact hdelete i store pod hi htopology (hchosen.of_known hseen)
  · split
    · exact .ret trivial
    · exact hdrain seen u hseen

theorem mem_patchPod_of_ne {name : String} {patch : PodPatch} {pod : Pod}
    (ht : s.exec (.patchPod name patch) = .ok t) (hpod : pod ∈ s.pods) (hne : pod.name ≠ name) :
    pod ∈ t.pods :=
  ((Server.exec_patchPod ht).2.1 pod).mpr ⟨pod, hpod, by simp [hne]⟩

theorem guard_reconcileDrain {pod : Pod} (hstale : isDrainStale shard' = isDrainStale shard)
    (hpod : pod ∈ s.pods) {I : Server → Prop} (hI : I s)
    (hpatch : ∀ patch t, s.exec (.patchPod pod.name patch) = .ok t → I t) :
    Ensures B (Guard B shard) (reconcileDrain shard' pod) (fun _ => I) s := by
  have stored {q : Pod} (hq : q ∈ s.pods) (hname : q.name = pod.name) : q = pod :=
    s.pods.eq_of_key_eq hq hpod hname
  unfold reconcileDrain
  split
  · exact .ret hI
  next hdraining =>
  split
  · next hst =>
    exact .patchPodLogged hI fun t ht =>
      ⟨fun q hq hname => stored hq hname ▸ hstale ▸ hst, hpatch _ t ht⟩
  · have hset (state : DrainState) : Ensures B (Guard B shard)
        ((updateDrainState pod state).bindResult fun _ => pure ()) (fun _ => I) s := by
      refine .patchPodLogged hI fun t ht => ⟨fun q hq hname => ?_, hpatch _ t ht⟩
      rw [stored hq hname]
      simpa using hdraining
    unfold executeDrainStateMachine
    split
    · exact .ret hI
    · exact .ret hI
    · exact .nowResult fun time => hset _

/-- **The drain phase** reads its pods once; each is still stored as listed when its turn comes. -/
theorem guard_reconcileDrainState (hstale : isDrainStale shard' = isDrainStale shard) :
    Ensures B (Guard B shard) (reconcileDrainState shard') (fun _ _ => True) s := by
  refine .bind (.fetch (.conseq (.forEach (I := fun rest _ t =>
    (∀ pod ∈ rest, pod ∈ t.pods) ∧ (rest.map Pod.name).Nodup) ?_ ⟨?_, ?_⟩) fun _ _ _ => trivial))
  · rintro pod rest _ t ⟨hmem, hnodup⟩
    rw [List.map_cons, List.nodup_cons] at hnodup
    have hrest (p : Pod) (hp : p ∈ rest) : p ∈ t.pods := hmem p (by simp [hp])
    refine guard_reconcileDrain hstale (hmem pod (by simp)) ⟨hrest, hnodup.2⟩ fun patch u hu =>
      ⟨fun p hp => mem_patchPod_of_ne hu (hrest p hp) fun hname => hnodup.1 ?_, hnodup.2⟩
    exact List.mem_map.mpr ⟨p, hp, hname⟩
  · exact fun pod hpod => (Server.mem_listPods.mp hpod).1
  · exact s.pods.nodup.sublist (List.filter_sublist.map Pod.name)

/-- **The data plane** keeps to the guard. -/
theorem guard_reconcileDataPlane {r : Reconciler} :
    Ensures B (Guard B shard) (reconcileDataPlane r shard) (fun _ _ => True) s := by
  refine .reconcileDataPlane (fun i store pod _ _ hchosen =>
    ⟨fun how q hq hname => .inr ?_, fun _ _ _ _ => trivial⟩) fun known t hknown => ?_
  · rw [s.pods.eq_of_key_eq hq (Server.mem_listPods.mp hchosen.mem).1 hname]
    exact ⟨hchosen.intact, hchosen.mem, hchosen.staying⟩
  · obtain ⟨roles, healthy, rfl⟩ := hknown.update
    exact guard_reconcileDrainState rfl

end DataPlane

/-! ## The pass -/

variable {r : Reconciler} {pools : List (String × PoolSpec)}

theorem noPodPatch_reconcileShard (hmode : shard.spec.mode = .lite) :
    (reconcileShard r shard pools).Only Op.NoPodPatch := by
  refine only_bind (only_bind only_fetch fun present => ?_) fun _ => only_bind only_fetch fun _ =>
    only_bind only_answer fun i => ?_
  · split
    · exact only_pure
    · exact only_mapError (only_perform (by simp [Op.NoPodPatch]))
  split
  · exact only_pure
  · exact noPodPatch_reconcileLite

/-- **A pass keeps to its guard**, for every spec, every order of the pools and every answer of the
environment. -/
theorem guard_reconcileShard (hpools : ∀ pool ∈ pools, pool ∈ shard.spec.pools) (s : Server) :
    Ensures B (Guard B shard) (reconcileShard r shard pools) (fun _ _ => True) s := by
  refine .bind (.conseq (Q := fun _ _ => True) (.bind (.fetch ?_)) fun _ t _ => ?_)
  · split
    · exact .ret trivial
    · exact .context (.perform fun _ _ => ⟨trivial, trivial⟩)
  refine .bind (.otherRequest (.bind (.answer fun i _ => ?_)))
  split
  · exact .ret trivial
  split
  · next hmode => exact guard_reconcileLite hmode
  refine .bind (.otherRequest ?_)
  refine .bind (guard_onPVC (onPVC_reconcileSharedBackupPVC shard) fun _ u _ => ?_)
  refine .bind (.answer fun i _ => ?_)
  split
  · exact .ret trivial
  refine .bind (.otherRequest (.bind (.conseq (guard_reconcilePools hpools) fun _ u _ => ?_)))
  exact .bind (guard_onPVC (onPVC_reconcilePVCOwnerRefs shard) fun _ u _ => guard_reconcileDataPlane)

end MultigresOperator

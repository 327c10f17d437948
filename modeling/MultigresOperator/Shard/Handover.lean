import MultigresOperator.Shard.Deletion
import MultigresOperator.Shard.OneDisruption

/-!
# Handing volumes over under a lagging pod cache

A deletion pass lists the pods of the Shard from the cached client, and the cache may lag the API
server. A run therefore carries the pods the API server has held so far, and the cached reads of a
pass show the pods of some moment of that timeline, never going back.

A PVC is handed over only once every pod the cache shows has been terminating past the timeout. That
spares the pods the API server holds exactly as far as the cache shows them: a pod that the pass
before the deletion created, and the cache does not show yet, loses its volume.

## Main definitions

* `Lagged`, `Follows`: a Shard with the timeline of its pods, and a cache that moves along it
* `Lagged.Run`: runs of normal passes, deletion passes and changes made by others
* `ShowsPods`: the cache shows every pod of the Shard
* `Request.Spares`: no PVC is handed over under a pod that is not gone

## Main results

* `wpAlone_spares`: a deletion pass whose cache shows every pod spares them
* `handover_spares_pods`: so does every run of such deletion passes
* `handover_under_new_pod`: a run in which a deletion pass hands over the PVC of a new pod
-/

namespace MultigresOperator

open Effects MultigresOperator.Action Prog

/-- A Shard and the API server, with the pods the API server has held so far, oldest first, and the
moment the pod cache has come to. -/
structure Lagged where
  system : System
  timeline : List (Keyed Pod.name)
  seen : ℕ

/-- The cached client is current but for pods. -/
def OnlyPodsLag (s : Server) (i : Answer) : Prop :=
  ∀ shown ∈ i.cache, shown.pvcs = s.pvcs ∧ shown.deployments = s.deployments ∧
    shown.storageClasses = s.storageClasses ∧ shown.clusters = s.clusters ∧
    shown.shardFinalizer = s.shardFinalizer

instance (s : Server) (i : Answer) : Decidable (OnlyPodsLag s i) :=
  inferInstanceAs (Decidable (∀ shown ∈ i.cache, _))

/-- Over a pass the pod cache moves along the timeline from the moment `seen` to the moment `upTo`. -/
def Follows (timeline : List (Keyed Pod.name)) (seen upTo : ℕ) (answers : ℕ → Answer) : Prop :=
  ∃ pos : ℕ → ℕ, Monotone pos ∧ seen ≤ pos 0 ∧ (∀ n, pos n ≤ upTo) ∧
    ∀ n, ∃ shown, (answers n).cache = some shown ∧ timeline[pos n]? = some shown.pods

/-- What a deletion pass is answered. No clock reading of the pass is past `time`. -/
structure DeletionPass where
  hasFinalizer : Bool
  answers : ℕ → Answer
  time : Time

def DeletionPass.outcome (p : DeletionPass) (x : System) :
    Outcome Answer Server Op Failure (Option Time) :=
  (handleDeletion x.shard p.hasFinalizer).run machine p.answers x.server

/-- A request of a run: whether a deletion pass made it, and the state and time it was made in. -/
structure Request where
  deletion : Bool
  system : System
  time : Time
  op : Op

namespace Lagged

/-- The moments an outcome adds to the timeline. -/
def moments {α : Type} (out : Outcome Answer Server Op Failure α) : List (Keyed Pod.name) :=
  out.trace.map (fun e => e.1.pods) ++ [out.state.pods]

/-- The state after a pass that moved the pod cache to the moment `upTo`. -/
def after {α : Type} (x : Lagged) (out : Outcome Answer Server Op Failure α) (upTo : ℕ) : Lagged :=
  ⟨x.system.on out.state, x.timeline ++ moments out, upTo⟩

def requests {α : Type} (x : Lagged) (deletion : Bool) (time : Time)
    (out : Outcome Answer Server Op Failure α) : List Request :=
  out.trace.map fun e => ⟨deletion, x.system.on e.1, time, e.2⟩

/-- Runs, with the requests made in them. `E` are the changes others make, the delete of the Shard
among them, and `C` is what is known of the answers of the deletion passes. -/
inductive Run (r : Reconciler) (E : System → System → Prop) (C : Shard → Server → Answer → Prop)
    (x : Lagged) : List Request → Lagged → Prop
  | refl : Run r E C x [] x
  | change {tr y} {z : System} : Run r E C x tr y → E y.system z →
      Run r E C x tr ⟨z, y.timeline ++ [z.server.pods], y.seen⟩
  | pass {tr y} (p : Pass) {upTo : ℕ} (time : Time) : Run r E C x tr y →
      p.pools.Perm y.system.shard.spec.pools →
      (reconcileShard r y.system.shard p.pools).Admits machine OnlyPodsLag p.answers
        y.system.server →
      Follows (y.timeline ++ moments (p.outcome r y.system)) y.seen upTo p.answers →
      Run r E C x (tr ++ y.requests false time (p.outcome r y.system))
        (y.after (p.outcome r y.system) upTo)
  | deletion {tr y} (p : DeletionPass) {upTo : ℕ} : Run r E C x tr y →
      y.system.shard.deletionTimestamp.isSome = true →
      (handleDeletion y.system.shard p.hasFinalizer).Admits machine
        (fun s i => OnlyPodsLag s i ∧ i.now ≤ p.time ∧ C y.system.shard s i) p.answers
        y.system.server →
      Follows (y.timeline ++ moments (p.outcome y.system)) y.seen upTo p.answers →
      Run r E C x (tr ++ y.requests true p.time (p.outcome y.system))
        (y.after (p.outcome y.system) upTo)

end Lagged

/-- The request deletes the PVC of a name or labels it orphan. -/
def Op.HandsOver (name : String) : Op → Prop
  | .deletePVC pvc _ _ => pvc = name
  | .patchPVC pvc patch => pvc = name ∧ ∃ label, patch.orphanSince = some (some label)
  | _ => False

variable {o : Op} {pod : Pod} {shard : Shard} {time : Time} {s : Server}

theorem Op.HandsOver.onVolume {name : String} (h : o.HandsOver name) : o.OnVolume := by
  cases o <;> first | exact h.elim | trivial

/-- No pool pod of the shard refers to a PVC that is handed over, other than pods gone by `time`. -/
def Server.Spares (shard : Shard) (time : Time) (s : Server) (o : Op) : Prop :=
  ∀ name, o.HandsOver name → ∀ pod ∈ s.poolPods shard, name ∈ pod.claims → pod.GoneAt time

/-- A deletion pass does not hand over the PVC of a pod that is not gone. -/
def Request.Spares (q : Request) : Prop :=
  q.deletion = true → q.system.server.Spares q.system.shard q.time q.op

/-- The cached client shows every pod of the shard as the API server holds it. -/
def ShowsPods (shard : Shard) (s : Server) (i : Answer) : Prop :=
  ∀ pod ∈ s.listPods (shardSelector shard),
    pod ∈ (machine.shown .cached i s).listPods (shardSelector shard)

instance (shard : Shard) (s : Server) (i : Answer) : Decidable (ShowsPods shard s i) :=
  inferInstanceAs (Decidable (∀ pod ∈ s.listPods (shardSelector shard), _))

theorem Pod.GoneAt.mono {a b : Time} (h : pod.GoneAt a) (hab : a ≤ b) : pod.GoneAt b := by
  obtain ⟨since, hdt, hle⟩ := h
  exact ⟨since, hdt, hle.trans hab⟩

theorem Server.spares_of_not_onVolume (h : ¬ o.OnVolume) : s.Spares shard time o :=
  fun _ ho => absurd ho.onVolume h

theorem Server.listPods_of_poolPods (h : pod ∈ s.poolPods shard) :
    pod ∈ s.listPods (shardSelector shard) := by
  have ⟨hmem, hmatch⟩ := Server.mem_listPods.mp h
  refine Server.mem_listPods.mpr ⟨hmem, ?_⟩
  rw [disruptionSelector, Labels.Matches, List.all_append, Bool.and_eq_true_iff] at hmatch
  exact hmatch.1

/-- **A deletion pass whose cache shows every pod** hands over no PVC of a pod that is not gone. -/
theorem wpAlone_spares {A : Server → Answer → Prop} {hasFinalizer : Bool}
    (hA : ∀ t i, A t i → i.now ≤ time ∧ ShowsPods shard t i) :
    wpAlone machine A (Server.Spares shard time) (handleDeletion shard hasFinalizer)
      (fun _ _ => True) (fun _ _ => True) s := by
  refine wpAlone_handleDeletion (J := fun _ => True)
    (fun t o _ ho _ _ => ⟨Server.spares_of_not_onVolume (not_onVolume_of_clears ho), trivial⟩)
    (fun _ _ _ => trivial) (fun _ _ => trivial) (fun i t _ hi hgone => ?_) trivial
  -- the pods the API server holds are among the listed ones
  have gone (pod : Pod) (hpod : pod ∈ t.poolPods shard) : pod.GoneAt time := by
    obtain ⟨i', hi', hgone⟩ := hgone pod ((hA t i hi).2 pod (Server.listPods_of_poolPods hpod))
    exact hgone.mono (hA t i' hi').1
  rw [finishDeletion, if_neg (by omega)]
  refine wpAlone_bind (wpAlone_conseq (wpAlone_of_only_invariant (I := fun u => u.pods = t.pods)
    (fun u o u' ho hpods hu => ⟨fun name _ pod hpod _ => gone pod ?_,
      (Server.exec_onVolume ho hu).1.trans hpods⟩)
    (onVolume_cleanupShardPVCs shard) rfl) (fun _ u _ => ?_) fun _ _ _ => trivial)
  · rw [Server.poolPods, Server.listPods, hpods] at hpod
    exact hpod
  · split
    · refine wpAlone_bind (wpAlone_mapError (wpAlone_perform (fun _ _ _ => trivial) fun v _ =>
        ⟨Server.spares_of_not_onVolume not_false, wpAlone_pure.mpr trivial⟩))
    · exact wpAlone_pure.mpr trivial

/-- **Handing over in a run.** Where the cache of every deletion pass shows the pods of the Shard that
the API server holds, no deletion pass deletes or labels orphan a PVC that a pool pod refers to,
other than pods terminating past the timeout. -/
theorem handover_spares_pods {r : Reconciler} {E : System → System → Prop} {x y : Lagged}
    {tr : List Request} (h : Lagged.Run r E ShowsPods x tr y) : ∀ q ∈ tr, q.Spares := by
  induction h with
  | refl => simp
  | change _ _ ih => exact ih
  | pass p time _ _ _ _ ih =>
    intro q hq
    rcases List.mem_append.mp hq with hq | hq
    · exact ih q hq
    · obtain ⟨e, -, rfl⟩ := List.mem_map.mp hq
      exact fun hdel => by cases hdel
  | deletion p _ _ hadmits _ ih =>
    intro q hq
    rcases List.mem_append.mp hq with hq | hq
    · exact ih q hq
    · obtain ⟨e, he, rfl⟩ := List.mem_map.mp hq
      exact fun _ => (run_of_wp (wpAlone_spares fun _ _ hA => hA.2) hadmits).1 e he

/-! ## A pod the cache does not show -/

namespace Sample

def stayingShard : Shard := { goingShard with deletionTimestamp := none }

/-- The data PVC is there, its pod is not. -/
def bareServer : Server := { goingServer with pvcs := ⟨[goingPVC], by simp⟩ }

def bareSystem (shard : Shard) : Lagged := ⟨⟨shard, bareServer⟩, [bareServer.pods], 0⟩

/-- The cached client shows no pod throughout. -/
def bareAnswers : ℕ → Answer := fun _ => { cache := some bareServer }

def creatingPass : Pass := ⟨stayingShard.spec.pools, bareAnswers⟩

def bareDeletion : DeletionPass := ⟨true, bareAnswers, 0⟩

/-- The moment before the pod was created is the first one of every timeline here. -/
theorem bareAnswers_follows {timeline : List (Keyed Pod.name)}
    (h : timeline.head? = some bareServer.pods) : Follows timeline 0 0 bareAnswers := by
  refine ⟨fun _ => 0, monotone_const, le_rfl, fun _ => le_rfl, fun _ => ⟨bareServer, rfl, ?_⟩⟩
  rw [← List.head?_eq_getElem?, h]

def ShardDeleted (x y : System) : Prop :=
  y = { x with shard := { x.shard with deletionTimestamp := some 0 } }

/-- The pod of the PVC has been created. -/
def createdSystem : Lagged :=
  (bareSystem stayingShard).after (creatingPass.outcome reconciler (bareSystem stayingShard).system) 0

/-- And the Shard has been deleted. -/
def leavingSystem : System := ⟨goingShard, createdSystem.system.server⟩

theorem leavingSystem_deleted : ShardDeleted createdSystem.system leavingSystem := rfl

end Sample

section

open Sample

/-- The PVC is handed over once no pod is left. -/
theorem handover_spares_pods_bare :
    ∃ tr y, Lagged.Run reconciler ShardDeleted ShowsPods (bareSystem goingShard) tr y ∧
      (∃ q ∈ tr, q.deletion = true ∧ q.op.HandsOver goingPVC.name) ∧ ∀ q ∈ tr, q.Spares := by
  have run : Lagged.Run reconciler ShardDeleted ShowsPods (bareSystem goingShard) _ _ :=
    .deletion (y := bareSystem goingShard) bareDeletion .refl rfl (by decide +kernel)
      (bareAnswers_follows rfl)
  refine ⟨_, _, run, ?_, handover_spares_pods run⟩
  have hop : ∃ e ∈ (bareDeletion.outcome (bareSystem goingShard).system).trace,
      e.2 = .patchPVC goingPVC.name
        { orphanSince := some (some (.since 0)), ownerRefs := some [] } := by decide +kernel
  obtain ⟨e, he, hop⟩ := hop
  refine ⟨⟨true, (bareSystem goingShard).system.on e.1, 0, e.2⟩,
    List.mem_append_right _ (List.mem_map.mpr ⟨e, he, rfl⟩), rfl, ?_⟩
  rw [hop]
  exact ⟨rfl, _, rfl⟩

/-- **A volume handed over under a new pod**: a pass creates the pod of the PVC, the Shard is deleted,
and a deletion pass whose cache does not show the pod yet labels the PVC orphan. -/
theorem handover_under_new_pod :
    ∃ x tr y, Lagged.Run reconciler ShardDeleted (fun _ _ _ => True) x tr y ∧
      ∃ q ∈ tr, ¬ q.Spares := by
  have created : Lagged.Run reconciler ShardDeleted (fun _ _ _ => True) (bareSystem stayingShard) _
      createdSystem :=
    .pass (y := bareSystem stayingShard) creatingPass 0 .refl (.refl _) (by decide +kernel)
      (bareAnswers_follows rfl)
  have deleted := created.change leavingSystem_deleted
  have cleaned := @Lagged.Run.deletion _ _ _ _ _ _ bareDeletion 0 deleted rfl (by decide +kernel)
    (bareAnswers_follows rfl)
  refine ⟨_, _, _, cleaned, ?_⟩
  have hunder : ∃ e ∈ (bareDeletion.outcome leavingSystem).trace,
      e.2 = .patchPVC goingPVC.name
          { orphanSince := some (some (.since 0)), ownerRefs := some [] } ∧
        ∃ pod ∈ e.1.poolPods goingShard, goingPVC.name ∈ pod.claims ∧
          pod.deletionTimestamp = none := by decide +kernel
  obtain ⟨e, he, hop, pod, hpod, hclaim, hlive⟩ := hunder
  refine ⟨⟨true, leavingSystem.on e.1, 0, e.2⟩,
    List.mem_append_right _ (List.mem_map.mpr ⟨e, he, rfl⟩), fun hspares => ?_⟩
  -- the pod has no deletion timestamp, so it is not gone
  obtain ⟨since, hsince, -⟩ := hspares rfl goingPVC.name (by rw [hop]; exact ⟨rfl, _, rfl⟩) pod hpod
    hclaim
  cases hlive.symm.trans hsince

end

end MultigresOperator

import MultigresOperator.Images.Resolve
import MultigresOperator.Lib.Controllers

/-!
# Lazy image rollout

The cluster controller reconciles one cluster pass by pass. Between any two of its requests the
operator may be upgraded to another default set, the user may edit the pins and the acknowledged
revision, and the status or the annotation may be lost; the controller may crash anywhere.

As long as every loss leaves a record of the set last recorded, a pass fills in that set unless
the spec acknowledges the revision of the operator's current one, and it records a change before
any child sees it. The status alone is not such a record: it is written at the end of a pass and
the annotation before its first child, so that a pass cut short in between leaves it behind.

## Main results

* `lazy_rollout`: no set is filled in without acknowledgement
* `stale_status_moves_back`: the annotation is lost while the status is behind
-/

namespace MultigresOperator.Images

open Effects Encoding

section System

variable (sha256 : Bytes → Vector UInt8 32) (codec : Codec)

/-- The annotation holds no set: it is missing or not the text of a complete one. -/
def Unusable (raw : Option String) : Prop :=
  ∀ text, raw = some text → text ≠ appliedImagesFullyPinned ∧ usable codec text = none

/-- The lazy strategy is in force, some image is not pinned, and the operator's set is complete. -/
structure Lazy (S : Set ComponentImages) (cluster : Cluster) (cfg : Config) : Prop where
  strategy : strategyOf cluster cfg = .lazy
  unpinned : isComplete cluster.images = false
  complete : isComplete (imagesConfig cfg).1 = true
  mem : (imagesConfig cfg).1 ∈ S

/-- What happens outside the controller: edits of the spec, upgrades of the operator, and losses of
the status and of the annotation in worlds where they are possible. -/
inductive Change (S : Set ComponentImages) (statusLoss annotationLoss : World → Prop) (w : World) :
    World → Prop
  | edit {images policy}
    (isLazy : Lazy S { w.cluster with images, imageUpdatePolicy := policy } w.config) :
    Change S statusLoss annotationLoss w
      { w with cluster := { w.cluster with images, imageUpdatePolicy := policy } }
  | upgrade {config} (isLazy : Lazy S w.cluster config) :
    Change S statusLoss annotationLoss w { w with config }
  | loseStatus {status} (loss : statusLoss w)
    (lost : statusImages { w.cluster with status } = none) :
    Change S statusLoss annotationLoss w { w with cluster := { w.cluster with status } }
  | loseRecord {raw} (loss : annotationLoss w) (lost : Unusable codec raw) :
    Change S statusLoss annotationLoss w
      { w with cluster := { w.cluster with appliedImages := raw } }

/-- The controller of one cluster and its environment. -/
def rollout (S : Set ComponentImages) (statusLoss annotationLoss : World → Prop) :
    Controllers Unit Unit Answer World Op String where
  threads := {
    machine := machine codec
    answers _ _ := True
    takes _ _ := True
    code _ := reconcile sha256 codec }
  env := Change codec S statusLoss annotationLoss

def StatusCurrent (w : World) : Prop := statusImages w.cluster = some w.recorded

def AnnotationCurrent (w : World) : Prop :=
  ∃ raw, w.cluster.appliedImages = some raw ∧ raw ≠ appliedImagesFullyPinned ∧
    usable codec raw = some w.recorded

structure Recorded (S : Set ComponentImages) (w : World) : Prop where
  isLazy : Lazy S w.cluster w.config
  mem : w.recorded ∈ S
  found : (recordedImages codec w.cluster).1 = some w.recorded

/-- The set a pass is to fill in: the operator's current one if its revision is acknowledged, and
otherwise the one last recorded. -/
def due (w : World) : ComponentImages :=
  if acknowledged w.cluster = revision sha256 (imagesConfig w.config).1 then
    (imagesConfig w.config).1
  else w.recorded

end System

variable {sha256 : Bytes → Vector UInt8 32} {codec : Codec} {S : Set ComponentImages}
  {statusLoss annotationLoss : World → Prop} {w w' : World}

/-! ### One pass -/

/-- Between two requests the set last recorded stays, and so does the fact that it is found. -/
def Keeps (codec : Codec) (S : Set ComponentImages) (w w' : World) : Prop :=
  w'.recorded = w.recorded ∧ (Recorded codec S w → Recorded codec S w')

/-- A pass records complete sets, and reports the set it recorded. -/
def Truthful (S : Set ComponentImages) (codec : Codec) (w : World) : Op → Prop
  | .annotate raw => ∃ set ∈ S, isComplete set = true ∧ raw = codec.marshal set
  | .child _ _ => True
  | .updateStatus images _ => images.applied = w.recorded

variable {set : ComponentImages} {images : ImagesStatus} {reason : RolloutReason}
  {cluster : Cluster}

theorem recorded_of_annotate (h : Recorded codec S w) (hS : set ∈ S) (hset : isComplete set = true)
    (hw' : exec codec w (.annotate (codec.marshal set)) = .ok w') :
    Recorded codec S w' ∧ w'.recorded = set := by
  obtain rfl := Except.ok.inj hw'
  have hrecorded : (codec.unmarshal (codec.marshal set)).getD w.recorded = set := by
    rw [codec.unmarshal_marshal, Option.getD_some]
  refine ⟨⟨⟨h.isLazy.strategy, h.isLazy.unpinned, h.isLazy.complete, h.isLazy.mem⟩, ?_, ?_⟩,
    hrecorded⟩
  · dsimp only
    rwa [hrecorded]
  · dsimp only
    rw [hrecorded, recordedImages_marshal hset rfl]

theorem recorded_of_updateStatus (h : Recorded codec S w) (himages : images.applied = w.recorded)
    (hw' : exec codec w (.updateStatus images reason) = .ok w') : Recorded codec S w' := by
  obtain rfl := Except.ok.inj hw'
  refine ⟨⟨h.isLazy.strategy, h.isLazy.unpinned, h.isLazy.complete, h.isLazy.mem⟩, h.mem, ?_⟩
  rw [recordedImages_eq_some]
  rcases recordedImages_eq_some.mp h.found with hraw | ⟨hraw, -⟩
  · exact .inl hraw
  · exact .inr ⟨hraw, by simp [statusImages, himages, isComplete_of_recorded h.found]⟩

theorem exec_recorded {o : Op} (h : Recorded codec S w) (ho : Truthful S codec w o)
    (hw' : exec codec w o = .ok w') : Recorded codec S w' := by
  cases o with
  | annotate raw =>
    obtain ⟨set, hS, hset, rfl⟩ := ho
    exact (recorded_of_annotate h hS hset hw').1
  | child part images => exact Except.ok.inj hw' ▸ h
  | updateStatus images reason => exact recorded_of_updateStatus h ho hw'

theorem chosen_eq_due (collisionFree : Set.InjOn (revision sha256) S) (h : Recorded codec S w) :
    (chosen sha256 (strategyOf w.cluster w.config) (recordedImages codec w.cluster).1
      (imagesConfig w.config).1 (acknowledged w.cluster)).1 = due sha256 w := by
  rw [h.isLazy.strategy, h.found, chosen_lazy (collisionFree h.mem h.isLazy.mem), due]

theorem due_mem (sha256 : Bytes → Vector UInt8 32) (h : Recorded codec S w) :
    due sha256 w ∈ S ∧ isComplete (due sha256 w) = true := by
  unfold due
  split
  · exact ⟨h.isLazy.mem, h.isLazy.complete⟩
  · exact ⟨h.mem, isComplete_of_recorded h.found⟩

variable {recorded : ComponentImages} {part : Child} {A : World → Answer → Prop}
  {l : List (Act World Op)}

theorem resolveImages_of_recorded (sha256 : Bytes → Vector UInt8 32) (cfg : Config)
    (unpinned : isComplete cluster.images = false)
    (hrecorded : (recordedImages codec cluster).1 = some recorded) :
    ∃ images reason,
      images.applied = (chosen sha256 (strategyOf cluster cfg) (some recorded)
        (imagesConfig cfg).1 (acknowledged cluster)).1 ∧
      images.effective = complete cluster.images images.applied ∧
      resolveImages sha256 codec cluster cfg =
        (recordAppliedImages codec cluster images.applied >>= fun _ => pure (images, reason)) := by
  rcases hpair : recordedImages codec cluster with ⟨found, invalid⟩
  rw [hpair] at hrecorded
  obtain rfl : found = some recorded := hrecorded
  unfold resolveImages
  dsimp only
  rw [unpinned, if_neg (by simp), hpair]
  dsimp only
  rw [Option.isNone_some, Bool.and_false, Bool.false_and, if_neg (by simp)]
  refine ⟨{
    updateStrategy := some (strategyOf cluster cfg)
    effective := complete cluster.images _
    source := _
    applied := _
    appliedRevision := _
    available := _
    availableRevision := _ }, _, ?_, ?_, rfl⟩
  · rfl
  · rfl

theorem resolveImages_eq (h : Recorded codec S w) (collisionFree : Set.InjOn (revision sha256) S) :
    ∃ images reason, images.applied = due sha256 w ∧
      images.effective = complete w.cluster.images (due sha256 w) ∧
      resolveImages sha256 codec w.cluster w.config =
        (recordAppliedImages codec w.cluster (due sha256 w) >>= fun _ => pure (images, reason)) := by
  obtain ⟨images, reason, happlied, heffective, heq⟩ :=
    resolveImages_of_recorded sha256 w.config h.isLazy.unpinned h.found
  have hdue := chosen_eq_due collisionFree h
  rw [h.found, ← happlied] at hdue
  rw [hdue] at heffective heq
  exact ⟨images, reason, hdue, heffective, heq⟩

/-- The precondition of a part of a pass: under any interference that keeps the set last recorded
it is truthful. -/
abbrev Withstands {α : Type} (codec : Codec) (S : Set ComponentImages) (p : Action α)
    (Q : α → World → Prop) (w : World) : Prop :=
  p.wp (machine codec) (Keeps codec S) (fun _ _ => True) (fun w => Truthful S codec w) Q
    (fun _ _ => True) w

theorem Keeps.refl (w : World) : Keeps codec S w w := ⟨rfl, id⟩

theorem Keeps.trans {w₁ w₂ w₃ : World} (h : Keeps codec S w₁ w₂) (h' : Keeps codec S w₂ w₃) :
    Keeps codec S w₁ w₃ :=
  ⟨h'.1.trans h.1, h'.2 ∘ h.2⟩

theorem withstands_child {α : Type} {Q : α → World → Prop} {images : ComponentImages}
    {k : Unit → Action α} (h : set = w.recorded)
    (hk : ∀ w', set = w'.recorded → Withstands codec S (k ()) Q w') :
    Withstands codec S (Prog.perform (.child part images) >>= k) Q w := by
  refine Prog.wp_performUnless_bind (fun _ _ => trivial) (fun t ht => ?_) fun t ht t' ht' => ?_
  · exact hk t (h.trans ht.1.symm)
  · obtain rfl := Except.ok.inj ht'
    exact ⟨trivial, hk t (h.trans ht.1.symm)⟩

theorem withstands_applyImages (h : images.applied = w.recorded) :
    Withstands codec S (applyImages images reason) (fun _ _ => True) w := by
  unfold applyImages
  refine withstands_child h fun w₁ h₁ => withstands_child h₁ fun w₂ h₂ w₃ h₃ i _ => ?_
  have hrecorded : images.applied = w₃.recorded := h₂.trans h₃.1.symm
  change Prog.wp _ _ _ _ (if i.requeue = true then pure () else _) _ _ w₃
  split
  · exact fun _ _ => trivial
  · refine withstands_child hrecorded fun w₄ h₄ w₅ h₅ => ⟨fun _ e _ => ?_, fun _ _ => ?_⟩
    · exact fun _ _ => trivial
    · exact ⟨h₄.trans h₅.1.symm, fun _ _ => trivial⟩

theorem withstands_recordAppliedImages (hset : isComplete set = true) (hS : set ∈ S)
    (hfound : (recordedImages codec cluster).1 = some w.recorded) :
    Withstands codec S (recordAppliedImages codec cluster set)
      (fun _ w' => set = w'.recorded) w := by
  unfold recordAppliedImages
  dsimp only
  split
  · next hsame =>
    -- the annotation names the set, so it is the one last recorded
    intro t ht
    have hraw : cluster.appliedImages = some (codec.marshal set) := by
      cases hraw : cluster.appliedImages with
      | none =>
        rw [hraw, Option.getD_none] at hsame
        exact absurd hsame.symm (codec.marshal_ne_empty set)
      | some raw =>
        rw [hraw, Option.getD_some] at hsame
        rw [hsame]
    rw [recordedImages_marshal hset hraw] at hfound
    exact (Option.some.inj hfound).trans ht.1.symm
  · refine Prog.wp_bindResult Keeps.refl fun t ht => ⟨fun _ e _ => ?_, fun t' ht' => ?_⟩
    · exact fun _ _ _ _ => trivial
    · have hrecorded : t'.recorded = set := by
        rw [← Except.ok.inj ht']
        simp [codec.unmarshal_marshal]
      exact ⟨⟨set, hS, hset, rfl⟩, fun u hu v hv => (hv.1.trans (hu.1.trans hrecorded)).symm⟩

/-- **A pass is truthful** under any interference that keeps the set last recorded. -/
theorem withstands_reconcile (collisionFree : Set.InjOn (revision sha256) S)
    (h : Recorded codec S w) :
    Withstands codec S (reconcile sha256 codec) (fun _ _ => True) w := by
  unfold reconcile
  refine Prog.wp_fetch_bind (fun _ _ => trivial) fun t ht i _ => ?_
  have hread : Recorded codec S t := ht.2 h
  obtain ⟨images, reason, happlied, -, heq⟩ := resolveImages_eq hread collisionFree
  have ⟨hS, hset⟩ := due_mem sha256 hread
  change Withstands codec S (resolveImages sha256 codec t.cluster t.config >>= _) _ t
  rw [heq, bind_assoc]
  refine Prog.wp_bind Keeps.refl (Prog.wp_conseq
    (withstands_recordAppliedImages hset hS hread.found) (fun _ u hu => ?_) fun _ _ he => he)
  exact withstands_applyImages (happlied.trans hu)

/-! ### What happens outside -/

theorem Change.keeps
    (change : Change codec S (AnnotationCurrent codec) StatusCurrent w w') :
    Keeps codec S w w' := by
  cases change with
  | edit isLazy => exact ⟨rfl, fun h => ⟨isLazy, h.mem, h.found⟩⟩
  | upgrade isLazy => exact ⟨rfl, fun h => ⟨isLazy, h.mem, h.found⟩⟩
  | loseStatus loss lost =>
    refine ⟨rfl, fun h => ⟨⟨h.isLazy.strategy, h.isLazy.unpinned, h.isLazy.complete, h.isLazy.mem⟩,
      h.mem, ?_⟩⟩
    exact recordedImages_eq_some.mpr (.inl loss)
  | loseRecord loss lost =>
    refine ⟨rfl, fun h => ⟨⟨h.isLazy.strategy, h.isLazy.unpinned, h.isLazy.complete, h.isLazy.mem⟩,
      h.mem, ?_⟩⟩
    exact recordedImages_eq_some.mpr (.inr ⟨lost, loss⟩)

/-! ### The log of a pass -/

theorem applyImages_only :
    (applyImages images reason).Only fun o => ∀ part filled, o = .child part filled →
      filled = images.effective := by
  unfold applyImages
  refine Prog.only_bind (Prog.only_perform ?_) fun _ => Prog.only_bind (Prog.only_perform ?_)
    fun _ => Prog.only_bind Prog.only_answer fun answer => ?_
  · rintro part filled ⟨⟩
    rfl
  · rintro part filled ⟨⟩
    rfl
  · split
    · exact Prog.only_pure
    · refine Prog.only_bind (Prog.only_perform ?_) fun _ => Prog.only_perform ?_
      · rintro part filled ⟨⟩
        rfl
      · rintro part filled ⟨⟩

theorem recordAppliedImages_only :
    (recordAppliedImages codec cluster set).Only fun o => ∃ raw, o = .annotate raw := by
  unfold recordAppliedImages
  dsimp only
  split
  · exact Prog.only_pure
  · exact Prog.only_mapError (Prog.only_perform ⟨_, rfl⟩)

theorem logged_recordAppliedImages
    (h : Prog.Logged (machine codec) A (recordAppliedImages codec cluster set) l (.ret ())) :
    cluster.appliedImages ≠ some (codec.marshal set) →
      ∃ w, Act.call w (.annotate (codec.marshal set)) ∈ l := by
  intro hraw
  unfold recordAppliedImages at h
  dsimp only at h
  split at h
  · next hsame =>
    cases happlied : cluster.appliedImages with
    | none =>
      rw [happlied, Option.getD_none] at hsame
      exact absurd hsame.symm (codec.marshal_ne_empty set)
    | some raw =>
      rw [happlied, Option.getD_some] at hsame
      exact absurd (happlied.trans (congrArg some hsame)) hraw
  · obtain ⟨w, rfl⟩ := h.mapError_ret.of_perform
    exact ⟨w, by simp⟩

/-- **What a pass has read and written** when it reconciles a child: it has read a world, and the
child gets the images due there. -/
theorem logged_child (collisionFree : Set.InjOn (revision sha256) S) {filled : ComponentImages}
    {next : Except String Unit → Action Unit}
    (h : Prog.Logged (machine codec) A (reconcile sha256 codec) l (.call (.child part filled) next))
    (hl : ∀ a ∈ l, Recorded codec S a.store) :
    ∃ w, Act.read .cached w ∈ l ∧ filled = complete w.cluster.images (due sha256 w) ∧
      (w.cluster.appliedImages ≠ some (codec.marshal (due sha256 w)) →
        ∃ u, Act.call u (.annotate (codec.marshal (due sha256 w))) ∈ l) := by
  unfold reconcile at h
  obtain ⟨pair, l₁, l₂, hread, h, rfl⟩ := h.bind_call Prog.only_fetch (P := fun _ => False) id
  obtain ⟨w, i, -, rfl, rfl⟩ := hread.of_fetch
  have hw : Recorded codec S w := hl (.read .cached w) (by simp)
  obtain ⟨images, reason, -, heffective, heq⟩ := resolveImages_eq hw collisionFree
  change Prog.Logged _ _ (resolveImages sha256 codec w.cluster w.config >>= _) _ _ at h
  rw [heq, bind_assoc] at h
  obtain ⟨⟨⟩, l₃, l₄, hrecord, htail, rfl⟩ := h.bind_call recordAppliedImages_only (by simp)
  change Prog.Logged _ _ (applyImages images reason) _ _ at htail
  refine ⟨w, by simp, ?_, fun hraw => ?_⟩
  · rw [(htail.only applyImages_only).1 part filled rfl, heffective]
  · obtain ⟨u, hu⟩ := logged_recordAppliedImages hrecord hraw
    exact ⟨u, by simp [hu]⟩

/-! ### Whole runs -/

theorem resolveImages_of_invalid {cfg : Config} (isLazy : strategyOf cluster cfg = .lazy)
    (unpinned : isComplete cluster.images = false)
    (invalid : recordedImages codec cluster = (none, true)) :
    resolveImages sha256 codec cluster cfg = .fail errLazyWithoutRecord := by
  unfold resolveImages
  dsimp only
  rw [unpinned, if_neg (by simp), invalid]
  simp [isLazy]

/-- **No lazy rollout without acknowledgement.** Suppose the annotation is lost only while the
status is the set last recorded, and the status only while the annotation is. Whenever a pass
reconciles a child, it has read a world and fills in the set due there: the operator's current set
if its revision is acknowledged, the set last recorded otherwise. If the annotation did not name
that set, it was recorded first. And a pass that finds an unusable annotation and no usable status
fails without writing anything. -/
theorem lazy_rollout (sha256 : Bytes → Vector UInt8 32) (codec : Codec) (S : Set ComponentImages)
    (collisionFree : Set.InjOn (revision sha256) S) (w₀ : World) (start : Recorded codec S w₀) :
    (∀ x y u part filled,
      (rollout sha256 codec S (AnnotationCurrent codec) StatusCurrent).Reachable w₀ x →
      (rollout sha256 codec S (AnnotationCurrent codec) StatusCurrent).Step x
        (some ((), .call u (.child part filled))) y →
      ∃ w, Act.read .cached w ∈ (x.thread ()).log ∧
        filled = complete w.cluster.images (due sha256 w) ∧
        (w.cluster.appliedImages ≠ some (codec.marshal (due sha256 w)) →
          ∃ v, Act.call v (.annotate (codec.marshal (due sha256 w))) ∈ (x.thread ()).log)) ∧
    ∀ w orc, strategyOf w.cluster w.config = .lazy → isComplete w.cluster.images = false →
      recordedImages codec w.cluster = (none, true) →
      ((reconcile sha256 codec).run (machine codec) orc w).trace = [] ∧
        ∃ e, ((reconcile sha256 codec).run (machine codec) orc w).result = .error e := by
  refine ⟨fun x y u part filled hreach hstep => ?_, fun w orc isLazy unpinned invalid => ?_⟩
  · obtain ⟨-, -, hlog⟩ := Controllers.invariant (I := Recorded codec S)
      (R := fun _ => Keeps codec S) (G := fun _ w => Truthful S codec w)
      ⟨fun _ => Keeps.refl, fun _ => Keeps.trans,
        fun _ _ _ w hw => withstands_reconcile collisionFree hw,
        fun _ w o w' hw ho hexec => exec_recorded hw ho hexec, fun t u htu => absurd rfl htu⟩
      (fun w w' hw change => have hkeeps := Change.keeps change; ⟨hkeeps.2 hw, fun _ => hkeeps⟩)
      start hreach
    obtain ⟨⟨⟩, next, -, hlogged⟩ := Controllers.logged_of_step hreach hstep
    exact logged_child collisionFree hlogged (hlog ())
  · -- such a pass has nothing but a failure to end in
    have hwp : Prog.wpAlone (machine codec) (fun _ _ => True) (fun _ _ => False)
        (reconcile sha256 codec) (fun _ _ => False) (fun _ _ => True) w := by
      refine Prog.wpAlone_bind (Prog.wpAlone_fetch.mpr ⟨fun _ _ _ => trivial, fun i _ => ?_⟩)
      change Prog.wpAlone _ _ _ (resolveImages sha256 codec w.cluster w.config >>= _) _ _ w
      rw [resolveImages_of_invalid isLazy unpinned invalid]
      exact Prog.wpAlone_fail.mpr trivial
    obtain ⟨htrace, hends⟩ := Prog.run_of_wp hwp (Prog.admits_of_forall fun _ _ => trivial)
    refine ⟨List.eq_nil_iff_forall_not_mem.mpr htrace, ?_⟩
    cases hresult : ((reconcile sha256 codec).run (machine codec) orc w).result with
    | ok a => exact (hends.ok hresult).elim
    | error e => exact ⟨e, rfl⟩

/-! ### A pass cut short -/

/-- A pass that finds a recorded set and chooses another one than the annotation names comes to its
first child with that set recorded. -/
theorem exists_pass (statusLoss annotationLoss : World → Prop) {w₀ : World}
    {x : Effects.Config Unit Unit Answer World Op String} {applied : ComponentImages}
    (hx : (rollout sha256 codec S statusLoss annotationLoss).Reachable w₀ x)
    (done : (x.thread ()).rest.Done) (unpinned : isComplete x.store.cluster.images = false)
    (hrecorded : (recordedImages codec x.store.cluster).1 = some recorded)
    (happlied : (chosen sha256 (strategyOf x.store.cluster x.store.config) (some recorded)
      (imagesConfig x.store.config).1 (acknowledged x.store.cluster)).1 = applied)
    (hraw : x.store.cluster.appliedImages.getD "" ≠ codec.marshal applied) :
    ∃ y z, (rollout sha256 codec S statusLoss annotationLoss).Reachable w₀ y ∧
      (rollout sha256 codec S statusLoss annotationLoss).Step y (some ((), .call y.store
        (.child .globalComponents (complete x.store.cluster.images applied)))) z ∧
      (y.thread ()).log = [.read .cached x.store, .call x.store (.annotate (codec.marshal applied))] ∧
      y.store = { cluster := { x.store.cluster with appliedImages := some (codec.marshal applied) },
                  config := x.store.config, recorded := applied } := by
  obtain ⟨images, reason, hchosen, heffective, heq⟩ :=
    resolveImages_of_recorded sha256 x.store.config unpinned hrecorded
  obtain rfl := happlied
  rw [← hchosen] at hraw ⊢
  have htaken := hx.take (t := ()) (k := ()) done trivial
  have hread := htaken.read (t := ()) (i := {}) rfl trivial
  -- what is left after the read: record the set, then apply it
  have hcall : resolveImages sha256 codec x.store.cluster x.store.config >>=
      (fun p => applyImages p.1 p.2) = .call (.annotate (codec.marshal images.applied)) fun
        | .ok _ => applyImages images reason
        | .error e => .fail ("failed to record applied images: " ++ e) := by
    rw [heq, recordAppliedImages, if_neg hraw]
    refine congrArg (Prog.call _) (funext fun v => ?_)
    cases v <;> rfl
  have hannotated := hread.step (Controllers.Step.call (t := ()) (i := {}) hcall rfl)
  obtain ⟨y, hy, hthread, hstore⟩ :
      ∃ y, (rollout sha256 codec S statusLoss annotationLoss).Reachable w₀ y ∧
        y.thread () = ⟨some (), [.read .cached x.store,
          .call x.store (.annotate (codec.marshal images.applied))], applyImages images reason⟩ ∧
        y.store = ⟨{ x.store.cluster with appliedImages := some (codec.marshal images.applied) },
          x.store.config, images.applied⟩ :=
    ⟨_, hannotated, rfl, by simp [codec.unmarshal_marshal]⟩
  obtain ⟨next, hrest⟩ : ∃ next,
      (y.thread ()).rest = .call (.child .globalComponents images.effective) next :=
    ⟨_, congrArg Thread.rest hthread⟩
  have hstep := Controllers.Step.call (C := rollout sha256 codec S statusLoss annotationLoss)
    (i := {}) hrest rfl
  rw [heffective] at hstep
  exact ⟨y, _, hy, hstep, by rw [hthread], hstore⟩

/-! Two sets, and a cluster that runs the first one and acknowledges the second. -/

/-- A text that ends at a quote, with every character escaped. -/
def writeField (s : String) : List Char := s.toList.flatMap (fun c => ['\\', c]) ++ ['"']

def readField : List Char → Option (List Char × List Char)
  | '"' :: rest => some ([], rest)
  | '\\' :: c :: rest => (readField rest).map fun p => (c :: p.1, p.2)
  | _ => none

theorem readField_writeField (s : String) (rest : List Char) :
    readField (writeField s ++ rest) = some (s.toList, rest) := by
  unfold writeField
  induction s.toList with
  | nil => simp [readField]
  | cons c cs ih => simpa [readField] using ih

/-- A codec that writes the images one after the other. -/
def sampleCodec : Codec where
  marshal set := String.ofList (writeField set.postgres ++ writeField set.multiadmin ++
    writeField set.multiadminWeb ++ writeField set.multiorch ++ writeField set.multipooler ++
    writeField set.multigateway)
  unmarshal raw := do
    let (postgres, rest) ← readField raw.toList
    let (multiadmin, rest) ← readField rest
    let (multiadminWeb, rest) ← readField rest
    let (multiorch, rest) ← readField rest
    let (multipooler, rest) ← readField rest
    let (multigateway, rest) ← readField rest
    if rest = [] then some {
      postgres := String.ofList postgres
      multiadmin := String.ofList multiadmin
      multiadminWeb := String.ofList multiadminWeb
      multiorch := String.ofList multiorch
      multipooler := String.ofList multipooler
      multigateway := String.ofList multigateway } else none
  marshal_ne_empty set := by simp [writeField]
  unmarshal_marshal set := by
    have last (s : String) : readField (writeField s) = some (s.toList, []) := by
      simpa using readField_writeField s []
    simp [readField_writeField, last]
  unmarshal_fullyPinned := by decide

def release (tag : String) : ComponentImages where
  postgres := "pgctld:" ++ tag
  multiadmin := "multigres:" ++ tag
  multiadminWeb := "multiadmin-web:" ++ tag
  multiorch := "multigres:" ++ tag
  multipooler := "multigres:" ++ tag
  multigateway := "multigres:" ++ tag

def oldSet : ComponentImages := release "1"

def newSet : ComponentImages := release "2"

theorem revision_ne : revision checksum oldSet ≠ revision checksum newSet := by
  decide +kernel

theorem revision_injOn : Set.InjOn (revision checksum) {oldSet, newSet} := by
  rw [Set.injOn_pair]
  exact fun h => absurd h revision_ne

theorem chosen_acknowledged :
    (chosen checksum .lazy (some oldSet) newSet (revision checksum newSet)).1 = newSet := by
  rw [chosen_lazy fun h => absurd h revision_ne, if_pos rfl]

/-- A lazy cluster that runs the old set, with the new one available and `revision` acknowledged. -/
def sampleCluster (revision : String) : Cluster where
  imageUpdatePolicy := some { strategy := some .lazy, acknowledgedRevision := revision }
  appliedImages := some (sampleCodec.marshal oldSet)
  status := some { effective := oldSet, source := .defaults, applied := oldSet }

def sampleWorld (revision : String) : World where
  cluster := sampleCluster revision
  config := { defaults := newSet }
  recorded := oldSet

theorem sample_lazy (revision : String) :
    Lazy {oldSet, newSet} (sampleCluster revision) { defaults := newSet } where
  strategy := rfl
  unpinned := (by decide : isComplete {} = false)
  complete := (by decide : isComplete (imagesConfig { defaults := newSet }).1 = true)
  mem := .inr (by decide : (imagesConfig { defaults := newSet }).1 = newSet)

theorem sampleWorld_recorded (revision : String) :
    Recorded sampleCodec {oldSet, newSet} (sampleWorld revision) where
  isLazy := sample_lazy revision
  mem := .inl rfl
  found := by
    have hset : isComplete oldSet = true := by decide
    rw [recordedImages_marshal hset rfl]
    rfl

/-- The acknowledged set is recorded and then applied. -/
theorem lazy_rollout_acknowledged :
    ∃ x y w, (rollout checksum sampleCodec {oldSet, newSet} (AnnotationCurrent sampleCodec)
        StatusCurrent).Reachable (sampleWorld (revision checksum newSet)) x ∧
      (rollout checksum sampleCodec {oldSet, newSet} (AnnotationCurrent sampleCodec)
        StatusCurrent).Step x (some ((), .call x.store (.child .globalComponents newSet))) y ∧
      Act.read .cached w ∈ (x.thread ()).log ∧
      newSet = complete w.cluster.images (due checksum w) := by
  obtain ⟨x, y, hx, hstep, -, -⟩ := exists_pass (AnnotationCurrent sampleCodec) StatusCurrent
    (x := Threads.idle (sampleWorld (revision checksum newSet))) (S := {oldSet, newSet})
    .idle trivial (sample_lazy _).unpinned (sampleWorld_recorded _).found chosen_acknowledged
    (mt sampleCodec.marshal_inj.mp (by decide))
  have hnew : complete (sampleWorld (revision checksum newSet)).cluster.images newSet = newSet := by
    decide
  rw [show (Threads.idle (sampleWorld (revision checksum newSet)) :
    Effects.Config Unit Unit Answer World Op String).store.cluster.images = {} from rfl] at hstep
  obtain ⟨w, hw, hfilled, -⟩ := (lazy_rollout checksum sampleCodec {oldSet, newSet} revision_injOn
    (sampleWorld (revision checksum newSet)) (sampleWorld_recorded _)).1 x y x.store _ _ hx hstep
  exact ⟨x, y, w, hx, hnew ▸ hstep, hw, hnew ▸ hfilled⟩

/-- **The status is left behind.** A pass records the acknowledged set and crashes before it
reports it. The annotation is lost while the status is complete, and the acknowledgement is taken
back: the next pass moves the cluster back to the old set. -/
theorem stale_status_moves_back :
    ¬ ∀ (sha256 : Bytes → Vector UInt8 32) (codec : Codec) (S : Set ComponentImages),
      Set.InjOn (revision sha256) S → ∀ w₀, Recorded codec S w₀ → ∀ x y u part filled,
      (rollout sha256 codec S (fun _ => True)
        fun w => (statusImages w.cluster).isSome = true).Reachable w₀ x →
      (rollout sha256 codec S (fun _ => True)
        fun w => (statusImages w.cluster).isSome = true).Step x
        (some ((), .call u (.child part filled))) y →
      ∃ w, Act.read .cached w ∈ (x.thread ()).log ∧
        filled = complete w.cluster.images (due sha256 w) := by
  intro claim
  obtain ⟨x₁, -, hx₁, -, -, hstore₁⟩ := exists_pass (fun _ => True)
    (fun w => (statusImages w.cluster).isSome = true)
    (x := Threads.idle (sampleWorld (revision checksum newSet))) (S := {oldSet, newSet})
    .idle trivial (sample_lazy _).unpinned (sampleWorld_recorded _).found chosen_acknowledged
    (mt sampleCodec.marshal_inj.mp (by decide))
  -- the new set is recorded, the status still names the old one
  have hcrashed := hx₁.step (.crash ())
  have hunusable : Unusable sampleCodec none := fun text h => nomatch h
  have hlost := hcrashed.step (.env (.loseRecord (by rw [hstore₁]; decide) hunusable))
  have hlazy : Lazy {oldSet, newSet} { x₁.store.cluster with
      appliedImages := none, images := {},
      imageUpdatePolicy := some { strategy := some .lazy } } x₁.store.config := by
    rw [hstore₁]
    exact ⟨rfl, (sample_lazy "").unpinned, (sample_lazy "").complete, (sample_lazy "").mem⟩
  have hedited := hlost.step (.env (.edit hlazy))
  obtain ⟨x₂, hx₂, hdone, hstore₂⟩ :
      ∃ x, (rollout checksum sampleCodec {oldSet, newSet} (fun _ => True)
          fun w => (statusImages w.cluster).isSome = true).Reachable
          (sampleWorld (revision checksum newSet)) x ∧ (x.thread ()).rest.Done ∧
        x.store = ⟨{ sampleCluster "" with appliedImages := none }, { defaults := newSet }, newSet⟩ :=
    ⟨_, hedited, trivial, by rw [hstore₁]; rfl⟩
  have holds : (chosen checksum .lazy (some oldSet) newSet "").1 = oldSet := by
    rw [chosen_lazy fun h => absurd h revision_ne, if_neg (by decide +kernel)]
  have hold : (recordedImages sampleCodec x₂.store.cluster).1 = some oldSet := by
    rw [hstore₂]
    decide
  have hheld : (chosen checksum (strategyOf x₂.store.cluster x₂.store.config) (some oldSet)
      (imagesConfig x₂.store.config).1 (acknowledged x₂.store.cluster)).1 = oldSet := by
    rw [hstore₂]
    exact holds
  obtain ⟨x₃, y, hx₃, hstep, hlog, -⟩ := exists_pass _ _ hx₂ hdone (by rw [hstore₂]; decide)
    hold hheld (by rw [hstore₂]; exact (sampleCodec.marshal_ne_empty oldSet).symm)
  obtain ⟨w, hw, hfilled⟩ := claim checksum sampleCodec {oldSet, newSet} revision_injOn
    (sampleWorld (revision checksum newSet)) (sampleWorld_recorded _) x₃ y x₃.store _ _ hx₃ hstep
  -- the pass has read one world only, and there the new set was the one last recorded
  rw [hlog] at hw
  obtain rfl : w = x₂.store := by simpa using hw
  rw [hstore₂] at hfilled
  exact absurd hfilled (by decide +kernel)

end MultigresOperator.Images

import MultigresOperator.Lib.History
import MultigresOperator.PostgresConfig.Managed
import MultigresOperator.Shard.Reload

/-!
# The reload hash of a pod

The Shard controller reconciles pass by pass while the spec is edited, the kubelet brings versions
of the ConfigMap to the pods, PostgreSQL starts and stops, and pods come and go; a reply to a reload
may be lost, a stamp may fail and the controller may crash anywhere.

The annotation of a pod names a version of the ConfigMap that the pod has reached: what is mounted
and what PostgreSQL has loaded is that version or a later one. As long as the settings never return
to earlier ones, an annotation that names the desired settings therefore says that they are loaded.
When they do return, the hash of an early version is the desired one again, and a pod that has
loaded a version in between is taken to be current.

## Main results

* `reload_hash_truthful`: annotations are truthful while the settings never return
* `reverted_settings_not_loaded`: a reply is lost and the settings return
-/

namespace MultigresOperator.Reload

open Effects Encoding PostgresConfig

section System

variable {Spec : Type} (go : GoText) (catalog : Catalog) (sha256 : Bytes → Vector UInt8 32)
  (render : Spec → Except Str Str) (mode : ShardMode) (serviceID : String → String)

/-- What happens outside the controller: edits of the spec, the controller's cache catching up, the
kubelet mounting a version and later ones, PostgreSQL reading the mounted file when it starts or
when a reload arrives late, PostgreSQL stopping, and pods that disappear or change otherwise. Edits
and first mounts are restricted to those that are possible. -/
inductive Change (edits : World Spec → Spec → Prop) (mounts : Pod → ℕ → Prop) (w : World Spec) :
    World Spec → Prop
  | edit {spec} (possible : edits w spec) :
    Change edits mounts w { w with history := w.history ++ [spec] }
  | observe {n} (newer : w.seen ≤ n) (exists_ : n < w.history.length) :
    Change edits mounts w { w with seen := n }
  | sync {name version} (exists_ : version < w.delivered.length)
    (newer : ∀ pod ∈ w.pods, pod.name = name →
      (∀ old, pod.mounted = some old → old ≤ version) ∧ (pod.mounted = none → mounts pod version)) :
    Change edits mounts w { w with
      pods := w.pods.modify name (fun pod => { pod with mounted := some version }) fun _ => rfl }
  | load {name} :
    Change edits mounts w { w with pods := w.pods.modify name Pod.load Pod.load_name }
  | stop {name} :
    Change edits mounts w { w with
      pods := w.pods.modify name (fun pod => { pod with loaded := none }) fun _ => rfl }
  | remove {name} : Change edits mounts w { w with pods := w.pods.erase name }
  | disturb {name podIP terminating draining} :
    Change edits mounts w { w with
      pods := w.pods.modify name (fun pod => { pod with podIP, terminating, draining })
        fun _ => rfl }

/-- The controller of one Shard and its environment. -/
def reloading (edits : World Spec → Spec → Prop) (mounts : Pod → ℕ → Prop) :
    Controllers Unit Unit Answer (World Spec) Op Refusal where
  threads := {
    machine := machine go
    answers _ _ := True
    takes _ _ := True
    code _ := reconcile go catalog sha256 render mode serviceID }
  env := Change edits mounts

/-- The settings of a spec that a reload applies, by name. -/
def settings (spec : Spec) : Option (Str → Option Str) :=
  match render spec with
  | .error _ => none
  | .ok rendered => some (reloadSafe go catalog rendered).get

/-- An edit, to one of the specs at hand, that keeps the settings or makes them ones they have not
been before. -/
def Onward (S : Set Spec) (w : World Spec) (spec : Spec) : Prop :=
  spec ∈ S ∧ ∀ old ∈ w.history, settings go catalog render old = settings go catalog render spec →
    ∀ current, w.history.getLast? = some current →
      settings go catalog render current = settings go catalog render spec

/-- The first mount of a pod is not older than the pod. -/
def NotOlder (pod : Pod) (version : ℕ) : Prop := pod.created ≤ version

/-- **A truthful annotation**: when it is the desired hash, the settings PostgreSQL has loaded are
the desired ones. -/
def Truthful (w : World Spec) (pod : Pod) : Prop :=
  ∀ spec rendered version file, w.history.getLast? = some spec → render spec = .ok rendered →
    pod.loaded = some version → w.delivered[version]? = some file →
    pod.reloadHash = (stampAndSplit go catalog sha256 rendered).2.reloadHash →
    ∀ name, (reloadSafe go catalog file.2).get name = (reloadSafe go catalog rendered).get name

/-- The digests of the settings at hand do not collide. -/
def CollisionFree (S : Set Spec) : Prop :=
  Set.InjOn sha256 {text | ∃ spec ∈ S, ∃ rendered, render spec = .ok rendered ∧
    text = utf8 (String.ofList (Text.entryLines (sortedEntries (reloadSafe go catalog rendered))))}

/-- The beginning: the first spec is delivered, if anything is, and every pod is annotated with its
hash. -/
structure Initial (S : Set Spec) (w : World Spec) : Prop where
  first : ∃ spec ∈ S, w.history = [spec] ∧ ∀ d ∈ w.delivered, d.1 = 0 ∧
    ∃ rendered, render spec = .ok rendered ∧ d.2 = (stampAndSplit go catalog sha256 rendered).1
  seen : w.seen = 0
  pods : ∀ pod ∈ w.pods, ∃ d, w.delivered[0]? = some d ∧
    pod.reloadHash = reloadHash go catalog sha256 d.2 ∧ pod.mounted.isSome = true

end System

/-! ### Versions -/

/-- The pod has reached a version: it is mounted or a later one is, and PostgreSQL, if it runs, has
loaded it or a later one. -/
def Past (version : ℕ) (pod : Pod) : Prop :=
  (∃ mounted, pod.mounted = some mounted ∧ version ≤ mounted) ∧
    ∀ loaded, pod.loaded = some loaded → version ≤ loaded

theorem Past.load {version : ℕ} {pod : Pod} (h : Past version pod) : Past version pod.load := by
  obtain ⟨⟨mounted, hmounted, hle⟩, -⟩ := h
  refine ⟨⟨mounted, hmounted, hle⟩, fun loaded hloaded => ?_⟩
  obtain rfl := Option.some.inj (hmounted.symm.trans hloaded)
  exact hle

section Invariant

variable {Spec : Type} {go : GoText} {catalog : Catalog} {sha256 : Bytes → Vector UInt8 32}
  {render : Spec → Except Str Str} {mode : ShardMode} {serviceID : String → String}
  {S : Set Spec} {w w' : World Spec}

/-- The annotation of the pod names a version that the pod has reached, or that was current when it
was created, if nothing is mounted yet. -/
def Named (go : GoText) (catalog : Catalog) (sha256 : Bytes → Vector UInt8 32) (w : World Spec)
    (pod : Pod) : Prop :=
  ∃ version d, w.delivered[version]? = some d ∧ pod.reloadHash = reloadHash go catalog sha256 d.2 ∧
    (pod.mounted = none ∧ pod.loaded = none ∧ pod.created = version ∨ Past version pod)

/-- A version of the ConfigMap is the file of a generation the controller has seen. -/
def Rendered (go : GoText) (catalog : Catalog) (sha256 : Bytes → Vector UInt8 32)
    (render : Spec → Except Str Str) (w : World Spec) (d : ℕ × Str) : Prop :=
  d.1 ≤ w.seen ∧ ∃ spec rendered, w.history[d.1]? = some spec ∧ render spec = .ok rendered ∧
    d.2 = (stampAndSplit go catalog sha256 rendered).1

structure Inv (go : GoText) (catalog : Catalog) (sha256 : Bytes → Vector UInt8 32)
    (render : Spec → Except Str Str) (S : Set Spec) (w : World Spec) : Prop where
  specs : ∀ spec ∈ w.history, spec ∈ S
  noReturn : NoReturn (settings go catalog render) w.history
  rendered : ∀ d ∈ w.delivered, Rendered go catalog sha256 render w d
  ordered : w.delivered.Pairwise fun d d' => d.1 ≤ d'.1
  pods : ∀ pod ∈ w.pods, Named go catalog sha256 w pod

variable {rendered : Str} {name : String} {cfg : RenderedConfig} {spec : Spec} {pod : Pod}
  {d : ℕ × Str} {f : Pod → Pod}

theorem settings_eq (h : render spec = .ok rendered) :
    settings go catalog render spec = some (reloadSafe go catalog rendered).get := by
  rw [settings, h]

/-- **The invariant makes annotations truthful**: the annotation names an early version and the
loaded one lies between it and the desired generation. -/
theorem Inv.truthful (h : Inv go catalog sha256 render S w) (hlines : go.KeepsLines)
    (collisionFree : CollisionFree go catalog sha256 render S) (hpod : pod ∈ w.pods) :
    Truthful go catalog sha256 render w pod := by
  intro spec rendered loaded file hlast hrender hloaded hfile hstamped
  obtain ⟨version, d, hd, hname, hreached⟩ := h.pods pod hpod
  have hle : version ≤ loaded := by
    rcases hreached with ⟨-, hnone, -⟩ | hpast
    · rw [hloaded] at hnone
      cases hnone
    · exact hpast.2 loaded hloaded
  obtain ⟨-, spec₁, rendered₁, hspec₁, hrender₁, hd₁⟩ := h.rendered d (List.mem_of_getElem? hd)
  obtain ⟨-, spec₂, rendered₂, hspec₂, hrender₂, hfile₂⟩ :=
    h.rendered file (List.mem_of_getElem? hfile)
  rw [List.getLast?_eq_getElem?] at hlast
  -- the named version has the desired hash, so its settings are the desired ones
  have hhash : reloadHash go catalog sha256 rendered₁ = reloadHash go catalog sha256 rendered := by
    rw [← reloadHash_stamp, ← hd₁, ← hname, hstamped]
    rfl
  have hmem (spec : Spec) (i : ℕ) (hspec : w.history[i]? = some spec) : spec ∈ S :=
    h.specs spec (List.mem_of_getElem? hspec)
  have hequal : settings go catalog render spec₁ = settings go catalog render spec := by
    rw [settings_eq hrender₁, settings_eq hrender]
    refine congrArg some (funext fun name => get_eq_of_reloadHash_eq hlines ?_ hhash name)
    refine collisionFree.mono ?_
    rintro text ⟨file, hfile, rfl⟩
    rcases List.mem_cons.mp hfile with rfl | hfile
    · exact ⟨spec₁, hmem _ _ hspec₁, _, hrender₁, rfl⟩
    · obtain rfl := List.mem_singleton.mp hfile
      exact ⟨spec, hmem _ _ hlast, _, hrender, rfl⟩
  -- the loaded version lies between the two
  have hgen : d.1 ≤ file.1 := by
    rcases Nat.eq_or_lt_of_le hle with rfl | hlt
    · rw [hd] at hfile
      rw [Option.some.inj hfile]
    · obtain ⟨hi, rfl⟩ := List.getElem?_eq_some_iff.mp hd
      obtain ⟨hj, rfl⟩ := List.getElem?_eq_some_iff.mp hfile
      exact List.pairwise_iff_getElem.mp h.ordered _ _ hi hj hlt
  have hlt : file.1 < w.history.length := (List.getElem?_eq_some_iff.mp hspec₂).1
  have hbetween := h.noReturn _ _ _ _ _ _ hgen (by omega) hspec₁ hspec₂ hlast hequal
  rw [settings_eq hrender₂, settings_eq hrender] at hbetween
  intro name
  rw [hfile₂, reloadSafe_stamp]
  exact congrFun (Option.some.inj hbetween) name

/-! ### What keeps the invariant -/

theorem getElem?_of_prefix {α : Type} {l l' : List α} {i : ℕ} {a : α} (hpre : l <+: l')
    (h : l[i]? = some a) : l'[i]? = some a := by
  obtain ⟨t, rfl⟩ := hpre
  rw [List.getElem?_append_left (List.getElem?_eq_some_iff.mp h).1, h]

theorem Rendered.mono (h : Rendered go catalog sha256 render w d) (hseen : w.seen ≤ w'.seen)
    (hhistory : w.history <+: w'.history) : Rendered go catalog sha256 render w' d := by
  obtain ⟨hgen, spec, rendered, hspec, hrender, hfile⟩ := h
  exact ⟨hgen.trans hseen, spec, rendered, getElem?_of_prefix hhistory hspec, hrender, hfile⟩

theorem Named.mono {pod' : Pod} (h : Named go catalog sha256 w pod)
    (hdelivered : w.delivered <+: w'.delivered) (hhash : pod'.reloadHash = pod.reloadHash)
    (hnew : ∀ version, version < w.delivered.length →
      pod.mounted = none ∧ pod.loaded = none ∧ pod.created = version ∨ Past version pod →
      pod'.mounted = none ∧ pod'.loaded = none ∧ pod'.created = version ∨ Past version pod') :
    Named go catalog sha256 w' pod' := by
  obtain ⟨version, d, hd, hname, hreached⟩ := h
  exact ⟨version, d, getElem?_of_prefix hdelivered hd, hhash.trans hname,
    hnew version (List.getElem?_eq_some_iff.mp hd).1 hreached⟩

theorem named_modify (h : ∀ pod ∈ w.pods, Named go catalog sha256 w pod)
    (hf : ∀ pod, (f pod).name = pod.name)
    (hpod : ∀ pod ∈ w.pods, pod.name = name → Named go catalog sha256 w (f pod)) :
    ∀ pod ∈ w.pods.modify name f hf, Named go catalog sha256 w pod := by
  intro pod hmem
  obtain ⟨old, hold, rfl⟩ := Keyed.mem_modify.mp hmem
  split
  · next hname => exact hpod old hold hname
  · exact h old hold

/-- What the controller's requests keep to: a version is the file of a seen generation, and of one
not before those delivered; a pod is created with the hash of the last version, and stamped with
that of a version it has reached. -/
def Guarded (go : GoText) (catalog : Catalog) (sha256 : Bytes → Vector UInt8 32)
    (render : Spec → Except Str Str) (w : World Spec) : Op → Prop
  | .applyConfigMap generation content =>
    Rendered go catalog sha256 render w (generation, content) ∧ ∀ d ∈ w.delivered, d.1 ≤ generation
  | .createPod _ _ hash _ =>
    ∃ d, w.delivered.getLast? = some d ∧ hash = reloadHash go catalog sha256 d.2
  | .reload _ _ => True
  | .stampReloadHash name hash => ∃ version d, w.delivered[version]? = some d ∧
      hash = reloadHash go catalog sha256 d.2 ∧ ∀ pod ∈ w.pods, pod.name = name → Past version pod

/-- **Guarded requests keep the invariant.** -/
theorem Inv.exec (h : Inv go catalog sha256 render S w) {o : Op}
    (hguard : Guarded go catalog sha256 render w o) (hw' : Reload.exec go w o = .ok w') :
    Inv go catalog sha256 render S w' := by
  cases o with
  | applyConfigMap generation content =>
    obtain rfl := Except.ok.inj hw'
    obtain ⟨hrendered, hlast⟩ := hguard
    refine ⟨h.specs, h.noReturn, ?_, ?_, fun pod hpod => ?_⟩
    · intro d hd
      rcases List.mem_append.mp hd with hd | hd
      · exact (h.rendered d hd).mono le_rfl (List.prefix_refl _)
      · obtain rfl := List.mem_singleton.mp hd
        exact hrendered.mono le_rfl (List.prefix_refl _)
    · refine List.pairwise_append.mpr ⟨h.ordered, List.pairwise_singleton .., fun d hd d' hd' => ?_⟩
      obtain rfl := List.mem_singleton.mp hd'
      exact hlast d hd
    · exact (h.pods pod hpod).mono (List.prefix_append _ _) rfl fun _ _ => id
  | createPod name cell hash configHash =>
    unfold Reload.exec at hw'
    dsimp only at hw'
    split at hw'
    · next hfree =>
      obtain rfl := Except.ok.inj hw'
      obtain ⟨d, hd, rfl⟩ := hguard
      refine ⟨h.specs, h.noReturn, fun d hd => (h.rendered d hd).mono le_rfl (List.prefix_refl _),
        h.ordered, fun pod hpod => ?_⟩
      rcases (Keyed.mem_insert (h := hfree)).mp hpod with rfl | hpod
      · rw [List.getLast?_eq_getElem?] at hd
        exact ⟨_, d, hd, rfl, .inl ⟨rfl, rfl, rfl⟩⟩
      · exact (h.pods pod hpod).mono (List.prefix_refl _) rfl fun _ _ => id
    · cases hw'
  | reload name expected =>
    unfold Reload.exec at hw'
    dsimp only at hw'
    split at hw'
    · cases hw'
    · split at hw'
      · next pod hfind hcan =>
        obtain rfl := Except.ok.inj hw'
        refine ⟨h.specs, h.noReturn, h.rendered, h.ordered, named_modify h.pods Pod.load_name fun old hold hname => ?_⟩
        refine (h.pods old hold).mono (List.prefix_refl _) rfl fun version _ hreached => ?_
        rcases hreached with ⟨hnone, -, hcreated⟩ | hpast
        · exact .inl ⟨hnone, hnone, hcreated⟩
        · exact .inr hpast.load
      · cases hw'
  | stampReloadHash name hash =>
    unfold Reload.exec at hw'
    dsimp only at hw'
    split at hw'
    · cases hw'
    · obtain rfl := Except.ok.inj hw'
      obtain ⟨version, d, hd, rfl, hpast⟩ := hguard
      refine ⟨h.specs, h.noReturn, h.rendered, h.ordered, named_modify h.pods (Pod.stamp_name _) fun old hold hname => ?_⟩
      exact ⟨version, d, hd, rfl, .inr (hpast old hold hname)⟩

/-! ### What happens outside -/

/-- What the controller finds after a change: versions stay, and every pod is an earlier one that
has moved on. -/
structure Keeps (go : GoText) (catalog : Catalog) (sha256 : Bytes → Vector UInt8 32)
    (render : Spec → Except Str Str) (S : Set Spec) (w w' : World Spec) : Prop where
  inv : Inv go catalog sha256 render S w → Inv go catalog sha256 render S w'
  history : w.history <+: w'.history
  seen : w.seen ≤ w'.seen
  delivered : w'.delivered = w.delivered
  pods : ∀ pod' ∈ w'.pods, ∃ pod ∈ w.pods, pod.name = pod'.name ∧
    ∀ version, Past version pod → Past version pod'

theorem Keeps.refl (w : World Spec) : Keeps go catalog sha256 render S w w :=
  ⟨id, List.prefix_refl _, le_rfl, rfl, fun pod hpod => ⟨pod, hpod, rfl, fun _ => id⟩⟩

theorem Keeps.trans {w₁ w₂ w₃ : World Spec} (h : Keeps go catalog sha256 render S w₁ w₂)
    (h' : Keeps go catalog sha256 render S w₂ w₃) : Keeps go catalog sha256 render S w₁ w₃ := by
  refine ⟨h'.inv ∘ h.inv, h.history.trans h'.history, h.seen.trans h'.seen,
    h'.delivered.trans h.delivered, fun pod₃ hpod₃ => ?_⟩
  obtain ⟨pod₂, hpod₂, hname₂, hpast₂⟩ := h'.pods pod₃ hpod₃
  obtain ⟨pod₁, hpod₁, hname₁, hpast₁⟩ := h.pods pod₂ hpod₂
  exact ⟨pod₁, hpod₁, hname₁.trans hname₂, fun version => hpast₂ version ∘ hpast₁ version⟩

theorem keeps_modify (hf : ∀ pod, (f pod).name = pod.name)
    (hhash : ∀ pod, (f pod).reloadHash = pod.reloadHash)
    (hpast : ∀ pod ∈ w.pods, pod.name = name → ∀ version, Past version pod → Past version (f pod))
    (hnew : ∀ pod ∈ w.pods, pod.name = name → pod.mounted = none → pod.loaded = none →
      (f pod).mounted = none ∧ (f pod).loaded = none ∧ (f pod).created = pod.created ∨
        Past pod.created (f pod)) :
    Keeps go catalog sha256 render S w { w with pods := w.pods.modify name f hf } := by
  refine ⟨fun h => ⟨h.specs, h.noReturn, h.rendered, h.ordered,
    named_modify h.pods hf fun pod hpod hname => ?_⟩, List.prefix_refl _, le_rfl, rfl,
    fun pod' hpod' => ?_⟩
  · refine (h.pods pod hpod).mono (List.prefix_refl _) (hhash pod) fun version _ hreached => ?_
    rcases hreached with ⟨hmounted, hloaded, rfl⟩ | hreached
    · exact hnew pod hpod hname hmounted hloaded
    · exact .inr (hpast pod hpod hname version hreached)
  · obtain ⟨pod, hpod, rfl⟩ := (Keyed.mem_modify (h := hf)).mp hpod'
    refine ⟨pod, hpod, ?_, fun version h => ?_⟩
    · split
      · exact (hf pod).symm
      · rfl
    · split
      · next hname => exact hpast pod hpod hname version h
      · exact h

/-- **Changes outside keep the invariant**, if the settings never return and first mounts are not
older than their pods. -/
theorem Change.keeps (change : Change (Onward go catalog render S) NotOlder w w') :
    Keeps go catalog sha256 render S w w' := by
  cases change with
  | @edit spec possible =>
    refine ⟨fun h => ⟨?_, h.noReturn.concat possible.2, fun d hd => ?_, h.ordered, h.pods⟩,
      List.prefix_append _ _, le_rfl, rfl, fun pod hpod => ⟨pod, hpod, rfl, fun _ => id⟩⟩
    · intro spec' hspec'
      rcases List.mem_append.mp hspec' with hspec' | hspec'
      · exact h.specs spec' hspec'
      · obtain rfl := List.mem_singleton.mp hspec'
        exact possible.1
    · exact (h.rendered d hd).mono le_rfl (List.prefix_append _ _)
  | observe newer _ =>
    exact ⟨fun h => ⟨h.specs, h.noReturn, fun d hd => (h.rendered d hd).mono newer (List.prefix_refl _),
      h.ordered, h.pods⟩, List.prefix_refl _, newer, rfl, fun pod hpod => ⟨pod, hpod, rfl, fun _ => id⟩⟩
  | sync _ newer =>
    refine keeps_modify _ (fun _ => rfl) (fun pod hpod hname version hpast => ?_)
      fun pod hpod hname hmounted hloaded => ?_
    · obtain ⟨⟨old, hold, hle⟩, hloaded⟩ := hpast
      exact ⟨⟨_, rfl, hle.trans ((newer pod hpod hname).1 old hold)⟩, hloaded⟩
    · refine .inr ⟨⟨_, rfl, (newer pod hpod hname).2 hmounted⟩, fun loaded h => ?_⟩
      exact absurd (hloaded.symm.trans h) (by simp)
  | load =>
    refine keeps_modify _ (fun _ => rfl) (fun _ _ _ _ => Past.load) fun pod _ _ hmounted _ => ?_
    exact .inl ⟨hmounted, hmounted, rfl⟩
  | stop =>
    refine keeps_modify _ (fun _ => rfl) (fun pod _ _ version hpast => ⟨hpast.1, by simp⟩)
      fun pod _ _ hmounted _ => .inl ⟨hmounted, rfl, rfl⟩
  | remove =>
    refine ⟨fun h => ⟨h.specs, h.noReturn, h.rendered, h.ordered, fun pod hpod =>
      h.pods pod (Keyed.mem_erase.mp hpod).1⟩, List.prefix_refl _, le_rfl, rfl, fun pod hpod => ?_⟩
    exact ⟨pod, (Keyed.mem_erase.mp hpod).1, rfl, fun _ => id⟩
  | disturb =>
    exact keeps_modify _ (fun _ => rfl) (fun _ _ _ _ h => h)
      fun pod _ _ hmounted hloaded => .inl ⟨hmounted, hloaded, rfl⟩

/-! ### A pass -/

/-- The precondition of a part of a pass: whatever happens outside, its requests are guarded. -/
abbrev Withstands {α : Type} (go : GoText) (catalog : Catalog) (sha256 : Bytes → Vector UInt8 32)
    (render : Spec → Except Str Str) (S : Set Spec) (p : Action Spec α)
    (Q : α → World Spec → Prop) (w : World Spec) : Prop :=
  p.wp (machine go) (Keeps go catalog sha256 render S) (fun _ _ => True)
    (Guarded go catalog sha256 render) Q (fun _ _ => True) w

/-- The version of a hash has been reached by the pods of a name. -/
def Reached (go : GoText) (catalog : Catalog) (sha256 : Bytes → Vector UInt8 32) (name : String)
    (hash : Str) (w : World Spec) : Prop :=
  ∃ version d, w.delivered[version]? = some d ∧ hash = reloadHash go catalog sha256 d.2 ∧
    ∀ pod ∈ w.pods, pod.name = name → Past version pod

theorem Reached.keeps {hash : Str} (h : Reached go catalog sha256 name hash w)
    (hkeeps : Keeps go catalog sha256 render S w w') : Reached go catalog sha256 name hash w' := by
  obtain ⟨version, d, hd, hhash, hpods⟩ := h
  refine ⟨version, d, by rw [hkeeps.delivered, hd], hhash, fun pod' hpod' hname' => ?_⟩
  obtain ⟨pod, hpod, hname, hpast⟩ := hkeeps.pods pod' hpod'
  exact hpast version (hpods pod hpod (hname.trans hname'))

/-- **A reload is proof**: the file the pod has loaded carries the marker of the expected settings,
so it is a version of their hash. -/
theorem reached_of_reload (h : Inv go catalog sha256 render S w)
    (hw' : Reload.exec go w (.reload name (stampAndSplit go catalog sha256 rendered).2.reloadSettings) =
      .ok w') : Reached go catalog sha256 name (reloadHash go catalog sha256 rendered) w' := by
  unfold Reload.exec at hw'
  dsimp only at hw'
  split at hw'
  · cases hw'
  · next pod hfind =>
    split at hw'
    · next hcan =>
      obtain rfl := Except.ok.inj hw'
      obtain ⟨hmem, rfl⟩ := Keyed.find_eq_some.mp hfind
      obtain ⟨-, version, hmounted, d, hd, hcarries⟩ := hcan
      obtain ⟨-, spec, rendered', -, -, hfile⟩ := h.rendered d (List.mem_of_getElem? hd)
      rw [hfile] at hcarries
      refine ⟨version, d, hd, ?_, fun pod' hpod' hname => ?_⟩
      · rw [hfile, reloadHash_stamp, reloadHash_of_carries hcarries]
      · obtain ⟨old, hold, rfl⟩ := (Keyed.mem_modify (h := Pod.load_name)).mp hpod'
        have hkeep : old.name = pod.name := by
          split at hname
          · exact hname
          · exact hname
        obtain rfl := w.pods.eq_of_key_eq hold hmem hkeep
        rw [if_pos rfl]
        refine ⟨⟨version, hmounted, le_rfl⟩, fun loaded hloaded => ?_⟩
        rw [Option.some.inj (hmounted.symm.trans hloaded)]
    · cases hw'

/-- The request for a reload, with what a positive reply proves. -/
theorem withstands_reloadConfig (h : Inv go catalog sha256 render S w) :
    Withstands go catalog sha256 render S
      (reloadConfig name (stampAndSplit go catalog sha256 rendered).2.reloadSettings)
      (fun reloaded w => Inv go catalog sha256 render S w ∧
        (reloaded = true → Reached go catalog sha256 name (reloadHash go catalog sha256 rendered) w))
      w := by
  refine Prog.wp_bindResult Keeps.refl fun t ht => ⟨fun _ e _ u hu v hv => ?_, fun t' ht' => ?_⟩
  · exact ⟨hv.inv (hu.inv (ht.inv h)), fun hfalse => absurd hfalse (by simp)⟩
  · have hreached := reached_of_reload (ht.inv h) ht'
    have hinv := (ht.inv h).exec (o := .reload name _) trivial ht'
    refine ⟨trivial, fun u hu v hv i _ x hx => ?_⟩
    exact ⟨hx.inv (hv.inv (hu.inv hinv)), fun _ => ((hreached.keeps hu).keeps hv).keeps hx⟩

theorem withstands_reloadPods (hhash : cfg.reloadHash = reloadHash go catalog sha256 rendered)
    (hsettings : cfg.reloadSettings = (stampAndSplit go catalog sha256 rendered).2.reloadSettings)
    (pods : List Pod) (loop : Loop) (h : Inv go catalog sha256 render S w) :
    Withstands go catalog sha256 render S (reloadPods mode serviceID cfg pods loop)
      (fun _ _ => True) w := by
  induction pods generalizing loop w with
  | nil => exact fun _ _ => trivial
  | cons pod pods ih =>
    unfold reloadPods
    split_ifs
    · exact ih loop h
    · exact ih loop h
    · exact ih loop h
    · refine Prog.wp_answer_bind fun t ht i _ => ?_
      have hinv := ht.inv h
      split
      · split
        · exact fun _ _ => trivial
        · exact fun _ _ => trivial
      · dsimp only
        split
        · rw [hsettings]
          refine Prog.wp_bind Keeps.refl (Prog.wp_conseq (withstands_reloadConfig hinv)
            (fun reloaded u hu => ?_) fun _ _ he => he)
          split
          · next hreloaded =>
            refine Prog.wp_mapError_bind (fun _ _ => trivial)
              (Prog.wp_perform_bind (fun _ _ => trivial) fun v hv v' hv' => ?_)
            have hguard : Guarded go catalog sha256 render v
                (.stampReloadHash pod.name cfg.reloadHash) := by
              rw [hhash]
              exact (hu.2 hreloaded).keeps hv
            exact ⟨hguard, ih _ ((hv.inv hu.1).exec hguard hv')⟩
          · exact ih _ hu.1
        · exact ih _ hinv

theorem withstands_createMissingPods (hhash : cfg.reloadHash = reloadHash go catalog sha256 d.2)
    (h : Inv go catalog sha256 render S w) (hlast : w.delivered.getLast? = some d) :
    Withstands go catalog sha256 render S (createMissingPods cfg)
      (fun _ w => Inv go catalog sha256 render S w) w := by
  intro t ht i _
  refine Prog.wp_conseq (Prog.wp_forEach (I := fun _ _ w => Inv go catalog sha256 render S w ∧
    w.delivered.getLast? = some d) Keeps.refl ?_ ?_ ⟨ht.inv h, ht.delivered ▸ hlast⟩)
    (fun _ _ h => h.1) fun _ _ he => he
  · rintro _ _ s t ⟨hinv, hd⟩ hst
    exact ⟨hst.inv hinv, hst.delivered ▸ hd⟩
  · rintro ⟨name, cell⟩ _ _ s ⟨hinv, hd⟩ u hu
    refine ⟨fun _ _ _ _ _ => trivial, fun u' hu' => ?_⟩
    have hguard : Guarded go catalog sha256 render u
        (.createPod name cell cfg.reloadHash cfg.restartHash) := ⟨d, hu.delivered ▸ hd, hhash⟩
    refine ⟨hguard, fun v hv => ⟨hv.inv ((hu.inv hinv).exec hguard hu'), ?_⟩⟩
    rw [hv.delivered]
    have hdelivered : u'.delivered = u.delivered := by
      simp only [machine, Reload.exec] at hu'
      split at hu'
      · rw [← Except.ok.inj hu']
      · cases hu'
    rw [hdelivered, hu.delivered, hd]

theorem withstands_reconcileReloadState
    (hhash : cfg.reloadHash = reloadHash go catalog sha256 rendered)
    (hsettings : cfg.reloadSettings = (stampAndSplit go catalog sha256 rendered).2.reloadSettings)
    (h : Inv go catalog sha256 render S w) :
    Withstands go catalog sha256 render S (reconcileReloadState mode serviceID cfg)
      (fun _ _ => True) w := by
  intro t ht i _
  change Withstands go catalog sha256 render S (if _ then _ else _) _ t
  split
  · exact fun _ _ => trivial
  · exact Prog.wp_fetch_bind (fun _ _ => trivial) fun u hu _ _ =>
      withstands_reloadPods hhash hsettings _ _ (hu.inv (ht.inv h))

theorem renderEffectiveConfig_ok (go : GoText) (catalog : Catalog)
    (sha256 : Bytes → Vector UInt8 32) (h : render spec = .ok rendered) :
    (renderEffectiveConfig go catalog sha256 render spec).err = none ∧
      (renderEffectiveConfig go catalog sha256 render spec).content =
        (stampAndSplit go catalog sha256 rendered).1 ∧
      (renderEffectiveConfig go catalog sha256 render spec).reloadHash =
        reloadHash go catalog sha256 rendered ∧
      (renderEffectiveConfig go catalog sha256 render spec).reloadSettings =
        (stampAndSplit go catalog sha256 rendered).2.reloadSettings := by
  rw [renderEffectiveConfig, h]
  exact ⟨rfl, rfl, rfl, rfl⟩

/-- **A pass is guarded**, whatever happens outside. -/
theorem withstands_reconcile (h : Inv go catalog sha256 render S w) :
    Withstands go catalog sha256 render S
      (reconcile go catalog sha256 render mode serviceID) (fun _ _ => True) w := by
  unfold reconcile
  refine Prog.wp_fetch_bind (fun _ _ => trivial) fun t ht i _ => ?_
  have hinv := ht.inv h
  -- the answer only replaces the pods: how far the cache of the spec lags is `seen`
  have hhistory : ((machine go).shown Reader.cached i t).history = t.history := rfl
  have hseen : ((machine go).shown Reader.cached i t).seen = t.seen := rfl
  rw [hhistory, hseen]
  cases hspec : t.history[t.seen]? with
  | none => exact fun _ _ => trivial
  | some spec =>
    dsimp only
    cases hrender : render spec with
    | error err =>
      simp only [renderEffectiveConfig, hrender, reconcilePostgresConfig]
      exact fun _ _ => trivial
    | ok rendered =>
      obtain ⟨herr, hcontent, hhash, hsettings⟩ :=
        renderEffectiveConfig_ok go catalog sha256 hrender
      generalize renderEffectiveConfig go catalog sha256 render spec = cfg at herr hcontent hhash hsettings
      rw [reconcilePostgresConfig, herr]
      refine Prog.wp_mapError_bind (fun _ _ => trivial)
        (Prog.wp_perform_bind (fun _ _ => trivial) fun u hu u' hu' => ?_)
      -- the generation read was seen, and nothing later has been delivered
      have hguard : Guarded go catalog sha256 render u (.applyConfigMap t.seen cfg.content) := by
        refine ⟨⟨hu.seen, spec, rendered, getElem?_of_prefix hu.history hspec, hrender, hcontent⟩, ?_⟩
        intro d hd
        rw [hu.delivered] at hd
        exact (hinv.rendered d hd).1
      have hinv' := (hu.inv hinv).exec hguard hu'
      have hlast : u'.delivered.getLast? = some (t.seen, cfg.content) := by
        rw [← Except.ok.inj hu']
        exact List.getLast?_concat
      have hnamed : cfg.reloadHash = reloadHash go catalog sha256 cfg.content := by
        rw [hhash, hcontent, reloadHash_stamp]
      refine ⟨hguard, ?_⟩
      change Withstands go catalog sha256 render S (createMissingPods cfg >>= fun _ =>
        reconcileReloadState mode serviceID cfg >>= fun _ => pure ()) _ u'
      refine Prog.wp_bind Keeps.refl (Prog.wp_conseq
        (withstands_createMissingPods (d := (t.seen, cfg.content)) hnamed hinv' hlast) (fun _ v hv => ?_) fun _ _ he => he)
      exact Prog.wp_bind Keeps.refl (Prog.wp_conseq
        (withstands_reconcileReloadState hhash hsettings hv) (fun _ _ _ _ _ => trivial)
        fun _ _ he => he)

/-! ### Runs -/

theorem Initial.inv (h : Initial go catalog sha256 render S w) : Inv go catalog sha256 render S w := by
  obtain ⟨spec, hS, hhistory, hdelivered⟩ := h.first
  refine ⟨?_, ?_, fun d hd => ?_, ?_, fun pod hpod => ?_⟩
  · rw [hhistory]
    intro spec' hspec'
    rwa [List.mem_singleton.mp hspec']
  · rw [hhistory]
    exact noReturn_singleton spec
  · obtain ⟨hgen, rendered, hrender, hfile⟩ := hdelivered d hd
    exact ⟨by rw [hgen]; exact Nat.zero_le _, spec, rendered, by rw [hgen, hhistory]; rfl, hrender,
      hfile⟩
  · exact List.pairwise_of_forall_mem_list fun d hd d' _ => by
      rw [(hdelivered d hd).1]
      exact Nat.zero_le _
  · obtain ⟨d, hd, hhash, hmounted⟩ := h.pods pod hpod
    obtain ⟨version, hversion⟩ := Option.isSome_iff_exists.mp hmounted
    exact ⟨0, d, hd, hhash, .inr ⟨⟨version, hversion, Nat.zero_le _⟩, fun _ _ => Nat.zero_le _⟩⟩

/-- **The reload hash never lies** while the reload-safe settings never return to earlier ones and
the first mount of a pod is not older than the pod. -/
theorem reload_hash_truthful (hlines : go.KeepsLines)
    (collisionFree : CollisionFree go catalog sha256 render S)
    (hinitial : Initial go catalog sha256 render S w)
    {x : Effects.Config Unit Unit Answer (World Spec) Op Refusal}
    (hreachable : (reloading go catalog sha256 render mode serviceID (Onward go catalog render S)
      NotOlder).Reachable w x) {pod : Pod} (hpod : pod ∈ x.store.pods) :
    Truthful go catalog sha256 render x.store pod := by
  have hinv := Controllers.invariant (R := fun _ => Keeps go catalog sha256 render S)
    (G := fun _ => Guarded go catalog sha256 render) (I := Inv go catalog sha256 render S)
    ⟨fun _ => Keeps.refl, fun _ => Keeps.trans, fun _ _ _ _ h => withstands_reconcile h,
      fun _ _ _ _ h hguard hw' => h.exec hguard hw',
      fun _ _ hne => absurd (Subsingleton.elim _ _) hne⟩
    (fun _ _ h change => ⟨(Change.keeps change).inv h, fun _ => Change.keeps change⟩)
    hinitial.inv hreachable
  exact hinv.1.truthful hlines collisionFree hpod

end Invariant

/-! ### A reply is lost -/

namespace Sample

open PostgresConfig.Sample

/-- A spec is a value of `work_mem`. -/
def workMem (value : Str) : Except Str Str := .ok ("work_mem = ".toList ++ value ++ ['\n'])

def small : Str := ['4']

def large : Str := ['8']

/-- A running pod that is current on the small value. -/
def currentPod : Pod where
  name := "p-0"
  cell := "z1"
  reloadHash := (renderEffectiveConfig .ascii workMemCatalog checksum workMem small).reloadHash
  configHash := (renderEffectiveConfig .ascii workMemCatalog checksum workMem small).restartHash
  created := 0
  mounted := some 0
  loaded := some 0

/-- The pod once it has loaded the second version of the ConfigMap. -/
def reloadedPod : Pod := { currentPod with mounted := some 1, loaded := some 1 }

def currentPods : Keyed Pod.name := ⟨[currentPod], by decide⟩

def currentWorld : World Str where
  history := [small]
  seen := 0
  delivered := [(0, (renderEffectiveConfig .ascii workMemCatalog checksum workMem small).content)]
  pods := currentPods

/-- The spec is edited to the large value, and the controller sees it. -/
def editedWorld : World Str := { currentWorld with history := [small, large], seen := 1 }

/-- The pod's pooler is registered; the reply to a reload may be lost. -/
def reachable (replyLost : Bool) : Answer where
  pods := currentPods
  topology _ := .ok [⟨some ⟨"multipooler", "z1", "p-0"⟩, "p-0", .unknown, .unspecified, ""⟩]
  replyLost := replyLost

def samplePass : Action Str Unit :=
  reconcile .ascii workMemCatalog checksum workMem .distributed id

/-- The pass has delivered the ConfigMap. -/
def applied : Action Str Unit × World Str :=
  samplePass.advance (machine .ascii) [reachable true, reachable true] editedWorld

/-- The kubelet brings it to the pod. -/
def syncedWorld : World Str :=
  { applied.2 with
    pods := applied.2.pods.modify "p-0" (fun pod => { pod with mounted := some 1 }) fun _ => rfl }

/-- The pass has reloaded the pod. -/
def reloaded (replyLost : Bool) : Action Str Unit × World Str :=
  applied.1.advance (machine .ascii) (List.replicate 7 (reachable replyLost)) syncedWorld

end Sample

section

open Reload.Sample PostgresConfig.Sample

/-- A pass that reloads the pod, with its reply lost or not. -/
theorem exists_reloaded (edits : World Str → Str → Prop) (possible : edits currentWorld large) (replyLost : Bool) :
    ∃ x, (reloading .ascii workMemCatalog checksum workMem .distributed id edits NotOlder).Reachable
      currentWorld x ∧ (x.thread ()).rest = (reloaded replyLost).1 ∧
      x.store = (reloaded replyLost).2 := by
  have hedited : (reloading .ascii workMemCatalog checksum workMem .distributed id edits
      NotOlder).Reachable currentWorld ⟨editedWorld, fun _ => ⟨none, [], .ret ()⟩⟩ := by
    refine .step (.step .idle (.env (.edit possible))) (.env (.observe (n := 1) ?_ ?_))
    · exact Nat.zero_le _
    · decide
  obtain ⟨x, hx, hhalf, -⟩ := hedited.takeAdvance (t := ()) (k := ()) trivial trivial
    [reachable true, reachable true] fun _ _ _ => trivial
  have hrest : (x.thread ()).rest = applied.1 := congrArg Prod.fst hhalf
  have hstore : x.store = applied.2 := congrArg Prod.snd hhalf
  have hpods : applied.2.pods.items = [currentPod] := rfl
  have hsync : Change edits NotOlder x.store syncedWorld := by
    rw [hstore]
    refine .sync (Nat.le_refl 2) fun pod hpod _ => ?_
    rw [← Keyed.mem_items, hpods, List.mem_singleton] at hpod
    subst hpod
    exact ⟨fun old hold => Option.some.inj hold ▸ Nat.zero_le 1, fun hnone => absurd hnone (by simp [currentPod])⟩
  obtain ⟨y, hy, hend, -⟩ := (hx.step (.env hsync)).advance () (List.replicate 7 (reachable replyLost))
    fun _ _ _ => trivial
  simp only [hrest] at hend
  exact ⟨y, hy, congrArg Prod.fst hend, congrArg Prod.snd hend⟩

/-- The texts that are digested. -/
def settingsText (spec : Str) : Bytes :=
  utf8 (String.ofList (Text.entryLines (sortedEntries
    (reloadSafe .ascii workMemCatalog ("work_mem = ".toList ++ spec ++ ['\n'])))))

theorem sample_collisionFree :
    CollisionFree .ascii workMemCatalog checksum workMem {small, large} := by
  have hne : checksum (settingsText small) ≠ checksum (settingsText large) := by decide +kernel
  rintro _ ⟨a, ha, rendered, hrendered, rfl⟩ _ ⟨b, hb, rendered', hrendered', rfl⟩ h
  obtain rfl := Except.ok.inj hrendered
  obtain rfl := Except.ok.inj hrendered'
  rcases ha with rfl | rfl <;> rcases hb with rfl | rfl
  · rfl
  · exact absurd h hne
  · exact absurd h.symm hne
  · rfl

theorem currentWorld_initial :
    Initial .ascii workMemCatalog checksum workMem {small, large} currentWorld where
  first := by
    refine ⟨small, by simp, rfl, fun d hd => ?_⟩
    obtain rfl := List.mem_singleton.mp hd
    exact ⟨rfl, _, rfl, rfl⟩
  seen := rfl
  pods pod hpod := by
    obtain rfl := List.mem_singleton.mp hpod
    exact ⟨_, rfl, (reloadHash_stamp _).symm, rfl⟩

theorem reloaded_done {p : Action Str Unit} (h : p = (reloaded true).1) : p.Done := by
  rw [h]
  decide +kernel

/-- What a pass whose reply is lost leaves: the pod is still annotated with the small value. -/
theorem reloaded_lost :
    (reloaded true).2.history = [small, large] ∧
      (reloaded true).2.pods.items = [reloadedPod] ∧
      (reloaded true).2.delivered[1]?.map Prod.snd =
        some (renderEffectiveConfig .ascii workMemCatalog checksum workMem large).content := by
  decide +kernel

theorem reloaded_stamped :
    (reloaded false).2.history = [small, large] ∧
      (reloaded false).2.pods.items = [reloadedPod.stamp
        (renderEffectiveConfig .ascii workMemCatalog checksum workMem large).reloadHash] := by
  decide +kernel

theorem settings_small_ne_large : settings .ascii workMemCatalog workMem small ≠
    settings .ascii workMemCatalog workMem large := by
  intro h
  have hget := congrFun (Option.some.inj h) "work_mem".toList
  have : (reloadSafe .ascii workMemCatalog ("work_mem = ".toList ++ small ++ ['\n'])).get "work_mem".toList ≠
    (reloadSafe .ascii workMemCatalog ("work_mem = ".toList ++ large ++ ['\n'])).get "work_mem".toList := by decide +kernel
  exact this hget

/-- A pass whose reply arrives stamps the pod with the hash of the value it has loaded. -/
theorem reload_hash_truthful_stamped :
    ∃ x pod, (reloading .ascii workMemCatalog checksum workMem .distributed id
        (Onward .ascii workMemCatalog workMem {small, large}) NotOlder).Reachable currentWorld x ∧
      pod ∈ x.store.pods ∧ x.store.history.getLast? = some large ∧ pod.loaded = some 1 ∧
      pod.reloadHash =
        (renderEffectiveConfig .ascii workMemCatalog checksum workMem large).reloadHash ∧
      Truthful .ascii workMemCatalog checksum workMem x.store pod := by
  have possible : Onward .ascii workMemCatalog workMem {small, large} currentWorld large := by
    refine ⟨by simp, fun old hold heq => ?_⟩
    obtain rfl := List.mem_singleton.mp hold
    exact absurd heq settings_small_ne_large
  obtain ⟨x, hx, -, hstore⟩ := exists_reloaded _ possible false
  obtain ⟨hhistory, hpods⟩ := reloaded_stamped
  rw [← hstore] at hhistory hpods
  have hpod := hpods.symm ▸ List.mem_singleton_self _
  exact ⟨x, _, hx, hpod, by rw [hhistory]; rfl, rfl, rfl,
    reload_hash_truthful keepsLines_ascii sample_collisionFree currentWorld_initial hx hpod⟩

/-- **The annotation lies.** PostgreSQL reloads the large value and the reply is lost. The spec
returns to the small value, whose hash is still in the annotation, and the pod is taken to be
current. -/
theorem reverted_settings_not_loaded :
    ¬ ∀ (Spec : Type) (go : GoText) (catalog : Catalog) (sha256 : Bytes → Vector UInt8 32)
      (render : Spec → Except Str Str) (mode : ShardMode) (serviceID : String → String)
      (S : Set Spec) (w : World Spec), go.KeepsLines → CollisionFree go catalog sha256 render S →
      Initial go catalog sha256 render S w → ∀ x,
      (reloading go catalog sha256 render mode serviceID (fun _ spec => spec ∈ S) NotOlder).Reachable
        w x → (x.thread ()).rest.Done →
      ∀ pod ∈ x.store.pods, Truthful go catalog sha256 render x.store pod := by
  intro h
  obtain ⟨x, hx, hrest, hstore⟩ :=
    exists_reloaded (fun _ spec => spec ∈ ({small, large} : Set Str)) (by simp) true
  obtain ⟨hhistory, hpods, hfile⟩ := reloaded_lost
  rw [← hstore] at hhistory hpods hfile
  obtain ⟨file, hfile, hcontent⟩ := Option.map_eq_some_iff.mp hfile
  have hpod : reloadedPod ∈ x.store.pods.items := hpods ▸ List.mem_singleton_self _
  have hlast : (x.store.history ++ [small]).getLast? = some small := List.getLast?_concat
  have hedit : small ∈ ({small, large} : Set Str) := by simp
  have hloaded := h Str .ascii workMemCatalog checksum workMem .distributed id {small, large}
    currentWorld keepsLines_ascii sample_collisionFree currentWorld_initial _
    (hx.step (.env (.edit hedit)))
    (reloaded_done hrest) reloadedPod hpod small _ 1 file hlast rfl rfl hfile rfl
  -- the loaded file has the large value
  refine settings_small_ne_large (congrArg some (funext fun name => ?_))
  rw [← hloaded name, hcontent]
  exact congrArg (fun m => Table.get m name) (reloadSafe_stamp _)

end

end MultigresOperator.Reload

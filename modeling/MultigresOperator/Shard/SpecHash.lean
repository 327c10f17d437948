import Mathlib.Data.List.Lex
import MultigresOperator.Lib.Encoding
import MultigresOperator.Lib.Writes
import MultigresOperator.Shard.Names

/-!
# The hash of a pod spec

`ComputeSpecHash` writes the fields of a pod that a rolling update is made for into an FNV-1a hash,
each behind a marker such as `image=`. Nothing separates a text from the marker that follows it, and
nothing stands between the init containers and the containers. Two pods that differ are therefore
written alike exactly if a container is moved from one list to the other, or a text of one pod goes
on with what the other pod writes next.

The nested objects are written as their JSON encoding, a parameter of the model of which it is only
known that no object is written as an empty text.

## Main definitions

* `PodSpec`: the fields of a pod that are hashed
* `specStream`, `computeSpecHash`: the bytes written, and their hash
* `Piece`, `pieces`: the texts that are written, one by one
* `BoundaryMoved`: two pods that list the same containers and divide them differently

## Main results

* `specStream_eq_written`: the stream is made of the pieces
* `pieces_eq_iff`: the pieces determine a pod up to the boundary between its containers
* `spec_stream_distinguishes_iff`: which differences the stream shows
* `sidecar_move_unnoticed`: a sidecar made a container, and two arguments made one
-/

namespace MultigresOperator.SpecHash

open Encoding Writes

/-! ## Pods -/

/-- The nested Kubernetes objects of a pod spec. -/
structure Kinds where
  EnvVarSource : Type
  EnvFromSource : Type
  ResourceRequirements : Type
  VolumeMount : Type
  SecurityContext : Type
  Probe : Type
  ReadinessGate : Type
  Volume : Type
  Affinity : Type
  Toleration : Type
  PodSecurityContext : Type

/-- `json.Marshal` for one kind of object. -/
structure Json (α : Type) where
  marshal : α → Bytes
  nonempty : ∀ a, marshal a ≠ []

/-- The JSON encodings of the nested objects. -/
structure Codec (K : Kinds) where
  envVarSource : Json K.EnvVarSource
  envFromSource : Json K.EnvFromSource
  resources : Json K.ResourceRequirements
  volumeMount : Json K.VolumeMount
  securityContext : Json K.SecurityContext
  probe : Json K.Probe
  readinessGates : Json (List K.ReadinessGate)
  volume : Json K.Volume
  affinity : Json K.Affinity
  tolerations : Json (List K.Toleration)
  podSecurityContext : Json K.PodSecurityContext

/-- `map[string]string`, as `sortedKeys` goes through it. -/
@[ext] structure StringMap where
  entries : List (Bytes × Bytes)
  increasing : entries.Pairwise fun a b => a.1 < b.1

variable {K : Kinds}

@[ext] structure EnvVar (K : Kinds) where
  name : Bytes
  value : Bytes
  valueFrom : Option K.EnvVarSource

@[ext] structure Container (K : Kinds) where
  name : Bytes
  image : Bytes
  command : List Bytes
  args : List Bytes
  env : List (EnvVar K)
  envFrom : List K.EnvFromSource
  resources : K.ResourceRequirements
  volumeMounts : List K.VolumeMount
  securityContext : Option K.SecurityContext
  startupProbe : Option K.Probe
  livenessProbe : Option K.Probe
  readinessProbe : Option K.Probe

/-- The fields of a pod that are hashed. `postgresConfigHash` is the annotation of that name. -/
@[ext] structure PodSpec (K : Kinds) where
  initContainers : List (Container K)
  containers : List (Container K)
  readinessGates : List K.ReadinessGate
  volumes : List K.Volume
  affinity : Option K.Affinity
  tolerations : List K.Toleration
  nodeSelector : StringMap
  terminationGracePeriodSeconds : Option ℤ
  priorityClassName : Bytes
  serviceAccountName : Bytes
  securityContext : Option K.PodSecurityContext
  postgresConfigHash : Bytes

/-! ## The stream -/

/-- A text behind its marker. -/
def field (marker : String) (t : Bytes) : Bytes := utf8 marker ++ t

/-- An object behind its marker, if there is one. -/
def optField {α : Type} (json : Json α) (marker : String) : Option α → Bytes
  | none => []
  | some a => field marker (json.marshal a)

/-- A text behind its marker, unless it is empty. -/
def textField (marker : String) : Bytes → Bytes
  | [] => []
  | b :: t => field marker (b :: t)

/-- A list of objects as one text behind its marker, unless it is empty. -/
def listField {α : Type} (json : Json (List α)) (marker : String) : List α → Bytes
  | [] => []
  | a :: l => field marker (json.marshal (a :: l))

variable (J : Codec K)

def envText (e : EnvVar K) : Bytes :=
  field "env=" (e.name ++ utf8 "=" ++ e.value) ++
    match e.valueFrom with
    | none => []
    | some source => field "envValFrom=" (e.name ++ utf8 "=" ++ J.envVarSource.marshal source)

/-- `hashContainers`, for one container -/
def hashContainer (c : Container K) : Bytes :=
  field "name=" c.name ++
  field "image=" c.image ++
  c.command.flatMap (field "cmd=") ++
  c.args.flatMap (field "arg=") ++
  c.env.flatMap (envText J) ++
  c.envFrom.flatMap (fun ef => field "envFromSrc=" (J.envFromSource.marshal ef)) ++
  field "res=" (J.resources.marshal c.resources) ++
  c.volumeMounts.flatMap (fun vm => field "vm=" (J.volumeMount.marshal vm)) ++
  optField J.securityContext "sc=" c.securityContext ++
  optField J.probe "startupProbe=" c.startupProbe ++
  optField J.probe "livenessProbe=" c.livenessProbe ++
  optField J.probe "readinessProbe=" c.readinessProbe

def hashContainers (containers : List (Container K)) : Bytes := containers.flatMap (hashContainer J)

/-- What `ComputeSpecHash` writes into the hash. -/
def specStream (spec : PodSpec K) : Bytes :=
  hashContainers J spec.initContainers ++
  hashContainers J spec.containers ++
  listField J.readinessGates "readinessGates=" spec.readinessGates ++
  spec.volumes.flatMap J.volume.marshal ++
  optField J.affinity "" spec.affinity ++
  listField J.tolerations "" spec.tolerations ++
  spec.nodeSelector.entries.flatMap (fun e => e.1 ++ utf8 "=" ++ e.2) ++
  (match spec.terminationGracePeriodSeconds with
    | none => []
    | some seconds => field "tgp=" (utf8 (toString seconds))) ++
  textField "priorityClass=" spec.priorityClassName ++
  textField "sa=" spec.serviceAccountName ++
  optField J.podSecurityContext "podsc=" spec.securityContext ++
  textField "pgcfg=" spec.postgresConfigHash

/-- `fnv.New32a` over a text, in hexadecimal digits. -/
def fnvText (s : Bytes) : String := String.ofList (hexDigits 8 (s.foldl fnvStep 2166136261).toNat)

def computeSpecHash (spec : PodSpec K) : String := fnvText (specStream J spec)

/-! ## The pieces -/

inductive ProbeName
  | startup
  | liveness
  | readiness
  deriving DecidableEq, Repr

def ProbeName.marker : ProbeName → String
  | .startup => "startupProbe="
  | .liveness => "livenessProbe="
  | .readiness => "readinessProbe="

/-- An entry of a pod that is written. -/
inductive Piece (K : Kinds)
  | name (t : Bytes)
  | image (t : Bytes)
  | cmd (t : Bytes)
  | arg (t : Bytes)
  | env (e : EnvVar K)
  | envFrom (source : K.EnvFromSource)
  | resources (r : K.ResourceRequirements)
  | volumeMount (vm : K.VolumeMount)
  | securityContext (sc : K.SecurityContext)
  | probe (name : ProbeName) (value : K.Probe)
  | readinessGates (gates : List K.ReadinessGate)
  | volume (v : K.Volume)
  | affinity (a : K.Affinity)
  | tolerations (ts : List K.Toleration)
  | nodeSelector (key value : Bytes)
  | gracePeriod (seconds : ℤ)
  | priorityClass (t : Bytes)
  | serviceAccount (t : Bytes)
  | podSecurityContext (sc : K.PodSecurityContext)
  | postgresConfig (t : Bytes)

def pieceText : Piece K → Bytes
  | .name t => field "name=" t
  | .image t => field "image=" t
  | .cmd t => field "cmd=" t
  | .arg t => field "arg=" t
  | .env e => envText J e
  | .envFrom source => field "envFromSrc=" (J.envFromSource.marshal source)
  | .resources r => field "res=" (J.resources.marshal r)
  | .volumeMount vm => field "vm=" (J.volumeMount.marshal vm)
  | .securityContext sc => field "sc=" (J.securityContext.marshal sc)
  | .probe name value => field name.marker (J.probe.marshal value)
  | .readinessGates gates => field "readinessGates=" (J.readinessGates.marshal gates)
  | .volume v => J.volume.marshal v
  | .affinity a => field "" (J.affinity.marshal a)
  | .tolerations ts => field "" (J.tolerations.marshal ts)
  | .nodeSelector key value => key ++ utf8 "=" ++ value
  | .gracePeriod seconds => field "tgp=" (utf8 (toString seconds))
  | .priorityClass t => field "priorityClass=" t
  | .serviceAccount t => field "sa=" t
  | .podSecurityContext sc => field "podsc=" (J.podSecurityContext.marshal sc)
  | .postgresConfig t => field "pgcfg=" t

/-- The pieces of a container after its name. -/
def Container.body (c : Container K) : List (Piece K) :=
  .image c.image ::
  (c.command.map .cmd ++
  c.args.map .arg ++
  c.env.map .env ++
  c.envFrom.map .envFrom ++
  [.resources c.resources] ++
  c.volumeMounts.map .volumeMount ++
  (c.securityContext.map .securityContext).toList ++
  (c.startupProbe.map (.probe .startup)).toList ++
  (c.livenessProbe.map (.probe .liveness)).toList ++
  (c.readinessProbe.map (.probe .readiness)).toList)

/-- A text or a list as a piece, unless it is empty. -/
def filled {α : Type} (piece : List α → Piece K) (l : List α) : List (Piece K) :=
  match l with
  | [] => []
  | a :: l => [piece (a :: l)]

def PodSpec.tail (spec : PodSpec K) : List (Piece K) :=
  filled .readinessGates spec.readinessGates ++
  spec.volumes.map .volume ++
  (spec.affinity.map .affinity).toList ++
  filled .tolerations spec.tolerations ++
  spec.nodeSelector.entries.map (fun e => .nodeSelector e.1 e.2) ++
  (spec.terminationGracePeriodSeconds.map .gracePeriod).toList ++
  filled .priorityClass spec.priorityClassName ++
  filled .serviceAccount spec.serviceAccountName ++
  (spec.securityContext.map .podSecurityContext).toList ++
  filled .postgresConfig spec.postgresConfigHash

def pieces (spec : PodSpec K) : List (Piece K) :=
  (spec.initContainers ++ spec.containers).flatMap (fun c => .name c.name :: c.body) ++ spec.tail

variable {J}

theorem utf8_ne_nil {s : String} (h : s ≠ "") : utf8 s ≠ [] := fun hnil =>
  h (utf8_inj.mp (hnil.trans (by decide +kernel : [] = utf8 "")))

theorem field_ne_nil {marker : String} (h : marker ≠ "") (t : Bytes) : field marker t ≠ [] :=
  List.append_ne_nil_of_left_ne_nil (utf8_ne_nil h) t

theorem pieceText_ne_nil (piece : Piece K) : pieceText J piece ≠ [] := by
  cases piece with
  | env e => exact List.append_ne_nil_of_left_ne_nil (field_ne_nil (by decide) _) _
  | volume v => exact J.volume.nonempty v
  | affinity a => exact List.append_ne_nil_of_right_ne_nil _ (J.affinity.nonempty a)
  | tolerations ts => exact List.append_ne_nil_of_right_ne_nil _ (J.tolerations.nonempty ts)
  | nodeSelector key value =>
    exact List.append_ne_nil_of_left_ne_nil
      (List.append_ne_nil_of_right_ne_nil _ (utf8_ne_nil (by decide))) _
  | probe name value => cases name <;> exact field_ne_nil (by decide) _
  | _ => exact field_ne_nil (by decide) _

theorem written_map {α : Type} (f : α → Piece K) (l : List α) :
    written (pieceText J) (l.map f) = l.flatMap fun a => pieceText J (f a) :=
  List.flatMap_map f (pieceText J) l

theorem written_optional {α : Type} (json : Json α) (marker : String) (f : α → Piece K)
    (hf : ∀ a, pieceText J (f a) = field marker (json.marshal a)) (o : Option α) :
    written (pieceText J) (o.map f).toList = optField json marker o := by
  cases o with
  | none => rfl
  | some a => simp [optField, hf]

theorem written_filled {α : Type} (piece : List α → Piece K) (l : List α) :
    written (pieceText J) (filled piece l) = if l = [] then [] else pieceText J (piece l) := by
  cases l with
  | nil => rfl
  | cons a l => simp [filled]

theorem textField_eq (marker : String) (t : Bytes) :
    textField marker t = if t = [] then [] else field marker t := by cases t <;> simp [textField]

theorem listField_eq {α : Type} (json : Json (List α)) (marker : String) (l : List α) :
    listField json marker l = if l = [] then [] else field marker (json.marshal l) := by
  cases l <;> simp [listField]

theorem hashContainer_eq_written (c : Container K) :
    hashContainer J c = written (pieceText J) (.name c.name :: c.body) := by
  simp only [Container.body, written_cons, written_append, written_nil, written_map,
    written_optional J.securityContext "sc=" .securityContext (fun _ => rfl),
    written_optional J.probe "startupProbe=" (.probe .startup) (fun _ => rfl),
    written_optional J.probe "livenessProbe=" (.probe .liveness) (fun _ => rfl),
    written_optional J.probe "readinessProbe=" (.probe .readiness) (fun _ => rfl), hashContainer, pieceText,
    List.append_assoc, List.append_nil]

theorem hashContainers_eq_written (cs : List (Container K)) :
    hashContainers J cs =
      written (pieceText J) (cs.flatMap fun c => .name c.name :: c.body) := by
  induction cs with
  | nil => rfl
  | cons c cs ih =>
    rw [hashContainers, List.flatMap_cons, ← hashContainers, ih, hashContainer_eq_written,
      List.flatMap_cons, written_append]

/-- **The stream is made of the pieces.** -/
theorem specStream_eq_written (spec : PodSpec K) :
    specStream J spec = written (pieceText J) (pieces spec) := by
  have hgrace : written (pieceText J)
      (spec.terminationGracePeriodSeconds.map Piece.gracePeriod).toList =
      match spec.terminationGracePeriodSeconds with
      | none => []
      | some seconds => field "tgp=" (utf8 (toString seconds)) := by
    cases spec.terminationGracePeriodSeconds <;> simp [pieceText]
  simp only [pieces, PodSpec.tail, List.flatMap_append, written_append, written_map,
    ← hashContainers_eq_written, hgrace, written_filled, textField_eq, listField_eq,
    written_optional J.affinity "" .affinity (fun _ => rfl),
    written_optional J.podSecurityContext "podsc=" .podSecurityContext (fun _ => rfl),
    specStream, pieceText,
    List.append_assoc]

/-- The annotation is written last. -/
theorem specStream_postgresConfigHash (spec : PodSpec K) (hash : Bytes) :
    specStream J { spec with postgresConfigHash := hash } =
      specStream J { spec with postgresConfigHash := [] } ++ textField "pgcfg=" hash := by
  simp [specStream, textField]

variable {spec p q : PodSpec K} {c : Container K} {piece : Piece K} {b : UInt8}

theorem specStream_postgresConfigHash_inj {hash hash' : Bytes} (hne : hash ≠ []) (hne' : hash' ≠ [])
    (h : specStream J { spec with postgresConfigHash := hash } =
      specStream J { spec with postgresConfigHash := hash' }) : hash = hash' := by
  rw [specStream_postgresConfigHash, specStream_postgresConfigHash spec hash'] at h
  have hfield := List.append_cancel_left h
  rw [textField_eq, textField_eq, if_neg hne, if_neg hne'] at hfield
  exact List.append_cancel_left hfield

/-! ## What the stream shows -/

/-- The pieces of a container after its name. -/
def Piece.inBody : Piece K → Bool
  | .image _ | .cmd _ | .arg _ | .env _ | .envFrom _ | .resources _ | .volumeMount _
  | .securityContext _ | .probe _ _ => true
  | _ => false

def Piece.isName : Piece K → Bool
  | .name _ => true
  | _ => false

theorem inBody_of_mem_body (h : piece ∈ c.body) : piece.inBody = true := by
  simp only [Container.body, List.mem_cons, List.mem_append, List.mem_map, Option.mem_toList,
    Option.map_eq_some_iff, List.not_mem_nil, or_false] at h
  rcases h with rfl | ((((((((⟨_, _, rfl⟩ | ⟨_, _, rfl⟩) | ⟨_, _, rfl⟩) | ⟨_, _, rfl⟩) | rfl) |
    ⟨_, _, rfl⟩) | ⟨_, _, rfl⟩) | ⟨_, _, rfl⟩) | ⟨_, _, rfl⟩) | ⟨_, _, rfl⟩
  all_goals rfl

theorem eq_of_mem_filled {α : Type} {piece : List α → Piece K} {l : List α} {x : Piece K}
    (h : x ∈ filled piece l) : x = piece l := by
  cases l with
  | nil => cases h
  | cons a l => exact List.mem_singleton.mp h

theorem outside_of_mem_tail (h : piece ∈ spec.tail) :
    piece.inBody = false ∧ piece.isName = false := by
  simp only [PodSpec.tail, List.mem_append, List.mem_map, Option.mem_toList,
    Option.map_eq_some_iff] at h
  rcases h with ((((((((h | ⟨_, _, rfl⟩) | ⟨_, _, rfl⟩) | h) | ⟨_, _, rfl⟩) |
    ⟨_, _, rfl⟩) | h) | h) | ⟨_, _, rfl⟩) | h
  all_goals try obtain rfl := eq_of_mem_filled h
  all_goals exact ⟨rfl, rfl⟩

@[simp] theorem filterMap_map_toList {α β γ : Type} (f : α → β) (g : β → Option γ) (o : Option α) :
    (o.map f).toList.filterMap g = (o.bind fun a => g (f a)).toList := by
  cases o with
  | none => rfl
  | some a => cases h : g (f a) <;> simp [h]

@[simp] theorem toList_inj {α : Type} {o o' : Option α} : o.toList = o'.toList ↔ o = o' := by
  cases o <;> cases o' <;> simp

@[simp] theorem filterMap_filled {α γ : Type} (piece : List α → Piece K) (g : Piece K → Option γ)
    (l : List α) : (filled piece l).filterMap g = if l = [] then [] else (g (piece l)).toList := by
  cases l with
  | nil => rfl
  | cons a l => cases h : g (piece (a :: l)) <;> simp [filled, h]

theorem eq_of_ite_nil {α : Type} {l m : List α}
    (h : (if l = [] then [] else [l]) = if m = [] then [] else [m]) : l = m := by
  cases l <;> cases m <;> simp_all

theorem body_injective {d : Container K} (hname : c.name = d.name) (h : c.body = d.body) :
    c = d := by
  -- each field is read off by keeping the pieces of its constructor
  have read {α : Type} (f : Piece K → Option α) : c.body.filterMap f = d.body.filterMap f := by rw [h]
  ext1
  case name => exact hname
  case image =>
    simpa [Container.body] using read fun | .image t => some t | _ => none
  case command =>
    simpa [Container.body] using read fun | .cmd t => some t | _ => none
  case args =>
    simpa [Container.body] using read fun | .arg t => some t | _ => none
  case env =>
    simpa [Container.body] using read fun | .env e => some e | _ => none
  case envFrom =>
    simpa [Container.body] using read fun | .envFrom source => some source | _ => none
  case resources =>
    simpa [Container.body] using read fun | .resources r => some r | _ => none
  case volumeMounts =>
    simpa [Container.body] using read fun | .volumeMount vm => some vm | _ => none
  case securityContext =>
    simpa [Container.body] using read fun | .securityContext sc => some sc | _ => none
  case startupProbe =>
    simpa [Container.body] using read fun | .probe .startup value => some value | _ => none
  case livenessProbe =>
    simpa [Container.body] using read fun | .probe .liveness value => some value | _ => none
  case readinessProbe =>
    simpa [Container.body] using read fun | .probe .readiness value => some value | _ => none

theorem tail_injective (hinit : p.initContainers = q.initContainers)
    (hcontainers : p.containers = q.containers) (h : p.tail = q.tail) : p = q := by
  have read {α : Type} (f : Piece K → Option α) : p.tail.filterMap f = q.tail.filterMap f := by rw [h]
  ext1
  case initContainers => exact hinit
  case containers => exact hcontainers
  case readinessGates =>
    apply eq_of_ite_nil
    simpa [PodSpec.tail] using read fun | .readinessGates gates => some gates | _ => none
  case volumes =>
    simpa [PodSpec.tail] using read fun | .volume v => some v | _ => none
  case affinity =>
    simpa [PodSpec.tail] using read fun | .affinity a => some a | _ => none
  case tolerations =>
    apply eq_of_ite_nil
    simpa [PodSpec.tail] using read fun | .tolerations ts => some ts | _ => none
  case nodeSelector =>
    ext1
    simpa [PodSpec.tail] using read fun | .nodeSelector key value => some (key, value) | _ => none
  case terminationGracePeriodSeconds =>
    simpa [PodSpec.tail] using read fun | .gracePeriod seconds => some seconds | _ => none
  case priorityClassName =>
    apply eq_of_ite_nil
    simpa [PodSpec.tail] using read fun | .priorityClass t => some t | _ => none
  case serviceAccountName =>
    apply eq_of_ite_nil
    simpa [PodSpec.tail] using read fun | .serviceAccount t => some t | _ => none
  case securityContext =>
    simpa [PodSpec.tail] using read fun | .podSecurityContext sc => some sc | _ => none
  case postgresConfigHash =>
    apply eq_of_ite_nil
    simpa [PodSpec.tail] using read fun | .postgresConfig t => some t | _ => none

/-- Two pods that list the same containers and have the same other fields, but divide the containers
differently into init containers and containers. -/
structure BoundaryMoved (p q : PodSpec K) : Prop where
  listed : p.initContainers ++ p.containers = q.initContainers ++ q.containers
  others : p = { q with initContainers := p.initContainers, containers := p.containers }
  divided : p.initContainers.length ≠ q.initContainers.length

/-- The pieces determine a pod up to the boundary between its containers. -/
theorem pieces_eq_iff : pieces p = pieces q ↔ p = q ∨ BoundaryMoved p q := by
  constructor
  · intro h
    obtain ⟨hlisted, htail⟩ := flatMap_append_inj
      (fun c b hb => inBody_of_mem_body hb) (fun c : Container K => rfl : ∀ c : Container K,
        (Piece.name c.name).isName = true)
      (fun b hb => by cases b <;> first | rfl | cases hb)
      (fun c d hname => body_injective (Piece.name.inj hname))
      (fun b hb => outside_of_mem_tail hb) (fun b hb => outside_of_mem_tail hb) h
    by_cases hlength : p.initContainers.length = q.initContainers.length
    · obtain ⟨hinit, hcontainers⟩ := List.append_inj hlisted hlength
      exact .inl (tail_injective hinit hcontainers htail)
    · exact .inr ⟨hlisted, tail_injective rfl rfl htail, hlength⟩
  · rintro (rfl | h)
    · rfl
    · have htail : p.tail = q.tail := (congrArg PodSpec.tail h.others).trans rfl
      rw [pieces, h.listed, htail, pieces]

theorem BoundaryMoved.ne (h : BoundaryMoved p q) : p ≠ q := by
  rintro rfl
  exact h.divided rfl

/-- **Which differences the stream shows.** Two different pods write different streams, unless a
container is moved between their two lists or a text of one goes on with what the other writes
next. -/
theorem spec_stream_distinguishes_iff (J : Codec K) (p q : PodSpec K) :
    (p ≠ q → specStream J p ≠ specStream J q) ↔
      ¬ BoundaryMoved p q ∧ ¬ Spills (pieceText J) (pieces p) (pieces q) ∧
        ¬ Spills (pieceText J) (pieces q) (pieces p) := by
  rw [specStream_eq_written, specStream_eq_written, ne_eq (written _ _),
    written_eq_iff pieceText_ne_nil, pieces_eq_iff]
  constructor
  · intro h
    refine ⟨fun hmoved => ?_, fun hspill => ?_, fun hspill => ?_⟩
    · exact h hmoved.ne (.inl (.inr hmoved))
    · exact h (fun heq => hspill.ne (heq ▸ rfl)) (.inr (.inl hspill))
    · exact h (fun heq => hspill.ne (heq ▸ rfl)) (.inr (.inr hspill))
  · rintro ⟨hmoved, hspill, hspill'⟩ hne ((heq | h) | h | h)
    · exact hne heq
    · exact hmoved h
    · exact hspill h
    · exact hspill' h

/-! ## The hash of a stream -/

theorem hexDigits_inj {n x y : ℕ} (h : hexDigits n x = hexDigits n y) :
    x % 16 ^ n = y % 16 ^ n := by
  induction n generalizing x y with
  | zero => rw [Nat.pow_zero, Nat.mod_one, Nat.mod_one]
  | succ n ih =>
    obtain ⟨hhigh, hlow⟩ := List.append_inj' h rfl
    have hdigit := digitChar_inj (Nat.mod_lt x (by decide)) (Nat.mod_lt y (by decide))
      (List.cons.inj hlow).1
    rw [Nat.pow_succ', Nat.mod_mul, Nat.mod_mul, hdigit, ih hhigh]

theorem fnvStep_right_inj {h : UInt32} {c : UInt8} (heq : fnvStep h b = fnvStep h c) : b = c := by
  -- the prime has an inverse modulo 2 ^ 32
  have hcancel (x : UInt32) : x * 16777619 * 899433627 = x := by
    rw [UInt32.mul_assoc]
    exact UInt32.mul_one x
  have hxor : h ^^^ b.toUInt32 = h ^^^ c.toUInt32 := by
    rw [← hcancel (h ^^^ b.toUInt32), ← hcancel (h ^^^ c.toUInt32)]
    exact congrArg (· * 899433627) heq
  exact UInt8.toUInt32_inj.mp ((UInt32.xor_right_inj h).mp hxor)

/-- Streams that differ in their last byte have different hashes. -/
theorem fnvText_concat_ne {s : Bytes} {c : UInt8} (h : b ≠ c) :
    fnvText (s ++ [b]) ≠ fnvText (s ++ [c]) := by
  intro heq
  have hdigits := hexDigits_inj (String.ofList_inj.mp heq)
  have hlt (x : UInt32) : x.toNat % 16 ^ 8 = x.toNat := Nat.mod_eq_of_lt x.toNat_lt
  rw [hlt, hlt, List.foldl_concat, List.foldl_concat] at hdigits
  exact h (fnvStep_right_inj (UInt32.toNat_inj.mp hdigits))

namespace Sample

/-- Nested objects without content. -/
def plainKinds : Kinds := ⟨Unit, Unit, Unit, Unit, Unit, Unit, Unit, Unit, Unit, Unit, Unit⟩

def objectJson : Json Unit where
  marshal := fun _ => utf8 "\x7b\x7d"
  nonempty := fun _ => utf8_ne_nil (by decide)

def arrayJson : Json (List Unit) where
  marshal := fun l => utf8 "[" ++ l.flatMap (fun _ => utf8 "\x7b\x7d,") ++ utf8 "]"
  nonempty := fun _ => List.append_ne_nil_of_right_ne_nil _ (utf8_ne_nil (by decide))

def plainCodec : Codec plainKinds where
  envVarSource := objectJson
  envFromSource := objectJson
  resources := objectJson
  volumeMount := objectJson
  securityContext := objectJson
  probe := objectJson
  readinessGates := arrayJson
  volume := objectJson
  affinity := objectJson
  tolerations := arrayJson
  podSecurityContext := objectJson

def container (name : String) (args : List String) : Container plainKinds where
  name := utf8 name
  image := utf8 "multigres"
  command := []
  args := args.map utf8
  env := []
  envFrom := []
  resources := ()
  volumeMounts := []
  securityContext := none
  startupProbe := none
  livenessProbe := none
  readinessProbe := none

def podOf (initContainers containers : List (Container plainKinds)) : PodSpec plainKinds where
  initContainers := initContainers
  containers := containers
  readinessGates := []
  volumes := []
  affinity := none
  tolerations := []
  nodeSelector := ⟨[], .nil⟩
  terminationGracePeriodSeconds := some 30
  priorityClassName := []
  serviceAccountName := []
  securityContext := none
  postgresConfigHash := []

/-- PostgreSQL as a native sidecar, and as a container that starts with the pooler. -/
def sidecarPod : PodSpec plainKinds :=
  podOf [container "postgres" ["server"]] [container "multipooler" []]

def siblingPod : PodSpec plainKinds :=
  podOf [] [container "postgres" ["server"], container "multipooler" []]

/-- Two arguments, and one that reads like them. -/
def twoArgumentsPod : PodSpec plainKinds := podOf [] [container "multipooler" ["--a", "--b"]]

def oneArgumentPod : PodSpec plainKinds := podOf [] [container "multipooler" ["--aarg=--b"]]

end Sample

section

open SpecHash.Sample

/-- A sidecar that is made a container and two arguments that are made one leave the stream as it
is. -/
theorem sidecar_move_unnoticed :
    (sidecarPod ≠ siblingPod ∧ specStream plainCodec sidecarPod = specStream plainCodec siblingPod) ∧
      twoArgumentsPod ≠ oneArgumentPod ∧
      specStream plainCodec twoArgumentsPod = specStream plainCodec oneArgumentPod := by
  refine ⟨⟨fun h => ?_, ?_⟩, fun h => ?_, ?_⟩
  · have hlength := congrArg (fun p => p.initContainers.length) h
    simp [sidecarPod, siblingPod, podOf] at hlength
  · decide +kernel
  · have hlength := congrArg (fun p => p.containers.map fun c => c.args.length) h
    simp [twoArgumentsPod, oneArgumentPod, podOf, container] at hlength
  · decide +kernel

end

end MultigresOperator.SpecHash

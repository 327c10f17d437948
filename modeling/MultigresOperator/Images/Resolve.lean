import MultigresOperator.Lib.Encoding
import MultigresOperator.Lib.Prog

/-!
# Component images

The operator deploys one image per component. Explicit pins of the spec win; what is not pinned
comes from the operator's default set. Under the lazy strategy a cluster keeps the default set it
was last given until its spec acknowledges the revision of the operator's current set. The set is
recorded in an annotation, the durable copy, and in the status; it is recorded before any child is
reconciled with it.

## Main definitions

* `ComponentImages`, `isComplete`, `complete`, `revision`: image sets
* `recordedImages`: the set recorded for a cluster
* `resolveImages`: the images of one pass
* `reconcile`: the writes of one pass that depend on them

## Main results

* `recordedImages_eq_some`: where the recorded set is found
* `chosen_lazy`: what the lazy strategy chooses
-/

namespace MultigresOperator.Images

open Effects Encoding

/-! ### Image sets -/

/-- An image for every component; the empty text is no image. -/
structure ComponentImages where
  postgres : String := ""
  multiadmin : String := ""
  multiadminWeb : String := ""
  multiorch : String := ""
  multipooler : String := ""
  multigateway : String := ""
  deriving DecidableEq

def isComplete (set : ComponentImages) : Bool :=
  set.postgres ≠ "" && set.multiadmin ≠ "" && set.multiadminWeb ≠ "" && set.multiorch ≠ "" &&
    set.multipooler ≠ "" && set.multigateway ≠ ""

/-- `Complete`: unset images are filled in from the defaults. -/
def complete (spec defaults : ComponentImages) : ComponentImages :=
  let fill (own default : String) := if own = "" then default else own
  { postgres := fill spec.postgres defaults.postgres
    multiadmin := fill spec.multiadmin defaults.multiadmin
    multiadminWeb := fill spec.multiadminWeb defaults.multiadminWeb
    multiorch := fill spec.multiorch defaults.multiorch
    multipooler := fill spec.multipooler defaults.multipooler
    multigateway := fill spec.multigateway defaults.multigateway }

/-- The set compiled into the operator. -/
def compiledDefaults : ComponentImages where
  postgres := "ghcr.io/multigres/pgctld@sha256:35aae41955f63341961cdf60501e81ac318bf5197aa686a8eaf4f52316d19d96"
  multiadmin := "ghcr.io/multigres/multigres@sha256:3cae02b4fcd52ab80e2e25c593fce6998bd56e877317bb68a003a44cf4644bd5"
  multiadminWeb := "ghcr.io/multigres/multiadmin-web@sha256:abc4740e3bf758e6bda37268768c079cc8b1bb8d7cb6a8b3f3941c55c0834470"
  multiorch := "ghcr.io/multigres/multigres@sha256:3cae02b4fcd52ab80e2e25c593fce6998bd56e877317bb68a003a44cf4644bd5"
  multipooler := "ghcr.io/multigres/multigres@sha256:3cae02b4fcd52ab80e2e25c593fce6998bd56e877317bb68a003a44cf4644bd5"
  multigateway := "ghcr.io/multigres/multigres@sha256:3cae02b4fcd52ab80e2e25c593fce6998bd56e877317bb68a003a44cf4644bd5"

/-- `Revision`: the first twelve digits of a digest of the set. -/
def revision (sha256 : Bytes → Vector UInt8 32) (set : ComponentImages) : String :=
  let lines := [
    "multiadmin=" ++ set.multiadmin,
    "multiadminweb=" ++ set.multiadminWeb,
    "multigateway=" ++ set.multigateway,
    "multiorch=" ++ set.multiorch,
    "multipooler=" ++ set.multipooler,
    "postgres=" ++ set.postgres]
  let h := sha256 (utf8 ("\n".intercalate (lines.insertionSort (· ≤ ·))))
  String.ofList ((h.toList.flatMap hexByte).take 12)

/-! ### The cluster and the operator -/

inductive UpdateStrategy
  | immediate
  | lazy
  deriving DecidableEq

/-- `spec.imageUpdatePolicy` -/
structure ImageUpdatePolicy where
  strategy : Option UpdateStrategy := none
  acknowledgedRevision : String := ""
  deriving DecidableEq

inductive ImageSource
  | explicit
  | defaults
  | mixed
  deriving DecidableEq

/-- `status.images` -/
structure ImagesStatus where
  updateStrategy : Option UpdateStrategy := none
  effective : ComponentImages
  source : ImageSource
  applied : ComponentImages := {}
  appliedRevision : String := ""
  available : ComponentImages := {}
  availableRevision : String := ""
  deriving DecidableEq

/-- The reasons of the condition `ImageRolloutPending`; the last two come with status true. -/
inductive RolloutReason
  | fullyPinned
  | upToDate
  | awaitingAcknowledgement
  | revisionMismatch
  deriving DecidableEq

/-- What resolution reads and writes of a MultigresCluster: `images` are the pins of the spec,
`appliedImages` is the annotation, `status` is `status.images`. -/
structure Cluster where
  images : ComponentImages := {}
  imageUpdatePolicy : Option ImageUpdatePolicy := none
  appliedImages : Option String := none
  status : Option ImagesStatus := none

structure Config where
  defaults : ComponentImages := {}
  strategy : Option UpdateStrategy := none

/-- `imagesConfig`: an unset configuration falls back to the compiled set and the immediate
strategy. -/
def imagesConfig (cfg : Config) : ComponentImages × UpdateStrategy :=
  (if cfg.defaults = {} then compiledDefaults else cfg.defaults, cfg.strategy.getD .immediate)

/-- The strategy in force: that of the cluster, or else that of the operator. -/
def strategyOf (cluster : Cluster) (cfg : Config) : UpdateStrategy :=
  (cluster.imageUpdatePolicy.bind (·.strategy)).getD (imagesConfig cfg).2

/-- `spec.imageUpdatePolicy.acknowledgedRevision`, empty when there is no policy. -/
def acknowledged (cluster : Cluster) : String :=
  (cluster.imageUpdatePolicy.map (·.acknowledgedRevision)).getD ""

/-- The value of the annotation of a cluster whose images are all pinned. -/
def appliedImagesFullyPinned : String := "\"fully-pinned\""

/-- The JSON form of an image set: a text that is read back, and that is not the value of a fully
pinned cluster. -/
structure Codec where
  marshal : ComponentImages → String
  unmarshal : String → Option ComponentImages
  marshal_ne_empty : ∀ set, marshal set ≠ ""
  unmarshal_marshal : ∀ set, unmarshal (marshal set) = some set
  unmarshal_fullyPinned : unmarshal appliedImagesFullyPinned = none

theorem Codec.marshal_ne_fullyPinned (codec : Codec) (set : ComponentImages) :
    codec.marshal set ≠ appliedImagesFullyPinned := by
  intro h
  have := codec.unmarshal_marshal set
  rw [h, codec.unmarshal_fullyPinned] at this
  cases this

theorem Codec.marshal_inj (codec : Codec) {a b : ComponentImages} :
    codec.marshal a = codec.marshal b ↔ a = b := by
  refine ⟨fun h => ?_, congrArg codec.marshal⟩
  have := codec.unmarshal_marshal a
  rw [h, codec.unmarshal_marshal b] at this
  exact (Option.some.inj this).symm

/-! ### Resolution -/

section Resolution

variable (sha256 : Bytes → Vector UInt8 32) (codec : Codec)

/-- A complete set that a text spells out. -/
def usable (raw : String) : Option ComponentImages := (codec.unmarshal raw).filter isComplete

def statusImages (cluster : Cluster) : Option ComponentImages :=
  (cluster.status.map (·.applied)).filter isComplete

/-- `recordedImages`: the recorded set, and whether there is a record that cannot be used. -/
def recordedImages (cluster : Cluster) : Option ComponentImages × Bool :=
  match cluster.appliedImages with
  | none => (statusImages cluster, false)
  | some raw =>
    if raw = appliedImagesFullyPinned then (none, false)
    else match usable codec raw with
      | some recorded => (some recorded, false)
      | none => (statusImages cluster, true)

inductive Child
  | globalComponents
  | cells
  | databases
  deriving DecidableEq

/-- The writes of a pass: the annotation, children, and the status with its condition. -/
inductive Op
  | annotate (raw : String)
  | child (part : Child) (images : ComponentImages)
  | updateStatus (images : ImagesStatus) (reason : RolloutReason)
  deriving DecidableEq

/-- What the environment answers: a request fails, or the topology asks for another pass. -/
structure Answer where
  fault : Option String := none
  requeue : Bool := false

/-- The cluster, the operator's configuration and the set last recorded. The last one is no field
of the cluster: it is the history that the records are compared with. -/
structure World where
  cluster : Cluster
  config : Config
  recorded : ComponentImages

abbrev Action (α : Type) := Prog Answer World Op String α

def recordFullyPinned (cluster : Cluster) : Action Unit :=
  if cluster.appliedImages.getD "" = appliedImagesFullyPinned then pure ()
  else (Prog.perform (.annotate appliedImagesFullyPinned)).mapError
    ("failed to record fully pinned images: " ++ ·)

def recordAppliedImages (cluster : Cluster) (applied : ComponentImages) : Action Unit :=
  let want := codec.marshal applied
  if cluster.appliedImages.getD "" = want then pure ()
  else (Prog.perform (.annotate want)).mapError ("failed to record applied images: " ++ ·)

/-- The set to apply: the recorded one while the strategy is lazy, another one is available and
that one is not acknowledged. -/
def chosen (strategy : UpdateStrategy) (recorded : Option ComponentImages)
    (available : ComponentImages) (acknowledged : String) : ComponentImages × RolloutReason :=
  match strategy, recorded with
  | .lazy, some recorded =>
    if revision sha256 recorded ≠ revision sha256 available then
      if acknowledged = revision sha256 available then (available, .upToDate)
      else if acknowledged = "" ∨ acknowledged = revision sha256 recorded then
        (recorded, .awaitingAcknowledgement)
      else (recorded, .revisionMismatch)
    else (available, .upToDate)
  | _, _ => (available, .upToDate)

def errLazyWithoutRecord : String :=
  "cannot resolve images with lazy update strategy: multigres.com/applied-images annotation is " ++
    "invalid and status.images has no complete applied set"

/-- `resolveImages`: the status of the images, and the reason of the condition. -/
def resolveImages (cluster : Cluster) (cfg : Config) : Action (ImagesStatus × RolloutReason) := do
  let explicit := cluster.images
  if isComplete explicit then
    recordFullyPinned cluster
    return ({ effective := explicit, source := .explicit }, .fullyPinned)
  let source := if explicit = {} then ImageSource.defaults else .mixed
  let strategy := strategyOf cluster cfg
  let available := (imagesConfig cfg).1
  let (recorded, recordInvalid) := recordedImages codec cluster
  if recordInvalid && recorded.isNone && strategy = .lazy then
    Prog.fail errLazyWithoutRecord
  else
    let (applied, reason) := chosen sha256 strategy recorded available (acknowledged cluster)
    recordAppliedImages codec cluster applied
    return ({
      updateStrategy := some strategy
      effective := complete explicit applied
      source := source
      applied := applied
      appliedRevision := revision sha256 applied
      available := available
      availableRevision := revision sha256 available }, reason)

/-- What `Reconcile` does with the images. While the topology is not ready the pass ends before the
databases and the status. -/
def applyImages (images : ImagesStatus) (reason : RolloutReason) : Action Unit := do
  Prog.perform (.child .globalComponents images.effective)
  Prog.perform (.child .cells images.effective)
  let answer ← Prog.answer
  if answer.requeue then pure ()
  else
    Prog.perform (.child .databases images.effective)
    Prog.perform (.updateStatus images reason)

/-- The part of `Reconcile` that depends on the images. -/
def reconcile : Action Unit := do
  let (cluster, cfg) ← Prog.fetch .cached fun w => (w.cluster, w.config)
  let (images, reason) ← resolveImages sha256 codec cluster cfg
  applyImages images reason

/-- What the writes do. A record of a set becomes the set last recorded. -/
def exec (w : World) : Op → Except String World
  | .annotate raw => .ok { w with
      cluster := { w.cluster with appliedImages := some raw }
      recorded := (codec.unmarshal raw).getD w.recorded }
  | .child _ _ => .ok w
  | .updateStatus images _ => .ok { w with cluster := { w.cluster with status := some images } }

/-- Any request may fail; a pass reads the cluster as it is. -/
def machine : Machine Answer World Op String where
  fault := Answer.fault
  view _ w := w
  exec := exec codec

end Resolution

/-! ### Where the recorded set is found -/

variable {sha256 : Bytes → Vector UInt8 32} {codec : Codec} {cluster : Cluster}
  {set : ComponentImages}

theorem usable_marshal (h : isComplete set = true) :
    usable codec (codec.marshal set) = some set := by
  simp [usable, codec.unmarshal_marshal, h]

theorem recordedImages_marshal (h : isComplete set = true)
    (hraw : cluster.appliedImages = some (codec.marshal set)) :
    recordedImages codec cluster = (some set, false) := by
  unfold recordedImages
  rw [hraw]
  dsimp only
  rw [if_neg (codec.marshal_ne_fullyPinned set), usable_marshal h]

theorem recordedImages_eq_some {cluster : Cluster} :
    (recordedImages codec cluster).1 = some set ↔
      (∃ raw, cluster.appliedImages = some raw ∧ raw ≠ appliedImagesFullyPinned ∧
        usable codec raw = some set) ∨
      (∀ raw, cluster.appliedImages = some raw →
        raw ≠ appliedImagesFullyPinned ∧ usable codec raw = none) ∧
        statusImages cluster = some set := by
  unfold recordedImages
  cases cluster.appliedImages with
  | none => simp
  | some raw =>
    by_cases hraw : raw = appliedImagesFullyPinned
    · simp [hraw]
    · simp only [hraw, if_false, Option.some.injEq, exists_eq_left', forall_eq']
      cases usable codec raw with
      | none => simp [hraw]
      | some recorded => simp [hraw]

theorem isComplete_of_recorded (h : (recordedImages codec cluster).1 = some set) :
    isComplete set = true := by
  rcases recordedImages_eq_some.mp h with ⟨raw, -, -, h⟩ | ⟨-, h⟩
  · exact (Option.filter_eq_some_iff.mp h).2
  · exact (Option.filter_eq_some_iff.mp h).2

/-- **What the lazy strategy chooses**: the available set if it is acknowledged, and otherwise the
recorded one. -/
theorem chosen_lazy {recorded available : ComponentImages} {acknowledged : String}
    (collisionFree : revision sha256 recorded = revision sha256 available → recorded = available) :
    (chosen sha256 .lazy (some recorded) available acknowledged).1 =
      if acknowledged = revision sha256 available then available else recorded := by
  unfold chosen
  dsimp only
  split_ifs with h₁ h₂ h₃ h₄
  · rfl
  · rfl
  · rfl
  · rfl
  · exact (collisionFree (not_not.mp h₁)).symm

end MultigresOperator.Images

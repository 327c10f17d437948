import MultigresOperator.Lib.Controllers
import MultigresOperator.PostgresConfig.Split
import MultigresOperator.Topo.Pooler

/-!
# Reloading postgresql.conf

A pass of the Shard controller renders the postgresql.conf of the spec it has read, delivers it in a
ConfigMap, creates the pods that are missing, and asks the pooler of every pod whose annotation does
not name the desired settings to reload. A pooler reloads only if the file mounted in its pod
carries every expected setting, and a pod is stamped once its pooler has answered that it did.

Five copies of the settings follow each other: the spec, the ConfigMap, the file the kubelet has
mounted, the settings PostgreSQL has loaded, and the hash in the pod's annotation. Rendering and
the digest are parameters.

## Main definitions

* `World`: the copies; a version of the ConfigMap notes the generation of the spec it was rendered
  from
* `renderEffectiveConfig`, `reconcilePostgresConfig`, `reconcileReloadState`: the phases of a pass
* `reconcile`: a pass
* `exec`: what the requests do, with the pooler's side of a reload
-/

namespace MultigresOperator.Reload

open Effects Encoding PostgresConfig

/-- A pool pod. `reloadHash` and `configHash` are the annotations of the two hashes. `mounted` is
the version of the ConfigMap in the mounted volume and `loaded` the one PostgreSQL read last, while
it runs; `created` is the version that was current when the pod was created. -/
structure Pod where
  name : String
  cell : String
  podIP : String := ""
  reloadHash : Str
  configHash : Str
  terminating : Bool := false
  draining : Bool := false
  created : ℕ
  mounted : Option ℕ := none
  loaded : Option ℕ := none
  deriving DecidableEq

/-- The spec's generations with the one the controller's cache shows, the versions of the ConfigMap,
and the pods. -/
structure World (Spec : Type) where
  history : List Spec
  seen : ℕ
  delivered : List (ℕ × Str)
  pods : Keyed Pod.name

/-- Why a request fails. A pooler that has not reloaded says whether a restart is needed. -/
inductive Refusal
  | failed (text : String)
  | needsRestart
  | notReloaded

inductive Op
  | applyConfigMap (generation : ℕ) (content : Str)
  | createPod (name cell : String) (reloadHash configHash : Str)
  | reload (pod : String) (expected : Table Str Str)
  | stampReloadHash (pod : String) (hash : Str)

/-- What the environment answers. The cache may show any pods; `missing` are the pods the pool phase
finds missing, `client` tells whether there is an RPC client, and `replyLost` whether the reply to
a reload got lost. -/
structure Answer where
  fault : Option Refusal := none
  pods : Keyed Pod.name
  missing : List (String × String) := []
  client : Bool := true
  topology : TopoStore := fun _ => .ok []
  replyLost : Bool := false

structure RenderedConfig where
  content : Str := []
  restartHash : Str := []
  reloadHash : Str := []
  reloadSettings : Table Str Str := ∅
  err : Option Str := none

section

variable {Spec : Type} (go : GoText) (catalog : Catalog) (sha256 : Bytes → Vector UInt8 32)
  (render : Spec → Except Str Str) (mode : ShardMode) (serviceID : String → String)

abbrev Action (Spec α : Type) := Prog Answer (World Spec) Op Refusal α

def renderEffectiveConfig (spec : Spec) : RenderedConfig :=
  match render spec with
  | .error err => { err := some err }
  | .ok rendered =>
    let (content, split) := stampAndSplit go catalog sha256 rendered
    { content := content
      restartHash := split.restartHash
      reloadHash := split.reloadHash
      reloadSettings := split.reloadSettings }

def context (text : String) : Refusal → Refusal
  | .failed err => .failed (text ++ ": " ++ err)
  | other => other

def reconcilePostgresConfig (generation : ℕ) (cfg : RenderedConfig) : Action Spec Unit :=
  match cfg.err with
  | some err => .fail (.failed (String.ofList err))
  | none => (Prog.perform (.applyConfigMap generation cfg.content)).mapError
      (context "failed to apply postgres config ConfigMap")

/-- The pods the pool phase creates carry the hashes of the pass. -/
def createMissingPods (cfg : RenderedConfig) : Action Spec Unit := do
  let answer ← Prog.answer
  Prog.forEach answer.missing () fun _ (name, cell) =>
    Prog.perform (.createPod name cell cfg.reloadHash cfg.restartHash)

def reloadRetryDelay : Time := 10

/-- The record of a pod's pooler. A Lite pod is found by its service and its current address. -/
def matchesPod (pod : Pod) (pooler : Multipooler) : Bool :=
  match mode with
  | .lite =>
    (pooler.id.any fun id => id.name == serviceID pod.name && id.cell == pod.cell) &&
      pod.podIP != "" && pooler.hostname == pod.podIP
  | .distributed => podMatchesPooler pod.name pooler

/-- The ReloadConfig request: whether the reply says that the reload took effect. -/
def reloadConfig (pod : String) (expected : Table Str Str) : Action Spec Bool :=
  (Prog.perform (.reload pod expected)).bindResult fun
    | .error _ => pure false
    | .ok () => do
      let answer ← Prog.answer
      pure (!answer.replyLost)

def stampReloadHash (pod : String) (hash : Str) : Action Spec Unit :=
  (Prog.perform (.stampReloadHash pod hash)).mapError
    (context ("stamping reload-hash on pod " ++ pod))

/-- What the loop over the pods carries. -/
structure Loop where
  poolersByCell : Table String (List Multipooler) := ∅
  requeue : Time := 0

/-- The poolers of a cell, asked for once. -/
def Loop.poolers (loop : Loop) (topology : TopoStore) (cell : String) :
    Except TopoError (List Multipooler) :=
  match loop.poolersByCell.get cell with
  | some poolers => .ok poolers
  | none => topology cell

/-- The loop over the pods in `reconcileReloadState`. -/
def reloadPods (cfg : RenderedConfig) : List Pod → Loop → Action Spec Time
  | [], loop => pure loop.requeue
  | pod :: pods, loop =>
    if pod.reloadHash = cfg.reloadHash then reloadPods cfg pods loop
    else if pod.terminating || pod.draining then reloadPods cfg pods loop
    else if pod.configHash ≠ cfg.restartHash then reloadPods cfg pods loop
    else do
      let answer ← Prog.answer
      match loop.poolers answer.topology pod.cell with
      | .error err =>
        if err.unavailable then pure reloadRetryDelay
        else .fail (.failed ("listing poolers in cell \"" ++ pod.cell ++ "\" for reload: " ++ err.text))
      | .ok poolers =>
        let loop := { loop with poolersByCell := loop.poolersByCell.set pod.cell poolers }
        if poolers.any (matchesPod mode serviceID pod) then do
          let reloaded ← reloadConfig pod.name cfg.reloadSettings
          if reloaded then do
            stampReloadHash pod.name cfg.reloadHash
            reloadPods cfg pods loop
          else reloadPods cfg pods { loop with requeue := reloadRetryDelay }
        else reloadPods cfg pods { loop with requeue := reloadRetryDelay }

def reconcileReloadState (cfg : RenderedConfig) : Action Spec Time := do
  let answer ← Prog.answer
  if cfg.reloadHash = [] ∨ cfg.err.isSome ∨ answer.client = false then pure 0
  else do
    let pods ← Prog.fetch .cached fun w => w.pods.items
    reloadPods mode serviceID cfg pods {}

/-- The part of a pass that the configuration goes through. -/
def reconcile : Action Spec Unit := do
  let (generation, spec) ← Prog.fetch .cached fun w => (w.seen, w.history[w.seen]?)
  match spec with
  | none => pure ()
  | some spec => do
    let cfg := renderEffectiveConfig go catalog sha256 render spec
    reconcilePostgresConfig generation cfg
    createMissingPods cfg
    let _ ← reconcileReloadState mode serviceID cfg
    pure ()

/-- The pod reads its mounted file again. -/
def Pod.load (pod : Pod) : Pod := { pod with loaded := pod.mounted }

def Pod.stamp (hash : Str) (pod : Pod) : Pod := { pod with reloadHash := hash }

theorem Pod.load_name (pod : Pod) : pod.load.name = pod.name := rfl

theorem Pod.stamp_name (hash : Str) (pod : Pod) : (pod.stamp hash).name = pod.name := rfl

/-- A pooler reloads a running server, if its mounted file carries the expected settings. -/
def canReload (w : World Spec) (pod : Pod) (expected : Table Str Str) : Prop :=
  pod.loaded.isSome = true ∧
    ∃ version ∈ pod.mounted, ∃ file ∈ w.delivered[version]?, Carries go file.2 expected

instance (w : World Spec) (pod : Pod) (expected : Table Str Str) :
    Decidable (canReload go w pod expected) :=
  inferInstanceAs (Decidable (_ ∧ ∃ version ∈ pod.mounted, _))

/-- What the requests do. -/
def exec (w : World Spec) : Op → Except Refusal (World Spec)
  | .applyConfigMap generation content =>
    .ok { w with delivered := w.delivered ++ [(generation, content)] }
  | .createPod name cell reloadHash configHash =>
    let pod : Pod := { name, cell, reloadHash, configHash, created := w.delivered.length - 1 }
    if h : w.pods.find pod.name = none then .ok { w with pods := w.pods.insert pod h }
    else .error (.failed "already exists")
  | .reload name expected =>
    match w.pods.find name with
    | none => .error (.failed "unavailable")
    | some pod =>
      if canReload go w pod expected then
        .ok { w with pods := w.pods.modify name Pod.load Pod.load_name }
      else .error .notReloaded
  | .stampReloadHash name hash =>
    match w.pods.find name with
    | none => .error (.failed "not found")
    | some _ => .ok { w with pods := w.pods.modify name (Pod.stamp hash) (Pod.stamp_name hash) }

/-- Any request may fail. The cache shows the generation of the spec it has seen. -/
def machine : Machine Answer (World Spec) Op Refusal where
  fault := Answer.fault
  view answer w := { w with pods := answer.pods }
  exec := exec go

end

end MultigresOperator.Reload

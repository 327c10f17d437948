import MultigresOperator.Webhook.Defaulter
import MultigresOperator.Webhook.Validator

/-!
# Admission

The API server processes requests one at a time. A cluster that is created or updated is defaulted
and validated, a template that is written or deleted is validated, always against what is stored; an
accepted request changes the store, any other one leaves it as it is. Storage classes and nodes are
not the operator's and may differ from request to request.

What a request can do to the store is said once, by `Change`. Everything that holds of whole runs is
proved from it.

## Main definitions

* `Store`: the clusters and the templates
* `Request`, `admission`: the requests and what they do
* `Run`: the states that accepted requests lead to, with the places where Lite clusters were created
* `Change`: what an accepted request has passed and what it leaves

## Main results

* `change_of_admission`: an accepted request is a change
* `Run.induction`: what holds at first and survives every change holds after every run
-/

namespace MultigresOperator.Webhook

open V1Alpha1 Resolution

/-! ### The model -/

/-- What identifies a cluster. -/
def clusterKey (cluster : MultigresCluster) : String × String := (cluster.namespace, cluster.name)

/-- What the API server stores. -/
structure Store where
  clusters : Keyed clusterKey
  templates : Templates

/-- What the webhooks read of the Kubernetes cluster; a list may fail. -/
structure Infrastructure where
  storageClasses : Except ResolveError (List (Table String String)) := .ok []
  nodes : Except ResolveError (List (Table String String)) := .ok []

/-- The answers to the webhooks. -/
def Store.client (s : Store) (infra : Infrastructure) : Client :=
  { s.templates.client [] with
    storageClasses := infra.storageClasses
    nodes := infra.nodes
    clusters := fun ns => .ok (s.clusters.items.filter (·.namespace = ns)) }

/-- The resolver of a namespace. -/
def Store.resolver (s : Store) (ns : String) : Resolver := newResolver (s.client {}) ns

/-- The webhooks as they are installed. -/
structure Webhooks where
  go : GoLib
  catalog : PostgresConfig.Catalog
  injectTraceContext : Table String String → Table String String
  operatorNamespace : String

def Template.kind : Template → TemplateKind
  | .core _ => .core
  | .cell _ => .cell
  | .shard _ => .shard

def Store.template (s : Store) (kind : TemplateKind) (ns name : String) : Option Template :=
  match kind with
  | .core => (s.templates.core.get (ns, name)).map .core
  | .cell => (s.templates.cell.get (ns, name)).map .cell
  | .shard => (s.templates.shard.get (ns, name)).map .shard

/-- The templates with one of them written. -/
def putTemplate (t : Templates) (ns name : String) : Template → Templates
  | .core spec => { t with core := t.core.set (ns, name) spec }
  | .cell spec => { t with cell := t.cell.set (ns, name) spec }
  | .shard spec => { t with shard := t.shard.set (ns, name) spec }

/-- The templates without one of them. -/
def dropTemplate (t : Templates) (ns name : String) : TemplateKind → Templates
  | .core => { t with core := t.core.erase (ns, name) }
  | .cell => { t with cell := t.cell.erase (ns, name) }
  | .shard => { t with shard := t.shard.erase (ns, name) }

inductive Request
  | createCluster (cluster : MultigresCluster)
  | updateCluster (cluster : MultigresCluster)
  /-- The deletion of a cluster begins. -/
  | deleteCluster («namespace» name : String) (time : Time)
  /-- The last finalizer of a cluster is gone. -/
  | removeCluster («namespace» name : String)
  | createTemplate («namespace» name : String) (tpl : Template)
  | updateTemplate («namespace» name : String) (tpl : Template)
  | deleteTemplate (kind : TemplateKind) («namespace» name : String)

def overwrite (cluster stored : MultigresCluster) : MultigresCluster :=
  { cluster with «namespace» := stored.namespace, name := stored.name }

theorem clusterKey_overwrite (cluster stored : MultigresCluster) :
    clusterKey (overwrite cluster stored) = clusterKey stored := rfl

/-- A cluster whose deletion has begun, now or before. -/
def markDeletion (time : Time) (stored : MultigresCluster) : MultigresCluster :=
  { stored with deletionTimestamp := some (stored.deletionTimestamp.getD time) }

theorem clusterKey_markDeletion (time : Time) (stored : MultigresCluster) :
    clusterKey (markDeletion time stored) = clusterKey stored := rfl

section

variable (w : Webhooks) (infra : Infrastructure) (s : Store)

/-- The defaulting webhook. -/
def defaulted (cluster : MultigresCluster) : Except ResolveError MultigresCluster :=
  default w.go w.injectTraceContext (s.client infra) w.operatorNamespace cluster

/-- The store with a cluster in place of the one of its name. -/
def Store.replace (cluster : MultigresCluster) : Store :=
  { s with
    clusters := s.clusters.modify (clusterKey cluster) (overwrite cluster)
      (clusterKey_overwrite cluster) }

def Store.markDeleted (ns name : String) (time : Time) : Store :=
  { s with
    clusters := s.clusters.modify (ns, name) (markDeletion time) (clusterKey_markDeletion time) }

/-- The store after a request that is accepted. The API server sets the time of deletion itself. -/
def admission : Request → Except ResolveError Store
  | .createCluster cluster => do
    let cluster ← defaulted w infra s cluster
    let cluster := { cluster with deletionTimestamp := none }
    let _ ← validateCreate w.go w.catalog (s.client infra) cluster
    if h : s.clusters.find (clusterKey cluster) = none then
      return { s with clusters := s.clusters.insert cluster h }
    else fail "already exists"
  | .updateCluster cluster => do
    let cluster ← defaulted w infra s cluster
    match s.clusters.find (clusterKey cluster) with
    | none => fail "not found"
    | some old => do
      let cluster := { cluster with deletionTimestamp := old.deletionTimestamp }
      let _ ← validateUpdate w.go w.catalog (s.client infra) old cluster
      return s.replace cluster
  | .deleteCluster ns name time => return s.markDeleted ns name time
  | .removeCluster ns name => return { s with clusters := s.clusters.erase (ns, name) }
  | .createTemplate ns name tpl =>
    if (s.template tpl.kind ns name).isSome then fail "already exists"
    else do
      validateTemplateWrite w.go w.catalog (s.client infra) ns name tpl
      return { s with templates := putTemplate s.templates ns name tpl }
  | .updateTemplate ns name tpl =>
    match s.template tpl.kind ns name with
    | none => fail "not found"
    | some old => do
      validateTemplateUpdate w.go w.catalog (s.client infra) ns name old tpl
      return { s with templates := putTemplate s.templates ns name tpl }
  | .deleteTemplate kind ns name => do
    validateTemplateDelete w.go (s.client infra) ns name kind
    return { s with templates := dropTemplate s.templates ns name kind }

end

/-- Where a cluster keeps its data if it is a Lite one, with what is stored. -/
def Store.identity (s : Store) (cluster : MultigresCluster) : Except ResolveError LiteIdentity :=
  liteIdentity (s.resolver cluster.namespace) cluster

/-- The store, and for every cluster the place it had for its data when it was created. -/
structure State where
  store : Store
  born : String × String → Option LiteIdentity

/-- The record of the places after a request: a creation adds the place that the cluster has then. -/
def State.bornAfter (s : State) (req : Request) (t : Store) : String × String → Option LiteIdentity :=
  match req with
  | .createCluster cluster =>
    Function.update s.born (clusterKey cluster)
      ((t.clusters.find (clusterKey cluster)).bind fun c => (t.identity c).toOption)
  | _ => s.born

/-- The states that accepted requests lead to. -/
inductive Run (w : Webhooks) (P : Request → Prop) (s : State) : State → Prop
  | refl : Run w P s s
  | step {t : State} {infra : Infrastructure} {req : Request} {store : Store}
      (run : Run w P s t) (hreq : P req) (admitted : admission w infra t.store req = .ok store) :
      Run w P s ⟨store, t.bornAfter req store⟩

/-! ### What a request can do -/

variable {w : Webhooks} {infra : Infrastructure} {s t : Store} {req : Request}

def Store.Live (s : Store) (cluster : MultigresCluster) : Prop :=
  cluster ∈ s.clusters ∧ cluster.deletionTimestamp = none

/-- A write of a template that changes nothing, or that the webhook accepts. -/
abbrev AcceptsWrite (w : Webhooks) (infra : Infrastructure) (s : Store) (ns name : String)
    (tpl : Template) : Prop :=
  (∃ old, s.template tpl.kind ns name = some old ∧ templateSpecUnchanged old tpl = true) ∨
    validateTemplateWrite w.go w.catalog (s.client infra) ns name tpl = .ok ()

/-- **What a request can do**: what it has passed, and what is then stored. -/
inductive Change (w : Webhooks) (infra : Infrastructure) (s : Store) : Request → Store → Prop
  | create {requested cluster : MultigresCluster} {warnings : List String} {t : Store}
      (default : ∃ c, defaulted w infra s requested = .ok c ∧
        cluster = { c with deletionTimestamp := none })
      (accepted : validate w.go w.catalog (s.client infra) cluster = .ok warnings)
      (templates : t.templates = s.templates) (stored : cluster ∈ t.clusters)
      (members : ∀ c ∈ t.clusters,
        c = cluster ∨ c ∈ s.clusters ∧ clusterKey c ≠ clusterKey cluster) :
      Change w infra s (.createCluster requested) t
  | update {requested cluster old : MultigresCluster} {warnings : List String} {t : Store}
      (default : ∃ c, defaulted w infra s requested = .ok c ∧
        cluster = { c with deletionTimestamp := old.deletionTimestamp })
      (stored : old ∈ s.clusters) (key : clusterKey old = clusterKey cluster)
      (accepted : validateUpdate w.go w.catalog (s.client infra) old cluster = .ok warnings)
      (templates : t.templates = s.templates)
      (members : ∀ c ∈ t.clusters, c = cluster ∨ c ∈ s.clusters) :
      Change w infra s (.updateCluster requested) t
  /-- A deletion begins or ends: the clusters that live on were there. -/
  | retire {req : Request} {t : Store} (notCreate : ∀ c, req ≠ .createCluster c)
      (templates : t.templates = s.templates)
      (members : ∀ c ∈ t.clusters, c.deletionTimestamp = none → c ∈ s.clusters) :
      Change w infra s req t
  | write {req : Request} {ns name : String} {tpl : Template}
      (notCreate : ∀ c, req ≠ .createCluster c)
      (accepted : (∃ old, s.template tpl.kind ns name = some old ∧
          templateSpecUnchanged old tpl = true) ∨
        validateTemplateWrite w.go w.catalog (s.client infra) ns name tpl = .ok ()) :
      Change w infra s req { s with templates := putTemplate s.templates ns name tpl }
  | drop {kind : TemplateKind} {ns name : String}
      (accepted : validateTemplateDelete w.go (s.client infra) ns name kind = .ok ()) :
      Change w infra s (.deleteTemplate kind ns name)
        { s with templates := dropTemplate s.templates ns name kind }

variable {cluster : MultigresCluster} {ns name : String} {c : MultigresCluster} {time : Time}
  {P : Request → Prop} {x y : State}

theorem mem_replace (h : c ∈ (s.replace cluster).clusters) : c = cluster ∨ c ∈ s.clusters := by
  obtain ⟨stored, hstored, rfl⟩ := (Keyed.mem_modify (h := clusterKey_overwrite cluster)).mp h
  split
  · -- the stored cluster has the name of the new one, so all of it is overwritten
    next hkey =>
    obtain ⟨hns, hname⟩ := Prod.mk.inj hkey
    exact .inl (by rw [overwrite, hns, hname])
  · exact .inr hstored

theorem mem_markDeleted (h : c ∈ (s.markDeleted ns name time).clusters)
    (hlive : c.deletionTimestamp = none) : c ∈ s.clusters := by
  obtain ⟨stored, hstored, rfl⟩ := (Keyed.mem_modify (h := clusterKey_markDeletion time)).mp h
  split at hlive
  · cases hlive
  · next hname => rwa [if_neg hname]

theorem change_createCluster (h : admission w infra s (.createCluster cluster) = .ok t) :
    Change w infra s (.createCluster cluster) t := by
  obtain ⟨c, hdefault, h⟩ := Checks.bind_eq_ok.mp h
  obtain ⟨warnings, haccepted, h⟩ := Checks.bind_eq_ok.mp h
  split at h
  · next hnew =>
    obtain rfl := Except.ok.inj h
    have hmem (c' : MultigresCluster) : c' ∈ s.clusters.insert _ hnew ↔ _ ∨ _ := Keyed.mem_insert
    refine .create ⟨c, hdefault, rfl⟩ haccepted rfl ((hmem _).mpr (.inl rfl)) ?_
    intro c' hc'
    refine ((hmem c').mp hc').imp_right fun hold => ⟨hold, ?_⟩
    exact Keyed.find_eq_none.mp hnew c' hold
  · cases h

theorem change_updateCluster (h : admission w infra s (.updateCluster cluster) = .ok t) :
    Change w infra s (.updateCluster cluster) t := by
  obtain ⟨c, hdefault, h⟩ := Checks.bind_eq_ok.mp h
  dsimp only at h
  split at h
  · cases h
  · next old hold =>
    obtain ⟨hstored, hkey⟩ := Keyed.find_eq_some.mp hold
    obtain ⟨warnings, haccepted, h⟩ := Checks.bind_eq_ok.mp h
    obtain rfl := Except.ok.inj h
    exact .update ⟨c, hdefault, rfl⟩ hstored hkey haccepted rfl fun c' hc' => mem_replace hc'

theorem change_deleteCluster (h : admission w infra s (.deleteCluster ns name time) = .ok t) :
    Change w infra s (.deleteCluster ns name time) t := by
  obtain rfl := Except.ok.inj h
  exact .retire (fun _ => Request.noConfusion) rfl fun c hc hlive => mem_markDeleted hc hlive

/-- **An accepted request is a change.** -/
theorem change_of_admission (h : admission w infra s req = .ok t) : Change w infra s req t := by
  cases req with
  | createCluster cluster => exact change_createCluster h
  | updateCluster cluster => exact change_updateCluster h
  | deleteCluster ns name time => exact change_deleteCluster h
  | removeCluster ns name =>
    obtain rfl := Except.ok.inj h
    refine .retire (fun _ => Request.noConfusion) rfl fun c hc _ => ?_
    exact (Keyed.mem_erase.mp hc).1
  | createTemplate ns name tpl =>
    rw [admission] at h
    split at h
    · cases h
    · obtain ⟨haccepted, h⟩ := Checks.andThen_eq_ok.mp h
      obtain rfl := Except.ok.inj h
      exact .write (fun _ => Request.noConfusion) (.inr haccepted)
  | updateTemplate ns name tpl =>
    rw [admission] at h
    split at h
    · cases h
    · next old hold =>
      obtain ⟨haccepted, h⟩ := Checks.andThen_eq_ok.mp h
      obtain rfl := Except.ok.inj h
      refine .write (fun _ => Request.noConfusion) ?_
      unfold validateTemplateUpdate at haccepted
      split at haccepted
      · next hsame => exact .inl ⟨old, hold, hsame⟩
      · exact .inr haccepted
  | deleteTemplate kind ns name =>
    obtain ⟨haccepted, h⟩ := Checks.andThen_eq_ok.mp h
    obtain rfl := Except.ok.inj h
    exact .drop haccepted

/-- **Invariants**: what holds at first and survives every change holds after every run. -/
theorem Run.induction {I : State → Prop} (hx : I x)
    (hstep : ∀ (x : State) (infra : Infrastructure) (req : Request) (t : Store), I x → P req →
      Change w infra x.store req t → I ⟨t, x.bornAfter req t⟩) (h : Run w P x y) : I y := by
  induction h with
  | refl => exact hx
  | step run hreq admitted ih => exact hstep _ _ _ _ ih hreq (change_of_admission admitted)

/-- Requests one after another, until one is rejected. -/
def admitAll (w : Webhooks) (infra : Infrastructure) : Store → List Request → Except ResolveError Store
  | s, [] => .ok s
  | s, req :: reqs => do
    let t ← admission w infra s req
    admitAll w infra t reqs

theorem exists_run_of_admitAll {reqs : List Request} (hrun : Run w P x y)
    (h : admitAll w infra y.store reqs = .ok t) (hreqs : ∀ req ∈ reqs, P req) :
    ∃ z, Run w P x z ∧ z.store = t := by
  induction reqs generalizing y with
  | nil =>
    obtain rfl := Except.ok.inj h
    exact ⟨y, hrun, rfl⟩
  | cons req reqs ih =>
    obtain ⟨u, hu, h⟩ := Checks.bind_eq_ok.mp h
    rw [List.forall_mem_cons] at hreqs
    exact ih (hrun.step hreqs.1 hu) h hreqs.2

/-! ### What the webhooks read -/

theorem resolveCellTemplate_client (ns name : String) :
    (newResolver (s.client infra) ns).resolveCellTemplate name =
      (s.resolver ns).resolveCellTemplate name := rfl

theorem resolveShardTemplate_client (ns name : String) :
    (newResolver (s.client infra) ns).resolveShardTemplate name =
      (s.resolver ns).resolveShardTemplate name := rfl

theorem clusters_client {clusters : List MultigresCluster}
    (h : (s.client infra).clusters ns = .ok clusters) :
    cluster ∈ clusters ↔ cluster ∈ s.clusters ∧ cluster.namespace = ns := by
  obtain rfl := Except.ok.inj h
  rw [List.mem_filter, decide_eq_true_eq]
  rfl

/-- What the deletion of a template has passed: no live cluster refers to it, and the consumers of a
fallback template are valid without it. -/
theorem validateTemplateDelete_eq_ok {go : GoLib} {kind : TemplateKind}
    (h : validateTemplateDelete go (s.client infra) ns name kind = .ok ()) :
    (∀ cluster, s.Live cluster → cluster.namespace = ns →
      isTemplateInUse kind cluster name = false) ∧
    (kind = .cell → name = fallbackTemplate →
      validateCellTemplateConsumers go (s.client infra) ns name {} = .ok ()) ∧
    (kind = .shard → name = fallbackTemplate →
      validateLiteShardTemplateConsumers go (s.client infra) ns name {} = .ok ()) := by
  obtain ⟨clusters, hclusters, h⟩ := Checks.bind_eq_ok.mp h
  obtain ⟨hunused, h⟩ := Checks.andThen_eq_ok.mp h
  refine ⟨fun cluster hlive hns => ?_, ?_, ?_⟩
  · have hmem := (clusters_client (Checks.mapError_eq_ok.mp hclusters)).mpr ⟨hlive.1, hns⟩
    have hcheck := Checks.forM_eq_ok.mp hunused cluster hmem
    rw [hlive.2] at hcheck
    cases huse : isTemplateInUse kind cluster name with
    | false => rfl
    | true => simp [huse, fail] at hcheck
  · rintro rfl rfl
    simp only [true_and, if_true] at h
    obtain ⟨hconsumers, -⟩ := Checks.andThen_eq_ok.mp h
    exact Checks.mapError_eq_ok.mp hconsumers
  · rintro rfl rfl
    simp only [reduceCtorEq, false_and, if_false, true_and, if_true] at h
    exact h

namespace Sample

def installed : Webhooks where
  go := .ascii
  catalog := ⟨[], fun _ h => absurd h List.not_mem_nil, fun _ h => absurd h List.not_mem_nil⟩
  injectTraceContext := id
  operatorNamespace := "multigres-operator"

def emptyState : State where
  store := { clusters := ⟨[], List.nodup_nil⟩, templates := {} }
  born := fun _ => none

def cloud : Infrastructure where
  storageClasses := .ok [Table.set ∅ "storageclass.kubernetes.io/is-default-class" "true"]

/-- A Lite cluster that takes the settings of its gateway from a template. -/
def liteCluster : MultigresCluster where
  name := "db"
  «namespace» := "prod"
  spec := { mode := .lite, cells := [{ name := "z1", cellTemplate := "gw" }] }

def gatewayTemplate : Template :=
  .cell { multigateway := some { buffer := some { window := some (5 * 10 ^ 9) } } }

end Sample

end MultigresOperator.Webhook

import MultigresOperator.Resolver.Cluster

/-!
# The defaulting webhook

A MultigresCluster is defaulted in two stages. The first applies static defaults with the resolver
of the operator, whose namespace is the operator's own; the second works with a resolver of the
cluster's namespace: it names the fallback templates that exist there and writes built-in defaults
where no template is in use.

The first stage looks up one thing, whether there is a fallback ShardTemplate, and it does so in the
operator's namespace. What it finds decides about the pools of the shards it creates.

## Main results

* `default_depends_iff`: defaulting depends on the cluster's namespace only iff the cluster is
  independent
* `operator_template_leaks`: a template in the operator's namespace changes a cluster elsewhere
-/

namespace MultigresOperator.Webhook

open V1Alpha1 Resolution

/-! ### The model -/

/-- A lookup whose failure counts as absence. -/
def found (answer : Except ResolveError Bool) : Bool :=
  match answer with
  | .ok b => b
  | .error _ => false

section

variable (go : GoLib) (scopedResolver : Resolver)

/-- An empty reference, or the fallback template if it exists. -/
def promote (ref : String) (exists_ : Except ResolveError Bool) : String :=
  if ref = "" ∧ found exists_ = true then fallbackTemplate else ref

def promoteDefaults (cluster : MultigresCluster) : MultigresCluster :=
  let defaults := cluster.spec.templateDefaults
  { cluster with spec := { cluster.spec with templateDefaults := {
      coreTemplate :=
        promote defaults.coreTemplate (scopedResolver.coreTemplateExists fallbackTemplate)
      cellTemplate :=
        promote defaults.cellTemplate (scopedResolver.cellTemplateExists fallbackTemplate)
      shardTemplate :=
        promote defaults.shardTemplate (scopedResolver.shardTemplateExists fallbackTemplate) } } }

/-- A component takes its settings from a template: it names one, the cluster does, or the fallback
exists. -/
def isUsingTemplate (inline default : String) (implicit : Except ResolveError Bool) : Bool :=
  inline != "" || default != "" || found implicit

def usesCoreTemplate (cluster : MultigresCluster) (templateRef : Option String) : Bool :=
  isUsingTemplate (templateRef.getD "") cluster.spec.templateDefaults.coreTemplate
    (scopedResolver.coreTemplateExists fallbackTemplate)

def materializeGlobalTopo (cluster : MultigresCluster) : Except ResolveError MultigresCluster := do
  let templateRef := cluster.spec.globalTopoServer.map (·.templateRef)
  if usesCoreTemplate scopedResolver cluster templateRef then return cluster
  let globalTopo ← (resolveGlobalTopo go scopedResolver cluster).mapError
    (.wrap "failed to resolve globalTopoServer")
  return { cluster with spec := { cluster.spec with globalTopoServer := some globalTopo } }

def materializeMultiadmin (cluster : MultigresCluster) : Except ResolveError MultigresCluster := do
  let templateRef := cluster.spec.multiadmin.map (·.templateRef)
  if usesCoreTemplate scopedResolver cluster templateRef then return cluster
  let (multiadmin, placement) ← (resolveMultiadmin scopedResolver cluster).mapError
    (.wrap "failed to resolve multiadmin")
  let config := cluster.spec.multiadmin.getD {}
  return { cluster with spec := { cluster.spec with multiadmin := some { config with
    spec := some multiadmin
    placement := placement.or config.placement } } }

def materializeMultiadminWeb (cluster : MultigresCluster) : Except ResolveError MultigresCluster := do
  let templateRef := cluster.spec.multiadminWeb.map (·.templateRef)
  if usesCoreTemplate scopedResolver cluster templateRef then return cluster
  let multiadminWeb ← (resolveMultiadminWeb scopedResolver cluster).mapError
    (.wrap "failed to resolve multiadmin-web")
  let config := cluster.spec.multiadminWeb.getD {}
  return { cluster with spec := { cluster.spec with
    multiadminWeb := some { config with spec := some multiadminWeb } } }

def materializeCell (cluster : MultigresCluster) (cell : CellConfig) :
    Except ResolveError CellConfig := do
  if isUsingTemplate cell.cellTemplate cluster.spec.templateDefaults.cellTemplate
      (scopedResolver.cellTemplateExists fallbackTemplate) then return cell
  let resolved ← (resolveCell go scopedResolver cluster cell).mapError
    (.wrap ("failed to resolve cell '" ++ cell.name ++ "'"))
  return { cell with spec := some {
    multigateway := resolved.gateway
    multigatewayPlacement := resolved.placement
    localTopoServer := resolved.localTopo } }

def materializeCells (cluster : MultigresCluster) : Except ResolveError MultigresCluster := do
  let cells ← cluster.spec.cells.mapM (materializeCell go scopedResolver cluster)
  return { cluster with spec := { cluster.spec with cells } }

def materializeShard (cluster : MultigresCluster) (tgBackup : Option BackupConfig)
    (shard : ShardConfig) : Except ResolveError ShardConfig := do
  if isUsingTemplate shard.shardTemplate cluster.spec.templateDefaults.shardTemplate
      (scopedResolver.shardTemplateExists fallbackTemplate) then return shard
  let resolved ← (resolveShard scopedResolver shard {
      allCellNames := cluster.spec.cells.map (·.name)
      inheritedBackup := tgBackup
      mode := cluster.spec.mode }).mapError
    (.wrap ("failed to resolve shard '" ++ shard.name ++ "'"))
  return { shard with
    spec := some {
      multiorch := resolved.multiorch
      initdbArgs := resolved.initdbArgs
      postgresConfigRef := resolved.postgresConfigRef
      postgresConfig := resolved.postgresConfig
      pools := resolved.pools
      pvcDeletionPolicy :=
        (shard.spec.bind (·.pvcDeletionPolicy)).or resolved.pvcDeletionPolicy }
    backup := resolved.backup }

def materializeShards (cluster : MultigresCluster) : Except ResolveError MultigresCluster := do
  let databases ← cluster.spec.databases.mapM fun db => do
    let dbBackup := mergeBackupConfig db.backup cluster.spec.backup
    let tableGroups ← db.tableGroups.mapM fun tg => do
      let tgBackup := mergeBackupConfig tg.backup dbBackup
      let shards ← tg.shards.mapM (materializeShard scopedResolver cluster tgBackup)
      return { tg with shards }
    return { db with tableGroups }
  return { cluster with spec := { cluster.spec with databases } }

end

section

variable (go : GoLib) (injectTraceContext : Table String String → Table String String)

/-- The second stage, with a resolver of the cluster's namespace. -/
def defaultScoped (scopedResolver : Resolver) (cluster : MultigresCluster) :
    Except ResolveError MultigresCluster := do
  let cluster := promoteDefaults scopedResolver cluster
  let cluster ← materializeGlobalTopo go scopedResolver cluster
  let cluster ← materializeMultiadmin scopedResolver cluster
  let cluster ← materializeMultiadminWeb scopedResolver cluster
  let cluster ← materializeCells go scopedResolver cluster
  let cluster ← materializeShards scopedResolver cluster
  return { cluster with annotations := injectTraceContext cluster.annotations }

/-- `Default`. The resolver of the webhook has the operator's namespace. -/
def default (client : Client) (operatorNamespace : String) (cluster : MultigresCluster) :
    Except ResolveError MultigresCluster := do
  let operatorResolver := newResolver client operatorNamespace
  let (cluster, _) ← (populateClusterDefaults operatorResolver cluster).mapError
    (.wrap "failed to populate cluster defaults")
  defaultScoped go injectTraceContext (newResolver client cluster.namespace) cluster

end

/-! ### What defaulting keeps -/

/-- Names are kept, of the cluster and of what it contains. -/
structure KeepsNames (cluster cluster' : MultigresCluster) : Prop where
  «namespace» : cluster'.namespace = cluster.namespace
  name : cluster'.name = cluster.name
  databases : ∀ db' ∈ cluster'.spec.databases, ∃ db ∈ cluster.spec.databases, db'.name = db.name ∧
    ∀ tg' ∈ db'.tableGroups, ∃ tg ∈ db.tableGroups, tg'.name = tg.name ∧
      ∀ shard' ∈ tg'.shards, ∃ shard ∈ tg.shards, shard'.name = shard.name

section

variable {go : GoLib} {r : Resolver} {cluster cluster' : MultigresCluster}

theorem KeepsNames.of_databases_eq (hns : cluster'.namespace = cluster.namespace)
    (hname : cluster'.name = cluster.name)
    (h : cluster'.spec.databases = cluster.spec.databases) : KeepsNames cluster cluster' := by
  refine ⟨hns, hname, fun db hdb => ⟨db, h ▸ hdb, rfl, fun tg htg => ⟨tg, htg, rfl, ?_⟩⟩⟩
  exact fun shard hshard => ⟨shard, hshard, rfl⟩

theorem KeepsNames.trans {c d e : MultigresCluster} (h : KeepsNames c d) (h' : KeepsNames d e) :
    KeepsNames c e := by
  refine ⟨h'.namespace.trans h.namespace, h'.name.trans h.name, fun db'' hdb'' => ?_⟩
  obtain ⟨db', hdb', hname', htgs'⟩ := h'.databases db'' hdb''
  obtain ⟨db, hdb, hname, htgs⟩ := h.databases db' hdb'
  refine ⟨db, hdb, hname'.trans hname, fun tg'' htg'' => ?_⟩
  obtain ⟨tg', htg', htgname', hshards'⟩ := htgs' tg'' htg''
  obtain ⟨tg, htg, htgname, hshards⟩ := htgs tg' htg'
  refine ⟨tg, htg, htgname'.trans htgname, fun shard'' hshard'' => ?_⟩
  obtain ⟨shard', hshard', hshardname'⟩ := hshards' shard'' hshard''
  obtain ⟨shard, hshard, hshardname⟩ := hshards shard' hshard'
  exact ⟨shard, hshard, hshardname'.trans hshardname⟩

theorem keepsNames_materializeGlobalTopo (h : materializeGlobalTopo go r cluster = .ok cluster') :
    KeepsNames cluster cluster' := by
  unfold materializeGlobalTopo at h
  dsimp only at h
  split at h
  · obtain rfl := Except.ok.inj h
    exact .of_databases_eq rfl rfl rfl
  · obtain ⟨_, -, h⟩ := Checks.bind_eq_ok.mp h
    obtain rfl := Except.ok.inj h
    exact .of_databases_eq rfl rfl rfl

theorem keepsNames_materializeMultiadmin (h : materializeMultiadmin r cluster = .ok cluster') :
    KeepsNames cluster cluster' := by
  unfold materializeMultiadmin at h
  dsimp only at h
  split at h
  · obtain rfl := Except.ok.inj h
    exact .of_databases_eq rfl rfl rfl
  · obtain ⟨_, -, h⟩ := Checks.bind_eq_ok.mp h
    obtain rfl := Except.ok.inj h
    exact .of_databases_eq rfl rfl rfl

theorem keepsNames_materializeMultiadminWeb
    (h : materializeMultiadminWeb r cluster = .ok cluster') : KeepsNames cluster cluster' := by
  unfold materializeMultiadminWeb at h
  dsimp only at h
  split at h
  · obtain rfl := Except.ok.inj h
    exact .of_databases_eq rfl rfl rfl
  · obtain ⟨_, -, h⟩ := Checks.bind_eq_ok.mp h
    obtain rfl := Except.ok.inj h
    exact .of_databases_eq rfl rfl rfl

theorem keepsNames_materializeCells (h : materializeCells go r cluster = .ok cluster') :
    KeepsNames cluster cluster' := by
  obtain ⟨_, -, h⟩ := Checks.bind_eq_ok.mp h
  obtain rfl := Except.ok.inj h
  exact .of_databases_eq rfl rfl rfl

theorem name_materializeShard {tgBackup : Option BackupConfig} {shard shard' : ShardConfig}
    (h : materializeShard r cluster tgBackup shard = .ok shard') : shard'.name = shard.name := by
  unfold materializeShard at h
  split at h
  · obtain rfl := Except.ok.inj h
    rfl
  · obtain ⟨_, -, h⟩ := Checks.bind_eq_ok.mp h
    obtain rfl := Except.ok.inj h
    rfl

theorem keepsNames_materializeShards (h : materializeShards r cluster = .ok cluster') :
    KeepsNames cluster cluster' := by
  obtain ⟨databases, hdatabases, h⟩ := Checks.bind_eq_ok.mp h
  obtain rfl := Except.ok.inj h
  refine ⟨rfl, rfl, fun db' hdb' => ?_⟩
  obtain ⟨db, hdb, h⟩ := Checks.exists_of_mem_mapM hdatabases db' hdb'
  obtain ⟨tableGroups, htgs, h⟩ := Checks.bind_eq_ok.mp h
  obtain rfl := Except.ok.inj h
  refine ⟨db, hdb, rfl, fun tg' htg' => ?_⟩
  obtain ⟨tg, htg, h⟩ := Checks.exists_of_mem_mapM htgs tg' htg'
  obtain ⟨shards, hshards, h⟩ := Checks.bind_eq_ok.mp h
  obtain rfl := Except.ok.inj h
  refine ⟨tg, htg, rfl, fun shard' hshard' => ?_⟩
  obtain ⟨shard, hshard, h⟩ := Checks.exists_of_mem_mapM hshards shard' hshard'
  exact ⟨shard, hshard, name_materializeShard h⟩

theorem keepsNames_defaultScoped {injectTraceContext : Table String String → Table String String}
    (h : defaultScoped go injectTraceContext r cluster = .ok cluster') :
    KeepsNames cluster cluster' := by
  unfold defaultScoped at h
  obtain ⟨c₁, h₁, h⟩ := Checks.bind_eq_ok.mp h
  obtain ⟨c₂, h₂, h⟩ := Checks.bind_eq_ok.mp h
  obtain ⟨c₃, h₃, h⟩ := Checks.bind_eq_ok.mp h
  obtain ⟨c₄, h₄, h⟩ := Checks.bind_eq_ok.mp h
  obtain ⟨c₅, h₅, h⟩ := Checks.bind_eq_ok.mp h
  obtain rfl := Except.ok.inj h
  have hpromote : KeepsNames cluster (promoteDefaults r cluster) := .of_databases_eq rfl rfl rfl
  have hscoped := hpromote.trans <| (keepsNames_materializeGlobalTopo h₁).trans <|
    (keepsNames_materializeMultiadmin h₂).trans <| (keepsNames_materializeMultiadminWeb h₃).trans <|
    (keepsNames_materializeCells h₄).trans (keepsNames_materializeShards h₅)
  exact hscoped.trans (.of_databases_eq rfl rfl rfl)

end

/-! ### The first stage -/

section

variable {go : GoLib} {injectTraceContext : Table String String → Table String String}
  {storageClasses : List (Table String String)} {operatorNamespace : String}
  {cluster : MultigresCluster} {s t : Templates}

/-- Whether default pools are injected, with templates that can be read. -/
def injects (t : Templates) (operatorNamespace : String) (cluster : MultigresCluster) : Bool :=
  cluster.spec.templateDefaults.shardTemplate = "" &&
    (t.shard.get (operatorNamespace, "default")).isNone

theorem shouldInjectDefaults_stored :
    shouldInjectDefaults (newResolver (t.client storageClasses) operatorNamespace) cluster =
      .ok (injects t operatorNamespace cluster) := by
  unfold shouldInjectDefaults injects
  by_cases h : cluster.spec.templateDefaults.shardTemplate = ""
  · have hexists : (newResolver (t.client storageClasses) operatorNamespace).shardTemplateExists
        "default" = .ok (t.shard.get (operatorNamespace, "default")).isSome :=
      templateExists_stored (by decide)
    rw [if_neg (not_not.mpr h), hexists]
    cases t.shard.get (operatorNamespace, "default") <;> simp [h] <;> rfl
  · rw [if_pos h]
    simp [h]

/-- The two stages: one answer from the operator's namespace, and the cluster's namespace. -/
theorem default_eq :
    default go injectTraceContext (t.client storageClasses) operatorNamespace cluster =
      defaultScoped go injectTraceContext (newResolver (t.client storageClasses) cluster.namespace)
        (populate (injects t operatorNamespace cluster) cluster) := by
  unfold default populateClusterDefaults
  dsimp only
  rw [shouldInjectDefaults_stored]
  rfl

/-- Defaulting keeps all names but those of what the first stage adds. -/
theorem keepsNames_default {client : Client} {cluster' : MultigresCluster}
    (h : default go injectTraceContext client operatorNamespace cluster = .ok cluster') :
    ∃ inject, KeepsNames (populate inject cluster) cluster' := by
  unfold default at h
  obtain ⟨⟨populated, _⟩, hpopulate, h⟩ := Checks.bind_eq_ok.mp h
  obtain ⟨inject, -, hpopulated⟩ := Checks.bind_eq_ok.mp (Checks.mapError_eq_ok.mp hpopulate)
  obtain ⟨rfl, -⟩ := Prod.mk.inj (Except.ok.inj hpopulated)
  exact ⟨inject, keepsNames_defaultScoped h⟩

/-- Defaulting is the same in both stores if the injection is, or does not matter. -/
theorem default_congr (hagree : s.AgreeIn cluster.namespace t)
    (hpopulate : populate (injects s operatorNamespace cluster) cluster =
      populate (injects t operatorNamespace cluster) cluster) :
    default go injectTraceContext (s.client storageClasses) operatorNamespace cluster =
      default go injectTraceContext (t.client storageClasses) operatorNamespace cluster := by
  rw [default_eq, default_eq, newResolver_congr hagree, hpopulate]

/-! ### The second stage when every fallback template exists -/

structure HasFallbacks (r : Resolver) : Prop where
  core : found (r.coreTemplateExists fallbackTemplate) = true
  cell : found (r.cellTemplateExists fallbackTemplate) = true
  shard : found (r.shardTemplateExists fallbackTemplate) = true

theorem isUsingTemplate_of_found {inline default : String} {implicit : Except ResolveError Bool}
    (h : found implicit = true) : isUsingTemplate inline default implicit = true := by
  rw [isUsingTemplate, h, Bool.or_true]

/-- Every component then uses a template, and nothing is written out. -/
theorem defaultScoped_of_hasFallbacks {r : Resolver} (h : HasFallbacks r) :
    defaultScoped go injectTraceContext r cluster = .ok { promoteDefaults r cluster with
      annotations := injectTraceContext cluster.annotations } := by
  have hcore (cluster : MultigresCluster) (ref : Option String) :
      usesCoreTemplate r cluster ref = true := isUsingTemplate_of_found h.core
  have htopo (cluster : MultigresCluster) : materializeGlobalTopo go r cluster = .ok cluster := by
    rw [materializeGlobalTopo, if_pos (hcore _ _)]
    rfl
  have hadmin (cluster : MultigresCluster) : materializeMultiadmin r cluster = .ok cluster := by
    rw [materializeMultiadmin, if_pos (hcore _ _)]
    rfl
  have hweb (cluster : MultigresCluster) : materializeMultiadminWeb r cluster = .ok cluster := by
    rw [materializeMultiadminWeb, if_pos (hcore _ _)]
    rfl
  have hcells (cluster : MultigresCluster) : materializeCells go r cluster = .ok cluster := by
    rw [materializeCells, Checks.mapM_eq_self]
    · rfl
    · intro cell _
      rw [materializeCell, if_pos (isUsingTemplate_of_found h.cell)]
      rfl
  have hshard (cluster : MultigresCluster) (backup : Option BackupConfig) (shard : ShardConfig) :
      materializeShard r cluster backup shard = .ok shard := by
    rw [materializeShard, if_pos (isUsingTemplate_of_found h.shard)]
    rfl
  have hshards (cluster : MultigresCluster) : materializeShards r cluster = .ok cluster := by
    rw [materializeShards, Checks.mapM_eq_self]
    · rfl
    · intro db _
      dsimp only
      rw [Checks.mapM_eq_self]
      · rfl
      · intro tg _
        rw [Checks.mapM_eq_self fun shard _ => hshard _ _ shard]
        rfl
  unfold defaultScoped
  simp only [htopo, hadmin, hweb, hcells, hshards]
  rfl

/-! ### Independence -/

/-- The cluster lives in the operator's namespace, names a ShardTemplate, has no cells, or gets no
shard created. -/
def Independent (operatorNamespace : String) (cluster : MultigresCluster) : Prop :=
  cluster.namespace = operatorNamespace ∨ cluster.spec.templateDefaults.shardTemplate ≠ "" ∨
    cluster.spec.cells = [] ∨ ¬ CreatesShard cluster.spec.databases

/-- The fallback templates of a namespace, without any settings. -/
def fallbacks (ns : String) : Templates where
  core := Table.set ∅ (ns, fallbackTemplate) {}
  cell := Table.set ∅ (ns, fallbackTemplate) {}
  shard := Table.set ∅ (ns, fallbackTemplate) {}

/-- A store with a fallback ShardTemplate in a namespace as well. -/
def addShardFallback (t : Templates) (ns : String) : Templates :=
  { t with shard := t.shard.set (ns, fallbackTemplate) {} }

theorem agreeIn_addShardFallback {ns ns' : String} (h : ns ≠ ns') :
    t.AgreeIn ns (addShardFallback t ns') := by
  refine ⟨fun _ => rfl, fun _ => rfl, fun name => ?_⟩
  unfold addShardFallback
  rw [Table.get_set, if_neg fun heq => h (Prod.mk.inj heq).1]

theorem hasFallbacks_fallbacks (ns : String) :
    HasFallbacks (newResolver ((fallbacks ns).client storageClasses) ns) := by
  have hfound {α : Type} (resource : String) (tpl : α) : found (templateExists
      (stored resource (Table.set ∅ (ns, fallbackTemplate) tpl) ns) fallbackTemplate) = true := by
    rw [templateExists_stored (by decide), Table.get_set, if_pos rfl]
    rfl
  exact ⟨hfound _ _, hfound _ _, hfound _ _⟩

/-- **A template elsewhere shows**: with and without a fallback ShardTemplate in the operator's
namespace, a cluster that is not independent is defaulted differently. -/
theorem default_ne (h : ¬ Independent operatorNamespace cluster) :
    default go injectTraceContext ((fallbacks cluster.namespace).client storageClasses)
        operatorNamespace cluster ≠
      default go injectTraceContext
        ((addShardFallback (fallbacks cluster.namespace) operatorNamespace).client storageClasses)
        operatorNamespace cluster := by
  simp only [Independent, not_or, not_not] at h
  obtain ⟨hns, hshard, hcells, hcreates⟩ := h
  have hwithout : injects (fallbacks cluster.namespace) operatorNamespace cluster = true := by
    have hget : (fallbacks cluster.namespace).shard.get (operatorNamespace, "default") = none := by
      unfold fallbacks
      rw [Table.get_set, if_neg fun heq => hns (Prod.mk.inj heq).1.symm, Table.get_empty]
    simp [injects, hshard, hget]
  have hwith : injects (addShardFallback (fallbacks cluster.namespace) operatorNamespace)
      operatorNamespace cluster = false := by
    have hget : (addShardFallback (fallbacks cluster.namespace) operatorNamespace).shard.get
        (operatorNamespace, "default") = some {} := by
      unfold addShardFallback
      rw [fallbackTemplate, Table.get_set, if_pos rfl]
    simp [injects, hget]
  rw [default_eq, default_eq, hwithout, hwith, ← newResolver_congr (agreeIn_addShardFallback hns),
    defaultScoped_of_hasFallbacks (hasFallbacks_fallbacks _),
    defaultScoped_of_hasFallbacks (hasFallbacks_fallbacks _)]
  intro heq
  -- the second stage names templates and leaves the databases alone
  have hdatabases : (populate true cluster).spec.databases =
      (populate false cluster).spec.databases := congrArg (·.spec.databases) (Except.ok.inj heq)
  have hpopulate : populate true cluster = populate false cluster := by
    unfold populate at hdatabases ⊢
    dsimp only at hdatabases ⊢
    rw [hdatabases]
  rcases (populate_eq_iff cluster).mp hpopulate with hnil | hnone
  · exact hcells hnil
  · exact hnone hcreates

end

/-- **Defaulting depends on the cluster's own namespace only** iff the cluster is independent. -/
theorem default_depends_iff (go : GoLib)
    (injectTraceContext : Table String String → Table String String)
    (storageClasses : List (Table String String)) (operatorNamespace : String)
    (cluster : MultigresCluster) :
    (∀ s t : Templates, s.AgreeIn cluster.namespace t →
      default go injectTraceContext (s.client storageClasses) operatorNamespace cluster =
        default go injectTraceContext (t.client storageClasses) operatorNamespace cluster) ↔
      Independent operatorNamespace cluster := by
  constructor
  · intro h
    by_contra hdependent
    have hns : cluster.namespace ≠ operatorNamespace := fun heq => hdependent (.inl heq)
    exact default_ne hdependent (h _ _ (agreeIn_addShardFallback hns))
  · intro h s t hagree
    refine default_congr hagree ?_
    rcases h with hns | hshard | hsame
    · -- the first stage looks into the cluster's namespace, too
      rw [injects, injects, ← hns, hagree.2.2]
    · simp [injects, hshard]
    · have hpopulate := (populate_eq_iff cluster).mpr hsame
      cases injects s operatorNamespace cluster <;> cases injects t operatorNamespace cluster
      · rfl
      · exact hpopulate.symm
      · exact hpopulate
      · rfl

/-- A cluster that leaves everything but its cell to the operator. -/
def smallCluster : MultigresCluster where
  name := "db"
  «namespace» := "prod"
  spec := { cells := [{ name := "z1" }] }

/-- **A template of the operator's namespace leaks.** The cluster's namespace has a fallback
ShardTemplate, whose pools the cluster is to take. Unless there is one in the operator's namespace,
too, the shard of the cluster gets a default pool in addition. -/
theorem operator_template_leaks :
    ¬ ∀ (go : GoLib) (injectTraceContext : Table String String → Table String String)
      (storageClasses : List (Table String String)) (operatorNamespace : String)
      (cluster : MultigresCluster) (s t : Templates), s.AgreeIn cluster.namespace t →
      default go injectTraceContext (s.client storageClasses) operatorNamespace cluster =
        default go injectTraceContext (t.client storageClasses) operatorNamespace cluster := by
  intro h
  have hdependent : ¬ Independent "multigres-operator" smallCluster := by
    simp [Independent, smallCluster, CreatesShard]
  exact default_ne hdependent (h .ascii id [] _ _ _ _ (agreeIn_addShardFallback (by decide)))

end MultigresOperator.Webhook

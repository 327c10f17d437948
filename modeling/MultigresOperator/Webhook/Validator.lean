import MultigresOperator.Api.Semantic
import MultigresOperator.PostgresConfig.Validate
import MultigresOperator.Resolver.Validation

/-!
# The validating webhooks

A MultigresCluster is validated when it is created and when it is updated; an update must keep the
mode, the place of a Lite cluster's data, the sizes of volumes and the number of etcd replicas. A
template is validated when it is written and when it is deleted: on its own, and against every
cluster that takes its settings from it. Clusters that are being deleted no longer count.
-/

namespace MultigresOperator.Webhook

open V1Alpha1 Resolution

/-! ### Settings of PostgreSQL -/

def settings (m : Table String String) : Table PostgresConfig.Str PostgresConfig.Str :=
  (m.mapKeys String.toList fun _ _ => String.toList_inj.mp).mapValues String.toList

/-- `postgresconfig.Validate` -/
def validateSettings (go : GoLib) (catalog : PostgresConfig.Catalog) (m : Table String String) :
    Except ResolveError Unit :=
  (PostgresConfig.validate go.text catalog (settings m)).mapError fun text =>
    { text := String.ofList text }

def validatePostgresConfig (go : GoLib) (catalog : PostgresConfig.Catalog)
    (cluster : MultigresCluster) : Except ResolveError Unit :=
  (shardSites cluster).forM fun site =>
    let maps := (site.shard.spec.map (·.postgresConfig)).toList ++
      (site.shard.overrides.map (·.postgresConfig)).toList
    maps.forM fun m => (validateSettings go catalog m).mapError
      (.wrap ("database " ++ go.quote site.db.name ++ " tablegroup " ++ go.quote site.tg.name ++
        " shard " ++ go.quote site.shard.name))

/-! ### Updates of a cluster -/

/-- `collectPoolStorageSizes`: the sizes of the pools that the spec gives, by database, table group,
shard and pool. -/
def collectPoolStorageSizes (cluster : MultigresCluster) : Table String String :=
  Table.ofList <| (shardSites cluster).flatMap fun site =>
    let pools := match site.shard.spec, site.shard.overrides with
      | some spec, _ => spec.pools
      | none, some overrides => overrides.pools
      | none, none => ∅
    pools.items.filterMap fun (poolName, pool) =>
      if pool.storage.size ≠ "" then
        some (site.db.name ++ "/" ++ site.tg.name ++ "/" ++ site.shard.name ++ "/" ++ poolName,
          pool.storage.size)
      else none

def validateNoStorageShrink (go : GoLib) (oldCluster newCluster : MultigresCluster) :
    Except ResolveError Unit :=
  let newSizes := collectPoolStorageSizes newCluster
  (collectPoolStorageSizes oldCluster).items.forM fun (key, oldSize) =>
    match newSizes.get key with
    | none => .ok ()
    | some newSize =>
      match go.parseQuantity oldSize, go.parseQuantity newSize with
      | some oldQty, some newQty =>
        if newQty < oldQty then
          fail ("storage.size cannot be decreased (" ++ key ++ ": " ++ oldSize ++ " → " ++ newSize ++
            "); PVC shrink is not supported by Kubernetes")
        else .ok ()
      | _, _ => .ok ()

/-- `validateEtcdReplicasImmutable`. No replicas stand for an external topology server. -/
def validateEtcdReplicasImmutable (oldCluster newCluster : MultigresCluster) :
    Except ResolveError Unit :=
  let oldReplicas := effectiveEtcdReplicas oldCluster
  let newReplicas := effectiveEtcdReplicas newCluster
  if oldReplicas = 0 ∨ newReplicas = 0 then .ok ()
  else if oldReplicas ≠ newReplicas then
    fail ("topology server (etcd) replicas cannot be changed after cluster creation (" ++
      toString oldReplicas ++ " → " ++ toString newReplicas ++
      "); etcd uses static bootstrap which does not support dynamic member addition")
  else .ok ()

/-! ### The place of a Lite cluster's data -/

structure LiteIdentity where
  database : String
  tableGroup : String
  shard : String
  pool : String
  cell : String
  deriving DecidableEq, Repr

def LiteIdentity.text (id : LiteIdentity) : String :=
  id.database ++ "/" ++ id.tableGroup ++ "/" ++ id.shard ++ "/" ++ id.pool ++ "/" ++ id.cell

/-- The shard of a cluster that has one of everything. -/
def soleShard (cluster : MultigresCluster) : Except ResolveError ShardSite :=
  match cluster.spec.databases, cluster.spec.cells with
  | [db], [_] =>
    match db.tableGroups with
    | [tg] =>
      match tg.shards with
      | [shard] => .ok ⟨db, tg, shard⟩
      | _ => fail "lite mode requires exactly one database, table group, shard and cluster cell"
    | _ => fail "lite mode requires exactly one database, table group, shard and cluster cell"
  | _, _ => fail "lite mode requires exactly one database, table group, shard and cluster cell"

/-- The only pool of a shard, and its only cell. -/
def solePool (pools : Pools) : Except ResolveError (String × String) :=
  match pools.items with
  | [(name, pool)] =>
    match pool.cells with
    | [cell] => .ok (name, cell)
    | _ => fail "lite mode requires exactly one resolved pool cell"
  | _ => fail "lite mode requires exactly one resolved pool"

/-- Where a Lite cluster keeps its data: the parts of `resolvedLiteIdentity`. -/
def liteIdentity (r : Resolver) (cluster : MultigresCluster) : Except ResolveError LiteIdentity := do
  let site ← soleShard cluster
  let resolved ← resolveShard r (effectiveShard cluster site.shard) (liteOptions cluster none)
  let (pool, cell) ← solePool resolved.pools
  return ⟨site.db.name, site.tg.name, site.shard.name, pool, cell⟩

def resolvedLiteIdentity (r : Resolver) (cluster : MultigresCluster) : Except ResolveError String :=
  (liteIdentity r cluster).map LiteIdentity.text

def validateLiteIdentityUpdate (oldResolver newResolver : Resolver)
    (oldCluster newCluster : MultigresCluster) : Except ResolveError Unit := do
  let oldID ← resolvedLiteIdentity oldResolver oldCluster
  let newID ← resolvedLiteIdentity newResolver newCluster
  if oldID ≠ newID then
    fail ("lite pool identity is immutable (" ++ oldID ++ " -> " ++ newID ++
      "); data-preserving migration is not supported")
  else .ok ()

/-! ### The webhook of the cluster -/

section

variable (go : GoLib) (catalog : PostgresConfig.Catalog) (client : Client)

/-- `validate`: the warnings. -/
def validate (cluster : MultigresCluster) : Except ResolveError (List String) := do
  let res := newResolver client cluster.namespace
  validateClusterIntegrity res cluster
  validatePostgresConfig go catalog cluster
  validateClusterLogic go res cluster

def validateCreate (cluster : MultigresCluster) : Except ResolveError (List String) :=
  validate go catalog client cluster

def validateUpdate (oldCluster newCluster : MultigresCluster) :
    Except ResolveError (List String) := do
  if oldCluster.spec.mode ≠ newCluster.spec.mode then
    fail "mode is immutable and can only be set when the cluster is created"
  if oldCluster.spec.mode = .lite then
    let res := newResolver client newCluster.namespace
    validateLiteIdentityUpdate res res oldCluster newCluster
  let warnings ← validate go catalog client newCluster
  validateNoStorageShrink go oldCluster newCluster
  validateEtcdReplicasImmutable oldCluster newCluster
  return warnings

end

section

variable {go : GoLib} {catalog : PostgresConfig.Catalog} {client : Client}

/-- What an accepted update has passed: the comparison of the place of a Lite cluster's data, the
validation of the new cluster, and the comparisons of volumes and etcd replicas. -/
theorem passed_of_validateUpdate {warnings : List String} {old new : MultigresCluster}
    (h : validateUpdate go catalog client old new = .ok warnings) :
    old.spec.mode = new.spec.mode ∧
      (old.spec.mode = .lite → validateLiteIdentityUpdate (newResolver client new.namespace)
        (newResolver client new.namespace) old new = .ok ()) ∧
      validate go catalog client new = .ok warnings ∧
      validateNoStorageShrink go old new = .ok () ∧
      validateEtcdReplicasImmutable old new = .ok () := by
  unfold validateUpdate at h
  have hmode : old.spec.mode = new.spec.mode := by
    by_contra hne
    simp only [hne, ne_eq, not_false_eq_true, if_true] at h
    cases h
  simp only [hmode, ne_eq, not_true_eq_false, if_false] at h
  refine ⟨hmode, ?_⟩
  rw [hmode]
  obtain ⟨hidentity, h⟩ := Checks.when_eq_ok.mp h
  obtain ⟨warnings', hvalidate, h⟩ := Checks.bind_eq_ok.mp h
  obtain ⟨hstorage, h⟩ := Checks.andThen_eq_ok.mp h
  obtain ⟨hetcd, h⟩ := Checks.andThen_eq_ok.mp h
  obtain rfl := Except.ok.inj h
  exact ⟨hidentity, hvalidate, hstorage, hetcd⟩

end

/-! ### The webhooks of the templates -/

inductive TemplateKind
  | core
  | cell
  | shard
  deriving DecidableEq, Repr

def TemplateKind.text : TemplateKind → String
  | .core => "CoreTemplate"
  | .cell => "CellTemplate"
  | .shard => "ShardTemplate"

/-- A template of some kind. -/
inductive Template
  | core (spec : CoreTemplateSpec)
  | cell (spec : CellTemplateSpec)
  | shard (spec : ShardTemplateSpec)

def templateSpecUnchanged : Template → Template → Bool
  | .cell oldTpl, .cell newTpl => sameCellTemplate oldTpl newTpl
  | .shard oldTpl, .shard newTpl => sameShardTemplate oldTpl newTpl
  | _, _ => false

def isTemplateInUse (kind : TemplateKind) (cluster : MultigresCluster) (name : String) : Bool :=
  let spec := cluster.spec
  match kind with
  | .core =>
    spec.templateDefaults.coreTemplate == name ||
      spec.multiadmin.any (·.templateRef == name) ||
      spec.globalTopoServer.any (·.templateRef == name) ||
      spec.multiadminWeb.any (·.templateRef == name)
  | .cell =>
    spec.templateDefaults.cellTemplate == name || spec.cells.any (·.cellTemplate == name)
  | .shard =>
    spec.templateDefaults.shardTemplate == name ||
      (shardSites cluster).any (·.shard.shardTemplate == name)

/-- `usesResolvedShardTemplate`. Inline specs overlay the template, so they consume it too. -/
def usesResolvedShardTemplate (cluster : MultigresCluster) (name : String) : Bool :=
  (shardSites cluster).any fun site =>
    effectiveTemplateName (effectiveShard cluster site.shard).shardTemplate == name

section

variable (go : GoLib) (catalog : PostgresConfig.Catalog) (client : Client)
  («namespace» name : String)

/-- `validateTemplateContent`: what a template can be checked for on its own. -/
def validateTemplateContent : Template → Except ResolveError Unit
  | .core _ => .ok ()
  | .shard tpl => do
    tpl.pools.items.forM fun (poolName, _) => validatePoolName poolName
    validateSettings go catalog tpl.postgresConfig
  | .cell tpl =>
    match tpl.multigateway with
    | none => .ok ()
    | some gateway => do
      let subject := "CellTemplate '" ++ name ++ "'"
      validateGatewayBuffer gateway.buffer subject false
      validateResourceRequirements gateway.resources (subject ++ " multigateway")

/-- The loop body of `validateCellTemplateConsumers`: a consumer that is as invalid with the stored
template does not stand in the way. -/
def validateCellTemplateConsumer (tpl : CellTemplateSpec) (cluster : MultigresCluster) :
    Except ResolveError Unit :=
  let baseline := newResolver client «namespace»
  let res := baseline.withCellTemplate name tpl
  let subjectPrefix := "MultigresCluster '" ++ cluster.name ++ "' "
  if cluster.deletionTimestamp.isSome then .ok ()
  else
    match validateResolvedGateways go res cluster name subjectPrefix with
    | .ok () => .ok ()
    | .error err =>
      match validateResolvedGateways go baseline cluster name subjectPrefix with
      | .error _ => .ok ()
      | .ok () => .error err

def validateCellTemplateConsumers (tpl : CellTemplateSpec) : Except ResolveError Unit :=
  if name = "" then .ok ()
  else do
    let clusters ← (client.clusters «namespace»).mapError
      (.wrap "failed to list clusters for validation")
    clusters.forM (validateCellTemplateConsumer go client «namespace» name tpl)

/-- The loop body of `validateLiteShardTemplateConsumers`. -/
def validateLiteShardTemplateConsumer (tpl : ShardTemplateSpec) (cluster : MultigresCluster) :
    Except ResolveError Unit :=
  if cluster.spec.mode ≠ .lite ∨ cluster.deletionTimestamp.isSome then .ok ()
  else if !usesResolvedShardTemplate cluster name then .ok ()
  else do
    let before := newResolver client «namespace»
    let after := before.withShardTemplate name tpl
    (validateLiteIdentityUpdate before after cluster cluster).mapError
      (.wrap ("ShardTemplate " ++ go.quote name ++ " would change Lite cluster " ++
        go.quote cluster.name))
    let _ ← (validateClusterLogic go after cluster).mapError
      (.wrap ("lite cluster " ++ go.quote cluster.name))
    return ()

def validateLiteShardTemplateConsumers (tpl : ShardTemplateSpec) : Except ResolveError Unit := do
  let clusters ← client.clusters «namespace»
  clusters.forM (validateLiteShardTemplateConsumer go client «namespace» name tpl)

/-- `validateWrite`, the validation of a creation. -/
def validateTemplateWrite (tpl : Template) : Except ResolveError Unit := do
  validateTemplateContent go catalog name tpl
  match tpl with
  | .core _ => .ok ()
  | .cell spec => validateCellTemplateConsumers go client «namespace» name spec
  | .shard spec => validateLiteShardTemplateConsumers go client «namespace» name spec

/-- `ValidateUpdate` of a template. A write that leaves the spec alone always passes. -/
def validateTemplateUpdate (oldTpl newTpl : Template) : Except ResolveError Unit :=
  if templateSpecUnchanged oldTpl newTpl then .ok ()
  else validateTemplateWrite go catalog client «namespace» name newTpl

/-- `ValidateDelete` of a template. A fallback template can have consumers that do not refer to it:
they are checked against an empty one. -/
def validateTemplateDelete (kind : TemplateKind) : Except ResolveError Unit := do
  let clusters ← (client.clusters «namespace»).mapError
    (.wrap "failed to list clusters for validation")
  clusters.forM fun cluster =>
    if cluster.deletionTimestamp.isNone && isTemplateInUse kind cluster name then
      fail ("cannot delete " ++ kind.text ++ " '" ++ name ++ "' because it is in use by " ++
        "MultigresCluster '" ++ cluster.name ++ "'")
    else .ok ()
  if kind = .cell ∧ name = fallbackTemplate then
    (validateCellTemplateConsumers go client «namespace» name {}).mapError
      (.wrap ("cannot delete CellTemplate '" ++ name ++
        "': consumers would resolve an invalid config without it"))
  if kind = .shard ∧ name = fallbackTemplate then
    validateLiteShardTemplateConsumers go client «namespace» name {}

end

end MultigresOperator.Webhook

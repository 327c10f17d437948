import MultigresOperator.Resolver.Cell
import MultigresOperator.Resolver.Shard

/-!
# Resolution of clusters

The static defaults of a cluster, among them the system database with its table group and shard, and
the resolution of the components a cluster has once: the global topology server, multiadmin and its
web interface.
-/

namespace MultigresOperator.Resolution

open V1Alpha1 MultigresOperator.Topology

/-! ### Static defaults -/

def defaultLogLevel (level : LogLevel) : LogLevel := if level = .unset then .info else level

def defaultLogLevels (levels : ComponentLogLevels) : ComponentLogLevels where
  pgctld := defaultLogLevel levels.pgctld
  multipooler := defaultLogLevel levels.multipooler
  multiorch := defaultLogLevel levels.multiorch
  multiadmin := defaultLogLevel levels.multiadmin
  multigateway := defaultLogLevel levels.multigateway

/-- The backups of a cluster that does not configure them. -/
def defaultBackup : BackupConfig where
  type := some .filesystem
  filesystem := some { path := defaultBackupPath, storage := { size := defaultBackupStorageSize } }

/-- The shard of a table group without shards. It has a spec if the cluster has cells, with the
default pool if that is injected. -/
def createdShard (hasCells injectDefaults : Bool) : ShardConfig where
  name := "0-inf"
  spec :=
    if hasCells then
      some { pools := if injectDefaults then Table.set ∅ "default" { type := .readWrite } else ∅ }
    else none

def populateTableGroup (hasCells injectDefaults : Bool) (tg : TableGroupConfig) :
    TableGroupConfig :=
  if tg.shards = [] then { tg with shards := [createdShard hasCells injectDefaults] } else tg

def systemTableGroups (tableGroups : List TableGroupConfig) : List TableGroupConfig :=
  if tableGroups = [] then [{ name := defaultSystemTableGroupName, default := true }]
  else tableGroups

def populateDatabase (hasCells injectDefaults : Bool) (db : DatabaseConfig) : DatabaseConfig :=
  { db with
    tableGroups := (systemTableGroups db.tableGroups).map
      (populateTableGroup hasCells injectDefaults) }

def systemDatabases (databases : List DatabaseConfig) : List DatabaseConfig :=
  if databases = [] then [{ name := defaultSystemDatabaseName, default := true }] else databases

/-- The static defaults once it is known whether default pools are injected. -/
def populate (injectDefaults : Bool) (cluster : MultigresCluster) : MultigresCluster :=
  let spec := cluster.spec
  { cluster with spec := { spec with
      imagePullPolicy :=
        if spec.imagePullPolicy = .unset then .ifNotPresent else spec.imagePullPolicy
      topologyPruning := spec.topologyPruning.or (some { enabled := some true })
      durabilityPolicy := overText spec.durabilityPolicy defaultDurabilityPolicy
      logLevels := defaultLogLevels spec.logLevels
      pvcDeletionPolicy :=
        spec.pvcDeletionPolicy.or (some { whenDeleted := .delete, whenScaled := .delete })
      backup := spec.backup.or (some defaultBackup)
      databases := (systemDatabases spec.databases).map
        (populateDatabase (!spec.cells.isEmpty) injectDefaults) } }

/-- The rules for the injection of default pools: never if the cluster names a shard template, and
otherwise if there is no fallback template. -/
def shouldInjectDefaults (r : Resolver) (cluster : MultigresCluster) : Except ResolveError Bool :=
  if cluster.spec.templateDefaults.shardTemplate ≠ "" then .ok false
  else do
    let implicitExists ← (r.shardTemplateExists "default").mapError
      (.wrap "failed to check for implicit shard template")
    return !implicitExists

/-- `PopulateClusterDefaults`: the cluster and the decisions to report. -/
def populateClusterDefaults (r : Resolver) (cluster : MultigresCluster) :
    Except ResolveError (MultigresCluster × List String) := do
  let inject ← shouldInjectDefaults r cluster
  return (populate inject cluster, if inject then ["Implicitly injected default 'readWrite' pool " ++
    "configuration using the 'default' ShardTemplate"] else [])

/-! ### Components a cluster has once -/

section

variable (go : GoLib) (r : Resolver) (cluster : MultigresCluster)

/-- The etcd of a global topology server: the template's with the cluster's laid over it, unless the
cluster has an external server. -/
def globalEtcd (base : Option EtcdSpec) (spec : Option GlobalTopoServerSpec) : Option EtcdSpec :=
  match spec with
  | none => base
  | some spec =>
    if spec.external.isSome then none
    else match spec.etcd with
      | none => base
      | some etcd => some (mergeEtcdSpec (base.getD {}) etcd)

def resolveGlobalTopo : Except ResolveError GlobalTopoServerSpec := do
  let roots ← (forCluster go.sha256 cluster).mapError fun err =>
    ⟨"deriving global topology root: " ++ err, false⟩
  let spec := cluster.spec.globalTopoServer
  let templateName := overText ((spec.map (·.templateRef)).getD "")
    cluster.spec.templateDefaults.coreTemplate
  let tpl ← r.resolveCoreTemplate templateName
  -- without a topology server in the template there is an etcd without settings
  let base := tpl.globalTopoServer.getD { etcd := some {} }
  let etcd := (globalEtcd base.etcd spec).map (defaultEtcdSpec · roots.global)
  match etcd with
  | none => pure ()
  | some etcd =>
    let _ ← (effectiveCompaction go etcd.maintenance).mapError
      (.wrap "global topology maintenance")
  return {
    etcd
    external := (spec.bind (·.external)).map (defaultExternalTopoSpec · roots.global)
    pvcDeletionPolicy := (spec.bind (·.pvcDeletionPolicy)).or base.pvcDeletionPolicy
    placement := mergePlacementSpec base.placement (spec.bind (·.placement)) }

def resolveMultiadmin : Except ResolveError (StatelessSpec × Option Document) := do
  let spec := cluster.spec.multiadmin
  let templateName := overText ((spec.map (·.templateRef)).getD "")
    cluster.spec.templateDefaults.coreTemplate
  let tpl ← r.resolveCoreTemplate templateName
  let base := tpl.multiadmin.getD {}
  let final := (spec.bind (·.spec)).elim base (mergeStatelessSpec base)
  return (defaultStatelessSpec final defaultResourcesAdmin defaultAdminReplicas,
    mergePlacementSpec tpl.multiadminPlacement (spec.bind (·.placement)))

def resolveMultiadminWeb : Except ResolveError StatelessSpec := do
  let spec := cluster.spec.multiadminWeb
  let templateName := overText ((spec.map (·.templateRef)).getD "")
    cluster.spec.templateDefaults.coreTemplate
  let tpl ← r.resolveCoreTemplate templateName
  let base := tpl.multiadminWeb.getD {}
  let final := (spec.bind (·.spec)).elim base (mergeStatelessSpec base)
  return defaultStatelessSpec final defaultResourcesAdminWeb defaultMultiadminWebReplicas

end

/-! ### Injected pools -/

/-- Static defaulting creates a shard: some table group has none, or will be created. -/
def CreatesShard (databases : List DatabaseConfig) : Prop :=
  databases = [] ∨ ∃ db ∈ databases, db.tableGroups = [] ∨ ∃ tg ∈ db.tableGroups, tg.shards = []

theorem createdShard_ne : createdShard true true ≠ createdShard true false := by decide

theorem createsShard_iff (databases : List DatabaseConfig) : CreatesShard databases ↔
    ∃ db ∈ systemDatabases databases, ∃ tg ∈ systemTableGroups db.tableGroups, tg.shards = [] := by
  unfold CreatesShard systemDatabases
  by_cases hdb : databases = []
  · simp [hdb, systemTableGroups]
  · rw [if_neg hdb]
    simp only [hdb, false_or]
    refine exists_congr fun db => and_congr_right fun _ => ?_
    unfold systemTableGroups
    by_cases htg : db.tableGroups = []
    · simp [htg]
    · simp [htg]

theorem populateTableGroup_eq_iff (hasCells : Bool) (tg : TableGroupConfig) :
    populateTableGroup hasCells true tg = populateTableGroup hasCells false tg ↔
      (hasCells = true → tg.shards ≠ []) := by
  unfold populateTableGroup
  by_cases hshards : tg.shards = []
  · cases hasCells with
    | false => simp [hshards, createdShard]
    | true =>
      simp only [hshards, if_true, true_implies, ne_eq, not_true_eq_false, iff_false]
      intro h
      exact createdShard_ne (List.singleton_inj.mp (congrArg TableGroupConfig.shards h))
  · simp [hshards]

/-- **Injection matters** iff a shard is created in a cluster with cells. -/
theorem populate_eq_iff (cluster : MultigresCluster) :
    populate true cluster = populate false cluster ↔
      cluster.spec.cells = [] ∨ ¬ CreatesShard cluster.spec.databases := by
  have hiff : populate true cluster = populate false cluster ↔
      ∀ db ∈ systemDatabases cluster.spec.databases, ∀ tg ∈ systemTableGroups db.tableGroups,
        populateTableGroup (!cluster.spec.cells.isEmpty) true tg =
          populateTableGroup (!cluster.spec.cells.isEmpty) false tg := by
    constructor
    · intro h db hdb tg htg
      have hmap := List.map_inj_left.mp (congrArg (·.spec.databases) h) db hdb
      exact List.map_inj_left.mp (congrArg DatabaseConfig.tableGroups hmap) tg htg
    · intro h
      have hmap : (systemDatabases cluster.spec.databases).map
          (populateDatabase (!cluster.spec.cells.isEmpty) true) =
          (systemDatabases cluster.spec.databases).map
          (populateDatabase (!cluster.spec.cells.isEmpty) false) := by
        refine List.map_congr_left fun db hdb => ?_
        rw [populateDatabase, populateDatabase, List.map_congr_left (h db hdb)]
      rw [populate, populate, hmap]
  rw [hiff, createsShard_iff]
  simp only [populateTableGroup_eq_iff]
  by_cases hcells : cluster.spec.cells = []
  · simp [hcells]
  · simp [hcells]

end MultigresOperator.Resolution

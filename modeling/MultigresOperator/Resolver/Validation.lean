import MultigresOperator.Resolver.Cluster

/-!
# Validation of clusters

What the validating webhook asks of a cluster: the templates it refers to exist, every cell and shard
can be resolved, and what they resolve to is sound. Resolution is the reconciler's, so a fault is
found whichever layer it comes from. Doubtful settings give warnings.

A map is gone through in the order of its entries. Go leaves that order open; it decides which error
is reported, never whether there is one.

## Main definitions

* `validateClusterIntegrity`: the templates referred to exist
* `validateGatewayBuffer`, `validateResourceRequirements`: the checks of a resolved gateway
* `validateResolvedGateways`: all gateways of a cluster, or those of the consumers of a template
* `validateLiteMode`: the shape of a Lite cluster
* `validateClusterLogic`: everything that is checked on the resolved cluster, the storage classes last

## Main results

* `validateGatewayBuffer_eq_ok`, `validateResourceRequirements_eq_ok`: what these checks mean
* `validateResolvedGateways_eq_ok`: the check passes iff every gateway is valid
* `validateClusterLogic_parts`, `validateClusterLogic_poolNames`: what holds of an accepted cluster
-/

namespace MultigresOperator.Resolution

open V1Alpha1

/-! ### Shards of a cluster -/

/-- A shard with the table group and the database it belongs to. -/
structure ShardSite where
  db : DatabaseConfig
  tg : TableGroupConfig
  shard : ShardConfig

/-- The shards of a cluster in the order of the loops over databases, table groups and shards. -/
def shardSites (cluster : MultigresCluster) : List ShardSite :=
  cluster.spec.databases.flatMap fun db =>
    db.tableGroups.flatMap fun tg => tg.shards.map fun shard => ⟨db, tg, shard⟩

def ShardSite.inheritedBackup (site : ShardSite) (cluster : MultigresCluster) :
    Option BackupConfig :=
  mergeBackupConfig site.tg.backup (mergeBackupConfig site.db.backup cluster.spec.backup)

/-- The shard with the template of the cluster if it names none. -/
def effectiveShard (cluster : MultigresCluster) (shard : ShardConfig) : ShardConfig :=
  { shard with
    shardTemplate := overText shard.shardTemplate cluster.spec.templateDefaults.shardTemplate }

/-- The cell with the template of the cluster if it names none. -/
def effectiveCell (cluster : MultigresCluster) (cell : CellConfig) : CellConfig :=
  { cell with cellTemplate := cluster.spec.effectiveCellTemplate cell.cellTemplate }

def cellNames (cluster : MultigresCluster) : List String := cluster.spec.cells.map (·.name)

/-! ### References -/

def validateClusterIntegrity (r : Resolver) (cluster : MultigresCluster) :
    Except ResolveError Unit := do
  let spec := cluster.spec
  r.validateCoreTemplateReference spec.templateDefaults.coreTemplate
  r.validateCoreTemplateReference ((spec.multiadmin.map (·.templateRef)).getD "")
  r.validateCoreTemplateReference ((spec.globalTopoServer.map (·.templateRef)).getD "")
  r.validateCoreTemplateReference ((spec.multiadminWeb.map (·.templateRef)).getD "")
  r.validateCellTemplateReference spec.templateDefaults.cellTemplate
  spec.cells.forM fun cell => r.validateCellTemplateReference cell.cellTemplate
  r.validateShardTemplateReference spec.templateDefaults.shardTemplate
  (shardSites cluster).forM fun site => r.validateShardTemplateReference site.shard.shardTemplate

/-! ### Gateways -/

def validateResourceRequirements (resources : ResourceRequirements) (component : String) :
    Except ResolveError Unit :=
  (resources.limits.getD ∅).items.forM fun (resourceName, limit) =>
    match (resources.requests.getD ∅).get resourceName with
    | none => .ok ()
    | some request =>
      if limit.amount < request.amount then
        fail (component ++ ": resource " ++ resourceName ++ " limit (" ++ limit.text ++
          ") must be >= request (" ++ request.text ++ ")")
      else .ok ()

def defaultBufferWindow : Duration := 10 * 10 ^ 9

def defaultBufferMaxFailoverDuration : Duration := 20 * 10 ^ 9

/-- A duration of the buffer that has to be positive if it is given. -/
def positiveDuration (subject field : String) (value : Option Duration) (default : Duration) :
    Except ResolveError Duration :=
  match value with
  | none => .ok default
  | some d =>
    if d ≤ 0 then
      fail (subject ++ ": multigateway buffer " ++ field ++ " (" ++ durationText d ++
        ") must be a positive duration")
    else .ok d

/-- A duration of the buffer that must not be negative if it is given. -/
def nonnegativeDuration (subject field : String) (value : Option Duration) :
    Except ResolveError Unit :=
  match value with
  | none => .ok ()
  | some d =>
    if d < 0 then
      fail (subject ++ ": multigateway buffer " ++ field ++ " (" ++ durationText d ++
        ") must not be negative")
    else .ok ()

/-- The window fits into the failover. -/
def windowWithinFailover (subject hint : String) (window maxFailover : Duration) :
    Except ResolveError Unit :=
  if window > maxFailover then
    fail (subject ++ ": multigateway buffer window (" ++ durationText window ++
      ") must be <= maxFailoverDuration (" ++ durationText maxFailover ++ ")" ++ hint)
  else .ok ()

/-- The note on unset fields of a resolved configuration. -/
def bufferDefaultsHint : String :=
  "; unset fields use the multigateway defaults (window " ++ durationText defaultBufferWindow ++
    ", maxFailoverDuration " ++ durationText defaultBufferMaxFailoverDuration ++ ")"

/-- `validateGatewayBuffer`, of a resolved configuration or of a single layer. -/
def validateGatewayBuffer (buffer : Option GatewayBufferConfig) (subject : String)
    (resolved : Bool) : Except ResolveError Unit :=
  match buffer with
  | none => .ok ()
  | some buffer =>
    -- the gateway does not look at the settings of a buffer that is disabled
    if buffer.enabled = some false then .ok ()
    else do
      let window ← positiveDuration subject "window" buffer.window defaultBufferWindow
      let maxFailover ← positiveDuration subject "maxFailoverDuration" buffer.maxFailoverDuration
        defaultBufferMaxFailoverDuration
      nonnegativeDuration subject "minTimeBetweenFailovers" buffer.minTimeBetweenFailovers
      let unset := buffer.window.isNone || buffer.maxFailoverDuration.isNone
      let hint := if resolved && unset then bufferDefaultsHint else ""
      if !resolved && unset then .ok ()
      else windowWithinFailover subject hint window maxFailover

section

variable (go : GoLib) (r : Resolver) (cluster : MultigresCluster)

/-- The loop body of `ValidateResolvedGateways`. -/
def validateResolvedGateway (subjectPrefix : String) (cell : CellConfig) :
    Except ResolveError Unit := do
  let resolved ← (resolveCell go r cluster (effectiveCell cluster cell)).mapError
    (.wrap (subjectPrefix ++ "cannot resolve cell '" ++ cell.name ++ "'"))
  let subject := subjectPrefix ++ "cell '" ++ cell.name ++ "'"
  validateGatewayBuffer resolved.gateway.buffer subject true
  validateResourceRequirements resolved.gateway.resources (subject ++ " multigateway (resolved)")

def validateResolvedGateways (onlyTemplate subjectPrefix : String) : Except ResolveError Unit :=
  cluster.spec.cells.forM fun cell =>
    if onlyTemplate ≠ "" ∧
        effectiveTemplateName (effectiveCell cluster cell).cellTemplate ≠ onlyTemplate then .ok ()
    else validateResolvedGateway go r cluster subjectPrefix cell

end

/-! ### Pools -/

/-- The characters of `dnsLabelRegex`. -/
def isLabelChar (c : Char) : Bool := c.isLower || c.isDigit || c == '-'

/-- `dnsLabelRegex`: label characters that neither begin nor end with a dash. -/
def isDNSLabel (s : String) : Bool :=
  s.toList.all isLabelChar && s.toList.head? != some '-' && s.toList.getLast? != some '-' && s != ""

def poolNameMaxLen : ℕ := 25

/-- `ValidatePoolName`. The length is counted in bytes. -/
def validatePoolName (name : String) : Except ResolveError Unit :=
  if name.utf8ByteSize = 0 ∨ poolNameMaxLen < name.utf8ByteSize then
    fail ("pool name '" ++ name ++ "' must be between 1 and " ++ poolNameMaxLen.repr ++
      " characters")
  else if isDNSLabel name then .ok ()
  else fail ("pool name '" ++ name ++ "' is invalid: must consist of lowercase alphanumeric " ++
    "characters or '-', and must start and end with an alphanumeric character")

def validatePoolRuntimeIdentity (shardName poolName : String) (pool : V1Alpha1.PoolSpec) :
    Except ResolveError Unit :=
  let subject := "shard '" ++ shardName ++ "' pool '" ++ poolName ++ "': "
  match pool.multipooler.runAsUser, pool.postgres.runAsUser with
  | none, _ => .ok ()
  | some pooler, none =>
    fail (subject ++ "multipooler runAsUser " ++ toString pooler ++
      " requires matching postgres runAsUser because both access PGDATA")
  | some pooler, some postgres =>
    if postgres ≠ pooler then
      fail (subject ++ "postgres runAsUser " ++ toString postgres ++ " and multipooler runAsUser " ++
        toString pooler ++ " must match because both access PGDATA")
    else .ok ()

/-! ### The shape of a Lite cluster -/

section

variable (go : GoLib) (r : Resolver) (cluster : MultigresCluster)

/-- The only item of a list, or an error that says how many there are. -/
def exactlyOne {α : Type} (what : String) : List α → Except ResolveError α
  | [a] => .ok a
  | l => fail ("lite mode requires exactly one " ++ what ++ ", found " ++ l.length.repr)

/-- A number that is not given, or is a fixed one. -/
def unsetOr (value : Option ℤ) (allowed : ℤ) (what place : String) : Except ResolveError Unit :=
  match value with
  | none => .ok ()
  | some n =>
    if n ≠ allowed then
      fail ("lite mode requires " ++ what ++ " unset or " ++ toString allowed ++ " in " ++ place ++
        ", found " ++ toString n)
    else .ok ()

def liteDurability (policy place : String) : Except ResolveError Unit :=
  if policy ≠ "" ∧ policy ≠ defaultDurabilityPolicy then
    fail ("lite mode requires durabilityPolicy unset or " ++ go.quote defaultDurabilityPolicy ++
      place ++ ", found " ++ go.quote policy)
  else .ok ()

/-- How `validateLiteMode` resolves the shard. -/
def liteOptions (inheritedBackup : Option BackupConfig) : ResolveShardOptions where
  allCellNames := cellNames cluster
  inheritedBackup
  materializeCellDefaults := true
  mode := .lite

def validateLiteMode : Except ResolveError Unit := do
  let _ ← exactlyOne "cluster cell" cluster.spec.cells
  let db ← exactlyOne "database" cluster.spec.databases
  let tg ← exactlyOne ("table group in database '" ++ db.name ++ "'") db.tableGroups
  let shard ← exactlyOne ("shard in table group '" ++ tg.name ++ "'") tg.shards
  let resolved ← (resolveShard r (effectiveShard cluster shard)
      (liteOptions cluster (ShardSite.inheritedBackup ⟨db, tg, shard⟩ cluster))).mapError
    (.wrap ("cannot resolve shard '" ++ shard.name ++ "'"))
  let (poolName, pool) ← exactlyOne ("pool in shard '" ++ shard.name ++ "'") resolved.pools.items
  unsetOr pool.replicasPerCell 1 "replicasPerCell" ("pool '" ++ poolName ++ "'")
  let _ ← exactlyOne ("cell in pool '" ++ poolName ++ "'") pool.cells
  cluster.spec.cells.forM fun cell => do
    let gateway ← (resolveCell go r cluster (effectiveCell cluster cell)).mapError
      (.wrap ("cannot resolve cell '" ++ cell.name ++ "'"))
    unsetOr gateway.gateway.replicas 0 "multigateway replicas" ("cell '" ++ cell.name ++ "'")
  unsetOr resolved.multiorch.replicas 0 "multiorch replicas" ("shard '" ++ shard.name ++ "'")
  liteDurability go cluster.spec.durabilityPolicy ""
  liteDurability go db.durabilityPolicy (" in database '" ++ db.name ++ "'")

end

/-! ### Warnings -/

def nodeLabelZoneID : String := "topology.k8s.aws/zone-id"

def nodeLabelRegion : String := "topology.kubernetes.io/region"

/-- The label a cell asks of its nodes. -/
def topologyLabel (cell : CellConfig) : Option (String × String) :=
  if cell.zoneId ≠ "" then some (nodeLabelZoneID, cell.zoneId)
  else if cell.region ≠ "" then some (nodeLabelRegion, cell.region)
  else none

/-- `validateCellTopology`: the cells whose nodes are not there, grouped by the label they ask for.
Nodes that cannot be listed give no warning. -/
def validateCellTopology (r : Resolver) (cells : List CellConfig) : List String :=
  let checks := cells.foldl (fun (t : Table (String × String) (List String)) cell =>
    match topologyLabel cell with
    | none => t
    | some label => t.set label ((t.get label).getD [] ++ [cell.name])) ∅
  match r.nodes with
  | .error _ => []
  | .ok nodes =>
    checks.items.flatMap fun ((key, value), cellNames) =>
      if nodes.any fun labels => labels.get key == some value then []
      else cellNames.map fun cellName =>
        "cell '" ++ cellName ++ "': no nodes currently match " ++ key ++ "=" ++ value ++
          "; pods will be Pending until matching nodes are available"

/-- `getEffectiveEtcdReplicas` and `effectiveEtcdReplicas` of the webhook -/
def effectiveEtcdReplicas (cluster : MultigresCluster) : ℤ :=
  match cluster.spec.globalTopoServer with
  | none => defaultEtcdReplicas
  | some topo =>
    if topo.external.isSome then 0
    else (topo.etcd.bind (·.replicas)).getD defaultEtcdReplicas

def etcdWarnings (cluster : MultigresCluster) : List String :=
  if effectiveEtcdReplicas cluster = 1 then
    ["etcd has 1 replica — no fault tolerance. 3 replicas is recommended for production " ++
      "(tolerates 1 failure). Note: topology server replicas cannot be changed after cluster creation"]
  else []

def orphanWarnings (r : Resolver) (shard : ShardConfig) : Except ResolveError (List String) :=
  match shard.overrides with
  | none => .ok []
  | some overrides =>
    if overrides.pools.items.isEmpty then .ok []
    else do
      let tpl ← (r.resolveShardTemplate shard.shardTemplate).mapError
        (.wrap "failed to resolve template for orphan check")
      return overrides.pools.items.filterMap fun (poolName, _) =>
        if (tpl.pools.get poolName).isSome then none
        else some ("Pool '" ++ poolName ++ "' defined in overrides for shard '" ++ shard.name ++
          "' does not exist in template '" ++
          resolvedTemplateName r.shardTemplateCache r.getShard shard.shardTemplate ++
          "'. A new pool will be created.")

/-- The poolers of a shard, and those that mount its backup volume. -/
def totalReplicas (pools : Pools) : ℤ :=
  (pools.items.map fun (_, pool) =>
    pool.replicasPerCell.getD defaultPoolReplicasPerCell * pool.cells.length).sum

def durabilityWarnings (go : GoLib) (cluster : MultigresCluster) (site : ShardSite)
    (pools : Pools) : List String :=
  match cluster.spec.mode with
  | .lite => []
  | .distributed =>
    let policy := overText (overText site.db.durabilityPolicy cluster.spec.durabilityPolicy)
      defaultDurabilityPolicy
    let cellCount := (pools.items.flatMap fun (_, pool) => pool.cells).dedup.length
    if policy = "MULTI_CELL_AT_LEAST_2" then
      if cellCount < 2 then
        ["shard '" ++ site.shard.name ++ "' spans " ++ cellCount.repr ++
          " cell(s); durability policy " ++ go.quote policy ++ " requires at least 2 distinct cells."]
      else []
    else if totalReplicas pools < 2 then
      ["shard '" ++ site.shard.name ++ "' has " ++ toString (totalReplicas pools) ++
        " total pooler(s) across " ++ cellCount.repr ++ " cell(s); durability policy " ++
        go.quote policy ++ " requires at least 2 total poolers."]
    else []

def backupWarnings (shardName : String) (resolved : ResolvedShard) : List String :=
  match resolved.backup with
  | none => []
  | some backup =>
    let accessModes := (backup.filesystem.map (·.storage.accessModes)).getD []
    if backup.type = some .filesystem ∧ "ReadWriteMany" ∉ accessModes ∧
        1 < totalReplicas resolved.pools then
      ["Shard '" ++ shardName ++ "' uses filesystem backups with ReadWriteOnce (RWO) storage but " ++
        toString (totalReplicas resolved.pools) ++ " poolers mount the shard-wide backup PVC. " ++
        "This configuration may fail when poolers are scheduled on different nodes. " ++
        "Configure ReadWriteMany (RWX) storage, ensure node affinity, or use S3 backups."]
    else []

/-! ### The whole cluster -/

section

variable (go : GoLib) (r : Resolver) (cluster : MultigresCluster)

/-- The checks of `externalGateway` and of `externalAdminWeb`. -/
def validateExternal (field service : String) (config : Option ExternalConfig) :
    Except ResolveError (List String) :=
  match config with
  | none => .ok []
  | some config =>
    if !config.enabled then .ok []
    else do
      config.externalIPs.forM fun ip =>
        if go.parseIP ip then .ok ()
        else fail (field ++ ".externalIPs contains invalid IP address: " ++ go.quote ip)
      return if config.externalIPs.isEmpty then
        [field ++ " is enabled but no externalIPs specified; endpoint resolution depends on an " ++
          "external load balancer controller provisioning an ingress address on the " ++ service ++
          " Service"]
      else []

def validateTopLevelResources : Except ResolveError Unit := do
  let check (resources : Option ResourceRequirements) (component : String) :=
    validateResourceRequirements (resources.getD {}) component
  check ((cluster.spec.globalTopoServer.bind (·.etcd)).map (·.resources)) "etcd"
  check ((cluster.spec.multiadmin.bind (·.spec)).map (·.resources)) "multiadmin"
  check ((cluster.spec.multiadminWeb.bind (·.spec)).map (·.resources)) "multiadmin-web"

/-- How the reconciler resolves a shard. -/
def shardOptions (site : ShardSite) : ResolveShardOptions where
  allCellNames := cellNames cluster
  inheritedBackup := site.inheritedBackup cluster
  materializeCellDefaults := true
  mode := cluster.spec.mode

/-- The cells of a shard are cells of the cluster, and there are some. -/
def validateShardCells (shardName : String) (resolved : ResolvedShard) :
    Except ResolveError Unit := do
  let subject (poolName : String) := "pool '" ++ poolName ++ "' in shard '" ++ shardName ++ "'"
  if resolved.multiorch.cells = [] then
    fail ("shard '" ++ shardName ++
      "' matches NO cells (check your cell names or template configuration)")
  resolved.pools.items.forM fun (poolName, pool) =>
    if pool.cells = [] then fail (subject poolName ++ " matches NO cells") else .ok ()
  resolved.multiorch.cells.forM fun c =>
    if c ∈ cellNames cluster then .ok ()
    else fail ("shard '" ++ shardName ++ "' is assigned to non-existent cell '" ++ c ++ "'")
  resolved.pools.items.forM fun (poolName, pool) => pool.cells.forM fun c =>
    if c ∈ cellNames cluster then .ok ()
    else fail (subject poolName ++ " is assigned to non-existent cell '" ++ c ++ "'")

/-- The resources and the users of a shard's containers. -/
def validateShardResources (shardName : String) (resolved : ResolvedShard) :
    Except ResolveError Unit := do
  validateResourceRequirements resolved.multiorch.resources ("shard '" ++ shardName ++ "' multiorch")
  resolved.pools.items.forM fun (poolName, pool) => do
    let subject := "shard '" ++ shardName ++ "' pool '" ++ poolName ++ "'"
    validatePoolRuntimeIdentity shardName poolName pool
    validateResourceRequirements pool.postgres.resources (subject ++ " postgres")
    validateResourceRequirements pool.multipooler.resources (subject ++ " multipooler")

/-- The loop body over the shards in `ValidateClusterLogic`. -/
def validateShard (site : ShardSite) : Except ResolveError (List String) := do
  let shard := effectiveShard cluster site.shard
  let orphans ← orphanWarnings r shard
  let resolved ← (resolveShard r shard (shardOptions cluster site)).mapError
    (.wrap ("validation failed: cannot resolve shard '" ++ shard.name ++ "'"))
  resolved.pools.items.forM fun (poolName, _) =>
    (validatePoolName poolName).mapError (.wrap ("shard '" ++ shard.name ++ "'"))
  validateShardCells cluster shard.name resolved
  validateShardResources shard.name resolved
  return orphans ++ durabilityWarnings go cluster site resolved.pools ++
    backupWarnings shard.name resolved

/-- The storage of a shard that names no class. Here the shard is resolved without the template of
the cluster, since the loop before has changed copies only. -/
def shardMissingClass (site : ShardSite) : List String :=
  match resolveShard r site.shard (shardOptions cluster site) with
  | .error _ => []
  | .ok resolved =>
    let pools := resolved.pools.items.filterMap fun (poolName, pool) =>
      if pool.storage.class_ = "" then
        some ("shard '" ++ site.shard.name ++ "' pool '" ++ poolName ++ "' storage.class")
      else none
    let backup := match resolved.backup with
      | some { type := some .filesystem, filesystem := some fs, .. } =>
        if fs.storage.class_ = "" then
          ["shard '" ++ site.shard.name ++ "' backup filesystem storage.class"]
        else []
      | _ => []
    pools ++ backup

def missingClass : List String :=
  let topo := match cluster.spec.globalTopoServer.bind (·.etcd) with
    | none => []
    | some etcd => if etcd.storage.class_ = "" then ["spec.globalTopoServer.etcd.storage.class"] else []
  topo ++ (shardSites cluster).flatMap (shardMissingClass r cluster)

def hasDefaultStorageClass : Except ResolveError Bool := do
  let classes ← r.storageClasses
  return classes.any fun annotations =>
    annotations.get "storageclass.kubernetes.io/is-default-class" == some "true" ||
      annotations.get "storageclass.beta.kubernetes.io/is-default-class" == some "true"

def missingClassError : ResolveError where
  text := "no default StorageClass found in the cluster, and no explicit storage class is set " ++
    "for: " ++ ", ".intercalate (missingClass r cluster) ++ ". PVCs will be stuck in Pending. " ++
    "Either: (1) Set a default StorageClass: kubectl annotate sc <name> " ++
    "storageclass.kubernetes.io/is-default-class=true, or (2) Set the storage class explicitly " ++
    "in the MultigresCluster spec for each component listed above"

/-- Storage that names no class needs a default one. -/
def validateStorageClasses : Except ResolveError Unit :=
  if missingClass r cluster = [] then .ok ()
  else do
    let hasDefault ← (hasDefaultStorageClass r).mapError
      (.wrap "failed to check for default StorageClass")
    if hasDefault then .ok () else .error (missingClassError r cluster)

/-- What `ValidateClusterLogic` checks before the storage classes, with its warnings. -/
def beforeStorage : Except ResolveError (List String) := do
  let gatewayWarnings ← validateExternal go "externalGateway" "global multigateway"
    cluster.spec.externalGateway
  let adminWebWarnings ← validateExternal go "externalAdminWeb" "multiadmin-web"
    cluster.spec.externalAdminWeb
  validateTopLevelResources cluster
  (validateResolvedGateways go r cluster "" "").mapError (.wrap "validation failed")
  if cluster.spec.mode = .lite then
    (validateLiteMode go r cluster).mapError (.wrap "validation failed")
  let shardWarnings ← (shardSites cluster).mapM (validateShard go r cluster)
  return validateCellTopology r cluster.spec.cells ++ etcdWarnings cluster ++ gatewayWarnings ++
    adminWebWarnings ++ shardWarnings.flatten

def validateClusterLogic : Except ResolveError (List String) := do
  let warnings ← beforeStorage go r cluster
  validateStorageClasses r cluster
  return warnings

end

/-! ### What the checks of a gateway mean -/

/-- Every resource with a limit and a request has a limit that suffices. -/
def ResourcesConsistent (resources : ResourceRequirements) : Prop :=
  ∀ name limit request, (resources.limits.getD ∅).get name = some limit →
    (resources.requests.getD ∅).get name = some request → request.amount ≤ limit.amount

theorem validateResourceRequirements_eq_ok {resources : ResourceRequirements} {component : String} :
    validateResourceRequirements resources component = .ok () ↔ ResourcesConsistent resources := by
  unfold validateResourceRequirements
  rw [Checks.forM_eq_ok]
  constructor
  · intro h name limit request hlimit hrequest
    have hcheck := h (name, limit) (Table.get_eq_some.mp hlimit)
    by_contra hlt
    simp [hrequest, not_le.mp hlt, fail] at hcheck
  · rintro h ⟨name, limit⟩ hmem
    cases hrequest : (resources.requests.getD ∅).get name with
    | none => simp [hrequest]
    | some request =>
      have := h name limit request (Table.get_eq_some.mpr hmem) hrequest
      simp [hrequest, not_lt.mpr this]

/-- What the gateway asks of a buffer that is enabled. -/
structure BufferSound (buffer : GatewayBufferConfig) : Prop where
  window : ∀ d ∈ buffer.window, 0 < d
  maxFailover : ∀ d ∈ buffer.maxFailoverDuration, 0 < d
  minTime : ∀ d ∈ buffer.minTimeBetweenFailovers, 0 ≤ d
  ordered : buffer.window.getD defaultBufferWindow ≤
    buffer.maxFailoverDuration.getD defaultBufferMaxFailoverDuration

variable {subject subjectPrefix : String} {warnings : List String}

theorem positiveDuration_eq_ok {field : String} {value : Option Duration} {default d : Duration} :
    positiveDuration subject field value default = .ok d ↔
      d = value.getD default ∧ ∀ v ∈ value, 0 < v := by
  cases value with
  | none => simp [positiveDuration, eq_comm]
  | some v =>
    unfold positiveDuration
    by_cases hv : v ≤ 0
    · simp [hv, fail, not_lt.mpr hv]
    · simp [hv, not_le.mp hv, eq_comm]

theorem nonnegativeDuration_eq_ok {field : String} {value : Option Duration} :
    nonnegativeDuration subject field value = .ok () ↔ ∀ v ∈ value, 0 ≤ v := by
  cases value with
  | none => simp [nonnegativeDuration]
  | some v =>
    unfold nonnegativeDuration
    by_cases hv : v < 0
    · simp [hv, fail, not_le.mpr hv]
    · simp [hv, not_lt.mp hv]

theorem windowWithinFailover_eq_ok {hint : String} {window maxFailover : Duration} :
    windowWithinFailover subject hint window maxFailover = .ok () ↔ window ≤ maxFailover := by
  unfold windowWithinFailover
  by_cases h : window > maxFailover
  · simp [h, fail, not_le.mpr h]
  · simp [h, not_lt.mp h]

/-- **A resolved buffer passes** iff it is disabled or sound; the subject is for the message. -/
theorem validateGatewayBuffer_eq_ok {buffer : Option GatewayBufferConfig} :
    validateGatewayBuffer buffer subject true = .ok () ↔
      ∀ b ∈ buffer, b.enabled = some false ∨ BufferSound b := by
  cases buffer with
  | none => simp [validateGatewayBuffer]
  | some b =>
    unfold validateGatewayBuffer
    by_cases henabled : b.enabled = some false
    · simp [henabled]
    · simp only [henabled, if_false, Bool.not_true, Bool.false_and, Bool.false_eq_true,
        Checks.bind_eq_ok, positiveDuration_eq_ok, windowWithinFailover_eq_ok,
        Option.mem_some_iff, forall_eq', false_or]
      constructor
      · rintro ⟨window, ⟨rfl, hwindow⟩, maxFailover, ⟨rfl, hmax⟩, ⟨⟩, hmin, hordered⟩
        exact ⟨hwindow, hmax, nonnegativeDuration_eq_ok.mp hmin, hordered⟩
      · rintro ⟨hwindow, hmax, hmin, hordered⟩
        exact ⟨_, ⟨rfl, hwindow⟩, _, ⟨rfl, hmax⟩, (), nonnegativeDuration_eq_ok.mpr hmin, hordered⟩

variable {go : GoLib} {r r' : Resolver} {cluster : MultigresCluster}

def GatewaySound (gateway : MultigatewaySpec) : Prop :=
  (∀ b ∈ gateway.buffer, b.enabled = some false ∨ BufferSound b) ∧
    ResourcesConsistent gateway.resources

def GatewayValid (go : GoLib) (r : Resolver) (cluster : MultigresCluster) (cell : CellConfig) :
    Prop :=
  ∃ resolved, resolveCell go r cluster (effectiveCell cluster cell) = .ok resolved ∧
    GatewaySound resolved.gateway

theorem validateResolvedGateway_eq_ok {cell : CellConfig} :
    validateResolvedGateway go r cluster subjectPrefix cell = .ok () ↔
      GatewayValid go r cluster cell := by
  unfold validateResolvedGateway GatewayValid GatewaySound
  simp only [Checks.bind_eq_ok, Checks.mapError_eq_ok, validateResourceRequirements_eq_ok]
  refine exists_congr fun resolved => and_congr_right fun _ => ?_
  constructor
  · rintro ⟨⟨⟩, hbuffer, hresources⟩
    exact ⟨validateGatewayBuffer_eq_ok.mp hbuffer, hresources⟩
  · rintro ⟨hbuffer, hresources⟩
    exact ⟨(), validateGatewayBuffer_eq_ok.mpr hbuffer, hresources⟩

/-- The cell takes its settings from the template of a name. -/
def ConsumesCellTemplate (cluster : MultigresCluster) (cell : CellConfig) (name : String) : Prop :=
  effectiveTemplateName (effectiveCell cluster cell).cellTemplate = name

/-- **The check of all gateways** passes iff each is valid. -/
theorem validateResolvedGateways_eq_ok :
    validateResolvedGateways go r cluster "" subjectPrefix = .ok () ↔
      ∀ cell ∈ cluster.spec.cells, GatewayValid go r cluster cell := by
  unfold validateResolvedGateways
  rw [Checks.forM_eq_ok]
  simp [validateResolvedGateway_eq_ok]

theorem validateResolvedGateways_only_eq_ok {onlyTemplate : String} (h : onlyTemplate ≠ "") :
    validateResolvedGateways go r cluster onlyTemplate subjectPrefix = .ok () ↔
      ∀ cell ∈ cluster.spec.cells, ConsumesCellTemplate cluster cell onlyTemplate →
        GatewayValid go r cluster cell := by
  unfold validateResolvedGateways ConsumesCellTemplate
  rw [Checks.forM_eq_ok]
  refine forall₂_congr fun cell _ => ?_
  by_cases hname : effectiveTemplateName (effectiveCell cluster cell).cellTemplate = onlyTemplate
  · simp [hname, validateResolvedGateway_eq_ok]
  · simp [hname, h]

/-! ### What holds of an accepted cluster -/

theorem exactlyOne_eq_ok {α : Type} {what : String} {l : List α} {a : α} :
    exactlyOne what l = .ok a ↔ l = [a] := by
  unfold exactlyOne
  split
  · simp
  · next h =>
    refine ⟨fun hfail => ?_, fun hl => absurd hl (h a)⟩
    cases hfail

/-- The parts of the check: the gateways, the Lite mode and the shards. -/
theorem validateClusterLogic_parts (h : validateClusterLogic go r cluster = .ok warnings) :
    (∀ cell ∈ cluster.spec.cells, GatewayValid go r cluster cell) ∧
      (cluster.spec.mode = .lite → validateLiteMode go r cluster = .ok ()) ∧
      ∀ site ∈ shardSites cluster, ∃ w, validateShard go r cluster site = .ok w := by
  obtain ⟨_, h, -⟩ := Checks.bind_eq_ok.mp h
  unfold beforeStorage at h
  obtain ⟨_, -, h⟩ := Checks.bind_eq_ok.mp h
  obtain ⟨_, -, h⟩ := Checks.bind_eq_ok.mp h
  obtain ⟨-, h⟩ := Checks.andThen_eq_ok.mp h
  obtain ⟨hgateways, h⟩ := Checks.andThen_eq_ok.mp h
  refine ⟨validateResolvedGateways_eq_ok.mp (Checks.mapError_eq_ok.mp hgateways), ?_⟩
  obtain ⟨hlite, h⟩ := Checks.when_eq_ok.mp h
  obtain ⟨_, hshards, -⟩ := Checks.bind_eq_ok.mp h
  exact ⟨fun hmode => Checks.mapError_eq_ok.mp (hlite hmode), Checks.exists_of_mapM hshards⟩

/-- **The pools of an accepted cluster** have names that are labels. -/
theorem validateClusterLogic_poolNames (h : validateClusterLogic go r cluster = .ok warnings)
    {site : ShardSite} (hsite : site ∈ shardSites cluster) :
    ∃ resolved,
      resolveShard r (effectiveShard cluster site.shard) (shardOptions cluster site) = .ok resolved ∧
        ∀ e ∈ resolved.pools, validatePoolName e.1 = .ok () := by
  obtain ⟨w, hshard⟩ := (validateClusterLogic_parts h).2.2 site hsite
  unfold validateShard at hshard
  obtain ⟨_, -, hshard⟩ := Checks.bind_eq_ok.mp hshard
  obtain ⟨resolved, hresolved, hshard⟩ := Checks.bind_eq_ok.mp hshard
  obtain ⟨hnames, -⟩ := Checks.andThen_eq_ok.mp hshard
  refine ⟨resolved, Checks.mapError_eq_ok.mp hresolved, fun e he => ?_⟩
  exact Checks.mapError_eq_ok.mp (Checks.forM_eq_ok.mp hnames e he)

theorem slash_notMem_of_validatePoolName {name : String} (h : validatePoolName name = .ok ()) :
    '/' ∉ name.toList := by
  unfold validatePoolName at h
  split at h
  · cases h
  · split at h
    · next hlabel =>
      simp only [isDNSLabel, Bool.and_eq_true, List.all_eq_true] at hlabel
      exact fun hslash => absurd (hlabel.1.1.1 _ hslash) (by decide)
    · cases h

end MultigresOperator.Resolution

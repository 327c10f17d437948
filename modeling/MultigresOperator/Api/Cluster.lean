import MultigresOperator.Api.Objects
import MultigresOperator.Lib.Table

/-!
# The MultigresCluster resource and its templates

The API types a user writes: the cluster and the Core, Cell and Shard templates it refers to, with
the fields that resolution, defaulting and validation read or write. A nil map or list is the empty
one, except in resource requirements, where the operator tells them apart. What is only copied
(affinities, tolerations, placements) is a document.
-/

namespace MultigresOperator.V1Alpha1

/-- What the operator copies without reading it. -/
abbrev Document := String

/-! ### Settings shared by components -/

/-- A resource quantity, in billionths of its unit, and as it prints. -/
structure Quantity where
  amount : ℤ
  text : String
  deriving DecidableEq, Repr

abbrev ResourceList := Table String Quantity

/-- `corev1.ResourceRequirements`. A missing map is not an empty one. -/
structure ResourceRequirements where
  requests : Option ResourceList := none
  limits : Option ResourceList := none
  claims : Option (List Document) := none
  deriving DecidableEq

structure StatelessSpec where
  replicas : Option ℤ := none
  resources : ResourceRequirements := {}
  affinity : Option Document := none
  podAnnotations : Table String String := ∅
  podLabels : Table String String := ∅
  deriving DecidableEq

structure StorageSpec where
  size : String := ""
  class_ : String := ""
  accessModes : List String := []
  deriving DecidableEq

structure ContainerConfig where
  resources : ResourceRequirements := {}
  runAsUser : Option ℤ := none
  runAsGroup : Option ℤ := none
  deriving DecidableEq

/-! ### Topology servers -/

/-- `autoCompactionMode`; any other text is `other`. -/
inductive CompactionMode
  | unset
  | periodic
  | revision
  | other (text : String)
  deriving DecidableEq

structure EtcdMaintenanceConfig where
  autoCompactionMode : CompactionMode := .unset
  autoCompactionRetention : String := ""
  quotaBackendBytes : Option ℤ := none
  defragmentationEnabled : Option Bool := none
  deriving DecidableEq

structure EtcdSpec where
  image : String := ""
  replicas : Option ℤ := none
  storage : StorageSpec := {}
  resources : ResourceRequirements := {}
  maintenance : Option EtcdMaintenanceConfig := none
  rootPath : List UInt8 := []
  pvcDeletionPolicy : Option PVCDeletionPolicy := none
  deriving DecidableEq

structure ExternalTopoServerSpec where
  endpoints : List String := []
  implementation : String := ""
  caSecret : String := ""
  clientCertSecret : String := ""
  rootPath : List UInt8 := []
  deriving DecidableEq

structure GlobalTopoServerSpec where
  etcd : Option EtcdSpec := none
  external : Option ExternalTopoServerSpec := none
  templateRef : String := ""
  pvcDeletionPolicy : Option PVCDeletionPolicy := none
  placement : Option Document := none
  deriving DecidableEq

structure LocalTopoServerSpec where
  etcd : Option EtcdSpec := none
  external : Option ExternalTopoServerSpec := none
  deriving DecidableEq

structure TopoServerSpec where
  etcd : Option EtcdSpec := none
  pvcDeletionPolicy : Option PVCDeletionPolicy := none
  placement : Option Document := none
  deriving DecidableEq

structure TopoTLSConfig where
  enabled : Option Bool := none
  issuerName : String := ""
  deriving DecidableEq

/-- `IsEnabled`, also of a missing configuration. -/
def topoTLSEnabled (config : Option TopoTLSConfig) : Bool := (config.bind (·.enabled)).getD false

/-! ### Gateways and cells -/

/-- A duration in nanoseconds. -/
abbrev Duration := ℤ

structure GatewayBufferConfig where
  enabled : Option Bool := none
  window : Option Duration := none
  maxFailoverDuration : Option Duration := none
  minTimeBetweenFailovers : Option Duration := none
  size : Option ℤ := none
  drainConcurrency : Option ℤ := none
  deriving DecidableEq

structure GatewayClusterViewsConfig where
  enabled : Option Bool := none
  deriving DecidableEq

structure MultigatewaySpec extends StatelessSpec where
  buffer : Option GatewayBufferConfig := none
  clusterViews : Option GatewayClusterViewsConfig := none
  deriving DecidableEq

structure CellOverrides where
  multigateway : Option MultigatewaySpec := none
  multigatewayPlacement : Option Document := none
  deriving DecidableEq

structure CellInlineSpec where
  multigateway : MultigatewaySpec := {}
  multigatewayPlacement : Option Document := none
  localTopoServer : Option LocalTopoServerSpec := none
  deriving DecidableEq

structure CellConfig where
  name : String
  zoneId : String := ""
  region : String := ""
  cellTemplate : String := ""
  overrides : Option CellOverrides := none
  spec : Option CellInlineSpec := none
  deriving DecidableEq

/-! ### Databases, table groups and shards -/

structure FilesystemBackupConfig where
  path : String := ""
  storage : StorageSpec := {}
  deriving DecidableEq

structure S3BackupConfig where
  bucket : String := ""
  region : String := ""
  endpoint : String := ""
  keyPrefix : String := ""
  useEnvCredentials : Bool := false
  credentialsSecret : String := ""
  serviceAccountName : String := ""
  deriving DecidableEq

/-- Backup settings; a missing type is the empty one. -/
structure BackupConfig where
  type : Option BackupType := none
  filesystem : Option FilesystemBackupConfig := none
  s3 : Option S3BackupConfig := none
  pgBackRestTLS : Option Document := none
  encryption : Option Document := none
  deriving DecidableEq

/-- A non-empty text wins over what is there. -/
def overText (upper lower : String) : String := if upper ≠ "" then upper else lower

def overList {α : Type} (upper lower : List α) : List α := if upper.isEmpty then lower else upper

/-- The storage settings given win, each on its own. -/
def StorageSpec.mergeOver (upper lower : StorageSpec) : StorageSpec where
  size := overText upper.size lower.size
  class_ := overText upper.class_ lower.class_
  accessModes := overList upper.accessModes lower.accessModes

/-- The filesystem settings of `MergeBackupConfig`. -/
def mergeFilesystem (child : Option FilesystemBackupConfig) (base : FilesystemBackupConfig) :
    FilesystemBackupConfig :=
  match child with
  | none => base
  | some fs => { path := overText fs.path base.path, storage := fs.storage.mergeOver base.storage }

/-- The S3 settings of `MergeBackupConfig`. -/
def mergeS3 (child : Option S3BackupConfig) (base : S3BackupConfig) : S3BackupConfig :=
  match child with
  | none => base
  | some s3 =>
    { bucket := overText s3.bucket base.bucket
      region := overText s3.region base.region
      endpoint := overText s3.endpoint base.endpoint
      keyPrefix := overText s3.keyPrefix base.keyPrefix
      useEnvCredentials := s3.useEnvCredentials
      credentialsSecret := overText s3.credentialsSecret base.credentialsSecret
      serviceAccountName := overText s3.serviceAccountName base.serviceAccountName }

/-- `MergeBackupConfig`: a child of another type replaces its parent, otherwise its settings win
one by one. -/
def mergeBackupConfig : Option BackupConfig → Option BackupConfig → Option BackupConfig
  | none, parent => parent
  | some child, none => some child
  | some child, some parent =>
    if child.type.isSome ∧ child.type ≠ parent.type then some child
    else
      let merged := { parent with type := child.type.or parent.type }
      let merged := match merged.type with
        | some .filesystem =>
          { merged with filesystem := mergeFilesystem child.filesystem (merged.filesystem.getD {}) }
        | some .s3 => { merged with s3 := mergeS3 child.s3 (merged.s3.getD {}) }
        | none => merged
      some { merged with
        pgBackRestTLS := child.pgBackRestTLS.or merged.pgBackRestTLS
        encryption := child.encryption.or merged.encryption }

inductive PoolType
  | unset
  | readWrite
  deriving DecidableEq

structure PoolSpec where
  type : PoolType := .unset
  cells : List String := []
  replicasPerCell : Option ℤ := none
  storage : StorageSpec := {}
  postgres : ContainerConfig := {}
  multipooler : ContainerConfig := {}
  affinity : Option Document := none
  tolerations : List Document := []
  fsGroup : Option ℤ := none
  pvcDeletionPolicy : Option PVCDeletionPolicy := none
  deriving DecidableEq

abbrev Pools := Table String PoolSpec

structure MultiorchSpec extends StatelessSpec where
  placement : Option Document := none
  cells : List String := []
  deriving DecidableEq

structure PostgresConfigRef where
  name : String
  key : String
  deriving DecidableEq

structure ShardOverrides where
  multiorch : Option MultiorchSpec := none
  initdbArgs : String := ""
  postgresConfigRef : Option PostgresConfigRef := none
  postgresConfig : Table String String := ∅
  pools : Pools := ∅
  deriving DecidableEq

structure ShardInlineSpec where
  multiorch : MultiorchSpec := {}
  initdbArgs : String := ""
  postgresConfigRef : Option PostgresConfigRef := none
  postgresConfig : Table String String := ∅
  pools : Pools := ∅
  pvcDeletionPolicy : Option PVCDeletionPolicy := none
  deriving DecidableEq

structure ShardConfig where
  name : String
  shardTemplate : String := ""
  overrides : Option ShardOverrides := none
  spec : Option ShardInlineSpec := none
  backup : Option BackupConfig := none
  deriving DecidableEq

structure TableGroupConfig where
  name : String
  default : Bool := false
  shards : List ShardConfig := []
  backup : Option BackupConfig := none
  pvcDeletionPolicy : Option PVCDeletionPolicy := none
  deriving DecidableEq

structure DatabaseConfig where
  name : String
  default : Bool := false
  tableGroups : List TableGroupConfig := []
  backup : Option BackupConfig := none
  durabilityPolicy : String := ""
  deriving DecidableEq

/-! ### The cluster -/

inductive ImagePullPolicy
  | unset
  | always
  | never
  | ifNotPresent
  deriving DecidableEq

inductive LogLevel
  | unset
  | debug
  | info
  | warn
  | error
  deriving DecidableEq

structure ComponentLogLevels where
  pgctld : LogLevel := .unset
  multipooler : LogLevel := .unset
  multiorch : LogLevel := .unset
  multiadmin : LogLevel := .unset
  multigateway : LogLevel := .unset
  deriving DecidableEq

structure TemplateDefaults where
  coreTemplate : String := ""
  cellTemplate : String := ""
  shardTemplate : String := ""
  deriving DecidableEq

structure MultiadminConfig where
  spec : Option StatelessSpec := none
  templateRef : String := ""
  placement : Option Document := none
  deriving DecidableEq

structure MultiadminWebConfig where
  spec : Option StatelessSpec := none
  templateRef : String := ""
  deriving DecidableEq

/-- `ExternalGatewayConfig` and `ExternalAdminWebConfig`, as far as they are validated. -/
structure ExternalConfig where
  enabled : Bool := false
  externalIPs : List String := []
  deriving DecidableEq

structure TopologyPruningConfig where
  enabled : Option Bool := none
  deriving DecidableEq

structure MultigresClusterSpec where
  mode : ShardMode := .distributed
  imagePullPolicy : ImagePullPolicy := .unset
  logLevels : ComponentLogLevels := {}
  templateDefaults : TemplateDefaults := {}
  globalTopoServer : Option GlobalTopoServerSpec := none
  multiadmin : Option MultiadminConfig := none
  multiadminWeb : Option MultiadminWebConfig := none
  cells : List CellConfig := []
  databases : List DatabaseConfig := []
  pvcDeletionPolicy : Option PVCDeletionPolicy := none
  backup : Option BackupConfig := none
  externalGateway : Option ExternalConfig := none
  externalAdminWeb : Option ExternalConfig := none
  topologyPruning : Option TopologyPruningConfig := none
  durabilityPolicy : String := ""
  topoTLS : Option TopoTLSConfig := none
  deriving DecidableEq

structure MultigresCluster where
  name : String
  «namespace» : String
  annotations : Table String String := ∅
  deletionTimestamp : Option Time := none
  spec : MultigresClusterSpec := {}
  deriving DecidableEq

/-- `EffectiveCellTemplate`: an empty reference falls back to the cluster's default. -/
def MultigresClusterSpec.effectiveCellTemplate (spec : MultigresClusterSpec) (ref : String) :
    String :=
  if ref = "" then spec.templateDefaults.cellTemplate else ref

/-! ### Templates -/

structure CoreTemplateSpec where
  globalTopoServer : Option TopoServerSpec := none
  multiadmin : Option StatelessSpec := none
  multiadminPlacement : Option Document := none
  multiadminWeb : Option StatelessSpec := none
  deriving DecidableEq

structure CellTemplateSpec where
  multigateway : Option MultigatewaySpec := none
  multigatewayPlacement : Option Document := none
  localTopoServer : Option LocalTopoServerSpec := none
  deriving DecidableEq

structure ShardTemplateSpec where
  multiorch : Option MultiorchSpec := none
  initdbArgs : String := ""
  postgresConfigRef : Option PostgresConfigRef := none
  postgresConfig : Table String String := ∅
  pools : Pools := ∅
  pvcDeletionPolicy : Option PVCDeletionPolicy := none
  deriving DecidableEq

end MultigresOperator.V1Alpha1

import MultigresOperator.PostgresConfig.Parse
import MultigresOperator.Topo.Roots

/-!
# Merging and defaulting of components

What the operator does to the settings of one component: settings of a higher level win over those
of a lower one, each on its own, and what is still missing gets a built-in default.

## Main definitions

* `ResolveError`: an error of the resolver and of the webhooks
* `GoLib`: what they use of the Go library
* `mergeStatelessSpec`, `mergeEtcdSpec`: settings laid over others
* `defaultStatelessSpec`, `defaultEtcdSpec`, `defaultExternalTopoSpec`: built-in defaults
* `effectiveCompaction`: the compaction settings of etcd, checked
-/

namespace MultigresOperator.Resolution

open V1Alpha1 Encoding

/-! ### Errors and the Go library -/

/-- An error: its text, and whether it stems from an object that was not found. -/
structure ResolveError where
  text : String
  notFound : Bool := false
  deriving DecidableEq

/-- An error in a context, `fmt.Errorf("context: %w", err)`. -/
def ResolveError.wrap (context : String) (err : ResolveError) : ResolveError :=
  { err with text := context ++ ": " ++ err.text }

/-- An error that stems from no other. -/
def fail {α : Type} (text : String) : Except ResolveError α := .error { text }

/-- What is used of the Go library. -/
structure GoLib where
  text : PostgresConfig.GoText
  sha256 : Bytes → Vector UInt8 32
  parseDuration : String → Option Duration
  parseInt : String → Option ℤ
  parseIP : String → Bool
  parseQuantity : String → Option ℤ

/-- The ASCII part of the library, with a few texts that parse. -/
def GoLib.ascii : GoLib where
  text := .ascii
  sha256 := checksum
  parseDuration s := if s = "1h" then some (3600 * 10 ^ 9) else none
  parseInt := String.toInt?
  parseIP s := s ≠ "" ∧ s.toList.all fun c => c.isDigit || c == '.'
  parseQuantity := String.toInt?

/-- The verb `%q`. -/
def GoLib.quote (go : GoLib) (s : String) : String := String.ofList (go.text.quoted s.toList)

/-- A number of `10 ^ -digits`ths without trailing zeros. -/
def decimal (value digits : ℕ) : String :=
  let fraction := (value % 10 ^ digits + 10 ^ digits).repr.toList.tail
  let shown := fraction.rdropWhile (· == '0')
  (value / 10 ^ digits).repr ++ (if shown.isEmpty then "" else "." ++ String.ofList shown)

/-- `time.Duration.String` -/
def durationText (d : Duration) : String :=
  let n := d.natAbs
  let seconds := decimal (n % (60 * 10 ^ 9)) 9 ++ "s"
  let minutes := n / (60 * 10 ^ 9)
  (if d < 0 then "-" else "") ++
    if n = 0 then "0s"
    else if n < 10 ^ 3 then n.repr ++ "ns"
    else if n < 10 ^ 6 then decimal n 3 ++ "µs"
    else if n < 10 ^ 9 then decimal n 6 ++ "ms"
    else if minutes = 0 then seconds
    else if minutes < 60 then minutes.repr ++ "m" ++ seconds
    else (minutes / 60).repr ++ "h" ++ (minutes % 60).repr ++ "m" ++ seconds

example : durationText (90 * 10 ^ 9) = "1m30s" := by decide +kernel

example : durationText (-1500000) = "-1.5ms" := by decide +kernel

/-! ### Built-in defaults -/

def defaultEtcdReplicas : ℤ := 3

def defaultAdminReplicas : ℤ := 1

def defaultMultiadminWebReplicas : ℤ := 1

def defaultPoolReplicasPerCell : ℤ := 1

/-- `FallbackCoreTemplate`, `FallbackCellTemplate` and `FallbackShardTemplate`: the template that is
used without being referred to. -/
def fallbackTemplate : String := "default"

def defaultPoolName : String := "default"

def defaultTopoImplementation : String := "etcd"

def defaultSystemDatabaseName : String := "postgres"

def defaultSystemTableGroupName : String := "default"

def defaultEtcdStorageSize : String := "1Gi"

def defaultBackupPath : String := "/backups"

def defaultBackupStorageSize : String := "10Gi"

def defaultDurabilityPolicy : String := "AT_LEAST_2"

def defaultEtcdImage : String := "gcr.io/etcd-development/etcd:v3.6.7"

/-- Thousandths of a CPU. -/
def milli (n : ℕ) : Quantity := ⟨n * 10 ^ 6, n.repr ++ "m"⟩

def mebi (n : ℕ) : Quantity := ⟨n * 2 ^ 20 * 10 ^ 9, n.repr ++ "Mi"⟩

/-- The default resources of a component: a request of CPU and memory, and a limit of memory. -/
def defaultResources (cpu memory limit : ℕ) : ResourceRequirements where
  requests := some (Table.ofList [("cpu", milli cpu), ("memory", mebi memory)])
  limits := some (Table.ofList [("memory", mebi limit)])

def defaultResourcesAdmin : ResourceRequirements := defaultResources 100 128 256

def defaultResourcesEtcd : ResourceRequirements := defaultResources 100 256 512

def defaultResourcesGateway : ResourceRequirements := defaultResources 100 128 256

def defaultResourcesOrch : ResourceRequirements := defaultResources 50 64 128

def defaultResourcesPostgres : ResourceRequirements := defaultResources 100 256 512

def defaultResourcesPooler : ResourceRequirements := defaultResources 100 128 256

def defaultResourcesAdminWeb : ResourceRequirements := defaultResources 50 64 128

/-! ### Merging -/

/-- `isResourcesZero`: nothing is given, not even an empty map. -/
def isResourcesZero (res : ResourceRequirements) : Bool :=
  res.requests.isNone && res.limits.isNone && res.claims.isNone

/-- The resources given win as a whole. -/
def overResources (upper lower : ResourceRequirements) : ResourceRequirements :=
  if isResourcesZero upper then lower else upper

def mergeStatelessSpec (base override : StatelessSpec) : StatelessSpec where
  replicas := override.replicas.or base.replicas
  resources := overResources override.resources base.resources
  affinity := override.affinity.or base.affinity
  podAnnotations := base.podAnnotations.update override.podAnnotations
  podLabels := base.podLabels.update override.podLabels

/-- `mergePodPlacementSpec` and `mergeTopoServerPlacementSpec` -/
def mergePlacementSpec (base override : Option Document) : Option Document := override.or base

/-- The maintenance settings of `mergeEtcdSpec`. -/
def mergeMaintenance (base : Option EtcdMaintenanceConfig) (m : EtcdMaintenanceConfig) :
    EtcdMaintenanceConfig :=
  let base := base.getD {}
  { autoCompactionMode :=
      if m.autoCompactionMode = .unset then base.autoCompactionMode else m.autoCompactionMode
    autoCompactionRetention := overText m.autoCompactionRetention base.autoCompactionRetention
    quotaBackendBytes := m.quotaBackendBytes.or base.quotaBackendBytes
    defragmentationEnabled := m.defragmentationEnabled.or base.defragmentationEnabled }

/-- A non-empty path wins over what is there. -/
def overPath (upper lower : Bytes) : Bytes := if upper = [] then lower else upper

def mergeEtcdSpec (base override : EtcdSpec) : EtcdSpec where
  image := overText override.image base.image
  replicas := override.replicas.or base.replicas
  storage := override.storage.mergeOver base.storage
  resources := overResources override.resources base.resources
  maintenance := match override.maintenance with
    | none => base.maintenance
    | some m => some (mergeMaintenance base.maintenance m)
  rootPath := overPath override.rootPath base.rootPath
  pvcDeletionPolicy := override.pvcDeletionPolicy.or base.pvcDeletionPolicy

/-! ### Defaulting -/

def defaultEtcdSpec (spec : EtcdSpec) (defaultRootPath : Bytes) : EtcdSpec :=
  { spec with
    image := overText spec.image defaultEtcdImage
    storage := { spec.storage with size := overText spec.storage.size defaultEtcdStorageSize }
    replicas := spec.replicas.or (some defaultEtcdReplicas)
    rootPath := overPath spec.rootPath defaultRootPath
    resources := overResources spec.resources defaultResourcesEtcd }

def defaultExternalTopoSpec (spec : ExternalTopoServerSpec) (defaultRootPath : Bytes) :
    ExternalTopoServerSpec :=
  { spec with
    implementation := overText spec.implementation defaultTopoImplementation
    rootPath := overPath spec.rootPath defaultRootPath }

def defaultStatelessSpec (spec : StatelessSpec) (defaultRes : ResourceRequirements)
    (defaultReplicas : ℤ) : StatelessSpec :=
  { spec with
    replicas := spec.replicas.or (some defaultReplicas)
    resources := overResources spec.resources defaultRes }

def defaultFilesystem (fs : FilesystemBackupConfig) : FilesystemBackupConfig where
  path := overText fs.path defaultBackupPath
  storage := { fs.storage with size := overText fs.storage.size defaultBackupStorageSize }

def defaultBackupConfig (cfg : BackupConfig) : BackupConfig :=
  let type := cfg.type.getD .filesystem
  match type with
  | .filesystem => { cfg with
      type := some type, filesystem := some (defaultFilesystem (cfg.filesystem.getD {})) }
  | .s3 => { cfg with type := some type }

/-- A retention that is a positive number of its kind. -/
def checkRetention (go : GoLib) (kind retention : String) (parse : String → Option ℤ) :
    Except ResolveError String :=
  match parse retention with
  | some n =>
    if 0 < n then .ok retention
    else fail ("invalid " ++ kind ++ " etcd compaction retention " ++ go.quote retention)
  | none => fail ("invalid " ++ kind ++ " etcd compaction retention " ++ go.quote retention)

/-- `EffectiveCompaction`: the mode and the retention. -/
def effectiveCompaction (go : GoLib) (config : Option EtcdMaintenanceConfig) :
    Except ResolveError (CompactionMode × String) :=
  let config := config.getD {}
  match config.autoCompactionMode with
  | .unset | .periodic => do
    let retention ← checkRetention go "periodic" (overText config.autoCompactionRetention "1h")
      go.parseDuration
    return (.periodic, retention)
  | .revision => do
    let retention ← checkRetention go "revision" (overText config.autoCompactionRetention "10000")
      go.parseInt
    return (.revision, retention)
  | .other text => fail ("invalid etcd compaction mode " ++ go.quote text)

end MultigresOperator.Resolution

import MultigresOperator.Api.Cluster
import MultigresOperator.PostgresConfig.Parse
import MultigresOperator.Shard.Health
import MultigresOperator.Shard.SpecHash

/-!
# The pod template of a pool

`BuildPoolPod` assembles the pod of a pool, a cell and an index from the Shard: pgctld as a native
sidecar, the multipooler and the exporter, their volumes, and annotations. The settings of PostgreSQL
are not part of the pod: it mounts the ConfigMap of the Shard, whatever that holds, and carries the
two hashes of the settings that the Shard is annotated with.

## Main definitions

* `ShardTemplate`: a Shard with the fields its pods are built from
* `buildPgctldSidecar`, `buildMultipoolerContainer`, `buildPostgresExporterContainer`,
  `buildPoolVolumes`: the parts of a pod
* `buildPoolPod`: the pod, with its spec hash
* `ShardTemplate.toShard`: the Shard the controller's steps work with

## Main results

* `desiredHash_eq_some`: when a pod can be built, and its hash
* `podNeedsUpdate_toShard`: a pod is compared with the pod that would be built
-/

namespace MultigresOperator.PodTemplate

open Encoding SpecHash PostgresConfig
open V1Alpha1 (Document)

/-! ## Kubernetes objects -/

structure KeyToPath where
  key : String
  path : String
  deriving DecidableEq, Repr

inductive VolumeSource
  | emptyDir
  | persistentVolumeClaim (claimName : String)
  | configMap (name : String) (items : List KeyToPath)
  | secret (secretName : String) (defaultMode : ℕ) (items : List KeyToPath)
  | projected (defaultMode : ℕ) (sources : List (String × List KeyToPath))
  deriving DecidableEq, Repr

structure Volume where
  name : String
  source : VolumeSource
  deriving DecidableEq, Repr

structure VolumeMount where
  name : String
  mountPath : String
  readOnly : Bool := false
  subPath : String := ""
  deriving DecidableEq, Repr

inductive ProbeHandler
  | httpGet (path : String) (port : ℕ)
  | exec (command : List String)
  deriving DecidableEq, Repr

structure Probe where
  handler : ProbeHandler
  periodSeconds : ℕ
  failureThreshold : ℕ := 0
  deriving DecidableEq, Repr

structure SecurityContext where
  runAsNonRoot : Bool
  runAsUser : Option ℤ
  runAsGroup : Option ℤ
  deriving DecidableEq, Repr

inductive FSGroupChangePolicy
  | always
  | onRootMismatch
  deriving DecidableEq, Repr

structure PodSecurityContext where
  fsGroup : ℤ
  fsGroupChangePolicy : FSGroupChangePolicy
  deriving DecidableEq, Repr

structure SecretKeySelector where
  name : String
  key : String
  deriving DecidableEq, Repr

structure PodReadinessGate where
  conditionType : String
  deriving DecidableEq, Repr

/-- The objects a pool pod is made of. No container takes its environment from elsewhere. -/
def coreKinds : Kinds where
  EnvVarSource := SecretKeySelector
  EnvFromSource := Empty
  ResourceRequirements := V1Alpha1.ResourceRequirements
  VolumeMount := VolumeMount
  SecurityContext := SecurityContext
  Probe := Probe
  ReadinessGate := PodReadinessGate
  Volume := Volume
  Affinity := Document
  Toleration := Document
  PodSecurityContext := PodSecurityContext

/-! ## The Shard -/

structure GlobalTopoServerRef where
  address : String
  rootPath : String
  caSecret : String := ""
  clientCertSecret : String := ""

structure PostgresPasswordSecretRef where
  name : String
  key : String

structure PostgresInitSecretsRef where
  name : String
  key : String := ""

structure PostgresSecretMount where
  name : String
  mountPath : String
  key : String := ""

/-- A Shard with the fields its pods are built from. `view` has the fields the steps of the
controller read. -/
structure ShardTemplate where
  view : Shard
  ns : String
  annotations : Table String String := ∅
  pools : Table String V1Alpha1.PoolSpec
  postgresImage : String := ""
  multipoolerImage : String := ""
  globalTopoServer : GlobalTopoServerRef
  pgctldLogLevel : String := ""
  multipoolerLogLevel : String := ""
  backup : Option V1Alpha1.BackupConfig := none
  initdbArgs : String := ""
  postgresSuperuser : String := ""
  postgresPasswordSecretRef : PostgresPasswordSecretRef
  postgresInitSecretsRef : Option PostgresInitSecretsRef := none
  postgresMountsSecretRef : List PostgresSecretMount := []
  internalTLS : Option Bool := none
  observability : Option Document := none
  cellTopologyLabels : String → StringMap := fun _ => ⟨[], .nil⟩
  postgresConfig : Table Str Str := ∅
  postgresConfigRef : Option V1Alpha1.PostgresConfigRef := none

/-- What the builders ask of other packages: the OTEL variables of a component, for the project and
the cluster it belongs to; the Secret or ConfigMap an opaque object names; and whether the Shard can
be made the owner of a pod. -/
structure Externals where
  otelEnvVars : Option Document → String → String → String → List (EnvVar coreKinds)
  samplingConfigMap : Document → Option String
  pgBackRestTLSSecret : Document → String
  encryptionSecret : Document → String
  setControllerReference : String → ℕ → Except String Unit

/-- Elements that are there under a condition. -/
def includeIf {α : Type} (c : Bool) (l : List α) : List α := if c then l else []

/-! ## Volumes and mounts -/

def poolerDirMountPath : String := "/var/lib/pooler"

def pgDataPath : String := "/var/lib/pooler/pg_data"

def postgresSocketDir : String := poolerDirMountPath ++ "/pg_sockets"

def postgresSocketPath : String := postgresSocketDir ++ "/.s.PGSQL.5432"

def pgHbaMountPath : String := "/etc/pgctld"

def postgresConfigMountPath : String := "/etc/pgctld/postgres-config"

def postgresPasswordMountPath : String := "/etc/postgres-password"

def postgresPasswordFilePath : String := postgresPasswordMountPath ++ "/password"

def postgresInitSecretsMountPath : String := "/etc/postgres-init-secrets"

def pgBackRestCertMountPath : String := "/certs/pgbackrest"

def pgBackRestCipherKeyMountPath : String := "/secrets/pgbackrest-cipher"

def shardTLSMountPath : String := "/etc/multigres/tls"

def postgresExporterQueriesMountPath : String := "/etc/postgres-exporter"

def topoClientTLSMountPath : String := "/etc/multigres/topo-client-tls"

def otelSamplingMountPath : String := "/etc/otel"

def pgHbaConfigMapName (shardName : String) : String := shardName ++ "-pg-hba"

def postgresConfigMapName (shardName : String) : String := shardName ++ "-postgres-config"

def postgresExporterQueriesConfigMapName (shardName : String) : String :=
  shardName ++ "-exporter-queries"

def componentCertSecretName (component clusterName ns : String) : String :=
  if component = "" ∨ clusterName = "" ∨ ns = "" then ""
  else component ++ "." ++ clusterName ++ "." ++ ns ++ ".multigres.internal"

namespace ShardTemplate

variable (shard : ShardTemplate)

def initSecretsConfigured : Bool := shard.postgresInitSecretsRef.any (·.name ≠ "")

def shardTLSConfigured : Bool := shard.internalTLS = some true

def topoClientTLSConfigured : Bool :=
  shard.globalTopoServer.clientCertSecret ≠ "" && shard.globalTopoServer.caSecret ≠ ""

def encryptionConfigured : Bool := shard.backup.any (·.encryption.isSome)

end ShardTemplate

variable (ext : Externals) (shard : ShardTemplate)

def buildSharedBackupVolume : Volume :=
  ⟨"backup-data",
    if shard.backup.any (·.type = some .filesystem) then
      .persistentVolumeClaim (buildSharedBackupPVCName shard.view)
    else .emptyDir⟩

def buildSocketDirVolume : Volume := ⟨"socket-dir", .emptyDir⟩

def buildPgHbaVolume : Volume :=
  ⟨"pg-hba-template", .configMap (pgHbaConfigMapName shard.view.name) []⟩

def buildPostgresPasswordVolume : Volume :=
  ⟨"postgres-password", .secret shard.postgresPasswordSecretRef.name 0o444
    [⟨shard.postgresPasswordSecretRef.key, "password"⟩]⟩

/-- `buildPostgresConfigVolume`: the ConfigMap of the Shard, whatever it holds. -/
def buildPostgresConfigVolume : Volume :=
  ⟨"postgres-config", .configMap (postgresConfigMapName shard.view.name)
    [⟨"postgresql.conf", "postgresql.conf"⟩]⟩

def buildPostgresExporterQueriesVolume : Volume :=
  ⟨"postgres-exporter-queries", .configMap (postgresExporterQueriesConfigMapName shard.view.name) []⟩

def buildPostgresInitSecretsVolume : Option Volume :=
  if shard.initSecretsConfigured then
    shard.postgresInitSecretsRef.map fun ref =>
      ⟨"postgres-init-secrets", .secret ref.name 0o444
        [⟨if ref.key = "" then "init-secrets.json" else ref.key, "init-secrets.json"⟩]⟩
  else none

def postgresMountVolumeName (i : ℕ) : String := "postgres-mounts-" ++ toString i

def buildPostgresMountsVolumes : List Volume :=
  shard.postgresMountsSecretRef.mapIdx fun i m =>
    ⟨postgresMountVolumeName i, .secret m.name 0o444 (if m.key = "" then [] else [⟨m.key, m.key⟩])⟩

def buildPostgresMountsVolumeMounts : List VolumeMount :=
  shard.postgresMountsSecretRef.mapIdx fun i m =>
    { name := postgresMountVolumeName i, mountPath := m.mountPath, readOnly := true, subPath := m.key }

def buildPgBackRestCertVolume : Option Volume :=
  shard.backup.map fun backup =>
    let provided := backup.pgBackRestTLS.elim "" ext.pgBackRestTLSSecret
    ⟨"pgbackrest-certs", .projected 0o440
      (if provided ≠ "" then
        [(provided, [⟨"ca.crt", "ca.crt"⟩, ⟨"tls.crt", "pgbackrest.crt"⟩,
          ⟨"tls.key", "pgbackrest.key"⟩])]
      else
        [(shard.view.name ++ "-pgbackrest-ca", [⟨"ca.crt", "ca.crt"⟩]),
          (shard.view.name ++ "-pgbackrest-tls",
            [⟨"tls.crt", "pgbackrest.crt"⟩, ⟨"tls.key", "pgbackrest.key"⟩])])⟩

def buildPgBackRestCipherKeyVolume : Option Volume :=
  (shard.backup.bind (·.encryption)).map fun encryption =>
    ⟨"pgbackrest-cipher", .secret (ext.encryptionSecret encryption) 0o444 []⟩

def buildShardTLSVolume (component : String) : Volume :=
  ⟨"tls-certs",
    .secret (componentCertSecretName component shard.view.clusterName shard.ns) 0o444 []⟩

def buildTopoClientTLSVolume : Volume :=
  ⟨"topo-client-tls", .projected 0o444
    [(shard.globalTopoServer.clientCertSecret, [⟨"tls.crt", "tls.crt"⟩, ⟨"tls.key", "tls.key"⟩]),
      (shard.globalTopoServer.caSecret, [⟨"ca.crt", "ca.crt"⟩])]⟩

def samplingConfigMap : Option String := shard.observability.bind ext.samplingConfigMap

def buildOTELSamplingVolume : Option Volume :=
  (samplingConfigMap ext shard).map fun name => ⟨"otel-sampling-config", .configMap name []⟩

def otelSamplingVolumeMount : Option VolumeMount :=
  (samplingConfigMap ext shard).map fun _ =>
    { name := "otel-sampling-config", mountPath := otelSamplingMountPath, readOnly := true }

def buildPoolVolumes : List Volume :=
  [buildSharedBackupVolume shard, buildSocketDirVolume, buildPgHbaVolume shard,
    buildPostgresPasswordVolume shard, buildPostgresConfigVolume shard,
    buildPostgresExporterQueriesVolume shard] ++
  (buildPostgresInitSecretsVolume shard).toList ++
  buildPostgresMountsVolumes shard ++
  (buildPgBackRestCertVolume ext shard).toList ++
  (buildPgBackRestCipherKeyVolume ext shard).toList ++
  includeIf shard.shardTLSConfigured [buildShardTLSVolume shard "multipooler"] ++
  includeIf shard.topoClientTLSConfigured [buildTopoClientTLSVolume shard] ++
  (buildOTELSamplingVolume ext shard).toList

def postgresPasswordVolumeMount : VolumeMount :=
  { name := "postgres-password", mountPath := postgresPasswordMountPath, readOnly := true }

def postgresInitSecretsVolumeMount : VolumeMount :=
  { name := "postgres-init-secrets", mountPath := postgresInitSecretsMountPath, readOnly := true }

def pgBackRestCertVolumeMount : VolumeMount :=
  { name := "pgbackrest-certs", mountPath := pgBackRestCertMountPath, readOnly := true }

def pgBackRestCipherKeyVolumeMount : VolumeMount :=
  { name := "pgbackrest-cipher", mountPath := pgBackRestCipherKeyMountPath, readOnly := true }

def shardTLSVolumeMount : VolumeMount :=
  { name := "tls-certs", mountPath := shardTLSMountPath, readOnly := true }

def topoClientTLSVolumeMount : VolumeMount :=
  { name := "topo-client-tls", mountPath := topoClientTLSMountPath, readOnly := true }

/-! ## Identities -/

def buildContainerSecurityContext (runAsUser runAsGroup : Option ℤ) : SecurityContext :=
  ⟨true, runAsUser, runAsGroup⟩

def effectivePgctldIdentity (config : V1Alpha1.ContainerConfig) : Option ℤ × Option ℤ :=
  (config.runAsUser.or (some 999), config.runAsGroup.or (some 999))

/-- `effectiveMultipoolerIdentity`: both containers access the data directory, so the user of
PostgreSQL is taken where none is set. -/
def effectiveMultipoolerIdentity (pool : V1Alpha1.PoolSpec) : Option ℤ × Option ℤ :=
  ((pool.multipooler.runAsUser.or pool.postgres.runAsUser).or (some 999),
    pool.multipooler.runAsGroup.or (some 999))

def buildPgctldSecurityContext (config : V1Alpha1.ContainerConfig) : SecurityContext :=
  buildContainerSecurityContext (effectivePgctldIdentity config).1 (effectivePgctldIdentity config).2

def buildMultipoolerSecurityContext (pool : V1Alpha1.PoolSpec) : SecurityContext :=
  buildContainerSecurityContext (effectiveMultipoolerIdentity pool).1
    (effectiveMultipoolerIdentity pool).2

def buildPoolPodSecurityContext (pool : V1Alpha1.PoolSpec) : Option PodSecurityContext :=
  pool.fsGroup.map fun fsGroup => ⟨fsGroup, .onRootMismatch⟩

def validatePoolRuntimeIdentity (pool : V1Alpha1.PoolSpec) : Except String Unit :=
  match pool.multipooler.runAsUser, pool.postgres.runAsUser with
  | none, _ => .ok ()
  | some multipooler, none =>
    .error ("multipooler runAsUser " ++ toString multipooler ++
      " requires matching postgres runAsUser because both access PGDATA")
  | some multipooler, some postgres =>
    if postgres ≠ multipooler then
      .error ("postgres runAsUser " ++ toString postgres ++ " and multipooler runAsUser " ++
        toString multipooler ++ " must match because both access PGDATA")
    else .ok ()

/-! ## Containers -/

def envVar (name value : String) : EnvVar coreKinds := ⟨utf8 name, utf8 value, none⟩

def postgresSuperuserOrDefault (user : String) : String := if user = "" then "postgres" else user

def pgUserEnvVar (user : String) : EnvVar coreKinds :=
  envVar "POSTGRES_USER" (postgresSuperuserOrDefault user)

def pgPasswordFileEnvVar : EnvVar coreKinds :=
  envVar "POSTGRES_PASSWORD_FILE" postgresPasswordFilePath

def pgInitSecretsFileEnvVar : EnvVar coreKinds :=
  envVar "POSTGRES_INIT_SECRETS_FILE" (postgresInitSecretsMountPath ++ "/init-secrets.json")

/-- A variable with the value a Secret has under the variable's own name. -/
def secretEnvVar (name secret : String) : EnvVar coreKinds :=
  ⟨utf8 name, [], some (⟨secret, name⟩ : SecretKeySelector)⟩

def s3EnvVars : Option V1Alpha1.BackupConfig → List (EnvVar coreKinds)
  | none => []
  | some backup =>
    match backup.type, backup.s3 with
    | some .s3, some s3 =>
      includeIf (s3.region ≠ "") [envVar "AWS_REGION" s3.region] ++
      includeIf (s3.credentialsSecret ≠ "")
        [secretEnvVar "AWS_ACCESS_KEY_ID" s3.credentialsSecret,
          secretEnvVar "AWS_SECRET_ACCESS_KEY" s3.credentialsSecret]
    | _, _ => []

def resolveProjectRef (annotations : Table String String) (clusterName : String) : String :=
  match annotations.get "multigres.com/project-ref" with
  | none => clusterName
  | some ref => if ref ≠ "" then ref else clusterName

def buildRuntimeOTELEnvVars (component : String) : List (EnvVar coreKinds) :=
  ext.otelEnvVars shard.observability (resolveProjectRef shard.annotations shard.view.clusterName)
    shard.view.clusterName component

def httpProbe (path : String) (port periodSeconds : ℕ) (failureThreshold : ℕ) : Probe :=
  ⟨.httpGet path port, periodSeconds, failureThreshold⟩

def imageOr (image default : String) : Bytes := utf8 (if image ≠ "" then image else default)

def defaultPostgresImage : String :=
  "ghcr.io/multigres/pgctld@sha256:35aae41955f63341961cdf60501e81ac318bf5197aa686a8eaf4f52316d19d96"

def defaultMultipoolerImage : String :=
  "ghcr.io/multigres/multigres@sha256:3cae02b4fcd52ab80e2e25c593fce6998bd56e877317bb68a003a44cf4644bd5"

def defaultPostgresExporterImage : String := "quay.io/prometheuscommunity/postgres-exporter:v0.20.1"

def buildPgctldSidecar (pool : V1Alpha1.PoolSpec) : Container coreKinds where
  name := utf8 "postgres"
  image := imageOr shard.postgresImage defaultPostgresImage
  command := [utf8 "/usr/local/bin/pgctld"]
  args := List.map utf8 <|
    ["server", "--pooler-dir=" ++ poolerDirMountPath, "--grpc-port=15470", "--pg-port=5432",
      "--pg-listen-addresses=*", "--log-level=" ++ shard.pgctldLogLevel,
      "--grpc-socket-file=" ++ poolerDirMountPath ++ "/pgctld.sock",
      "--pg-hba-template=" ++ pgHbaMountPath ++ "/pg_hba_template.conf", "--http-port=15400"] ++
    includeIf shard.backup.isSome
      ["--pgbackrest-cert-dir=" ++ pgBackRestCertMountPath, "--pgbackrest-port=8432"]
  env :=
    [envVar "PGDATA" pgDataPath, pgUserEnvVar shard.postgresSuperuser, pgPasswordFileEnvVar] ++
    includeIf (shard.initdbArgs ≠ "") [envVar "POSTGRES_INITDB_ARGS" shard.initdbArgs] ++
    includeIf shard.initSecretsConfigured [pgInitSecretsFileEnvVar] ++
    [envVar "POSTGRES_INITDB_EXTRA_CONF" (postgresConfigMountPath ++ "/postgresql.conf")] ++
    s3EnvVars shard.backup ++
    buildRuntimeOTELEnvVars ext shard "pgctld"
  envFrom := []
  resources := pool.postgres.resources
  volumeMounts :=
    [{ name := "pgdata", mountPath := poolerDirMountPath },
      { name := "backup-data", mountPath := "/backups" },
      { name := "socket-dir", mountPath := "/var/run/postgresql" },
      { name := "pg-hba-template", mountPath := pgHbaMountPath, readOnly := true },
      postgresPasswordVolumeMount,
      { name := "postgres-config", mountPath := postgresConfigMountPath, readOnly := true }] ++
    includeIf shard.backup.isSome [pgBackRestCertVolumeMount] ++
    includeIf shard.initSecretsConfigured [postgresInitSecretsVolumeMount] ++
    buildPostgresMountsVolumeMounts shard ++
    (otelSamplingVolumeMount ext shard).toList
  securityContext := some (buildPgctldSecurityContext pool.postgres)
  startupProbe := some (httpProbe "/live" 15400 5 30)
  livenessProbe := some (httpProbe "/live" 15400 10 0)
  readinessProbe := some
    { handler := .exec ["pg_isready", "-h", postgresSocketDir, "-p", "5432"], periodSeconds := 5 }

def buildPoolServiceID (podName : String) : String := "p-" ++ String.ofList (nameHash [podName])

def buildMultipoolerContainer (pool : V1Alpha1.PoolSpec) (cellName serviceID : String) :
    Container coreKinds where
  name := utf8 "multipooler"
  image := imageOr shard.multipoolerImage defaultMultipoolerImage
  command := []
  args := List.map utf8 <|
    ["multipooler", "--http-port=15200", "--grpc-port=15270", "--pooler-dir=" ++ poolerDirMountPath,
      "--socket-file=" ++ postgresSocketPath, "--service-map=grpc-pooler",
      "--topo-global-server-addresses=" ++ shard.globalTopoServer.address,
      "--topo-global-root=" ++ shard.globalTopoServer.rootPath, "--cell=" ++ cellName,
      "--database=" ++ shard.view.spec.databaseName,
      "--table-group=" ++ shard.view.spec.tableGroupName, "--shard=" ++ shard.view.spec.shardName,
      "--service-id=" ++ serviceID, "--pgctld-addr=localhost:15470", "--pg-port=5432",
      "--log-level=" ++ shard.multipoolerLogLevel,
      "--grpc-server-keepalive-enforcement-policy-permit-without-stream=true"] ++
    includeIf shard.backup.isSome
      ["--pgbackrest-cert-file=" ++ pgBackRestCertMountPath ++ "/pgbackrest.crt",
        "--pgbackrest-key-file=" ++ pgBackRestCertMountPath ++ "/pgbackrest.key",
        "--pgbackrest-ca-file=" ++ pgBackRestCertMountPath ++ "/ca.crt"] ++
    includeIf shard.shardTLSConfigured
      ["--grpc-cert", shardTLSMountPath ++ "/tls.crt", "--grpc-key", shardTLSMountPath ++ "/tls.key",
        "--grpc-ca", shardTLSMountPath ++ "/ca.crt", "--grpc-server-ca",
        shardTLSMountPath ++ "/ca.crt"] ++
    includeIf shard.topoClientTLSConfigured
      ["--topo-etcd-tls-cert", topoClientTLSMountPath ++ "/tls.crt", "--topo-etcd-tls-key",
        topoClientTLSMountPath ++ "/tls.key", "--topo-etcd-tls-ca",
        topoClientTLSMountPath ++ "/ca.crt"] ++
    includeIf shard.encryptionConfigured
      ["--pgbackrest-cipher-key-file=" ++ pgBackRestCipherKeyMountPath ++ "/keys.json"]
  env :=
    [envVar "PGDATA" pgDataPath, pgUserEnvVar shard.postgresSuperuser, pgPasswordFileEnvVar] ++
    s3EnvVars shard.backup ++
    buildRuntimeOTELEnvVars ext shard "multipooler"
  envFrom := []
  resources := pool.multipooler.resources
  volumeMounts :=
    [{ name := "pgdata", mountPath := poolerDirMountPath },
      { name := "backup-data", mountPath := "/backups" },
      { name := "socket-dir", mountPath := "/var/run/postgresql" },
      postgresPasswordVolumeMount] ++
    includeIf shard.backup.isSome [pgBackRestCertVolumeMount] ++
    includeIf shard.encryptionConfigured [pgBackRestCipherKeyVolumeMount] ++
    includeIf shard.shardTLSConfigured [shardTLSVolumeMount] ++
    includeIf shard.topoClientTLSConfigured [topoClientTLSVolumeMount] ++
    (otelSamplingVolumeMount ext shard).toList
  securityContext := some (buildMultipoolerSecurityContext pool)
  startupProbe := some (httpProbe "/live" 15200 5 30)
  livenessProbe := some (httpProbe "/live" 15200 10 0)
  readinessProbe := some (httpProbe "/ready" 15200 5 0)

def buildPostgresExporterContainer : Container coreKinds where
  name := utf8 "postgres-exporter"
  image := utf8 defaultPostgresExporterImage
  command := []
  args := List.map utf8
    ["--web.listen-address=:9187",
      "--extend.query-path=" ++ postgresExporterQueriesMountPath ++ "/queries.yml"]
  env :=
    [envVar "DATA_SOURCE_URI"
        "localhost:5432/postgres?sslmode=disable&connect_timeout=5&options=-c%20statement_timeout%3D8s",
      envVar "DATA_SOURCE_USER" (postgresSuperuserOrDefault shard.postgresSuperuser),
      envVar "DATA_SOURCE_PASS_FILE" postgresPasswordFilePath]
  envFrom := []
  resources := {}
  volumeMounts :=
    [postgresPasswordVolumeMount,
      { name := "postgres-exporter-queries", mountPath := postgresExporterQueriesMountPath,
        readOnly := true }]
  securityContext := some (buildContainerSecurityContext (some 999) (some 999))
  startupProbe := none
  livenessProbe := none
  readinessProbe := none

/-! ## The pod -/

def buildHeadlessServiceName (poolName cellName : String) : String :=
  joinWithConstraints serviceConstraints (poolNameParts shard.view poolName cellName ++ ["headless"])

def specHashKey : String := "multigres.com/spec-hash"

def postgresConfigHashKey : String := "multigres.com/postgres-config-hash"

def postgresReloadHashKey : String := "multigres.com/postgres-reload-hash"

/-- The value a Go map gives for a key. -/
def valueOf (t : Table String String) (key : String) : String := (t.get key).getD ""

/-- An annotation of the Shard that is copied to the pod, unless it is empty. -/
def copyAnnotations (key : String) (t : Table String String) : Table String String :=
  if valueOf shard.annotations key ≠ "" then t.set key (valueOf shard.annotations key) else t

/-- The annotations of a pool pod before its spec is hashed. -/
def poolPodAnnotations : Table String String :=
  copyAnnotations shard postgresReloadHashKey <|
  copyAnnotations shard postgresConfigHashKey <|
  Table.ofList
    [(specHashKey, ""),
      ("multigres.com/project-ref",
        resolveProjectRef shard.annotations shard.view.clusterName),
      ("prometheus.io/scrape", "true"), ("prometheus.io/port", "9187"),
      ("prometheus.io/path", "/metrics")]

def multipoolerOfPod (poolName cellName : String) (pool : V1Alpha1.PoolSpec) (index : ℕ) :
    Container coreKinds :=
  let podName := buildPoolPodName shard.view poolName cellName index
  let multipooler :=
    buildMultipoolerContainer ext shard pool cellName (buildPoolServiceID podName)
  { multipooler with
    args := multipooler.args ++ [utf8 ("--hostname=" ++ podName ++ "." ++
      buildHeadlessServiceName shard poolName cellName ++ "." ++ shard.ns ++ ".svc.cluster.local")] }

/-- The hashed fields of a pool pod. -/
def poolPodSpec (poolName cellName : String) (pool : V1Alpha1.PoolSpec) (index : ℕ) :
    PodSpec coreKinds where
  initContainers := [buildPgctldSidecar ext shard pool]
  containers := [multipoolerOfPod ext shard poolName cellName pool index,
    buildPostgresExporterContainer shard]
  readinessGates := [(⟨"multigres.com/pooler-data-ready"⟩ : PodReadinessGate)]
  volumes :=
    (⟨"pgdata", .persistentVolumeClaim (buildPoolDataPVCName shard.view poolName cellName index)⟩ :
      Volume) :: buildPoolVolumes ext shard
  affinity := pool.affinity
  tolerations := pool.tolerations
  nodeSelector := shard.cellTopologyLabels cellName
  terminationGracePeriodSeconds := some 30
  priorityClassName := []
  serviceAccountName := utf8 ((shard.backup.bind (·.s3)).elim "" (·.serviceAccountName))
  securityContext := buildPoolPodSecurityContext pool
  postgresConfigHash := utf8 (valueOf (poolPodAnnotations shard) postgresConfigHashKey)

structure BuiltPod where
  name : String
  labels : Labels
  annotations : Table String String
  spec : PodSpec coreKinds
  subdomain : String

variable (J : Codec coreKinds)

def buildPoolPod (poolName cellName : String) (pool : V1Alpha1.PoolSpec) (index : ℕ) :
    Except String BuiltPod := do
  validatePoolRuntimeIdentity pool
  let spec := poolPodSpec ext shard poolName cellName pool index
  ext.setControllerReference shard.view.name shard.view.uid
    |>.mapError ("failed to set controller reference: " ++ ·)
  pure
    { name := buildPoolPodName shard.view poolName cellName index
      labels := buildPoolLabelsWithCell shard.view poolName cellName
      annotations := (poolPodAnnotations shard).set specHashKey (computeSpecHash J spec)
      spec := spec
      subdomain := buildHeadlessServiceName shard poolName cellName }

/-- The spec hash of the pod that is built, `ComputeSpecHash(desired)`. -/
def desiredHash (poolName cellName : String) (index : ℕ) : Option String :=
  (shard.pools.get poolName).bind fun pool =>
    (buildPoolPod ext shard J poolName cellName pool index).toOption.map fun pod =>
      computeSpecHash J pod.spec

/-- The Shard the steps of the controller work with. -/
def ShardTemplate.toShard : Shard :=
  { shard.view with
    spec := { shard.view.spec with podHash := fun pool cell i => desiredHash ext shard J pool cell i } }

variable {ext shard J} {poolName cellName hash : String} {index : ℕ}

theorem desiredHash_eq_some :
    desiredHash ext shard J poolName cellName index = some hash ↔
      ∃ pool, shard.pools.get poolName = some pool ∧ validatePoolRuntimeIdentity pool = .ok () ∧
        ext.setControllerReference shard.view.name shard.view.uid = .ok () ∧
        computeSpecHash J (poolPodSpec ext shard poolName cellName pool index) = hash := by
  rw [desiredHash, Option.bind_eq_some_iff]
  refine exists_congr fun pool => and_congr_right fun _ => ?_
  unfold buildPoolPod
  cases hvalidate : validatePoolRuntimeIdentity pool with
  | error err => simp [Except.toOption, bind, Except.bind]
  | ok _ =>
    cases howner : ext.setControllerReference shard.view.name shard.view.uid with
    | error err => simp [Except.toOption, bind, Except.bind, Except.mapError]
    | ok _ => simp [Except.toOption, bind, Except.bind, Except.mapError, pure, Except.pure]

theorem podNeedsUpdate_toShard {pod : Pod} (hterm : pod.terminating = false)
    (hcarries : pod.specHash = some hash) {hash' : String}
    (hbuilt : desiredHash ext shard J poolName cellName index = some hash') :
    podNeedsUpdate pod (shard.toShard ext J) poolName cellName index = (hash != hash') := by
  unfold podNeedsUpdate
  rw [hterm, hcarries]
  simp [ShardTemplate.toShard, hbuilt]

end MultigresOperator.PodTemplate

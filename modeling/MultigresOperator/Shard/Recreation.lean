import MultigresOperator.Lib.Checks
import MultigresOperator.PostgresConfig.Hashes
import MultigresOperator.Shard.PodTemplate

/-!
# Restart and reload of pods

The settings of PostgreSQL of a Shard are rendered into a ConfigMap, and the Shard is annotated with
two hashes of them. Of the two only the one over the settings that need a restart enters the hash of
the pod spec. A change of the settings a reload applies therefore leaves the pods alone, and any
other change replaces them.

## Main results

* `podSpec_reconfigured`: the settings reach the hashed fields as one annotation only
* `restartHash_eq_iff`: the restart hash stands for the settings that need a restart
* `restart_settings_decide_recreation`: a pod is recreated exactly for a change that needs a restart
-/

namespace MultigresOperator.PodTemplate

open Encoding SpecHash PostgresConfig

variable (ext : Externals) (shard : ShardTemplate) (J : Codec coreKinds)

/-! ## The settings of PostgreSQL -/

/-- `shardClusterName`: the parts of the Shard's identity that are set, or the name of the object. -/
def shardClusterName : String :=
  let parts := [shard.view.clusterName, shard.view.spec.databaseName,
    shard.view.spec.tableGroupName, shard.view.spec.shardName].filter (· ≠ "")
  if parts = [] then shard.view.name else "/".intercalate parts

section

variable (go : GoText) (catalog : Catalog) (sha256 : Bytes → Vector UInt8 32)
  (sizing : Table String V1Alpha1.PoolSpec → Config → Except Str Config)
  (getConfigMap : String → Except Str (Table String Str))

def postgresConfigRefContent (ref : V1Alpha1.PostgresConfigRef) : Except Str Str := do
  let data ← (getConfigMap ref.name).mapError fun err =>
    chars "failed to get ConfigMap " ++ go.quoted ref.name.toList ++ chars ": " ++ err
  match data.get ref.key with
  | none => .error (chars "key " ++ go.quoted ref.key.toList ++ chars " not found in ConfigMap " ++
      go.quoted ref.name.toList)
  | some body => pure body

/-- The rendered settings of a Shard, without the marker. -/
def renderedFile : Except Str Str := do
  let refContent ← match shard.postgresConfigRef with
    | none => pure []
    | some ref => postgresConfigRefContent go getConfigMap ref
  let cfg ← sizing shard.pools { defaults with clusterName := shardClusterName shard }
  pure (render cfg refContent shard.postgresConfig)

def renderEffectiveConfig : Except Str (Str × ConfigSplit) :=
  (renderedFile shard go sizing getConfigMap).map (stampAndSplit go catalog sha256)

end

def stamped (split : ConfigSplit) : ShardTemplate :=
  { shard with
    annotations := (shard.annotations.set postgresConfigHashKey (String.ofList split.restartHash)).set
      postgresReloadHashKey (String.ofList split.reloadHash) }

/-- `reconcilePostgresConfig`: the file is delivered, then the Shard is stamped. -/
def reconcilePostgresConfig (applyPostgresConfigMap : Str → Except Str Unit)
    (cfg : Except Str (Str × ConfigSplit)) : Except Str ShardTemplate := do
  let (content, split) ← cfg
  applyPostgresConfigMap content
  pure (stamped shard split)

variable {ext shard J}

theorem resolveProjectRef_stamped (split : ConfigSplit) (clusterName : String) :
    resolveProjectRef (stamped shard split).annotations clusterName =
      resolveProjectRef shard.annotations clusterName := by
  rw [resolveProjectRef, stamped, Table.get_set, if_neg (by decide), Table.get_set,
    if_neg (by decide), resolveProjectRef]

theorem hashSettings_ne_nil (sha256 : Bytes → Vector UInt8 32) (m : Table Str Str) :
    hashSettings sha256 m ≠ [] := by
  intro h
  have hlength := congrArg List.length h
  simp [hashSettings, hexText, hexByte] at hlength

theorem valueOf_poolPodAnnotations (key : String) (hkey : key ≠ postgresReloadHashKey)
    (t : Table String String) :
    valueOf (copyAnnotations shard postgresReloadHashKey t) key = valueOf t key := by
  unfold copyAnnotations
  split
  · rw [valueOf, Table.get_set, if_neg hkey, valueOf]
  · rfl

theorem configHash_stamped {split : ConfigSplit} (hne : split.restartHash ≠ []) :
    valueOf (poolPodAnnotations (stamped shard split)) postgresConfigHashKey =
      String.ofList split.restartHash := by
  have hvalue : valueOf (stamped shard split).annotations postgresConfigHashKey =
      String.ofList split.restartHash := by
    rw [valueOf, stamped, Table.get_set, if_neg (by decide), Table.get_set, if_pos rfl,
      Option.getD_some]
  have hset : String.ofList split.restartHash ≠ "" := by
    rwa [ne_eq, String.ofList_eq_empty_iff]
  rw [poolPodAnnotations, valueOf_poolPodAnnotations _ (by decide), copyAnnotations,
    if_pos (hvalue.symm ▸ hset), hvalue, valueOf, Table.get_set, if_pos rfl, Option.getD_some]

/-- Other settings, and the hashes that come with them. -/
abbrev reconfigured (shard : ShardTemplate) (config : Table Str Str)
    (ref : Option V1Alpha1.PostgresConfigRef) (split : ConfigSplit) : ShardTemplate :=
  stamped { shard with postgresConfig := config, postgresConfigRef := ref } split

section

variable (config : Table Str Str) (ref : Option V1Alpha1.PostgresConfigRef) (split : ConfigSplit)

theorem otelEnvVars_reconfigured (component : String) :
    buildRuntimeOTELEnvVars ext (reconfigured shard config ref split) component =
      buildRuntimeOTELEnvVars ext shard component := by
  unfold buildRuntimeOTELEnvVars
  rw [resolveProjectRef_stamped]
  rfl

theorem pgctldSidecar_reconfigured (pool : V1Alpha1.PoolSpec) :
    buildPgctldSidecar ext (reconfigured shard config ref split) pool =
      buildPgctldSidecar ext shard pool := by
  unfold buildPgctldSidecar
  rw [otelEnvVars_reconfigured]
  rfl

theorem multipooler_reconfigured (poolName cellName : String) (pool : V1Alpha1.PoolSpec)
    (index : ℕ) :
    multipoolerOfPod ext (reconfigured shard config ref split) poolName cellName pool index =
      multipoolerOfPod ext shard poolName cellName pool index := by
  unfold multipoolerOfPod buildMultipoolerContainer
  rw [otelEnvVars_reconfigured]
  rfl

/-- **The settings of PostgreSQL reach the hashed fields as one annotation only.** -/
theorem podSpec_reconfigured (hne : split.restartHash ≠ []) (poolName cellName : String)
    (pool : V1Alpha1.PoolSpec) (index : ℕ) :
    poolPodSpec ext (reconfigured shard config ref split) poolName cellName pool index =
      { poolPodSpec ext shard poolName cellName pool index with
        postgresConfigHash := utf8 (String.ofList split.restartHash) } := by
  unfold poolPodSpec
  rw [pgctldSidecar_reconfigured, multipooler_reconfigured, configHash_stamped hne]
  rfl

end

section

variable {go : GoText} {catalog : Catalog} {sha256 : Bytes → Vector UInt8 32}

/-- The hashed fields of a pod whose Shard carries the hashes of a file. -/
def podSpecWith (ext : Externals) (shard : ShardTemplate) (restartHash : Str)
    (poolName cellName : String) (pool : V1Alpha1.PoolSpec) (index : ℕ) : PodSpec coreKinds :=
  { poolPodSpec ext shard poolName cellName pool index with
    postgresConfigHash := utf8 (String.ofList restartHash) }

theorem podSpec_stampAndSplit (config : Table Str Str) (ref : Option V1Alpha1.PostgresConfigRef)
    (file : Str) (poolName cellName : String) (pool : V1Alpha1.PoolSpec) (index : ℕ) :
    poolPodSpec ext (reconfigured shard config ref (stampAndSplit go catalog sha256 file).2) poolName
        cellName pool index =
      podSpecWith ext shard (restartHash go catalog sha256 file) poolName cellName pool index :=
  podSpec_reconfigured config ref _ (hashSettings_ne_nil sha256 _) poolName cellName pool index

theorem restartHash_eq_iff (hlines : go.KeepsLines) (hsigns : go.KeepsSigns) {a b : Str}
    (hsha : Set.InjOn sha256
      {digestText (restartOnly go catalog a), digestText (restartOnly go catalog b)}) :
    restartHash go catalog sha256 a = restartHash go catalog sha256 b ↔
      ∀ name, (restartOnly go catalog a).get name = (restartOnly go catalog b).get name := by
  constructor
  · intro h name
    exact get_eq_of_hashSettings_eq (fun e he => clean_of_mem_restartOnly hlines hsigns he)
      (fun e he => clean_of_mem_restartOnly hlines hsigns he) hsha h name
  · exact hashSettings_congr

theorem eq_stamped_of_reconcile {sizing : Table String V1Alpha1.PoolSpec → Config → Except Str Config}
    {getConfigMap : String → Except Str (Table String Str)} {applyConfigMap : Str → Except Str Unit}
    {file : Str} {result : ShardTemplate} (hfile : renderedFile shard go sizing getConfigMap = .ok file)
    (h : reconcilePostgresConfig shard applyConfigMap
      (renderEffectiveConfig shard go catalog sha256 sizing getConfigMap) = .ok result) :
    result = stamped shard (stampAndSplit go catalog sha256 file).2 := by
  rw [reconcilePostgresConfig, renderEffectiveConfig, hfile] at h
  obtain ⟨_, hsplit, hrest⟩ := Checks.bind_eq_ok.mp h
  obtain rfl := Except.ok.inj hsplit
  exact (Except.ok.inj (Checks.andThen_eq_ok.mp hrest).2).symm

/-- **A pod is recreated exactly for a change that needs a restart.** Of two Shards that differ in
their settings of PostgreSQL, or in the ConfigMap these refer to, a pod was built from the first.
If the settings that need a restart are the same, the second wants the same spec hash and leaves the
pod alone; if they are not, it replaces the pod. -/
theorem restart_settings_decide_recreation (ext : Externals) (J : Codec coreKinds) (go : GoText)
    (catalog : Catalog) (sha256 : Bytes → Vector UInt8 32)
    (sizing : Table String V1Alpha1.PoolSpec → Config → Except Str Config)
    (hlines : go.KeepsLines) (hsigns : go.KeepsSigns)
    (shard shard' : ShardTemplate) (config : Table Str Str)
    (ref : Option V1Alpha1.PostgresConfigRef)
    (hother : shard' = { shard with postgresConfig := config, postgresConfigRef := ref })
    (getConfigMap getConfigMap' : String → Except Str (Table String Str))
    (applyConfigMap applyConfigMap' : Str → Except Str Unit) (file file' : Str)
    (hfile : renderedFile shard go sizing getConfigMap = .ok file)
    (hfile' : renderedFile shard' go sizing getConfigMap' = .ok file')
    (before after : ShardTemplate)
    (hbefore : reconcilePostgresConfig shard applyConfigMap
      (renderEffectiveConfig shard go catalog sha256 sizing getConfigMap) = .ok before)
    (hafter : reconcilePostgresConfig shard' applyConfigMap'
      (renderEffectiveConfig shard' go catalog sha256 sizing getConfigMap') = .ok after)
    (hsha : Set.InjOn sha256
      {digestText (restartOnly go catalog file), digestText (restartOnly go catalog file')})
    (poolName cellName : String) (index : ℕ) (hash : String)
    (hbuilt : desiredHash ext before J poolName cellName index = some hash)
    (hfnv : ∀ pool, shard.pools.get poolName = some pool → Set.InjOn fnvText
      {specStream J (poolPodSpec ext before poolName cellName pool index),
        specStream J (poolPodSpec ext after poolName cellName pool index)})
    (pod : Pod) (hterm : pod.terminating = false) (hcarries : pod.specHash = some hash) :
    ((∀ name, (restartOnly go catalog file).get name = (restartOnly go catalog file').get name) →
      desiredHash ext after J poolName cellName index = some hash ∧
        podNeedsUpdate pod (after.toShard ext J) poolName cellName index = false) ∧
    ((¬ ∀ name, (restartOnly go catalog file).get name = (restartOnly go catalog file').get name) →
      podNeedsUpdate pod (after.toShard ext J) poolName cellName index = true) := by
  subst hother
  obtain rfl := eq_stamped_of_reconcile hfile hbefore
  obtain rfl := eq_stamped_of_reconcile hfile' hafter
  obtain ⟨pool, hpool, hvalid, howner, rfl⟩ := desiredHash_eq_some.mp hbuilt
  -- the two pods differ in the annotation of the restart hash at most
  have hspec : poolPodSpec ext (stamped shard (stampAndSplit go catalog sha256 file).2) poolName
      cellName pool index = _ :=
    podSpec_stampAndSplit shard.postgresConfig shard.postgresConfigRef file poolName cellName pool
      index
  have hspec' : poolPodSpec ext (reconfigured shard config ref
      (stampAndSplit go catalog sha256 file').2) poolName cellName pool index = _ :=
    podSpec_stampAndSplit config ref file' poolName cellName pool index
  have hbuilt' : desiredHash ext (reconfigured shard config ref
      (stampAndSplit go catalog sha256 file').2) J poolName cellName index = some _ :=
    desiredHash_eq_some.mpr ⟨pool, hpool, hvalid, howner, rfl⟩
  have hpods := hfnv pool hpool
  rw [hspec, hspec'] at hpods
  rw [hspec'] at hbuilt'
  rw [hspec] at hcarries ⊢
  rw [podNeedsUpdate_toShard hterm hcarries hbuilt', hbuilt', ← restartHash_eq_iff hlines hsigns hsha]
  constructor
  · intro heq
    rw [heq]
    simp
  · intro hne
    rw [bne_iff_ne]
    intro hhash
    refine hne ?_
    have hbytes := specStream_postgresConfigHash_inj (utf8_ne_nil ?_) (utf8_ne_nil ?_)
      (hpods (Set.mem_insert _ _) (Set.mem_insert_of_mem _ rfl) hhash)
    · exact String.ofList_inj.mp (utf8_inj.mp hbytes)
    · rw [ne_eq, String.ofList_eq_empty_iff]
      exact hashSettings_ne_nil sha256 _
    · rw [ne_eq, String.ofList_eq_empty_iff]
      exact hashSettings_ne_nil sha256 _

end

namespace Sample

/-- Every object is written alike. -/
def constantJson (α : Type) : Json α where
  marshal := fun _ => utf8 "\x7b\x7d"
  nonempty := fun _ => utf8_ne_nil (by decide)

def constantCodec : Codec coreKinds :=
  ⟨constantJson _, constantJson _, constantJson _, constantJson _, constantJson _, constantJson _,
    constantJson _, constantJson _, constantJson _, constantJson _, constantJson _⟩

def quietExternals : Externals where
  otelEnvVars := fun _ _ _ _ => []
  samplingConfigMap := fun _ => none
  pgBackRestTLSSecret := id
  encryptionSecret := id
  setControllerReference := fun _ _ => .ok ()

def smallPool : V1Alpha1.PoolSpec := { cells := ["zone-a"] }

theorem demoLabel : (List.lookup LabelKey.cluster [(LabelKey.cluster, "demo")]).isSome = true := rfl

theorem mainKey_nodup : (["main"] : List String).Nodup := List.nodup_singleton "main"

theorem unlabelled : ([] : List (Bytes × Bytes)).Pairwise fun a b => a.1 < b.1 := .nil

def smallShard (config : Table Str Str) : ShardTemplate where
  view :=
    { name := "shard-0", uid := 7, labels := [(.cluster, "demo")], labels_cluster := demoLabel,
      spec :=
        { databaseName := "postgres", tableGroupName := "default", shardName := "0-inf",
          pools := [("main", { cells := ["zone-a"] })], pools_nodup := mainKey_nodup,
          podHash := fun _ _ _ => none } }
  ns := "default"
  pools := Table.ofList [("main", smallPool)]
  globalTopoServer := ⟨"etcd:2379", "/multigres", "", ""⟩
  postgresPasswordSecretRef := ⟨"postgres", "password"⟩
  cellTopologyLabels := fun _ => ⟨[], unlabelled⟩
  postgresConfig := config

/-- One setting of PostgreSQL. -/
def setting (name value : String) : Table Str Str := Table.ofList [(name.toList, value.toList)]

def baseConfig : Config := { defaults with clusterName := shardClusterName (smallShard ∅) }

def fileOf (config : Table Str Str) : Str := render baseConfig [] config

/-- A digest that differs in its last byte for one text. -/
def lastByte (text : Bytes) (t : Bytes) : Vector UInt8 32 :=
  (Vector.replicate 31 0).push (if t = text then 0 else 1)

/-- The Shard after a reconcile that delivers the file. -/
def smallStamped (sha256 : Bytes → Vector UInt8 32) (config : Table Str Str) : ShardTemplate :=
  stamped (smallShard config)
    (stampAndSplit .ascii PostgresConfig.Sample.workMemCatalog sha256 (fileOf config)).2

def carrying (hash : Option String) : Pod :=
  { name := "pod", uid := 1, labels := [], claims := [], specHash := hash }

end Sample

section

open PodTemplate.Sample PostgresConfig.Sample

theorem injOn_lastByte (text other : Bytes) : Set.InjOn (lastByte text) {text, other} := by
  have hlast (t : Bytes) (h : lastByte text t = lastByte text text) : t = text := by
    by_contra hne
    have hbyte := congrArg (fun v : Vector UInt8 32 => v[31]) h
    simp [lastByte, hne] at hbyte
  rw [Set.injOn_pair]
  exact fun h => (hlast _ h.symm).symm

theorem hexText_lastByte (text t : Bytes) : hexText (lastByte text t).toList =
    List.replicate 63 '0' ++ [if t = text then '0' else '1'] := by
  unfold lastByte
  split <;> decide

theorem forall_setting {name value : String} {P : Str × Str → Prop}
    (h : P (name.toList, value.toList)) : ∀ e ∈ setting name value, P e := fun e he =>
  (List.mem_singleton.mp he : e = (name.toList, value.toList)) ▸ h

theorem get_fileOf_of_ne {name value : String} (hline : OneLine (name.toList, value.toList))
    (hname : GoText.ascii.parameter name.toList = name.toList)
    (htrim : GoText.ascii.trimSpace name.toList ≠ []) {parameter : Str}
    (hother : parameter ≠ name.toList) :
    (effectiveSettings .ascii (fileOf (setting name value))).get parameter =
      ((parseEffectiveConfig .ascii (renderBase baseConfig [])).get parameter).map
        (unquoteValue .ascii) := by
  rw [get_effectiveSettings, fileOf, get_render, get_inline_eq_none, Option.none_or]
  · exact forall_setting hline
  · exact forall_setting htrim
  · exact forall_setting fun h => hother (h.symm.trans hname)

theorem get_fileOf {name value : String} (hline : OneLine (name.toList, value.toList))
    (hname : GoText.ascii.parameter name.toList = name.toList)
    (htrim : GoText.ascii.trimSpace name.toList ≠ []) :
    (effectiveSettings .ascii (fileOf (setting name value))).get name.toList =
      some value.toList := by
  have hmem : (name.toList, value.toList) ∈ setting name value := List.mem_singleton.mpr rfl
  have hread := get_inline (forall_setting hline) (forall_setting htrim)
    (forall_setting (forall_setting fun _ => rfl)) hmem
  rw [hname] at hread
  rw [get_effectiveSettings, fileOf, get_render, hread, Option.some_or, Option.map_some,
    unquoteValue_quote]

/-- No limits on the pools, so the baseline is the default one. -/
def unsized (_ : Table String V1Alpha1.PoolSpec) (cfg : Config) : Except Str Config := .ok cfg

def noConfigMap (_ : String) : Except Str (Table String Str) := .error []

def delivered (_ : Str) : Except Str Unit := .ok ()

theorem renderedFile_smallShard (config : Table Str Str) :
    renderedFile (smallShard config) .ascii unsized noConfigMap = .ok (fileOf config) := rfl

theorem reconcile_smallShard (sha256 : Bytes → Vector UInt8 32) (config : Table Str Str) :
    reconcilePostgresConfig (smallShard config) delivered (renderEffectiveConfig (smallShard config)
      .ascii workMemCatalog sha256 unsized noConfigMap) = .ok (smallStamped sha256 config) := by
  unfold renderEffectiveConfig
  rw [renderedFile_smallShard]
  rfl

/-- A digest that tells the restart settings of a file from others. -/
def tellApart (config : Table Str Str) : Bytes → Vector UInt8 32 :=
  lastByte (digestText (restartOnly .ascii workMemCatalog (fileOf config)))

theorem smallShard_eq (config config' : Table Str Str) : smallShard config' =
    { smallShard config with postgresConfig := config', postgresConfigRef := none } := rfl

def smallStream (sha256 : Bytes → Vector UInt8 32) (config : Table Str Str) : Bytes :=
  specStream constantCodec
    (poolPodSpec quietExternals (smallStamped sha256 config) "main" "zone-a" smallPool 0)

theorem desiredHash_smallStamped (sha256 : Bytes → Vector UInt8 32) (config : Table Str Str) :
    desiredHash quietExternals (smallStamped sha256 config) constantCodec "main" "zone-a" 0 =
      some (fnvText (smallStream sha256 config)) :=
  desiredHash_eq_some.mpr ⟨smallPool, rfl, rfl, rfl, rfl⟩

theorem smallStream_eq (sha256 : Bytes → Vector UInt8 32) (config : Table Str Str) :
    smallStream sha256 config = specStream constantCodec
        { poolPodSpec quietExternals (smallShard ∅) "main" "zone-a" smallPool 0 with
          postgresConfigHash := [] } ++
      (utf8 "pgcfg=" ++
        utf8 (String.ofList (restartHash .ascii workMemCatalog sha256 (fileOf config)))) := by
  have hstamped : smallStamped sha256 config = reconfigured (smallShard ∅) config none
      (stampAndSplit .ascii workMemCatalog sha256 (fileOf config)).2 := rfl
  rw [smallStream, hstamped, podSpec_stampAndSplit, podSpecWith, specStream_postgresConfigHash,
    textField_eq, if_neg, field]
  refine utf8_ne_nil ?_
  rw [ne_eq, String.ofList_eq_empty_iff]
  exact hashSettings_ne_nil sha256 _

theorem restartOnly_work_mem (name : Str) :
    (restartOnly .ascii workMemCatalog (fileOf (setting "work_mem" "4MB"))).get name =
      (restartOnly .ascii workMemCatalog (fileOf (setting "work_mem" "8MB"))).get name := by
  rw [get_restartOnly, get_restartOnly]
  by_cases hname : name = "work_mem".toList
  · have hreload : ¬ requiresRestart .ascii workMemCatalog "work_mem".toList = true := by
      decide +kernel
    rw [hname, if_neg hreload, if_neg hreload]
  · rw [get_fileOf_of_ne (by decide +kernel) (by decide +kernel) (by decide +kernel) hname,
      get_fileOf_of_ne (by decide +kernel) (by decide +kernel) (by decide +kernel) hname]

theorem restartOnly_shared_buffers (value : String)
    (hline : OneLine ("shared_buffers".toList, value.toList)) :
    (restartOnly .ascii workMemCatalog (fileOf (setting "shared_buffers" value))).get
      "shared_buffers".toList = some value.toList := by
  have hrestart : requiresRestart .ascii workMemCatalog "shared_buffers".toList = true := by
    decide +kernel
  rw [get_restartOnly, if_pos hrestart, get_fileOf hline (by decide +kernel) (by decide +kernel)]

theorem fnvText_smallStream_ne {text : Bytes} {config config' : Table Str Str}
    (h : digestText (restartOnly .ascii workMemCatalog (fileOf config)) = text)
    (h' : digestText (restartOnly .ascii workMemCatalog (fileOf config')) ≠ text) :
    fnvText (smallStream (lastByte text) config) ≠ fnvText (smallStream (lastByte text) config') := by
  have hzero : utf8 (String.ofList (List.replicate 63 '0' ++ ['0'])) =
      List.replicate 63 48 ++ [48] := by decide +kernel
  have hone : utf8 (String.ofList (List.replicate 63 '0' ++ ['1'])) =
      List.replicate 63 48 ++ [49] := by decide +kernel
  have hhash : restartHash .ascii workMemCatalog (lastByte text) (fileOf config) =
      List.replicate 63 '0' ++ ['0'] := by
    rw [restartHash, hashSettings, hexText_lastByte, if_pos h]
  have hhash' : restartHash .ascii workMemCatalog (lastByte text) (fileOf config') =
      List.replicate 63 '0' ++ ['1'] := by
    rw [restartHash, hashSettings, hexText_lastByte, if_neg h']
  rw [smallStream_eq, smallStream_eq, hhash, hhash', hzero, hone]
  simp only [← List.append_assoc]
  exact fnvText_concat_ne (by decide)

/-- A change of `work_mem` leaves a pod alone, one of `shared_buffers` replaces it. -/
theorem restart_settings_decide_recreation_sample :
    (∃ hash, desiredHash quietExternals
        (smallStamped (tellApart (setting "work_mem" "4MB")) (setting "work_mem" "4MB"))
        constantCodec "main" "zone-a" 0 = some hash ∧
      podNeedsUpdate (carrying (some hash))
        ((smallStamped (tellApart (setting "work_mem" "4MB")) (setting "work_mem" "8MB")).toShard
          quietExternals constantCodec) "main" "zone-a" 0 = false) ∧
    ∃ hash, desiredHash quietExternals
        (smallStamped (tellApart (setting "shared_buffers" "1GB")) (setting "shared_buffers" "1GB"))
        constantCodec "main" "zone-a" 0 = some hash ∧
      podNeedsUpdate (carrying (some hash))
        ((smallStamped (tellApart (setting "shared_buffers" "1GB"))
          (setting "shared_buffers" "2GB")).toShard quietExternals constantCodec)
        "main" "zone-a" 0 = true := by
  have happly (sha256 : Bytes → Vector UInt8 32) (config config' : Table Str Str)
      (hsha : Set.InjOn sha256 {digestText (restartOnly .ascii workMemCatalog (fileOf config)),
        digestText (restartOnly .ascii workMemCatalog (fileOf config'))})
      (hfnv : Set.InjOn fnvText {smallStream sha256 config, smallStream sha256 config'}) :=
    restart_settings_decide_recreation quietExternals constantCodec .ascii workMemCatalog sha256
      unsized keepsLines_ascii keepsSigns_ascii (smallShard config) (smallShard config') config' none
      (smallShard_eq config config') noConfigMap noConfigMap delivered delivered (fileOf config)
      (fileOf config') (renderedFile_smallShard config) (renderedFile_smallShard config')
      (smallStamped sha256 config) (smallStamped sha256 config') (reconcile_smallShard sha256 config)
      (reconcile_smallShard sha256 config') hsha "main" "zone-a" 0
      (fnvText (smallStream sha256 config)) (desiredHash_smallStamped sha256 config)
      (fun pool hpool => by obtain rfl : smallPool = pool := Option.some.inj hpool; exact hfnv)
      (carrying (some (fnvText (smallStream sha256 config)))) rfl rfl
  refine ⟨⟨_, desiredHash_smallStamped _ _, ?_⟩, _, desiredHash_smallStamped _ _, ?_⟩
  · refine ((happly (tellApart _) _ _ (injOn_lastByte _ _) ?_).1 restartOnly_work_mem).2
    -- the restart hashes are the same, and so are the streams
    rw [smallStream_eq, smallStream_eq, restartHash, hashSettings_congr restartOnly_work_mem,
      ← restartHash, Set.pair_eq_singleton]
    exact Set.injOn_singleton _ _
  · have hdiffer : ¬ ∀ name,
        (restartOnly .ascii workMemCatalog (fileOf (setting "shared_buffers" "1GB"))).get name =
          (restartOnly .ascii workMemCatalog (fileOf (setting "shared_buffers" "2GB"))).get name := by
      intro hsame
      have hvalues := hsame "shared_buffers".toList
      rw [restartOnly_shared_buffers _ (by decide +kernel),
        restartOnly_shared_buffers _ (by decide +kernel)] at hvalues
      exact absurd hvalues (by decide +kernel)
    refine (happly (tellApart _) _ _ (injOn_lastByte _ _) ?_).2 hdiffer
    rw [Set.injOn_pair]
    intro hfnv
    refine absurd hfnv (fnvText_smallStream_ne rfl fun htext => hdiffer ?_)
    rw [← restartHash_eq_iff keepsLines_ascii keepsSigns_ascii (injOn_lastByte _ _), restartHash,
      restartHash, hashSettings, hashSettings, htext]

end

end MultigresOperator.PodTemplate

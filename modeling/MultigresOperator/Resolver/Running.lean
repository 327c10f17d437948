import MultigresOperator.Resolver.Validation

/-!
# What the reconciler resolves

The reconciler applies the static defaults to a cluster once more and resolves its components against
the templates of the cluster's namespace. The storage settings of a pool that are texts, its size and
its class, come from the highest layer that gives them: the inline spec, the overrides or the
template.

## Main definitions

* `reconciled`: the cluster as the reconciler works on it
* `RunningPool`, `ManagedEtcd`: a pool and a global etcd of the resolved configuration
* `StorageText`, `layeredText`: a text of the storage settings, and its value by layers
* `HasPool`: the pools of a shard, by layers

## Main results

* `get_pools_resolveShardWith`: the pools of a resolved shard and the texts of their storage
* `mem_shardSites_populate`: static defaulting leaves the shards that are there alone
* `ManagedEtcd.exists_globalEtcd`: the etcd is the one that resolution lays out
-/

namespace MultigresOperator.Resolution

open V1Alpha1

/-- A cluster as the reconciler works on it, which applies the static defaults once more. -/
def reconciled (client : Client) (cluster : MultigresCluster) : Except ResolveError MultigresCluster :=
  (populateClusterDefaults (newResolver client cluster.namespace) cluster).map Prod.fst

variable {client : Client} {cluster : MultigresCluster}

theorem exists_populate_of_reconciled {populated : MultigresCluster}
    (h : reconciled client cluster = .ok populated) :
    ∃ inject, populated = populate inject cluster := by
  unfold reconciled populateClusterDefaults at h
  cases hinject : shouldInjectDefaults (newResolver client cluster.namespace) cluster with
  | error err =>
    rw [hinject] at h
    cases h
  | ok inject =>
    rw [hinject] at h
    exact ⟨inject, (Except.ok.inj h).symm⟩

theorem mem_shardSites_populate {inject : Bool} {site : ShardSite}
    (h : site ∈ shardSites (populate inject cluster)) :
    site.shard = createdShard (!cluster.spec.cells.isEmpty) inject ∨
      ∃ raw ∈ shardSites cluster, raw.db.name = site.db.name ∧ raw.tg.name = site.tg.name ∧
        raw.shard = site.shard := by
  obtain ⟨db', hdb', h⟩ := List.mem_flatMap.mp h
  obtain ⟨tg', htg', h⟩ := List.mem_flatMap.mp h
  obtain ⟨shard, hshard, rfl⟩ := List.mem_map.mp h
  obtain ⟨db, hdb, rfl⟩ := List.mem_map.mp hdb'
  obtain ⟨tg, htg, rfl⟩ := List.mem_map.mp htg'
  dsimp only
  unfold populateTableGroup at hshard ⊢
  split at hshard
  · exact .inl (List.mem_singleton.mp hshard)
  · next hshards =>
    rw [if_neg hshards]
    -- a table group with shards is none that was added
    have htg : tg ∈ db.tableGroups := by
      unfold systemTableGroups at htg
      split at htg
      · rw [List.mem_singleton.mp htg] at hshards
        exact absurd rfl hshards
      · exact htg
    have hdb : db ∈ cluster.spec.databases := by
      unfold systemDatabases at hdb
      split at hdb
      · rw [List.mem_singleton.mp hdb] at htg
        exact absurd htg List.not_mem_nil
      · exact hdb
    exact .inr ⟨⟨db, tg, shard⟩, List.mem_flatMap.mpr ⟨db, hdb, List.mem_flatMap.mpr ⟨tg, htg,
      List.mem_map.mpr ⟨shard, hshard, rfl⟩⟩⟩, rfl, rfl, rfl⟩

/-! ### Pools -/

/-- The place of a pool in a cluster. -/
structure PoolPath where
  database : String
  tableGroup : String
  shard : String
  pool : String
  deriving DecidableEq

def PoolPath.text (path : PoolPath) : String :=
  path.database ++ "/" ++ path.tableGroup ++ "/" ++ path.shard ++ "/" ++ path.pool

def poolPath (site : ShardSite) (poolName : String) : PoolPath :=
  ⟨site.db.name, site.tg.name, site.shard.name, poolName⟩

structure RunningPool (client : Client) (cluster : MultigresCluster) where
  populated : MultigresCluster
  site : ShardSite
  tpl : ShardTemplateSpec
  resolved : ResolvedShard
  name : String
  pool : V1Alpha1.PoolSpec
  populated_eq : reconciled client cluster = .ok populated
  site_mem : site ∈ shardSites populated
  tpl_eq : (newResolver client cluster.namespace).resolveShardTemplate
    (effectiveShard populated site.shard).shardTemplate = .ok tpl
  resolved_eq : resolveShard (newResolver client cluster.namespace)
    (effectiveShard populated site.shard) (shardOptions populated site) = .ok resolved
  pool_eq : resolved.pools.get name = some pool

/-! ### Texts of the storage settings -/

theorem overText_empty (lower : String) : overText "" lower = lower := if_neg (by simp)

theorem overText_of_ne {upper : String} (h : upper ≠ "") (lower : String) :
    overText upper lower = upper := if_pos h

theorem overText_empty_right (upper : String) : overText upper "" = upper := by
  unfold overText
  split
  · rfl
  · next h => exact (not_not.mp h).symm

/-- A text of the storage settings. A layer that gives none leaves it to the one below. -/
structure StorageText where
  get : StorageSpec → String
  get_empty : get {} = ""
  get_mergeOver : ∀ upper lower : StorageSpec,
    get (upper.mergeOver lower) = overText (get upper) (get lower)

def storageSize : StorageText := ⟨(·.size), rfl, fun _ _ => rfl⟩

def storageClass : StorageText := ⟨(·.class_), rfl, fun _ _ => rfl⟩

section

variable (text : StorageText)

/-- The text that pools give for a name. -/
def textIn (pools : Pools) (name : String) : String :=
  ((pools.get name).map fun pool => text.get pool.storage).getD ""

def layeredText (shard : ShardConfig) (tpl : ShardTemplateSpec) (name : String) : String :=
  overText (textIn text (shard.spec.elim ∅ (·.pools)) name) <|
    overText (textIn text (shard.overrides.elim ∅ (·.pools)) name) (textIn text tpl.pools name)

variable {text}

theorem textIn_empty (name : String) : textIn text ∅ name = "" := rfl

variable {pools : Pools} {name : String}

theorem textIn_of_get {pool : V1Alpha1.PoolSpec} (h : pools.get name = some pool) :
    textIn text pools name = text.get pool.storage := by
  rw [textIn, h, Option.map_some, Option.getD_some]

theorem textIn_of_none (h : pools.get name = none) : textIn text pools name = "" := by
  rw [textIn, h, Option.map_none, Option.getD_none]

theorem textIn_mergePools (base upper : Pools) (name : String) :
    textIn text (mergePools base upper) name =
      overText (textIn text upper name) (textIn text base name) := by
  unfold textIn mergePools
  rw [Table.get_fold]
  cases upper.get name with
  | none => exact (overText_empty _).symm
  | some pool =>
    cases base.get name with
    | none => exact (overText_empty_right _).symm
    | some existing => exact text.get_mergeOver _ _

theorem textIn_mergeShardConfig (text : StorageText) (tpl : ShardTemplateSpec) (shard : ShardConfig)
    (backup inherited : Option BackupConfig) (name : String) :
    textIn text (mergeShardConfig tpl shard.overrides shard.spec backup inherited).pools name =
      layeredText text shard tpl name := by
  have hoverrides : textIn text (shard.overrides.elim (shardOfTemplate tpl inherited)
      (applyOverrides (shardOfTemplate tpl inherited))).pools name =
      overText (textIn text (shard.overrides.elim ∅ (·.pools)) name) (textIn text tpl.pools name) := by
    cases shard.overrides with
    | none => exact (overText_empty _).symm
    | some overrides => exact textIn_mergePools _ _ _
  rw [layeredText, ← hoverrides]
  unfold mergeShardConfig
  cases shard.spec with
  | none => exact (overText_empty _).symm
  | some inline => exact textIn_mergePools _ _ _

end

/-! ### Pools by layers -/

def InLayers (shard : ShardConfig) (tpl : ShardTemplateSpec) (name : String) : Prop :=
  ((shard.spec.elim ∅ (·.pools)).get name).isSome = true ∨
    ((shard.overrides.elim ∅ (·.pools)).get name).isSome = true ∨
    (tpl.pools.get name).isSome = true

/-- The pools of a shard: those of its layers, or the default one if they have none. -/
def HasPool (shard : ShardConfig) (tpl : ShardTemplateSpec) (name : String) : Prop :=
  InLayers shard tpl name ∨ (∀ other, ¬ InLayers shard tpl other) ∧ name = defaultPoolName

theorem isSome_get_mergePools (base upper : Pools) (name : String) :
    ((mergePools base upper).get name).isSome = true ↔
      (upper.get name).isSome = true ∨ (base.get name).isSome = true := by
  unfold mergePools
  rw [Table.get_fold]
  cases upper.get name <;> simp

theorem isSome_get_mergeShardConfig (tpl : ShardTemplateSpec) (shard : ShardConfig)
    (backup inherited : Option BackupConfig) (name : String) :
    ((mergeShardConfig tpl shard.overrides shard.spec backup inherited).pools.get name).isSome = true ↔
      InLayers shard tpl name := by
  have hoverrides : ((shard.overrides.elim (shardOfTemplate tpl inherited)
      (applyOverrides (shardOfTemplate tpl inherited))).pools.get name).isSome = true ↔
      ((shard.overrides.elim ∅ (·.pools)).get name).isSome = true ∨
        (tpl.pools.get name).isSome = true := by
    cases shard.overrides with
    | none => exact (or_iff_right (by simp)).symm
    | some overrides => exact isSome_get_mergePools _ _ _
  rw [InLayers, ← hoverrides]
  unfold mergeShardConfig
  cases shard.spec with
  | none => exact (or_iff_right (by simp)).symm
  | some inline => exact isSome_get_mergePools _ _ _

/-- **The pools of a resolved shard.** They are those of the layers, and a text of their storage is
that of the highest layer that gives it. The size alone has a built-in default. -/
theorem get_pools_resolveShardWith (shard : ShardConfig) (opts : ResolveShardOptions)
    (tpl : ShardTemplateSpec) (name : String) :
    (((resolveShardWith shard opts tpl).pools.get name).isSome = true ↔ HasPool shard tpl name) ∧
      ∀ pool, (resolveShardWith shard opts tpl).pools.get name = some pool →
        pool.storage.size = overText (layeredText storageSize shard tpl name) defaultEtcdStorageSize ∧
        pool.storage.class_ = layeredText storageClass shard tpl name := by
  have hpresent (other : String) := isSome_get_mergeShardConfig tpl shard shard.backup
    opts.inheritedBackup other
  have htexts (text : StorageText) := textIn_mergeShardConfig text tpl shard shard.backup
    opts.inheritedBackup name
  unfold resolveShardWith
  dsimp only
  rw [Table.get_mapValues, Option.isSome_map]
  generalize (mergeShardConfig tpl shard.overrides shard.spec shard.backup
    opts.inheritedBackup).pools = merged at hpresent htexts
  split
  · -- without pools there is a default one, and no layer gives a text
    next hempty =>
    have hnone := Table.items_eq_nil.mp (List.isEmpty_iff.mp hempty)
    have hno (other : String) : ¬ InLayers shard tpl other := by
      rw [← hpresent, hnone]
      simp
    rw [Table.get_set, Table.get_empty]
    refine ⟨?_, fun pool hpool => ?_⟩
    · rw [HasPool]
      split
      · next hname => simp [hname, hno]
      · next hname => simp [hname, hno]
    · split at hpool
      · obtain rfl := Option.some.inj hpool
        rw [← htexts, ← htexts, textIn_of_none (hnone name), textIn_of_none (hnone name)]
        exact ⟨rfl, rfl⟩
      · cases hpool
  · next hitems =>
    have hsome : ∃ other, InLayers shard tpl other := by
      by_contra hno
      refine hitems (List.isEmpty_iff.mpr (Table.items_eq_nil.mpr fun other => ?_))
      rw [← Option.not_isSome_iff_eq_none, hpresent]
      exact fun h => hno ⟨other, h⟩
    refine ⟨?_, fun pool hpool => ?_⟩
    · rw [hpresent, HasPool]
      obtain ⟨other, hother⟩ := hsome
      exact ⟨.inl, fun h => h.elim id fun hdefault => absurd hother (hdefault.1 other)⟩
    · obtain ⟨given, hgiven, rfl⟩ := Option.map_eq_some_iff.mp hpool
      rw [← htexts, ← htexts, textIn_of_get hgiven, textIn_of_get hgiven]
      exact ⟨rfl, rfl⟩

namespace RunningPool

variable {client : Client} {cluster : MultigresCluster} (p : RunningPool client cluster)

def path : PoolPath := poolPath p.site p.name

def size : String := p.pool.storage.size

theorem get_resolveShardWith : (resolveShardWith (effectiveShard p.populated p.site.shard)
    (shardOptions p.populated p.site) p.tpl).pools.get p.name = some p.pool := by
  have hresolved := p.resolved_eq
  rw [resolveShard, p.tpl_eq] at hresolved
  have hpool := p.pool_eq
  rwa [← Except.ok.inj hresolved] at hpool

end RunningPool

def runningPools (client : Client) (cluster : MultigresCluster) :
    List (PoolPath × V1Alpha1.PoolSpec) :=
  match reconciled client cluster with
  | .error _ => []
  | .ok populated => (shardSites populated).flatMap fun site =>
    match resolveShard (newResolver client cluster.namespace) (effectiveShard populated site.shard)
        (shardOptions populated site) with
    | .error _ => []
    | .ok resolved => resolved.pools.items.map fun (name, pool) => (poolPath site name, pool)

theorem mem_runningPools_iff {path : PoolPath} {pool : V1Alpha1.PoolSpec} :
    (path, pool) ∈ runningPools client cluster ↔
      ∃ p : RunningPool client cluster, p.path = path ∧ p.pool = pool := by
  constructor
  · intro h
    unfold runningPools at h
    cases hpopulated : reconciled client cluster with
    | error err =>
      rw [hpopulated] at h
      cases h
    | ok populated =>
      rw [hpopulated] at h
      obtain ⟨site, hsite, h⟩ := List.mem_flatMap.mp h
      cases hresolved : resolveShard (newResolver client cluster.namespace)
          (effectiveShard populated site.shard) (shardOptions populated site) with
      | error err =>
        rw [hresolved] at h
        cases h
      | ok resolved =>
        rw [hresolved] at h
        obtain ⟨⟨name, pool⟩, hpool, hentry⟩ := List.mem_map.mp h
        obtain ⟨rfl, rfl⟩ := Prod.mk.inj hentry
        obtain ⟨tpl, htpl, -⟩ := Checks.bind_eq_ok.mp hresolved
        exact ⟨⟨populated, site, tpl, resolved, name, pool, hpopulated, hsite, htpl, hresolved,
          Table.get_eq_some.mpr hpool⟩, rfl, rfl⟩
  · rintro ⟨p, rfl, rfl⟩
    unfold runningPools
    rw [p.populated_eq]
    refine List.mem_flatMap.mpr ⟨p.site, p.site_mem, ?_⟩
    rw [p.resolved_eq]
    exact List.mem_map.mpr ⟨(p.name, p.pool), Table.get_eq_some.mp p.pool_eq, rfl⟩

/-! ### The global etcd -/

/-- A managed global etcd of the resolved configuration of a cluster. -/
structure ManagedEtcd (go : GoLib) (client : Client) (cluster : MultigresCluster) where
  populated : MultigresCluster
  tpl : CoreTemplateSpec
  topo : GlobalTopoServerSpec
  etcd : EtcdSpec
  populated_eq : reconciled client cluster = .ok populated
  tpl_eq : (newResolver client cluster.namespace).resolveCoreTemplate
    (overText ((populated.spec.globalTopoServer.map (·.templateRef)).getD "")
      populated.spec.templateDefaults.coreTemplate) = .ok tpl
  topo_eq : resolveGlobalTopo go (newResolver client cluster.namespace) populated = .ok topo
  etcd_eq : topo.etcd = some etcd

section

variable {go : GoLib} {client : Client} {cluster : MultigresCluster}

theorem globalTopoServer_of_reconciled {populated : MultigresCluster}
    (h : reconciled client cluster = .ok populated) :
    populated.spec.globalTopoServer = cluster.spec.globalTopoServer := by
  obtain ⟨inject, rfl⟩ := exists_populate_of_reconciled h
  rfl

variable {etcd : EtcdSpec}

/-- The etcd before the built-in defaults: there is none beside an external server, and otherwise each
setting of the inline spec is laid over the template's. -/
theorem globalEtcd_eq_some {base : Option EtcdSpec} {spec : Option GlobalTopoServerSpec}
    (h : globalEtcd base spec = some etcd) :
    (∀ topo, spec = some topo → topo.external.isSome = false) ∧
      (spec.bind (·.etcd) = none ∧ base = some etcd ∨
        ∃ upper, spec.bind (·.etcd) = some upper ∧ etcd = mergeEtcdSpec (base.getD {}) upper) := by
  unfold globalEtcd at h
  cases spec with
  | none => exact ⟨fun _ hspec => absurd hspec (by simp), .inl ⟨rfl, h⟩⟩
  | some topo =>
    dsimp only at h
    split at h
    · cases h
    · next hexternal =>
      refine ⟨fun topo' htopo => ?_, ?_⟩
      · rw [← Option.some.inj htopo]
        exact Bool.eq_false_iff.mpr hexternal
      · cases hetcd : topo.etcd with
        | none =>
          rw [hetcd] at h
          exact .inl ⟨hetcd, h⟩
        | some upper =>
          rw [hetcd] at h
          exact .inr ⟨upper, hetcd, (Option.some.inj h).symm⟩

theorem etcd_of_resolveGlobalTopo {r : Resolver} {topo : GlobalTopoServerSpec}
    (h : resolveGlobalTopo go r cluster = .ok topo) : ∃ tpl rootPath,
    r.resolveCoreTemplate (overText ((cluster.spec.globalTopoServer.map (·.templateRef)).getD "")
      cluster.spec.templateDefaults.coreTemplate) = .ok tpl ∧
    topo.etcd = (globalEtcd (tpl.globalTopoServer.getD { etcd := some {} }).etcd
      cluster.spec.globalTopoServer).map (defaultEtcdSpec · rootPath) := by
  unfold resolveGlobalTopo at h
  obtain ⟨roots, -, h⟩ := Checks.bind_eq_ok.mp h
  obtain ⟨tpl, htpl, h⟩ := Checks.bind_eq_ok.mp h
  refine ⟨tpl, roots.global, htpl, ?_⟩
  -- the maintenance settings of an etcd are checked on the way
  dsimp only at h
  split at h
  · rw [← Except.ok.inj h]
  · obtain ⟨_, -, h⟩ := Checks.bind_eq_ok.mp h
    rw [← Except.ok.inj h]

theorem ManagedEtcd.exists_globalEtcd (p : ManagedEtcd go client cluster) : ∃ etcd rootPath,
    globalEtcd (p.tpl.globalTopoServer.getD { etcd := some {} }).etcd cluster.spec.globalTopoServer =
      some etcd ∧ p.etcd = defaultEtcdSpec etcd rootPath := by
  obtain ⟨tpl, rootPath, htpl, hmap⟩ := etcd_of_resolveGlobalTopo p.topo_eq
  rw [p.tpl_eq] at htpl
  obtain rfl := Except.ok.inj htpl
  rw [p.etcd_eq] at hmap
  obtain ⟨etcd, hetcd, hdefault⟩ := Option.map_eq_some_iff.mp hmap.symm
  rw [globalTopoServer_of_reconciled p.populated_eq] at hetcd
  exact ⟨etcd, rootPath, hetcd, hdefault.symm⟩

def managedEtcd (go : GoLib) (client : Client) (cluster : MultigresCluster) : Option EtcdSpec :=
  match reconciled client cluster with
  | .error _ => none
  | .ok populated =>
    match resolveGlobalTopo go (newResolver client cluster.namespace) populated with
    | .error _ => none
    | .ok topo => topo.etcd

theorem managedEtcd_eq_some_iff :
    managedEtcd go client cluster = some etcd ↔
      ∃ p : ManagedEtcd go client cluster, p.etcd = etcd := by
  constructor
  · intro h
    unfold managedEtcd at h
    cases hpopulated : reconciled client cluster with
    | error err =>
      rw [hpopulated] at h
      cases h
    | ok populated =>
      rw [hpopulated] at h
      dsimp only at h
      cases htopo : resolveGlobalTopo go (newResolver client cluster.namespace) populated with
      | error err =>
        rw [htopo] at h
        cases h
      | ok topo =>
        rw [htopo] at h
        obtain ⟨tpl, _, htpl, -⟩ := etcd_of_resolveGlobalTopo htopo
        exact ⟨⟨populated, tpl, topo, etcd, hpopulated, htpl, htopo, h⟩, rfl⟩
  · rintro ⟨p, rfl⟩
    unfold managedEtcd
    rw [p.populated_eq]
    dsimp only
    rw [p.topo_eq]
    exact p.etcd_eq

end

end MultigresOperator.Resolution

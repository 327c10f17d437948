import MultigresOperator.Webhook.Gateways

/-!
# The place of a Lite cluster's data

A Lite cluster keeps its data in one volume, which belongs to a database, a table group, a shard, a
pool and a cell. The pool and the cell are resolved from a ShardTemplate, overrides and an inline
spec, so a write of the template can move them as well as an update of the cluster. The webhooks
compare the place before and after, as a text; without slashes in the names the text determines the
place.

## Main results

* `LiteIdentity.text_injective`: places without slashes have different texts
* `exists_identity_of_validateClusterLogic`: an accepted Lite cluster has a place
* `placed_of_change`: every change keeps the places of Lite clusters
* `lite_identity_immutable`: after every run, a Lite cluster has the place it was created with
-/

namespace MultigresOperator.Webhook

open V1Alpha1 Resolution

variable {go : GoLib} {r r' : Resolver} {cluster : MultigresCluster}

/-! ### Names without slashes -/

def NoSlash (name : String) : Prop := '/' ∉ name.toList

instance : DecidablePred NoSlash := fun name => inferInstanceAs (Decidable ('/' ∉ name.toList))

/-- The names of databases, table groups and shards have no slash. -/
def SlashFree (cluster : MultigresCluster) : Prop :=
  ∀ db ∈ cluster.spec.databases, NoSlash db.name ∧
    ∀ tg ∈ db.tableGroups, NoSlash tg.name ∧ ∀ shard ∈ tg.shards, NoSlash shard.name

/-- The names in a request have no slash. -/
def Request.SlashFree : Request → Prop
  | .createCluster cluster | .updateCluster cluster => Webhook.SlashFree cluster
  | _ => True

variable {cluster' old requested : MultigresCluster} {id' : LiteIdentity}
  {a b tpl : ShardTemplateSpec} {req : Request}

theorem slashFree_of_keepsNames (h : KeepsNames cluster cluster') (hfree : SlashFree cluster) :
    SlashFree cluster' := by
  intro db' hdb'
  obtain ⟨db, hdb, hname, htgs⟩ := h.databases db' hdb'
  refine ⟨hname ▸ (hfree db hdb).1, fun tg' htg' => ?_⟩
  obtain ⟨tg, htg, htgname, hshards⟩ := htgs tg' htg'
  refine ⟨htgname ▸ ((hfree db hdb).2 tg htg).1, fun shard' hshard' => ?_⟩
  obtain ⟨shard, hshard, hshardname⟩ := hshards shard' hshard'
  exact hshardname ▸ ((hfree db hdb).2 tg htg).2 shard hshard

theorem slashFree_populate (inject : Bool) (hfree : SlashFree cluster) :
    SlashFree (populate inject cluster) := by
  have hpostgres : NoSlash defaultSystemDatabaseName := by decide
  have hdefault : NoSlash defaultSystemTableGroupName := by decide
  have hcreated (hasCells : Bool) : NoSlash (createdShard hasCells inject).name := by
    have : NoSlash "0-inf" := by decide
    exact this
  have hshards (hasCells : Bool) (tg : TableGroupConfig) (h : ∀ shard ∈ tg.shards, NoSlash shard.name) :
      ∀ shard ∈ (populateTableGroup hasCells inject tg).shards, NoSlash shard.name := by
    unfold populateTableGroup
    split
    · intro shard hshard
      rw [List.mem_singleton.mp hshard]
      exact hcreated hasCells
    · exact h
  have htgname (hasCells : Bool) (tg : TableGroupConfig) :
      (populateTableGroup hasCells inject tg).name = tg.name := by
    unfold populateTableGroup
    split <;> rfl
  intro db' hdb'
  obtain ⟨db, hdb, rfl⟩ := List.mem_map.mp hdb'
  have hdbfree : NoSlash db.name ∧ ∀ tg ∈ db.tableGroups,
      NoSlash tg.name ∧ ∀ shard ∈ tg.shards, NoSlash shard.name := by
    unfold systemDatabases at hdb
    split at hdb
    · rw [List.mem_singleton.mp hdb]
      exact ⟨hpostgres, fun _ h => absurd h List.not_mem_nil⟩
    · exact hfree db hdb
  refine ⟨hdbfree.1, fun tg' htg' => ?_⟩
  obtain ⟨tg, htg, rfl⟩ := List.mem_map.mp htg'
  have htgfree : NoSlash tg.name ∧ ∀ shard ∈ tg.shards, NoSlash shard.name := by
    unfold systemTableGroups at htg
    split at htg
    · rw [List.mem_singleton.mp htg]
      exact ⟨hdefault, fun _ h => absurd h List.not_mem_nil⟩
    · exact hdbfree.2 tg htg
  exact ⟨htgname _ tg ▸ htgfree.1, hshards _ tg htgfree.2⟩

theorem split_at_slash {a b c d : String} (ha : NoSlash a) (hb : NoSlash b)
    (h : a ++ ("/" ++ c) = b ++ ("/" ++ d)) : a = b ∧ c = d := by
  have hlists := congrArg String.toList h
  simp only [String.toList_append] at hlists
  have hslash : "/".toList = ['/'] := by decide
  rw [hslash, List.singleton_append, List.singleton_append] at hlists
  have hcut := congrArg (Text.cut '/') hlists
  rw [Text.cut_append ha, Text.cut_append hb] at hcut
  obtain ⟨hleft, hright⟩ := Prod.mk.inj (Option.some.inj hcut)
  exact ⟨String.toList_inj.mp hleft, String.toList_inj.mp hright⟩

variable {id : LiteIdentity} {site : ShardSite} {warnings : List String} {new : MultigresCluster}
  {born : String × String → Option LiteIdentity} {x : State}

/-- **The text determines the place** if the names before the last one have no slash. -/
theorem LiteIdentity.text_injective
    (h : NoSlash id.database ∧ NoSlash id.tableGroup ∧ NoSlash id.shard ∧ NoSlash id.pool)
    (h' : NoSlash id'.database ∧ NoSlash id'.tableGroup ∧ NoSlash id'.shard ∧ NoSlash id'.pool)
    (htext : id.text = id'.text) : id = id' := by
  unfold LiteIdentity.text at htext
  simp only [String.append_assoc] at htext
  obtain ⟨hdb, htext⟩ := split_at_slash h.1 h'.1 htext
  obtain ⟨htg, htext⟩ := split_at_slash h.2.1 h'.2.1 htext
  obtain ⟨hshard, htext⟩ := split_at_slash h.2.2.1 h'.2.2.1 htext
  obtain ⟨hpool, hcell⟩ := split_at_slash h.2.2.2 h'.2.2.2 htext
  cases id
  cases id'
  simp_all

/-! ### The place with a template -/

/-- The place of a cluster whose shard takes its settings from a template. -/
def identityWith (cluster : MultigresCluster) (site : ShardSite) (tpl : ShardTemplateSpec) :
    Except ResolveError LiteIdentity := do
  let (pool, cell) ← solePool
    (resolveShardWith (effectiveShard cluster site.shard) (liteOptions cluster none) tpl).pools
  return ⟨site.db.name, site.tg.name, site.shard.name, pool, cell⟩

theorem liteIdentity_eq_ok : liteIdentity r cluster = .ok id ↔
    ∃ site tpl, soleShard cluster = .ok site ∧
      r.resolveShardTemplate (effectiveShard cluster site.shard).shardTemplate = .ok tpl ∧
      identityWith cluster site tpl = .ok id := by
  unfold liteIdentity identityWith resolveShard
  simp only [Checks.bind_eq_ok]
  constructor
  · rintro ⟨site, hsite, resolved, ⟨tpl, htpl, hresolved⟩, hpool⟩
    obtain rfl := Except.ok.inj hresolved
    exact ⟨site, tpl, hsite, htpl, hpool⟩
  · rintro ⟨site, tpl, hsite, htpl, hpool⟩
    exact ⟨site, hsite, _, ⟨tpl, htpl, rfl⟩, hpool⟩

theorem solePool_eq_ok {pools : Pools} {name cell : String} :
    solePool pools = .ok (name, cell) ↔
      poolCells pools name = some [cell] ∧ ∀ name', name' ≠ name → poolCells pools name' = none := by
  have hsingle : solePool pools = .ok (name, cell) ↔
      ∃ pool, pools.items = [(name, pool)] ∧ pool.cells = [cell] := by
    unfold solePool
    constructor
    · intro h
      split at h
      · next name' pool hitems =>
        split at h
        · next cell' hcells =>
          obtain ⟨rfl, rfl⟩ := Prod.mk.inj (Except.ok.inj h)
          exact ⟨pool, hitems, hcells⟩
        · cases h
      · cases h
    · rintro ⟨pool, hitems, hcells⟩
      rw [hitems]
      dsimp only
      rw [hcells]
  rw [hsingle]
  simp only [Table.items_eq_singleton, poolCells, Option.map_eq_some_iff, Option.map_eq_none_iff]
  constructor
  · rintro ⟨pool, ⟨hget, hothers⟩, hcells⟩
    exact ⟨⟨pool, hget, hcells⟩, hothers⟩
  · rintro ⟨⟨pool, hget, hcells⟩, hothers⟩
    exact ⟨pool, ⟨hget, hothers⟩, hcells⟩

theorem solePool_congr {p q : Pools} (h : ∀ name, poolCells p name = poolCells q name)
    {x : String × String} (hp : solePool p = .ok x) : solePool q = .ok x := by
  obtain ⟨name, cell⟩ := x
  rw [solePool_eq_ok] at hp ⊢
  exact ⟨h name ▸ hp.1, fun name' hne => h name' ▸ hp.2 name' hne⟩

/-- Templates that compare as equal give shards whose pools have the same cells. -/
theorem shardAlike_of_same (h : sameShardTemplate a b = true) (x y : Option BackupConfig) :
    ShardAlike (shardOfTemplate a x) (shardOfTemplate b y) := by
  simp only [sameShardTemplate, Bool.and_eq_true] at h
  obtain ⟨⟨⟨⟨⟨horch, -⟩, -⟩, -⟩, hpools⟩, -⟩ := h
  refine ⟨?_, fun name => ?_⟩
  · rcases sameValue_cases horch with ⟨ha, hb⟩ | ⟨o, o', ha, hb, hsame⟩
    · change (a.multiorch.getD {}).cells = (b.multiorch.getD {}).cells
      rw [ha, hb]
    · change (a.multiorch.getD {}).cells = (b.multiorch.getD {}).cells
      simp only [sameMultiorchSpec, Bool.and_eq_true, beq_iff_eq] at hsame
      rw [ha, hb]
      exact hsame.2
  · change (a.pools.get name).map _ = (b.pools.get name).map _
    rcases sameValue_cases ((Table.same_iff _).mp hpools name) with ⟨ha, hb⟩ | ⟨p, q, ha, hb, hsame⟩
    · rw [ha, hb]
    · simp only [samePoolSpec, Bool.and_eq_true, beq_iff_eq] at hsame
      have hcells := congrArg V1Alpha1.PoolSpec.cells hsame.2
      change p.cells = q.cells at hcells
      rw [ha, hb, Option.map_some, Option.map_some, hcells]

theorem identityWith_of_same (h : sameShardTemplate a b = true)
    (ha : identityWith cluster site a = .ok id) : identityWith cluster site b = .ok id := by
  obtain ⟨x, hx, hid⟩ := Checks.bind_eq_ok.mp ha
  have halike : ShardAlike
      (resolveShardWith (effectiveShard cluster site.shard) (liteOptions cluster none) a)
      (resolveShardWith (effectiveShard cluster site.shard) (liteOptions cluster none) b) :=
    shardAlike_resolveShardWith (shardAlike_of_same h none none) rfl
  exact Checks.bind_eq_ok.mpr ⟨x, solePool_congr halike.pools hx, hid⟩

/-! ### Accepted Lite clusters -/

theorem soleShard_eq_ok : soleShard cluster = .ok site ↔
    cluster.spec.databases = [site.db] ∧ (∃ cell, cluster.spec.cells = [cell]) ∧
      site.db.tableGroups = [site.tg] ∧ site.tg.shards = [site.shard] := by
  unfold soleShard
  constructor
  · intro h
    split at h
    · next db cell hdb hcell =>
      split at h
      · next tg htg =>
        split at h
        · next shard hshard =>
          obtain rfl := Except.ok.inj h
          exact ⟨hdb, ⟨cell, hcell⟩, htg, hshard⟩
        · cases h
      · cases h
    · cases h
  · rintro ⟨hdb, ⟨cell, hcell⟩, htg, hshard⟩
    rw [hdb, hcell]
    dsimp only
    rw [htg]
    dsimp only
    rw [hshard]

theorem mem_shardSites (h : soleShard cluster = .ok site) : site ∈ shardSites cluster := by
  obtain ⟨hdb, -, htg, hshard⟩ := soleShard_eq_ok.mp h
  unfold shardSites
  rw [hdb, List.flatMap_singleton, htg, List.flatMap_singleton, hshard]
  exact List.mem_singleton.mpr rfl

theorem noSlash_of_liteIdentity (hfree : SlashFree cluster) (h : liteIdentity r cluster = .ok id) :
    NoSlash id.database ∧ NoSlash id.tableGroup ∧ NoSlash id.shard := by
  obtain ⟨site, tpl, hsite, -, hid⟩ := liteIdentity_eq_ok.mp h
  obtain ⟨x, -, hid⟩ := Checks.bind_eq_ok.mp hid
  obtain rfl := Except.ok.inj hid
  obtain ⟨hdb, -, htg, hshard⟩ := soleShard_eq_ok.mp hsite
  have hdbfree := hfree site.db (by rw [hdb]; exact List.mem_singleton.mpr rfl)
  have htgfree := hdbfree.2 site.tg (by rw [htg]; exact List.mem_singleton.mpr rfl)
  have hshardfree := htgfree.2 site.shard (by rw [hshard]; exact List.mem_singleton.mpr rfl)
  exact ⟨hdbfree.1, htgfree.1, hshardfree⟩

theorem exists_liteIdentity_of_validateLiteMode (h : validateLiteMode go r cluster = .ok ()) :
    ∃ id, liteIdentity r cluster = .ok id := by
  obtain ⟨cell, hcell, h⟩ := Checks.bind_eq_ok.mp h
  obtain ⟨db, hdb, h⟩ := Checks.bind_eq_ok.mp h
  obtain ⟨tg, htg, h⟩ := Checks.bind_eq_ok.mp h
  obtain ⟨shard, hshard, h⟩ := Checks.bind_eq_ok.mp h
  obtain ⟨resolved, hresolved, h⟩ := Checks.bind_eq_ok.mp h
  obtain ⟨⟨poolName, pool⟩, hpool, h⟩ := Checks.bind_eq_ok.mp h
  obtain ⟨-, h⟩ := Checks.andThen_eq_ok.mp h
  obtain ⟨poolCell, hpoolCell, -⟩ := Checks.bind_eq_ok.mp h
  rw [exactlyOne_eq_ok] at hcell hdb htg hshard hpool hpoolCell
  obtain ⟨tpl, htpl, hresolved⟩ := Checks.bind_eq_ok.mp (Checks.mapError_eq_ok.mp hresolved)
  obtain rfl := Except.ok.inj hresolved
  have hsite : soleShard cluster = .ok ⟨db, tg, shard⟩ :=
    soleShard_eq_ok.mpr ⟨hdb, ⟨cell, hcell⟩, htg, hshard⟩
  -- the place is resolved without inherited backups, which have no part in it
  have hsole : solePool (resolveShardWith (effectiveShard cluster shard)
      (liteOptions cluster none) tpl).pools = .ok (poolName, poolCell) := by
    have halike := shardAlike_options (effectiveShard cluster shard)
      (liteOptions cluster (ShardSite.inheritedBackup ⟨db, tg, shard⟩ cluster))
      (liteOptions cluster none) tpl rfl
    refine solePool_congr halike.pools ?_
    unfold solePool
    rw [hpool]
    dsimp only
    rw [hpoolCell]
  exact ⟨_, liteIdentity_eq_ok.mpr ⟨_, tpl, hsite, htpl, Checks.bind_eq_ok.mpr ⟨_, hsole, rfl⟩⟩⟩

/-- **An accepted Lite cluster has a place**, in a pool without a slash in its name. -/
theorem exists_identity_of_validateClusterLogic
    (h : validateClusterLogic go r cluster = .ok warnings) (hmode : cluster.spec.mode = .lite) :
    ∃ id, liteIdentity r cluster = .ok id ∧ NoSlash id.pool := by
  obtain ⟨id, hid⟩ :=
    exists_liteIdentity_of_validateLiteMode ((validateClusterLogic_parts h).2.1 hmode)
  refine ⟨id, hid, ?_⟩
  obtain ⟨site, tpl, hsite, htpl, hwith⟩ := liteIdentity_eq_ok.mp hid
  obtain ⟨⟨pool, cell⟩, hpool, hwith⟩ := Checks.bind_eq_ok.mp hwith
  obtain rfl := Except.ok.inj hwith
  -- the pool is among those whose names were checked
  obtain ⟨resolved, hresolved, hnames⟩ := validateClusterLogic_poolNames h (mem_shardSites hsite)
  obtain ⟨tpl', htpl', hresolved⟩ := Checks.bind_eq_ok.mp hresolved
  obtain rfl := Except.ok.inj hresolved
  obtain rfl : tpl = tpl' := Except.ok.inj (htpl.symm.trans htpl')
  have halike := shardAlike_options (effectiveShard cluster site.shard) (shardOptions cluster site)
    (liteOptions cluster none) tpl rfl
  have hcells := (solePool_eq_ok.mp hpool).1
  rw [← halike.pools] at hcells
  obtain ⟨spec, hget, -⟩ := Option.map_eq_some_iff.mp hcells
  exact slash_notMem_of_validatePoolName (hnames _ (Table.get_eq_some.mp hget))

/-! ### Updates -/

theorem identity_of_validateLiteIdentityUpdate
    (h : validateLiteIdentityUpdate r r' old new = .ok ()) (hold : liteIdentity r old = .ok id)
    (hnew : liteIdentity r' new = .ok id')
    (hid : NoSlash id.database ∧ NoSlash id.tableGroup ∧ NoSlash id.shard ∧ NoSlash id.pool)
    (hid' : NoSlash id'.database ∧ NoSlash id'.tableGroup ∧ NoSlash id'.shard ∧ NoSlash id'.pool) :
    id = id' := by
  unfold validateLiteIdentityUpdate resolvedLiteIdentity at h
  rw [hold, hnew] at h
  refine LiteIdentity.text_injective hid hid' ?_
  by_contra hne
  change (if id.text ≠ id'.text then _ else _) = _ at h
  rw [if_pos hne] at h
  cases h

/-! ### Writes of ShardTemplates -/

variable {w : Webhooks} {infra : Infrastructure} {s t : Store} {ns name ref : String}

theorem resolveShardTemplate_congr
    (h : t.templates.shard.get (ns, effectiveTemplateName ref) =
      s.templates.shard.get (ns, effectiveTemplateName ref)) :
    (t.resolver ns).resolveShardTemplate ref = (s.resolver ns).resolveShardTemplate ref :=
  resolveTemplate_stored_congr h

theorem liteIdentity_congr (hsite : soleShard cluster = .ok site)
    (h : r.resolveShardTemplate (effectiveShard cluster site.shard).shardTemplate =
      r'.resolveShardTemplate (effectiveShard cluster site.shard).shardTemplate) :
    liteIdentity r cluster = liteIdentity r' cluster := by
  unfold liteIdentity
  rw [hsite]
  change (resolveShard r _ _ >>= _) = (resolveShard r' _ _ >>= _)
  rw [resolveShard_congr h]

theorem usesResolvedShardTemplate_of_consumes (hsite : soleShard cluster = .ok site)
    (h : effectiveTemplateName (effectiveShard cluster site.shard).shardTemplate = name) :
    usesResolvedShardTemplate cluster name = true := by
  unfold usesResolvedShardTemplate
  exact List.any_eq_true.mpr ⟨site, mem_shardSites hsite, beq_iff_eq.mpr h⟩

/-- **A write that is accepted** keeps the place of a Lite cluster that consumes the template. -/
theorem identityWith_of_consumers
    (haccepted : validateLiteShardTemplateConsumers go (s.client infra) ns name tpl = .ok ())
    (hlive : s.Live cluster) (hns : cluster.namespace = ns) (hmode : cluster.spec.mode = .lite)
    (hfree : SlashFree cluster) (hid : liteIdentity (s.resolver ns) cluster = .ok id)
    (hpool : NoSlash id.pool) (hsite : soleShard cluster = .ok site)
    (hconsumes : effectiveTemplateName (effectiveShard cluster site.shard).shardTemplate = name) :
    identityWith cluster site tpl = .ok id := by
  obtain ⟨clusters, hclusters, haccepted⟩ := Checks.bind_eq_ok.mp haccepted
  have hmem := (clusters_client hclusters).mpr ⟨hlive.1, hns⟩
  have hconsumer := Checks.forM_eq_ok.mp haccepted cluster hmem
  unfold validateLiteShardTemplateConsumer at hconsumer
  simp only [hmode, hlive.2, usesResolvedShardTemplate_of_consumes hsite hconsumes, ne_eq,
    not_true_eq_false, Option.isSome_none, Bool.false_eq_true, or_self, if_false, Bool.not_true]
    at hconsumer
  obtain ⟨hupdate, hconsumer⟩ := Checks.andThen_eq_ok.mp hconsumer
  obtain ⟨warnings, hlogic, -⟩ := Checks.bind_eq_ok.mp hconsumer
  have hupdate := Checks.mapError_eq_ok.mp hupdate
  obtain ⟨id', hid', hpool'⟩ :=
    exists_identity_of_validateClusterLogic (Checks.mapError_eq_ok.mp hlogic) hmode
  have hbefore : liteIdentity (newResolver (s.client infra) ns) cluster = .ok id := by
    rw [← hid]
    exact liteIdentity_congr hsite (resolveShardTemplate_client ns _)
  have hnames := noSlash_of_liteIdentity hfree hbefore
  have hnames' := noSlash_of_liteIdentity hfree hid'
  obtain rfl := identity_of_validateLiteIdentityUpdate hupdate hbefore hid'
    ⟨hnames.1, hnames.2.1, hnames.2.2, hpool⟩ ⟨hnames'.1, hnames'.2.1, hnames'.2.2, hpool'⟩
  -- the place after the write is the one with the new content
  obtain ⟨site', tpl', hsite', htpl', hwith⟩ := liteIdentity_eq_ok.mp hid'
  obtain rfl : site = site' := Except.ok.inj (hsite.symm.trans hsite')
  obtain rfl : tpl = tpl' :=
    Except.ok.inj ((resolveTemplate_seeded tpl hconsumes).symm.trans htpl')
  exact hwith

/-! ### All Lite clusters -/

/-- A Lite cluster has the place it was created with. -/
structure Placed (s : Store) (born : String × String → Option LiteIdentity)
    (cluster : MultigresCluster) : Prop where
  slashFree : SlashFree cluster
  place : ∃ id, born (clusterKey cluster) = some id ∧ s.identity cluster = .ok id ∧ NoSlash id.pool

/-- All Lite clusters that are not being deleted have the place they were created with. -/
def AllPlaced (x : State) : Prop :=
  ∀ cluster, x.store.Live cluster → cluster.spec.mode = .lite → Placed x.store x.born cluster

theorem Placed.congr (h : Placed s born cluster) (hlookup : ∀ site, soleShard cluster = .ok site →
      (t.resolver cluster.namespace).resolveShardTemplate
          (effectiveShard cluster site.shard).shardTemplate =
        (s.resolver cluster.namespace).resolveShardTemplate
          (effectiveShard cluster site.shard).shardTemplate) : Placed t born cluster := by
  obtain ⟨id, hborn, hid, hpool⟩ := h.place
  obtain ⟨site, _, hsite, -⟩ := liteIdentity_eq_ok.mp hid
  refine ⟨h.slashFree, id, hborn, ?_, hpool⟩
  rw [← hid]
  exact liteIdentity_congr hsite (hlookup site hsite)

theorem Placed.of_change (h : Placed s born cluster)
    (hother : ∀ key, key ≠ (ns, name) → t.templates.shard.get key = s.templates.shard.get key)
    (hlookup : ∀ site id old, soleShard cluster = .ok site → s.identity cluster = .ok id →
      NoSlash id.pool → (s.resolver cluster.namespace).resolveShardTemplate
          (effectiveShard cluster site.shard).shardTemplate = .ok old →
      identityWith cluster site old = .ok id → cluster.namespace = ns →
      effectiveTemplateName (effectiveShard cluster site.shard).shardTemplate = name →
      ∃ tpl, (t.resolver cluster.namespace).resolveShardTemplate
          (effectiveShard cluster site.shard).shardTemplate = .ok tpl ∧
        identityWith cluster site tpl = .ok id) : Placed t born cluster := by
  obtain ⟨id, hborn, hid, hpool⟩ := h.place
  obtain ⟨site, old, hsite, hold, hwith⟩ := liteIdentity_eq_ok.mp hid
  by_cases hconsumes : cluster.namespace = ns ∧
      effectiveTemplateName (effectiveShard cluster site.shard).shardTemplate = name
  · obtain ⟨tpl, htpl, hwith⟩ :=
      hlookup site id old hsite hid hpool hold hwith hconsumes.1 hconsumes.2
    exact ⟨h.slashFree, id, hborn, liteIdentity_eq_ok.mpr ⟨site, tpl, hsite, htpl, hwith⟩, hpool⟩
  · -- the template of this shard is another one
    refine ⟨h.slashFree, id, hborn, liteIdentity_eq_ok.mpr ⟨site, old, hsite, ?_, hwith⟩, hpool⟩
    rw [← hold]
    exact resolveShardTemplate_congr (hother _ fun heq => hconsumes (Prod.mk.inj heq))

theorem placed_write (h : Placed s born cluster) (hlive : s.Live cluster)
    (hmode : cluster.spec.mode = .lite) (accepted : AcceptsWrite w infra s ns name (.shard tpl)) :
    Placed { s with templates := putTemplate s.templates ns name (.shard tpl) } born cluster := by
  refine h.of_change (fun key hkey => (Table.get_set _ _ _ _).trans (if_neg hkey)) ?_
  rintro site id found hsite hid hpool hfound hwith rfl rfl
  refine ⟨tpl, resolveTemplate_stored ((Table.get_set _ _ _ _).trans (if_pos rfl)), ?_⟩
  rcases accepted with ⟨old, hold, hsame⟩ | hwrite
  · obtain ⟨oldSpec, hget, rfl⟩ := Option.map_eq_some_iff.mp hold
    obtain rfl : oldSpec = found := Except.ok.inj ((resolveTemplate_stored hget).symm.trans hfound)
    exact identityWith_of_same hsame hwith
  · obtain ⟨-, hconsumers⟩ := Checks.andThen_eq_ok.mp hwrite
    exact identityWith_of_consumers hconsumers hlive rfl hmode h.slashFree hid hpool hsite rfl

theorem eq_fallback_of_shardConsumes (hsite : soleShard cluster = .ok site)
    (hconsumes : effectiveTemplateName (effectiveShard cluster site.shard).shardTemplate = name)
    (hunused : isTemplateInUse .shard cluster name = false) : name = fallbackTemplate := by
  simp only [isTemplateInUse, Bool.or_eq_false_iff, beq_eq_false_iff_ne, List.any_eq_false,
    beq_iff_eq] at hunused
  obtain ⟨hdefault, hshards⟩ := hunused
  have hown := hshards site (mem_shardSites hsite)
  unfold effectiveTemplateName effectiveShard overText at hconsumes
  dsimp only at hconsumes
  split at hconsumes
  · exact absurd hconsumes hown
  · split at hconsumes
    · exact hconsumes.symm
    · exact absurd hconsumes hdefault

theorem placed_drop (h : Placed s born cluster) (hlive : s.Live cluster)
    (hmode : cluster.spec.mode = .lite)
    (accepted : validateTemplateDelete w.go (s.client infra) ns name .shard = .ok ()) :
    Placed { s with templates := dropTemplate s.templates ns name .shard } born cluster := by
  refine h.of_change (fun key hkey => (Table.get_erase _ _ _).trans (if_neg hkey)) ?_
  rintro site id - hsite hid hpool - - rfl hconsumes
  obtain ⟨hunused, -, hfallback⟩ := validateTemplateDelete_eq_ok accepted
  obtain rfl := eq_fallback_of_shardConsumes hsite hconsumes (hunused cluster hlive rfl)
  refine ⟨{}, resolveTemplate_stored_none hconsumes ?_, ?_⟩
  · exact (Table.get_erase _ _ _).trans (if_pos rfl)
  · exact identityWith_of_consumers (hfallback rfl rfl) hlive rfl hmode h.slashFree hid hpool hsite
      hconsumes

theorem defaulted_keeps (h : defaulted w infra s cluster = .ok cluster') :
    clusterKey cluster' = clusterKey cluster ∧ (SlashFree cluster → SlashFree cluster') := by
  obtain ⟨inject, hkeeps⟩ := keepsNames_default h
  refine ⟨?_, fun hfree => slashFree_of_keepsNames hkeeps (slashFree_populate inject hfree)⟩
  rw [clusterKey, hkeeps.namespace, hkeeps.name]
  rfl

theorem exists_identity_of_validate {catalog : PostgresConfig.Catalog}
    (h : validate go catalog (s.client infra) cluster = .ok warnings)
    (hmode : cluster.spec.mode = .lite) : ∃ id, s.identity cluster = .ok id ∧ NoSlash id.pool := by
  obtain ⟨-, h⟩ := Checks.andThen_eq_ok.mp h
  obtain ⟨-, h⟩ := Checks.andThen_eq_ok.mp h
  obtain ⟨id, hid, hpool⟩ := exists_identity_of_validateClusterLogic h hmode
  obtain ⟨site, _, hsite, -⟩ := liteIdentity_eq_ok.mp hid
  refine ⟨id, ?_, hpool⟩
  rw [← hid]
  exact liteIdentity_congr hsite (resolveShardTemplate_client _ _).symm

theorem identity_of_templates_eq (h : t.templates = s.templates) (cluster : MultigresCluster) :
    t.identity cluster = s.identity cluster := by
  simp only [Store.identity, Store.resolver, newResolver, Store.client, h]

theorem Placed.of_templates_eq (h : Placed s born cluster) (htemplates : t.templates = s.templates) :
    Placed t born cluster := by
  obtain ⟨id, hborn, hid, hpool⟩ := h.place
  exact ⟨h.slashFree, id, hborn, (identity_of_templates_eq htemplates _).trans hid, hpool⟩

theorem allPlaced_create (h : AllPlaced x) (hfree : SlashFree requested)
    (default : ∃ c, defaulted w infra x.store requested = .ok c ∧
      new = { c with deletionTimestamp := none })
    (accepted : validate w.go w.catalog (x.store.client infra) new = .ok warnings)
    (templates : t.templates = x.store.templates) (stored : new ∈ t.clusters)
    (members : ∀ c ∈ t.clusters, c = new ∨ c ∈ x.store.clusters ∧ clusterKey c ≠ clusterKey new) :
    AllPlaced ⟨t, x.bornAfter (.createCluster requested) t⟩ := by
  obtain ⟨c, hdefaulted, hnew⟩ := default
  obtain ⟨hkey, hkeeps⟩ := defaulted_keeps hdefaulted
  have hkey : clusterKey new = clusterKey requested := by
    rw [hnew]
    exact hkey
  intro cluster hlive hmode
  rcases members cluster hlive.1 with rfl | ⟨hold, hne⟩
  · obtain ⟨id, hid, hpool⟩ := exists_identity_of_validate accepted hmode
    have hid' := (identity_of_templates_eq templates _).trans hid
    have hslash : SlashFree cluster := by
      rw [hnew]
      exact hkeeps hfree
    refine ⟨hslash, id, ?_, hid', hpool⟩
    have hfind := Keyed.find_eq_some.mpr ⟨stored, rfl⟩
    change Function.update x.born (clusterKey requested) _ (clusterKey cluster) = some id
    rw [hkey, Function.update_self, ← hkey, hfind, Option.bind_some, hid']
    rfl
  · refine Placed.of_templates_eq (s := x.store) ?_ templates
    obtain ⟨hslash, id, hborn, hrest⟩ := h cluster ⟨hold, hlive.2⟩ hmode
    refine ⟨hslash, id, ?_, hrest⟩
    change Function.update x.born (clusterKey requested) _ (clusterKey cluster) = some id
    have hother : clusterKey cluster ≠ clusterKey requested := fun heq => hne (heq.trans hkey.symm)
    rw [Function.update_of_ne hother, hborn]

theorem allPlaced_update (h : AllPlaced x) (hfree : SlashFree requested)
    (default : ∃ c, defaulted w infra x.store requested = .ok c ∧
      new = { c with deletionTimestamp := old.deletionTimestamp }) (stored : old ∈ x.store.clusters)
    (key : clusterKey old = clusterKey new)
    (accepted : validateUpdate w.go w.catalog (x.store.client infra) old new = .ok warnings)
    (templates : t.templates = x.store.templates)
    (members : ∀ c ∈ t.clusters, c = new ∨ c ∈ x.store.clusters) : AllPlaced ⟨t, x.born⟩ := by
  intro cluster hlive hmode
  refine Placed.of_templates_eq (s := x.store) ?_ templates
  rcases members cluster hlive.1 with rfl | hold
  · obtain ⟨c, hdefaulted, hnew⟩ := default
    obtain ⟨hsame, hupdate, hvalidate, -⟩ := passed_of_validateUpdate accepted
    have holdMode := hsame.trans hmode
    have holdLive : old.deletionTimestamp = none := by
      have := hlive.2
      rwa [hnew] at this
    obtain ⟨hslash, id, hborn, hid, hpool⟩ := h old ⟨stored, holdLive⟩ holdMode
    obtain ⟨id', hid', hpool'⟩ := exists_identity_of_validate hvalidate hmode
    have hslash' : SlashFree cluster := by
      rw [hnew]
      exact (defaulted_keeps hdefaulted).2 hfree
    -- both places are resolved with the templates that are stored
    have hns : old.namespace = cluster.namespace := congrArg Prod.fst key
    obtain ⟨site, _, hsite, -⟩ := liteIdentity_eq_ok.mp hid
    obtain ⟨site', _, hsite', -⟩ := liteIdentity_eq_ok.mp hid'
    have hbefore : liteIdentity (newResolver (x.store.client infra) cluster.namespace) old =
        .ok id := by
      rw [← hid, ← hns]
      exact liteIdentity_congr hsite (resolveShardTemplate_client _ _)
    have hafter : liteIdentity (newResolver (x.store.client infra) cluster.namespace) cluster =
        .ok id' := by
      rw [← hid']
      exact liteIdentity_congr hsite' (resolveShardTemplate_client _ _)
    have hnames := noSlash_of_liteIdentity hslash hbefore
    have hnames' := noSlash_of_liteIdentity hslash' hafter
    obtain rfl := identity_of_validateLiteIdentityUpdate (hupdate holdMode) hbefore hafter
      ⟨hnames.1, hnames.2.1, hnames.2.2, hpool⟩ ⟨hnames'.1, hnames'.2.1, hnames'.2.2, hpool'⟩
    exact ⟨hslash', id, key ▸ hborn, hid', hpool'⟩
  · exact h cluster ⟨hold, hlive.2⟩ hmode

theorem bornAfter_of_notCreate (h : ∀ c, req ≠ .createCluster c) : x.bornAfter req t = x.born := by
  cases req with
  | createCluster cluster => exact absurd rfl (h cluster)
  | _ => rfl

/-- **Every change keeps the places of Lite clusters.** -/
theorem placed_of_change (h : AllPlaced x) (hreq : req.SlashFree)
    (hchange : Change w infra x.store req t) : AllPlaced ⟨t, x.bornAfter req t⟩ := by
  cases hchange with
  | create default accepted templates stored members =>
    exact allPlaced_create h hreq default accepted templates stored members
  | update default stored key accepted templates members =>
    exact allPlaced_update h hreq default stored key accepted templates members
  | retire notCreate templates members =>
    rw [bornAfter_of_notCreate notCreate]
    intro cluster hlive hmode
    have hold : x.store.Live cluster := ⟨members cluster hlive.1 hlive.2, hlive.2⟩
    exact (h cluster hold hmode).of_templates_eq templates
  | @write _ ns name tpl notCreate accepted =>
    rw [bornAfter_of_notCreate notCreate]
    intro cluster hlive hmode
    have hplaced := h cluster hlive hmode
    cases tpl with
    | core spec => exact hplaced.congr fun _ _ => rfl
    | cell spec => exact hplaced.congr fun _ _ => rfl
    | shard spec => exact placed_write hplaced hlive hmode accepted
  | @drop kind ns name accepted =>
    intro cluster hlive hmode
    have hplaced := h cluster hlive hmode
    cases kind with
    | core => exact hplaced.congr fun _ _ => rfl
    | cell => exact hplaced.congr fun _ _ => rfl
    | shard => exact placed_drop hplaced hlive hmode accepted

/-- **A Lite cluster keeps the place of its data.** In every run of accepted requests from a state
without Lite clusters, a Lite cluster that is not being deleted has the database, table group, shard,
pool and cell that it had when it was created. -/
theorem lite_identity_immutable {x y : State}
    (hstart : ∀ cluster ∈ x.store.clusters, cluster.spec.mode ≠ .lite)
    (hrun : Run w Request.SlashFree x y) :
    ∀ cluster ∈ y.store.clusters, cluster.spec.mode = .lite → cluster.deletionTimestamp = none →
      ∃ id, y.born (clusterKey cluster) = some id ∧ y.store.identity cluster = .ok id := by
  have hplaced : AllPlaced y := by
    refine hrun.induction (I := AllPlaced) ?_ ?_
    · exact fun cluster hlive hmode => absurd hmode (hstart cluster hlive.1)
    · exact fun _ _ _ _ h hreq hchange => placed_of_change h hreq hchange
  intro cluster hcluster hmode hlive
  obtain ⟨id, hborn, hid, -⟩ := (hplaced cluster ⟨hcluster, hlive⟩ hmode).place
  exact ⟨id, hborn, hid⟩

section

open Webhook.Sample

/-- A fallback ShardTemplate is created that keeps the place of the Lite cluster, and the cluster
is updated. -/
def liteRequests : List Request :=
  [.createTemplate "prod" "gw" gatewayTemplate, .createCluster liteCluster,
    .createTemplate "prod" "default" (.shard { pools := Table.set ∅ "default" { fsGroup := some 7 } }),
    .updateCluster { liteCluster with annotations := Table.set ∅ "team" "data" }]

/-- The cluster keeps the place that it was created with. -/
theorem lite_identity_immutable_updated :
    ∃ y, Run installed Request.SlashFree emptyState y ∧
      (y.store.clusters.items.map fun c => (y.store.identity c).toOption) =
        [some ⟨"postgres", "default", "0-inf", "default", "z1"⟩] ∧
      ∀ cluster ∈ y.store.clusters, cluster.spec.mode = .lite → cluster.deletionTimestamp = none →
        ∃ id, y.born (clusterKey cluster) = some id ∧ y.store.identity cluster = .ok id := by
  have hrun : ((admitAll installed cloud emptyState.store liteRequests).map fun s =>
      s.clusters.items.map fun c => (s.identity c).toOption) =
        .ok [some ⟨"postgres", "default", "0-inf", "default", "z1"⟩] := by decide +kernel
  have hfree : ∀ req ∈ liteRequests, req.SlashFree := by
    simp [liteRequests, Request.SlashFree, SlashFree, liteCluster]
  cases hadmission : admitAll installed cloud emptyState.store liteRequests with
  | error err =>
    rw [hadmission] at hrun
    cases hrun
  | ok t =>
    obtain ⟨y, hy, rfl⟩ := exists_run_of_admitAll .refl hadmission hfree
    rw [hadmission] at hrun
    refine ⟨y, hy, Except.ok.inj hrun, lite_identity_immutable ?_ hy⟩
    exact fun _ h => absurd h List.not_mem_nil

end

end MultigresOperator.Webhook

import MultigresOperator.Resolver.Running
import MultigresOperator.Webhook.Admission

/-!
# What an update changes of what runs

The reconciler populates a cluster and resolves it against the templates of its namespace. An update
must not make a volume smaller, nor change the number of etcd members. The webhook compares the two
versions of the spec as they are written: of a pool the size in the shard's inline spec, or in the
overrides of a shard without one, and of etcd the replicas in the inline spec. Where a version leaves
a setting to a lower layer, the webhook sees nothing, or the built-in default.

## Main results

* `size_eq_layeredSize`, `replicas_eq_layeredReplicas`: a setting is that of the highest layer that
  gives it
* `running_storage_not_shrunk_iff`, `running_etcd_replicas_unchanged_iff`: what an accepted update
  keeps
-/

namespace MultigresOperator.Webhook

open V1Alpha1 Resolution

/-- The requested version of a cluster is defaulted and passes the validation against the old one. -/
structure AcceptedUpdate (hooks : Webhooks) (client : Client)
    (old requested new : MultigresCluster) : Prop where
  defaulted : default hooks.go hooks.injectTraceContext client hooks.operatorNamespace requested =
    .ok new
  validated : ∃ warnings, validateUpdate hooks.go hooks.catalog client old new = .ok warnings

/-! ### Sizes of volumes -/

def layeredSize (shard : ShardConfig) (tpl : ShardTemplateSpec) (name : String) : String :=
  overText (layeredText storageSize shard tpl name) defaultEtcdStorageSize

variable {cluster : MultigresCluster} {text : String} {client : Client} {name size : String}
  {given : V1Alpha1.PoolSpec} {old new : MultigresCluster}

/-- **The size of a pool** is that of the highest layer that gives one. -/
theorem size_eq_layeredSize (p : RunningPool client cluster) :
    p.size = layeredSize p.site.shard p.tpl p.name :=
  ((get_pools_resolveShardWith _ _ _ _).2 _ p.get_resolveShardWith).1

/-! ### Sizes in the spec -/

/-- The pools of a shard whose sizes the webhook reads. -/
def specPools (shard : ShardConfig) : Pools :=
  match shard.spec, shard.overrides with
  | some spec, _ => spec.pools
  | none, some overrides => overrides.pools
  | none, none => ∅

/-- The spec of a cluster gives a size under the text of a path. -/
def Written (cluster : MultigresCluster) (text size : String) : Prop :=
  ∃ site ∈ shardSites cluster, ∃ name pool, (specPools site.shard).get name = some pool ∧
    pool.storage.size = size ∧ size ≠ "" ∧ (poolPath site name).text = text

/-- The size of a pool is in the spec, where the webhook reads it, and nothing else is written under
the pool's path. Names are unique in their lists and have no slashes, so nothing else is. -/
def InSpec {client : Client} {cluster : MultigresCluster}
    (p : RunningPool client cluster) : Prop :=
  ∃ given, (specPools p.site.shard).get p.name = some given ∧ given.storage.size ≠ "" ∧
    ∀ size, Written cluster p.path.text size → size = given.storage.size

theorem layeredSize_of_specPools {shard : ShardConfig} (h : (specPools shard).get name = some given)
    (hsize : given.storage.size ≠ "") (tpl : ShardTemplateSpec) :
    layeredSize shard tpl name = given.storage.size := by
  have hover (a b : String) : overText (overText given.storage.size a) b = given.storage.size := by
    rw [overText_of_ne hsize, overText_of_ne hsize]
  unfold specPools at h
  unfold layeredSize layeredText
  cases hspec : shard.spec with
  | some spec =>
    rw [hspec] at h
    rw [Option.elim_some, textIn_of_get h]
    exact hover _ _
  | none =>
    rw [Option.elim_none, textIn_empty, overText_empty]
    cases hoverrides : shard.overrides with
    | some overrides =>
      rw [hspec, hoverrides] at h
      rw [Option.elim_some, textIn_of_get h]
      exact hover _ _
    | none =>
      rw [hspec, hoverrides] at h
      cases h

theorem written_of_get (h : (collectPoolStorageSizes cluster).get text = some size) :
    Written cluster text size := by
  have hmem := Table.mem_of_mem_ofList (Table.get_eq_some.mp h)
  obtain ⟨site, hsite, hpool⟩ := List.mem_flatMap.mp hmem
  obtain ⟨⟨name, pool⟩, hitem, hentry⟩ := List.mem_filterMap.mp hpool
  dsimp only at hentry
  split at hentry
  · next hsize =>
    obtain ⟨rfl, rfl⟩ := Prod.mk.inj (Option.some.inj hentry)
    exact ⟨site, hsite, name, pool, Table.get_eq_some.mpr hitem, rfl, hsize, rfl⟩
  · cases hentry

theorem get_collectPoolStorageSizes (h : Written cluster text size)
    (hunique : ∀ other, Written cluster text other → other = size) :
    (collectPoolStorageSizes cluster).get text = some size := by
  obtain ⟨site, hsite, name, pool, hpool, hgiven, hne, htext⟩ := h
  have hsome : ((collectPoolStorageSizes cluster).get text).isSome = true := by
    refine Table.isSome_get_ofList.mpr ⟨size, List.mem_flatMap.mpr ⟨site, hsite, ?_⟩⟩
    refine List.mem_filterMap.mpr ⟨(name, pool), Table.get_eq_some.mp hpool, ?_⟩
    dsimp only
    rw [hgiven, if_pos hne, ← htext]
    rfl
  obtain ⟨other, hother⟩ := Option.isSome_iff_exists.mp hsome
  rw [hother, hunique other (written_of_get hother)]

theorem size_createdShard {hasCells inject : Bool}
    (h : (specPools (createdShard hasCells inject)).get name = some given) :
    given.storage.size = "" := by
  cases hasCells with
  | false => cases h
  | true =>
    cases inject with
    | false => cases h
    | true =>
      change (Table.set ∅ "default" { type := .readWrite }).get name = some given at h
      rw [Table.get_set, Table.get_empty] at h
      split at h
      · rw [← Option.some.inj h]
      · cases h

theorem InSpec.collected {p : RunningPool client cluster} (h : InSpec p) :
    (collectPoolStorageSizes cluster).get p.path.text = some p.size := by
  obtain ⟨given, hgiven, hsize, hunique⟩ := h
  have hrunning : p.size = given.storage.size := by
    rw [size_eq_layeredSize p, layeredSize_of_specPools hgiven hsize]
  obtain ⟨inject, hpopulated⟩ := exists_populate_of_reconciled p.populated_eq
  have hwritten : Written cluster p.path.text given.storage.size := by
    rcases mem_shardSites_populate (hpopulated ▸ p.site_mem) with hcreated | ⟨raw, hraw, hdb, htg, hshard⟩
    · rw [hcreated] at hgiven
      exact absurd (size_createdShard hgiven) hsize
    · refine ⟨raw, hraw, p.name, given, hshard ▸ hgiven, rfl, hsize, ?_⟩
      rw [RunningPool.path, poolPath, poolPath, hdb, htg, hshard]
  rw [hrunning]
  exact get_collectPoolStorageSizes hwritten hunique

/-! ### Volumes never shrink -/

/-- The second size is smaller than the first one. -/
def Shrinks (go : GoLib) (before after : String) : Prop :=
  ∃ x y, go.parseQuantity before = some x ∧ go.parseQuantity after = some y ∧ y < x

theorem not_shrinks_of_validateNoStorageShrink {go : GoLib}
    (h : validateNoStorageShrink go old new = .ok ()) {before after : String}
    (hbefore : (collectPoolStorageSizes old).get text = some before)
    (hafter : (collectPoolStorageSizes new).get text = some after) : ¬ Shrinks go before after := by
  rintro ⟨x, y, hx, hy, hlt⟩
  have hcheck := Checks.forM_eq_ok.mp h (text, before) (Table.get_eq_some.mp hbefore)
  dsimp only at hcheck
  rw [hafter] at hcheck
  dsimp only at hcheck
  rw [hx, hy] at hcheck
  dsimp only at hcheck
  rw [if_pos hlt] at hcheck
  cases hcheck

/-- **An accepted update makes no volume smaller** exactly if, for every pool that runs before and
after, its size is in the spec of both versions, or the highest of its layers that gives a size does
not give a smaller one. -/
theorem running_storage_not_shrunk_iff {hooks : Webhooks} {client : Client}
    {old requested new : MultigresCluster} (h : AcceptedUpdate hooks client old requested new) :
    (∀ (p : RunningPool client old) (q : RunningPool client new), p.path = q.path →
      ¬ Shrinks hooks.go p.size q.size) ↔
    ∀ (p : RunningPool client old) (q : RunningPool client new), p.path = q.path →
      InSpec p ∧ InSpec q ∨
        ¬ Shrinks hooks.go (layeredSize p.site.shard p.tpl p.name)
          (layeredSize q.site.shard q.tpl q.name) := by
  obtain ⟨warnings, hvalidated⟩ := h.validated
  obtain ⟨-, -, -, hstorage, -⟩ := passed_of_validateUpdate hvalidated
  refine forall_congr' fun p => forall_congr' fun q => forall_congr' fun hpath => ?_
  rw [← size_eq_layeredSize p, ← size_eq_layeredSize q]
  constructor
  · exact .inr
  · rintro (⟨hp, hq⟩ | hkept)
    · exact not_shrinks_of_validateNoStorageShrink hstorage hp.collected (hpath ▸ hq.collected)
    · exact hkept

/-! ### Members of the global etcd -/

def inlineReplicas (cluster : MultigresCluster) : Option ℤ :=
  (cluster.spec.globalTopoServer.bind (·.etcd)).bind (·.replicas)

def templateReplicas (tpl : CoreTemplateSpec) : Option ℤ :=
  (tpl.globalTopoServer.bind (·.etcd)).bind (·.replicas)

def layeredReplicas (cluster : MultigresCluster) (tpl : CoreTemplateSpec) : ℤ :=
  ((inlineReplicas cluster).or (templateReplicas tpl)).getD defaultEtcdReplicas

section

variable {go : GoLib} {client : Client} {cluster : MultigresCluster}

/-- **The replicas of the etcd** are those of the highest layer that gives them. -/
theorem replicas_eq_layeredReplicas (p : ManagedEtcd go client cluster) :
    p.etcd.replicas = some (layeredReplicas cluster p.tpl) := by
  obtain ⟨etcd, rootPath, hetcd, hdefault⟩ := p.exists_globalEtcd
  have hreplicas : etcd.replicas = (inlineReplicas cluster).or (templateReplicas p.tpl) := by
    have htemplate : (p.tpl.globalTopoServer.getD { etcd := some {} }).etcd.bind (·.replicas) =
        templateReplicas p.tpl := by
      unfold templateReplicas
      cases p.tpl.globalTopoServer <;> rfl
    rw [inlineReplicas, ← htemplate]
    rcases (globalEtcd_eq_some hetcd).2 with ⟨hinline, hbase⟩ | ⟨upper, hinline, rfl⟩
    · rw [hinline, hbase]
      rfl
    · rw [hinline]
      generalize (p.tpl.globalTopoServer.getD { etcd := some {} }).etcd = base
      cases base <;> rfl
  rw [hdefault]
  change etcd.replicas.or (some defaultEtcdReplicas) = _
  rw [hreplicas, layeredReplicas]
  cases (inlineReplicas cluster).or (templateReplicas p.tpl) <;> rfl

theorem effectiveEtcdReplicas_eq (p : ManagedEtcd go client cluster) :
    effectiveEtcdReplicas cluster = (inlineReplicas cluster).getD defaultEtcdReplicas := by
  obtain ⟨etcd, rootPath, hetcd, -⟩ := p.exists_globalEtcd
  have hexternal := (globalEtcd_eq_some hetcd).1
  unfold effectiveEtcdReplicas inlineReplicas
  cases htopo : cluster.spec.globalTopoServer with
  | none => rfl
  | some topo =>
    dsimp only
    rw [if_neg (by simp [hexternal topo htopo])]
    rfl

end

/-- The sources of the replicas before and after agree. Both versions give them inline, where no
replicas stand for an external server and are not compared; or what a CoreTemplate or the built-in
default supplies in a version without them agrees with the other version. -/
def SourcesAgree (inline : Option ℤ) (template : Option ℤ) (inline' : Option ℤ)
    (template' : Option ℤ) : Prop :=
  match inline, inline' with
  | some n, some n' => n = n' ∨ n ≠ 0 ∧ n' ≠ 0
  | some n, none => template'.getD defaultEtcdReplicas = n
  | none, some n' => template.getD defaultEtcdReplicas = n'
  | none, none => template.getD defaultEtcdReplicas = template'.getD defaultEtcdReplicas

theorem eq_of_validateEtcdReplicasImmutable (h : validateEtcdReplicasImmutable old new = .ok ())
    (hold : effectiveEtcdReplicas old ≠ 0) (hnew : effectiveEtcdReplicas new ≠ 0) :
    effectiveEtcdReplicas old = effectiveEtcdReplicas new := by
  unfold validateEtcdReplicasImmutable at h
  dsimp only at h
  rw [if_neg (not_or.mpr ⟨hold, hnew⟩)] at h
  by_contra hne
  rw [if_pos hne] at h
  cases h

/-- **An accepted update keeps the number of etcd members** exactly if the sources of the number
before and after agree. -/
theorem running_etcd_replicas_unchanged_iff {hooks : Webhooks} {client : Client}
    {old requested new : MultigresCluster} (h : AcceptedUpdate hooks client old requested new)
    (p : ManagedEtcd hooks.go client old) (q : ManagedEtcd hooks.go client new) :
    p.etcd.replicas = q.etcd.replicas ↔
      SourcesAgree (inlineReplicas old) (templateReplicas p.tpl) (inlineReplicas new)
        (templateReplicas q.tpl) := by
  obtain ⟨warnings, hvalidated⟩ := h.validated
  obtain ⟨-, -, -, -, hetcd⟩ := passed_of_validateUpdate hvalidated
  have hsame := eq_of_validateEtcdReplicasImmutable hetcd
  rw [effectiveEtcdReplicas_eq p, effectiveEtcdReplicas_eq q] at hsame
  rw [replicas_eq_layeredReplicas p, replicas_eq_layeredReplicas q, Option.some_inj,
    layeredReplicas, layeredReplicas]
  unfold SourcesAgree
  cases hold : inlineReplicas old with
  | none =>
    cases hnew : inlineReplicas new with
    | none => rw [Option.none_or, Option.none_or]
    | some n' => rw [Option.none_or, Option.some_or, Option.getD_some]
  | some n =>
    cases hnew : inlineReplicas new with
    | none =>
      rw [Option.none_or, Option.some_or, Option.getD_some]
      exact eq_comm
    | some n' =>
      rw [Option.some_or, Option.some_or, Option.getD_some, Option.getD_some]
      rw [hold, hnew, Option.getD_some, Option.getD_some] at hsame
      -- the webhook compares what is not zero
      constructor
      · exact .inl
      · rintro (heq | ⟨hn, hn'⟩)
        · exact heq
        · exact hsame hn hn'

namespace Sample

def readSize (size : String) : Option ℤ :=
  if size = "100Gi" then some 100 else if size = "50Gi" then some 50 else none

def sizedHooks : Webhooks := { installed with go := { GoLib.ascii with parseQuantity := readSize } }

def sizedTemplate (size : String) : ShardTemplateSpec :=
  { pools := Table.set ∅ "default" { type := .readWrite, storage := { size := size } } }

/-- Two ShardTemplates, with large and with small volumes, and a default storage class. -/
def sizedClient : Client :=
  Templates.client
    { shard := Table.ofList [(("prod", "big"), sizedTemplate "100Gi"),
        (("prod", "small"), sizedTemplate "50Gi")] }
    [Table.set ∅ "storageclass.kubernetes.io/is-default-class" "true"]

/-- The shard of a cluster takes its settings from a ShardTemplate. -/
def templatedDatabase (shardTemplate : String) : DatabaseConfig where
  name := "postgres"
  default := true
  tableGroups := [{ name := "default", default := true, shards := [{ name := "0-inf", shardTemplate }] }]

def templatedCluster (shardTemplate : String) : MultigresCluster where
  name := "db"
  «namespace» := "prod"
  spec := { cells := [{ name := "z1" }], databases := [templatedDatabase shardTemplate] }

def defaultedCluster (client : Client) (cluster : MultigresCluster) : MultigresCluster :=
  match default sizedHooks.go sizedHooks.injectTraceContext client sizedHooks.operatorNamespace
      cluster with
  | .ok new => new
  | .error _ => cluster

theorem exists_size_of_runningPools {client : Client} {cluster : MultigresCluster}
    {path : PoolPath} {size : String}
    (h : (path, size) ∈ (runningPools client cluster).map fun (path, pool) =>
      (path, pool.storage.size)) :
    ∃ p : RunningPool client cluster, p.path = path ∧ p.size = size := by
  obtain ⟨⟨path', pool⟩, hmem, hentry⟩ := List.mem_map.mp h
  obtain ⟨p, hp, rfl⟩ := mem_runningPools_iff.mp hmem
  obtain ⟨hpath, hsize⟩ := Prod.mk.inj hentry
  exact ⟨p, hp.trans hpath, hsize⟩

theorem shrunk_accepted : AcceptedUpdate sizedHooks sizedClient (templatedCluster "big")
    (templatedCluster "small") (defaultedCluster sizedClient (templatedCluster "small")) where
  defaulted := by decide +kernel
  validated := Checks.exists_of_toBool (by decide +kernel)

end Sample

section

open Webhook.Sample

/-- The condition is exact for a reference that changes from one ShardTemplate to another. -/
theorem running_storage_not_shrunk_templates :
    AcceptedUpdate sizedHooks sizedClient (templatedCluster "big") (templatedCluster "small")
      (defaultedCluster sizedClient (templatedCluster "small")) ∧
    ((∀ (p : RunningPool sizedClient (templatedCluster "big"))
      (q : RunningPool sizedClient (defaultedCluster sizedClient (templatedCluster "small"))),
      p.path = q.path → ¬ Shrinks sizedHooks.go p.size q.size) ↔
    ∀ (p : RunningPool sizedClient (templatedCluster "big"))
      (q : RunningPool sizedClient (defaultedCluster sizedClient (templatedCluster "small"))),
      p.path = q.path → InSpec p ∧ InSpec q ∨
        ¬ Shrinks sizedHooks.go (layeredSize p.site.shard p.tpl p.name)
          (layeredSize q.site.shard q.tpl q.name)) :=
  ⟨shrunk_accepted, running_storage_not_shrunk_iff shrunk_accepted⟩

/-- **A volume shrinks.** The reference of a shard is changed to a ShardTemplate with smaller
volumes. Neither version of the spec gives a size, so there is nothing that the webhook compares. -/
theorem template_change_shrinks :
    ∃ (hooks : Webhooks) (client : Client) (old requested new : MultigresCluster),
      AcceptedUpdate hooks client old requested new ∧
      ∃ (p : RunningPool client old) (q : RunningPool client new), p.path = q.path ∧
        Shrinks hooks.go p.size q.size := by
  refine ⟨sizedHooks, sizedClient, templatedCluster "big", templatedCluster "small",
    defaultedCluster sizedClient (templatedCluster "small"), shrunk_accepted, ?_⟩
  have hbefore : ((runningPools sizedClient (templatedCluster "big")).map fun (path, pool) =>
      (path, pool.storage.size)) = [(⟨"postgres", "default", "0-inf", "default"⟩, "100Gi")] := by
    decide +kernel
  have hafter : ((runningPools sizedClient
      (defaultedCluster sizedClient (templatedCluster "small"))).map fun (path, pool) =>
      (path, pool.storage.size)) = [(⟨"postgres", "default", "0-inf", "default"⟩, "50Gi")] := by
    decide +kernel
  obtain ⟨p, hp, hbig⟩ := exists_size_of_runningPools (hbefore ▸ List.mem_cons_self)
  obtain ⟨q, hq, hsmall⟩ := exists_size_of_runningPools (hafter ▸ List.mem_cons_self)
  refine ⟨p, q, hp.trans hq.symm, ?_⟩
  rw [hbig, hsmall]
  exact ⟨100, 50, by decide +kernel, by decide +kernel, by decide⟩

end

namespace Sample

def etcdTemplate (replicas : ℤ) : CoreTemplateSpec :=
  { globalTopoServer := some { etcd := some { replicas := some replicas } } }

def etcdClient : Client :=
  Templates.client
    { core := Table.ofList [(("prod", "single"), etcdTemplate 1), (("prod", "quorum"), etcdTemplate 5)] }
    [Table.set ∅ "storageclass.kubernetes.io/is-default-class" "true"]

def etcdCluster (coreTemplate : String) : MultigresCluster where
  name := "db"
  «namespace» := "prod"
  spec := { cells := [{ name := "z1" }], globalTopoServer := some { templateRef := coreTemplate } }

theorem exists_replicas_of_managedEtcd {go : GoLib} {client : Client} {cluster : MultigresCluster}
    {replicas : Option ℤ} (h : (managedEtcd go client cluster).map (·.replicas) = some replicas) :
    ∃ p : ManagedEtcd go client cluster, p.etcd.replicas = replicas := by
  obtain ⟨etcd, hetcd, hreplicas⟩ := Option.map_eq_some_iff.mp h
  obtain ⟨p, rfl⟩ := managedEtcd_eq_some_iff.mp hetcd
  exact ⟨p, hreplicas⟩

theorem resized_accepted : AcceptedUpdate installed etcdClient (etcdCluster "single")
    (etcdCluster "quorum") (defaultedCluster etcdClient (etcdCluster "quorum")) where
  defaulted := by decide +kernel
  validated := Checks.exists_of_toBool (by decide +kernel)

theorem exists_resized :
    ∃ (p : ManagedEtcd installed.go etcdClient (etcdCluster "single"))
      (q : ManagedEtcd installed.go etcdClient (defaultedCluster etcdClient (etcdCluster "quorum"))),
      p.etcd.replicas = some 1 ∧ q.etcd.replicas = some 5 := by
  have hbefore : (managedEtcd installed.go etcdClient (etcdCluster "single")).map (·.replicas) =
      some (some 1) := by
    decide +kernel
  have hafter : (managedEtcd installed.go etcdClient
      (defaultedCluster etcdClient (etcdCluster "quorum"))).map (·.replicas) = some (some 5) := by
    decide +kernel
  obtain ⟨p, hp⟩ := exists_replicas_of_managedEtcd hbefore
  obtain ⟨q, hq⟩ := exists_replicas_of_managedEtcd hafter
  exact ⟨p, q, hp, hq⟩

end Sample

section

open Webhook.Sample

/-- **The etcd is resized.** The reference of the topology server is changed to a CoreTemplate with
more replicas. Neither version of the spec gives a number, so the webhook sees the built-in default
in both. -/
theorem template_change_resizes_etcd :
    ∃ (hooks : Webhooks) (client : Client) (old requested new : MultigresCluster),
      AcceptedUpdate hooks client old requested new ∧
      ∃ (p : ManagedEtcd hooks.go client old) (q : ManagedEtcd hooks.go client new),
        p.etcd.replicas = some 1 ∧ q.etcd.replicas = some 5 := by
  exact ⟨installed, etcdClient, etcdCluster "single", etcdCluster "quorum",
    defaultedCluster etcdClient (etcdCluster "quorum"), resized_accepted, exists_resized⟩

/-- The condition fails for the two CoreTemplates. -/
theorem running_etcd_replicas_unchanged_templates :
    ∃ (p : ManagedEtcd installed.go etcdClient (etcdCluster "single"))
      (q : ManagedEtcd installed.go etcdClient (defaultedCluster etcdClient (etcdCluster "quorum"))),
      p.etcd.replicas = some 1 ∧ q.etcd.replicas = some 5 ∧
      ¬ SourcesAgree (inlineReplicas (etcdCluster "single")) (templateReplicas p.tpl)
        (inlineReplicas (defaultedCluster etcdClient (etcdCluster "quorum")))
        (templateReplicas q.tpl) := by
  obtain ⟨p, q, hp, hq⟩ := exists_resized
  refine ⟨p, q, hp, hq, fun hagree => ?_⟩
  have hsame := (running_etcd_replicas_unchanged_iff resized_accepted p q).mpr hagree
  rw [hp, hq] at hsame
  exact absurd hsame (by decide)

end

end MultigresOperator.Webhook

import MultigresOperator.Resolver.Running
import MultigresOperator.Webhook.Admission

/-!
# Template events

The controller of a cluster watches the templates of its namespace. An event is mapped to the clusters
whose status records the template, and the record is what the spec of a cluster refers to by name. A
component without a reference takes its settings from the template called `default`, and is not in
the record; only a cluster without any reference at all is reconciled on every event.

## Main results

* `configurations_eq`: the configurations are those of the components
* `Component.resolve_congr`: a component depends on one template
* `template_events_reach_iff`: when all events that matter reach a cluster
* `fallback_event_missed`: an event that does not
-/

namespace MultigresOperator.TemplateEvents

open V1Alpha1 Resolution Webhook

/-! ### The model -/

inductive Configuration
  | globalTopo (spec : GlobalTopoServerSpec)
  | multiadmin (spec : StatelessSpec × Option Document)
  | multiadminWeb (spec : StatelessSpec)
  | cell (spec : ResolvedCell)
  | shard (spec : ResolvedShard)

/-- The children of a cluster as the reconciler resolves them, each with the error that keeps it from
being resolved. -/
def configurations (go : GoLib) (client : Client) (cluster : MultigresCluster) :
    Except ResolveError (List (Except ResolveError Configuration)) :=
  (reconciled client cluster).map fun populated =>
    let r := newResolver client cluster.namespace
    [(resolveGlobalTopo go r populated).map .globalTopo,
      (resolveMultiadmin r populated).map .multiadmin,
      (resolveMultiadminWeb r populated).map .multiadminWeb] ++
    populated.spec.cells.map (fun cell =>
      (resolveCell go r populated (effectiveCell populated cell)).map .cell) ++
    (shardSites populated).map fun site =>
      (resolveShard r (effectiveShard populated site.shard) (shardOptions populated site)).map .shard

structure ResolvedTemplates where
  coreTemplates : List String
  cellTemplates : List String
  shardTemplates : List String
  deriving DecidableEq

def ResolvedTemplates.names (rt : ResolvedTemplates) : TemplateKind → List String
  | .core => rt.coreTemplates
  | .cell => rt.cellTemplates
  | .shard => rt.shardTemplates

/-- The references that are not empty, sorted and without duplicates. -/
def collectRefs (refs : List String) : List String :=
  ((refs.filter (· ≠ "")).dedup).insertionSort (· ≤ ·)

def templateRefs (cluster : MultigresCluster) : TemplateKind → List String
  | .core =>
    [cluster.spec.templateDefaults.coreTemplate,
      (cluster.spec.globalTopoServer.map (·.templateRef)).getD "",
      (cluster.spec.multiadmin.map (·.templateRef)).getD "",
      (cluster.spec.multiadminWeb.map (·.templateRef)).getD ""]
  | .cell => cluster.spec.templateDefaults.cellTemplate :: cluster.spec.cells.map (·.cellTemplate)
  | .shard =>
    cluster.spec.templateDefaults.shardTemplate ::
      (shardSites cluster).map fun site => site.shard.shardTemplate

/-- `collectResolvedTemplates`: none if nothing is referred to. -/
def collectResolvedTemplates (cluster : MultigresCluster) : Option ResolvedTemplates :=
  let rt : ResolvedTemplates :=
    { coreTemplates := collectRefs (templateRefs cluster .core)
      cellTemplates := collectRefs (templateRefs cluster .cell)
      shardTemplates := collectRefs (templateRefs cluster .shard) }
  if rt.coreTemplates.length + rt.cellTemplates.length + rt.shardTemplates.length = 0 then none
  else some rt

def referencesTemplate (rt : Option ResolvedTemplates) (kind : TemplateKind) (name : String) : Bool :=
  match rt with
  | none => true
  | some rt => (rt.names kind).contains name

/-- A cluster and `status.resolvedTemplates`. -/
structure WatchedCluster where
  cluster : MultigresCluster
  resolvedTemplates : Option ResolvedTemplates

def WatchedCluster.key (w : WatchedCluster) : String × String := clusterKey w.cluster

inductive TemplateEvent
  | write («namespace» name : String) (tpl : Template)
  | delete (kind : TemplateKind) («namespace» name : String)

namespace TemplateEvent

def kind : TemplateEvent → TemplateKind
  | write _ _ tpl => tpl.kind
  | delete kind _ _ => kind

def «namespace» : TemplateEvent → String
  | write ns _ _ => ns
  | delete _ ns _ => ns

def name : TemplateEvent → String
  | write _ name _ => name
  | delete _ _ name => name

def apply (t : Templates) : TemplateEvent → Templates
  | write ns name tpl => putTemplate t ns name tpl
  | delete kind ns name => dropTemplate t ns name kind

end TemplateEvent

/-- `enqueueRequestsFromTemplate`: the clusters that an event is mapped to, none if they cannot be
listed. -/
def enqueueRequestsFromTemplate (clusters : Except String (Keyed WatchedCluster.key))
    (event : TemplateEvent) : List (String × String) :=
  match clusters with
  | .error _ => []
  | .ok clusters =>
    ((clusters.items.filter fun w => w.cluster.namespace = event.namespace).filter fun w =>
      referencesTemplate w.resolvedTemplates event.kind event.name).map WatchedCluster.key

/-! ### The children one by one -/

/-- The place of a shard: one of the spec, or the one that a table group without shards is given. -/
structure Slot where
  db : DatabaseConfig
  tg : TableGroupConfig
  shard : Option ShardConfig

def tableGroupSlots (db : DatabaseConfig) (tg : TableGroupConfig) : List Slot :=
  if tg.shards = [] then [⟨db, tg, none⟩] else tg.shards.map fun shard => ⟨db, tg, some shard⟩

def slots (cluster : MultigresCluster) : List Slot :=
  (systemDatabases cluster.spec.databases).flatMap fun db =>
    (systemTableGroups db.tableGroups).flatMap (tableGroupSlots db)

inductive Component
  | globalTopo
  | multiadmin
  | multiadminWeb
  | cell (cell : CellConfig)
  | shard (slot : Slot)

def components (cluster : MultigresCluster) : List Component :=
  [.globalTopo, .multiadmin, .multiadminWeb] ++ cluster.spec.cells.map .cell ++
    (slots cluster).map .shard

namespace Component

def kind : Component → TemplateKind
  | globalTopo | multiadmin | multiadminWeb => .core
  | cell _ => .cell
  | shard _ => .shard

/-- What a child refers to: a template of its own, or that of the cluster's defaults. -/
def ref (cluster : MultigresCluster) : Component → String
  | globalTopo => overText ((cluster.spec.globalTopoServer.map (·.templateRef)).getD "")
      cluster.spec.templateDefaults.coreTemplate
  | multiadmin => overText ((cluster.spec.multiadmin.map (·.templateRef)).getD "")
      cluster.spec.templateDefaults.coreTemplate
  | multiadminWeb => overText ((cluster.spec.multiadminWeb.map (·.templateRef)).getD "")
      cluster.spec.templateDefaults.coreTemplate
  | cell config => cluster.spec.effectiveCellTemplate config.cellTemplate
  | shard slot => overText ((slot.shard.map (·.shardTemplate)).getD "")
      cluster.spec.templateDefaults.shardTemplate

end Component

/-- Whether default pools are injected, with the stored templates. -/
def injects (t : Templates) (cluster : MultigresCluster) : Bool :=
  if cluster.spec.templateDefaults.shardTemplate ≠ "" then false
  else !(t.shard.get (cluster.namespace, fallbackTemplate)).isSome

def Slot.config (cluster : MultigresCluster) (inject : Bool) (slot : Slot) : ShardConfig :=
  effectiveShard cluster (slot.shard.getD (createdShard (!cluster.spec.cells.isEmpty) inject))

def Slot.options (cluster : MultigresCluster) (slot : Slot) : ResolveShardOptions where
  allCellNames := cellNames cluster
  inheritedBackup := mergeBackupConfig slot.tg.backup
    (mergeBackupConfig slot.db.backup (cluster.spec.backup.or (some defaultBackup)))
  materializeCellDefaults := true
  mode := cluster.spec.mode

def resolverOf (t : Templates) (cluster : MultigresCluster) : Resolver :=
  newResolver (t.client []) cluster.namespace

def Component.resolve (go : GoLib) (cluster : MultigresCluster) (t : Templates) :
    Component → Except ResolveError Configuration
  | globalTopo => (resolveGlobalTopo go (resolverOf t cluster) cluster).map .globalTopo
  | multiadmin => (resolveMultiadmin (resolverOf t cluster) cluster).map .multiadmin
  | multiadminWeb => (resolveMultiadminWeb (resolverOf t cluster) cluster).map .multiadminWeb
  | cell config =>
    (resolveCell go (resolverOf t cluster) cluster (effectiveCell cluster config)).map .cell
  | shard slot => (resolveShard (resolverOf t cluster) (slot.config cluster (injects t cluster))
      (slot.options cluster)).map .shard

variable {go : GoLib} {cluster : MultigresCluster} {s t : Templates} {c : Component}

theorem reconciled_stored (t : Templates) (cluster : MultigresCluster) :
    reconciled (t.client []) cluster = .ok (populate (injects t cluster) cluster) := by
  unfold reconciled populateClusterDefaults shouldInjectDefaults injects
  by_cases hdefault : cluster.spec.templateDefaults.shardTemplate ≠ ""
  · rw [if_pos hdefault, if_pos hdefault]
    rfl
  · rw [if_neg hdefault, if_neg hdefault]
    have hexists : (newResolver (t.client []) cluster.namespace).shardTemplateExists "default" =
        .ok (t.shard.get (cluster.namespace, fallbackTemplate)).isSome :=
      templateExists_stored (by decide)
    rw [hexists]
    rfl

theorem sites_populateTableGroup (hasCells inject : Bool) (db db' : DatabaseConfig)
    (tg : TableGroupConfig) :
    (populateTableGroup hasCells inject tg).shards.map
        (fun shard => (⟨db', populateTableGroup hasCells inject tg, shard⟩ : ShardSite)) =
      (tableGroupSlots db tg).map fun slot =>
        ⟨db', populateTableGroup hasCells inject tg,
          slot.shard.getD (createdShard hasCells inject)⟩ := by
  unfold tableGroupSlots populateTableGroup
  by_cases hshards : tg.shards = []
  · rw [if_pos hshards, if_pos hshards]
    rfl
  · rw [if_neg hshards, if_neg hshards, List.map_map]
    rfl

theorem backup_populateTableGroup (hasCells inject : Bool) (tg : TableGroupConfig) :
    (populateTableGroup hasCells inject tg).backup = tg.backup := by
  unfold populateTableGroup
  split
  · rfl
  · rfl

variable {slot : Slot} {kind : TemplateKind} {ns name : String} {inject : Bool}

theorem mem_tableGroupSlots {db : DatabaseConfig} {tg : TableGroupConfig}
    (h : slot ∈ tableGroupSlots db tg) : slot.db = db ∧ slot.tg = tg := by
  unfold tableGroupSlots at h
  split at h
  · obtain rfl := List.mem_singleton.mp h
    exact ⟨rfl, rfl⟩
  · obtain ⟨shard, -, rfl⟩ := List.mem_map.mp h
    exact ⟨rfl, rfl⟩

theorem map_shardSites_populate {α : Type} (inject : Bool)
    (f : ShardConfig → Option BackupConfig → α) :
    (shardSites (populate inject cluster)).map (fun site =>
        f site.shard (site.inheritedBackup (populate inject cluster))) =
      (slots cluster).map fun slot =>
        f (slot.shard.getD (createdShard (!cluster.spec.cells.isEmpty) inject))
          (slot.options cluster).inheritedBackup := by
  unfold shardSites slots
  change (List.flatMap _ (List.map _ _)).map _ = _
  rw [List.flatMap_map, List.map_flatMap, List.map_flatMap]
  refine List.flatMap_congr fun db _ => ?_
  change (List.flatMap _ (List.map _ _)).map _ = _
  rw [List.flatMap_map, List.map_flatMap, List.map_flatMap]
  refine List.flatMap_congr fun tg _ => ?_
  rw [sites_populateTableGroup _ _ db, List.map_map]
  refine List.map_congr_left fun slot hslot => ?_
  obtain ⟨rfl, rfl⟩ := mem_tableGroupSlots hslot
  dsimp only [Function.comp_apply, ShardSite.inheritedBackup]
  rw [backup_populateTableGroup]
  rfl

/-- **The configurations are those of the components.** -/
theorem configurations_eq (go : GoLib) (t : Templates) (cluster : MultigresCluster) :
    configurations go (t.client []) cluster =
      .ok ((components cluster).map (Component.resolve go cluster t)) := by
  unfold configurations components
  rw [reconciled_stored]
  refine congrArg Except.ok ?_
  dsimp only
  rw [List.map_append, List.map_append, List.map_map, List.map_map]
  refine congrArg₂ _ rfl ?_
  exact map_shardSites_populate _ fun shard backup =>
    (resolveShard (resolverOf t cluster) (effectiveShard cluster shard)
      { allCellNames := cellNames cluster, inheritedBackup := backup,
        materializeCellDefaults := true, mode := cluster.spec.mode }).map Configuration.shard

/-! ### What a component depends on -/

def entry (t : Templates) (kind : TemplateKind) (ns name : String) : Option Template :=
  match kind with
  | .core => (t.core.get (ns, name)).map .core
  | .cell => (t.cell.get (ns, name)).map .cell
  | .shard => (t.shard.get (ns, name)).map .shard

theorem kind_of_entry {tpl : Template} (h : entry t kind ns name = some tpl) : tpl.kind = kind := by
  cases kind with
  | core => obtain ⟨spec, -, rfl⟩ := Option.map_eq_some_iff.mp h; rfl
  | cell => obtain ⟨spec, -, rfl⟩ := Option.map_eq_some_iff.mp h; rfl
  | shard => obtain ⟨spec, -, rfl⟩ := Option.map_eq_some_iff.mp h; rfl

theorem get_core_of_entry (h : entry s .core ns name = entry t .core ns name) :
    s.core.get (ns, name) = t.core.get (ns, name) :=
  Option.map_injective (fun _ _ heq => Template.core.inj heq) h

theorem get_cell_of_entry (h : entry s .cell ns name = entry t .cell ns name) :
    s.cell.get (ns, name) = t.cell.get (ns, name) :=
  Option.map_injective (fun _ _ heq => Template.cell.inj heq) h

theorem get_shard_of_entry (h : entry s .shard ns name = entry t .shard ns name) :
    s.shard.get (ns, name) = t.shard.get (ns, name) :=
  Option.map_injective (fun _ _ heq => Template.shard.inj heq) h

theorem resolveCoreTemplate_of_entry {ref : String}
    (h : entry s .core cluster.namespace (effectiveTemplateName ref) =
      entry t .core cluster.namespace (effectiveTemplateName ref)) :
    (resolverOf s cluster).resolveCoreTemplate ref = (resolverOf t cluster).resolveCoreTemplate ref :=
  resolveTemplate_stored_congr (get_core_of_entry h)

theorem config_of_entry (h : entry s .shard cluster.namespace
        (effectiveTemplateName ((Component.shard slot).ref cluster)) =
      entry t .shard cluster.namespace
        (effectiveTemplateName ((Component.shard slot).ref cluster))) :
    slot.config cluster (injects s cluster) = slot.config cluster (injects t cluster) := by
  unfold Slot.config
  cases hshard : slot.shard with
  | some shard => rfl
  | none =>
    refine congrArg (fun inject =>
      effectiveShard cluster (createdShard (!cluster.spec.cells.isEmpty) inject)) ?_
    unfold injects
    by_cases hdefault : cluster.spec.templateDefaults.shardTemplate ≠ ""
    · rw [if_pos hdefault, if_pos hdefault]
    · -- the template that decides is the one of the place
      have href : (Component.shard slot).ref cluster = "" := by
        change overText ((slot.shard.map _).getD "") _ = ""
        rw [hshard, not_not.mp hdefault]
        rfl
      rw [if_neg hdefault, if_neg hdefault]
      rw [href] at h
      have hget : s.shard.get (cluster.namespace, fallbackTemplate) =
          t.shard.get (cluster.namespace, fallbackTemplate) := get_shard_of_entry h
      rw [hget]

theorem shardTemplate_config :
    (slot.config cluster inject).shardTemplate = (Component.shard slot).ref cluster := by
  change overText (slot.shard.getD _).shardTemplate _ = overText ((slot.shard.map _).getD "") _
  cases slot.shard with
  | none => rfl
  | some shard => rfl

/-- **A component depends on one template**: the one it refers to, or the fallback. -/
theorem Component.resolve_congr
    (h : entry s c.kind cluster.namespace (effectiveTemplateName (c.ref cluster)) =
      entry t c.kind cluster.namespace (effectiveTemplateName (c.ref cluster))) :
    c.resolve go cluster s = c.resolve go cluster t := by
  cases c with
  | globalTopo =>
    have htpl := resolveCoreTemplate_of_entry h
    simp only [Component.ref] at htpl
    unfold Component.resolve resolveGlobalTopo
    dsimp only
    rw [htpl]
  | multiadmin =>
    have htpl := resolveCoreTemplate_of_entry h
    simp only [Component.ref] at htpl
    unfold Component.resolve resolveMultiadmin
    dsimp only
    rw [htpl]
  | multiadminWeb =>
    have htpl := resolveCoreTemplate_of_entry h
    simp only [Component.ref] at htpl
    unfold Component.resolve resolveMultiadminWeb
    dsimp only
    rw [htpl]
  | cell config =>
    refine congrArg (Except.map Configuration.cell) (resolveCell_congr ?_)
    exact resolveTemplate_stored_congr (get_cell_of_entry h)
  | shard slot =>
    refine congrArg (Except.map Configuration.shard) ?_
    rw [config_of_entry h]
    refine resolveShard_congr ?_
    rw [shardTemplate_config]
    exact resolveTemplate_stored_congr (get_shard_of_entry h)

theorem entry_putTemplate (t : Templates) (ns name : String) (tpl : Template) (kind : TemplateKind)
    (ns' name' : String) :
    entry (putTemplate t ns name tpl) kind ns' name' =
      if kind = tpl.kind ∧ ns' = ns ∧ name' = name then some tpl else entry t kind ns' name' := by
  cases tpl <;> cases kind <;>
    simp only [entry, putTemplate, Template.kind, Table.get_set, Prod.mk.injEq, true_and,
      false_and, if_false, reduceCtorEq] <;>
    split_ifs <;> rfl

theorem entry_dropTemplate (t : Templates) (ns name : String) (kind kind' : TemplateKind)
    (ns' name' : String) :
    entry (dropTemplate t ns name kind) kind' ns' name' =
      if kind' = kind ∧ ns' = ns ∧ name' = name then none else entry t kind' ns' name' := by
  cases kind <;> cases kind' <;>
    simp only [entry, dropTemplate, Table.get_erase, Prod.mk.injEq, true_and, false_and, if_false,
      reduceCtorEq] <;>
    split_ifs <;> rfl

theorem entry_apply (t : Templates) (event : TemplateEvent) (kind : TemplateKind) (ns name : String)
    (h : entry (event.apply t) kind ns name ≠ entry t kind ns name) :
    kind = event.kind ∧ ns = event.namespace ∧ name = event.name := by
  by_contra hother
  refine h ?_
  cases event with
  | write ns' name' tpl => exact (entry_putTemplate ..).trans (if_neg hother)
  | delete kind' ns' name' => exact (entry_dropTemplate ..).trans (if_neg hother)

theorem exists_event (s t : Templates) (kind : TemplateKind) (ns name : String) :
    ∃ event : TemplateEvent, event.kind = kind ∧ event.namespace = ns ∧ event.name = name ∧
      entry (event.apply t) kind ns name = entry s kind ns name := by
  cases hentry : entry s kind ns name with
  | some tpl =>
    have hkind := kind_of_entry hentry
    exact ⟨.write ns name tpl, hkind, rfl, rfl,
      (entry_putTemplate ..).trans (if_pos ⟨hkind.symm, rfl, rfl⟩)⟩
  | none =>
    exact ⟨.delete kind ns name, rfl, rfl, rfl,
      (entry_dropTemplate ..).trans (if_pos ⟨rfl, rfl, rfl⟩)⟩

/-! ### What the status records -/

theorem mem_collectRefs {refs : List String} :
    name ∈ collectRefs refs ↔ name ∈ refs ∧ name ≠ "" := by
  simp [collectRefs]

theorem collectRefs_eq_nil {refs : List String} : collectRefs refs = [] ↔ ∀ ref ∈ refs, ref = "" := by
  rw [List.eq_nil_iff_forall_not_mem]
  simp only [mem_collectRefs, not_and, not_not]

def NoReferences (cluster : MultigresCluster) : Prop :=
  ∀ kind, ∀ ref ∈ templateRefs cluster kind, ref = ""

theorem referencesTemplate_collect :
    referencesTemplate (collectResolvedTemplates cluster) kind name = true ↔
      NoReferences cluster ∨ name ∈ templateRefs cluster kind ∧ name ≠ "" := by
  have hlength : ((collectRefs (templateRefs cluster .core)).length +
      (collectRefs (templateRefs cluster .cell)).length +
      (collectRefs (templateRefs cluster .shard)).length = 0) ↔ NoReferences cluster := by
    have hkind (kind : TemplateKind) : (collectRefs (templateRefs cluster kind)).length = 0 ↔
        ∀ ref ∈ templateRefs cluster kind, ref = "" := by
      rw [List.length_eq_zero_iff, collectRefs_eq_nil]
    rw [Nat.add_eq_zero_iff, Nat.add_eq_zero_iff, hkind, hkind, hkind]
    constructor
    · rintro ⟨⟨hcore, hcell⟩, hshard⟩ kind
      cases kind with
      | core => exact hcore
      | cell => exact hcell
      | shard => exact hshard
    · exact fun h => ⟨⟨h .core, h .cell⟩, h .shard⟩
  unfold collectResolvedTemplates
  dsimp only
  by_cases hnone : NoReferences cluster
  · rw [if_pos (hlength.mpr hnone)]
    simp [referencesTemplate, hnone]
  · rw [if_neg fun h => hnone (hlength.mp h)]
    simp only [referencesTemplate, hnone, false_or, List.contains_iff_mem]
    cases kind with
    | core => exact mem_collectRefs
    | cell => exact mem_collectRefs
    | shard => exact mem_collectRefs

theorem mem_shardTemplates_iff (hname : name ≠ "") :
    name ∈ (shardSites cluster).map (fun site => site.shard.shardTemplate) ↔
      ∃ slot ∈ slots cluster, ∃ shard ∈ slot.shard, shard.shardTemplate = name := by
  constructor
  · intro h
    obtain ⟨site, hsite, rfl⟩ := List.mem_map.mp h
    obtain ⟨db, hdb, hsite⟩ := List.mem_flatMap.mp hsite
    obtain ⟨tg, htg, hsite⟩ := List.mem_flatMap.mp hsite
    obtain ⟨shard, hshard, rfl⟩ := List.mem_map.mp hsite
    have hdb' : db ∈ systemDatabases cluster.spec.databases := by
      unfold systemDatabases
      rwa [if_neg (List.ne_nil_of_mem hdb)]
    have htg' : tg ∈ systemTableGroups db.tableGroups := by
      unfold systemTableGroups
      rwa [if_neg (List.ne_nil_of_mem htg)]
    refine ⟨⟨db, tg, some shard⟩, ?_, shard, rfl, rfl⟩
    refine List.mem_flatMap.mpr ⟨db, hdb', List.mem_flatMap.mpr ⟨tg, htg', ?_⟩⟩
    unfold tableGroupSlots
    rw [if_neg (List.ne_nil_of_mem hshard)]
    exact List.mem_map.mpr ⟨shard, hshard, rfl⟩
  · rintro ⟨slot, hslot, shard, hshard, rfl⟩
    obtain ⟨db, hdb, hslot⟩ := List.mem_flatMap.mp hslot
    obtain ⟨tg, htg, hslot⟩ := List.mem_flatMap.mp hslot
    unfold tableGroupSlots at hslot
    split at hslot
    · rw [List.mem_singleton.mp hslot] at hshard
      cases hshard
    · next hshards =>
      obtain ⟨shard', hmem, rfl⟩ := List.mem_map.mp hslot
      obtain rfl := Option.mem_some_iff.mp hshard
      -- a table group with shards is none that was added
      have htg' : tg ∈ db.tableGroups := by
        unfold systemTableGroups at htg
        split at htg
        · rw [List.mem_singleton.mp htg] at hshards
          exact absurd rfl hshards
        · exact htg
      have hdb' : db ∈ cluster.spec.databases := by
        unfold systemDatabases at hdb
        split at hdb
        · rw [List.mem_singleton.mp hdb] at htg'
          exact absurd htg' List.not_mem_nil
        · exact hdb
      refine List.mem_map.mpr ⟨⟨db, tg, shard'⟩, ?_, rfl⟩
      exact List.mem_flatMap.mpr ⟨db, hdb', List.mem_flatMap.mpr ⟨tg, htg',
        List.mem_map.mpr ⟨shard', hmem, rfl⟩⟩⟩

theorem mem_templateRefs_populate (hname : name ≠ "") :
    name ∈ templateRefs (populate inject cluster) kind ↔ name ∈ templateRefs cluster kind := by
  cases kind with
  | core => exact Iff.rfl
  | cell => exact Iff.rfl
  | shard =>
    refine List.mem_cons.trans (Iff.trans (or_congr Iff.rfl ?_) List.mem_cons.symm)
    have hsites : (shardSites (populate inject cluster)).map (fun site => site.shard.shardTemplate) =
        (slots cluster).map fun slot =>
          (slot.shard.getD (createdShard (!cluster.spec.cells.isEmpty) inject)).shardTemplate :=
      map_shardSites_populate inject fun shard _ => shard.shardTemplate
    rw [hsites, mem_shardTemplates_iff hname, List.mem_map]
    refine exists_congr fun slot => and_congr_right fun _ => ?_
    cases slot.shard with
    | none => exact iff_of_false (fun h => hname h.symm) (by rintro ⟨_, h, -⟩; cases h)
    | some shard => simp

theorem noReferences_populate : NoReferences (populate inject cluster) ↔ NoReferences cluster := by
  refine forall_congr' fun kind => forall_congr' fun ref => ?_
  by_cases href : ref = ""
  · simp [href]
  · simp only [href, mem_templateRefs_populate href]

theorem Component.ref_mem (hc : c ∈ components cluster) (href : c.ref cluster ≠ "") :
    c.ref cluster ∈ templateRefs cluster c.kind := by
  have hover {upper lower : String} (refs : List String) (hupper : upper ≠ "" → upper ∈ refs)
      (hlower : lower ∈ refs) : overText upper lower ∈ refs := by
    unfold overText
    split
    · next h => exact hupper h
    · exact hlower
  simp only [components, List.mem_append, List.mem_cons, List.not_mem_nil, or_false, List.mem_map]
    at hc
  rcases hc with (hcore | ⟨config, hconfig, rfl⟩) | ⟨slot, hslot, rfl⟩
  · rcases hcore with rfl | rfl | rfl <;>
      exact hover _ (fun _ => by simp [templateRefs, Component.kind])
        (by simp [templateRefs, Component.kind])
  · change cluster.spec.effectiveCellTemplate config.cellTemplate ∈ _
    unfold MultigresClusterSpec.effectiveCellTemplate
    split
    · exact List.mem_cons_self
    · exact List.mem_cons_of_mem _ (List.mem_map.mpr ⟨config, hconfig, rfl⟩)
  · refine hover _ (fun hown => List.mem_cons_of_mem _ ?_) List.mem_cons_self
    rw [mem_shardTemplates_iff hown]
    cases hshard : slot.shard with
    | none =>
      rw [hshard] at hown
      exact absurd rfl hown
    | some shard => exact ⟨slot, hslot, shard, hshard, rfl⟩

/-! ### The events that reach a cluster -/

theorem mem_enqueueRequests {clusters : Keyed WatchedCluster.key} {w : WatchedCluster}
    (hw : w ∈ clusters) {event : TemplateEvent} :
    w.key ∈ enqueueRequestsFromTemplate (.ok clusters) event ↔
      w.cluster.namespace = event.namespace ∧
        referencesTemplate w.resolvedTemplates event.kind event.name = true := by
  unfold enqueueRequestsFromTemplate
  constructor
  · intro h
    obtain ⟨w', hw', hkey⟩ := List.mem_map.mp h
    rw [List.mem_filter, List.mem_filter, decide_eq_true_eq] at hw'
    obtain ⟨⟨hmem, hns⟩, href⟩ := hw'
    obtain rfl : w' = w := clusters.eq_of_key_eq hmem hw hkey
    exact ⟨hns, href⟩
  · rintro ⟨hns, href⟩
    refine List.mem_map.mpr ⟨w, ?_, rfl⟩
    rw [List.mem_filter, List.mem_filter, decide_eq_true_eq]
    exact ⟨⟨hw, hns⟩, href⟩

/-- The configuration of the child depends on what is stored. -/
def Component.Depends (go : GoLib) (cluster : MultigresCluster) (c : Component) : Prop :=
  ∃ s t : Templates, c.resolve go cluster s ≠ c.resolve go cluster t

/-- **When template events reach a cluster.** Its status is that of a reconcile with the stored
templates. Every event that alters the configuration of a child is mapped to the cluster iff the spec
refers to no template at all, or names the fallback template for the kind of each child that has no
reference and depends on its template. -/
theorem template_events_reach_iff {go : GoLib} {t : Templates} {clusters : Keyed WatchedCluster.key}
    {w : WatchedCluster} (hw : w ∈ clusters)
    (hstatus : (reconciled (t.client []) w.cluster).map collectResolvedTemplates =
      .ok w.resolvedTemplates) :
    (∀ event : TemplateEvent,
      configurations go ((event.apply t).client []) w.cluster ≠
          configurations go (t.client []) w.cluster →
        w.key ∈ enqueueRequestsFromTemplate (.ok clusters) event) ↔
    NoReferences w.cluster ∨ ∀ c ∈ components w.cluster, c.ref w.cluster = "" →
      c.Depends go w.cluster → fallbackTemplate ∈ templateRefs w.cluster c.kind := by
  have hrecord : collectResolvedTemplates (populate (injects t w.cluster) w.cluster) =
      w.resolvedTemplates := by
    rw [reconciled_stored] at hstatus
    exact Except.ok.inj hstatus
  have henqueue (event : TemplateEvent) (hname : event.name ≠ "") :
      w.key ∈ enqueueRequestsFromTemplate (.ok clusters) event ↔
        w.cluster.namespace = event.namespace ∧
          (NoReferences w.cluster ∨ event.name ∈ templateRefs w.cluster event.kind) := by
    rw [mem_enqueueRequests hw, ← hrecord, referencesTemplate_collect, noReferences_populate,
      mem_templateRefs_populate hname]
    simp [hname]
  have hfallback : fallbackTemplate ≠ "" := by decide
  constructor
  · intro h
    by_cases hnone : NoReferences w.cluster
    · exact .inl hnone
    · refine .inr fun c hc href hdepends => ?_
      -- in some other store the child is not what it is now
      obtain ⟨s, hs⟩ : ∃ s, c.resolve go w.cluster s ≠ c.resolve go w.cluster t := by
        by_contra hsame
        push Not at hsame
        obtain ⟨a, b, hab⟩ := hdepends
        exact hab ((hsame a).trans (hsame b).symm)
      obtain ⟨event, hkind, hns, hname, hentry⟩ :=
        exists_event s t c.kind w.cluster.namespace fallbackTemplate
      have hresolve : c.resolve go w.cluster (event.apply t) = c.resolve go w.cluster s := by
        refine Component.resolve_congr ?_
        rw [href]
        exact hentry
      have halters : configurations go ((event.apply t).client []) w.cluster ≠
          configurations go (t.client []) w.cluster := by
        intro heq
        rw [configurations_eq, configurations_eq] at heq
        exact hs (hresolve.symm.trans (List.map_inj_left.mp (Except.ok.inj heq) c hc))
      have hreached := (henqueue event (hname ▸ hfallback)).mp (h event halters)
      rw [hname, hkind] at hreached
      exact hreached.2.resolve_left hnone
  · intro h event halters
    -- the change shows in some child, so it is one of the child's template
    obtain ⟨c, hc, hne⟩ : ∃ c ∈ components w.cluster,
        c.resolve go w.cluster (event.apply t) ≠ c.resolve go w.cluster t := by
      by_contra hsame
      push Not at hsame
      rw [configurations_eq, configurations_eq] at halters
      exact halters (congrArg Except.ok (List.map_congr_left hsame))
    obtain ⟨hkind, hns, hname⟩ := entry_apply t event c.kind w.cluster.namespace
      (effectiveTemplateName (c.ref w.cluster)) fun heq => hne (Component.resolve_congr heq)
    have hnonempty : event.name ≠ "" := hname ▸ effectiveTemplateName_ne _
    refine (henqueue event hnonempty).mpr ⟨hns, ?_⟩
    rcases h with hnone | hnamed
    · exact .inl hnone
    · refine .inr ?_
      rw [← hname, ← hkind]
      by_cases href : c.ref w.cluster = ""
      · rw [href]
        exact hnamed c hc href ⟨_, _, hne⟩
      · rw [effectiveTemplateName_of_ne href]
        exact Component.ref_mem hc href

namespace Sample

/-- The templates that a cluster may name. -/
def namedTemplates : Templates where
  core := Table.set ∅ ("prod", "core") {}
  cell := Table.set ∅ ("prod", "gw") {}
  shard := Table.set ∅ ("prod", "data") {}

def namingCluster : MultigresCluster where
  name := "db"
  «namespace» := "prod"
  spec :=
    { templateDefaults := { coreTemplate := "core", cellTemplate := "gw", shardTemplate := "data" }
      cells := [{ name := "z1" }] }

def cellNamingCluster : MultigresCluster where
  name := "db"
  «namespace» := "prod"
  spec := { cells := [{ name := "z1", cellTemplate := "gw" }] }

def watched (cluster : MultigresCluster) : WatchedCluster where
  cluster := cluster
  resolvedTemplates := collectResolvedTemplates (populate (injects namedTemplates cluster) cluster)

/-- A CoreTemplate is given five instances of the admin server. -/
def adminEvent (name : String) : TemplateEvent :=
  .write "prod" name (.core { multiadmin := some { replicas := some 5 } })

/-- The instances of the admin server. -/
def adminReplicas (children : Except ResolveError (List (Except ResolveError Configuration))) :
    List Int :=
  match children with
  | .error _ => []
  | .ok children => children.filterMap fun child =>
    match child with
    | .ok (.multiadmin spec) => spec.1.replicas
    | _ => none

theorem status_watched (cluster : MultigresCluster) :
    (reconciled (namedTemplates.client []) cluster).map collectResolvedTemplates =
      .ok (watched cluster).resolvedTemplates := by
  rw [reconciled_stored]
  rfl

end Sample

section

open TemplateEvents.Sample

/-- The event of a template that a cluster names alters a child, and reaches the cluster. -/
theorem template_events_reach_named :
    configurations .ascii (((adminEvent "core").apply namedTemplates).client []) namingCluster ≠
        configurations .ascii (namedTemplates.client []) namingCluster ∧
      (watched namingCluster).key ∈
        enqueueRequestsFromTemplate (.ok ⟨[watched namingCluster], by decide⟩) (adminEvent "core") := by
  have halters :
      configurations .ascii (((adminEvent "core").apply namedTemplates).client []) namingCluster ≠
        configurations .ascii (namedTemplates.client []) namingCluster := by
    intro heq
    exact absurd (congrArg adminReplicas heq) (by decide +kernel)
  refine ⟨halters, ?_⟩
  refine (template_events_reach_iff (w := watched namingCluster) List.mem_cons_self
    (status_watched _)).mpr (.inr ?_) _ halters
  -- no child is without a reference
  have hrefs : ∀ c ∈ components namingCluster, c.ref namingCluster ≠ "" := by decide +kernel
  exact fun c hc href => absurd href (hrefs c hc)

/-- **An event that matters does not reach the cluster**: the fallback template for the admin server
is created, and the record has only the template of the cell. -/
theorem fallback_event_missed :
    ∃ (t : Templates) (clusters : Keyed WatchedCluster.key) (w : WatchedCluster)
      (event : TemplateEvent),
      w ∈ clusters ∧
      (reconciled (t.client []) w.cluster).map collectResolvedTemplates = .ok w.resolvedTemplates ∧
      event.namespace = w.cluster.namespace ∧
      configurations .ascii ((event.apply t).client []) w.cluster ≠
        configurations .ascii (t.client []) w.cluster ∧
      w.key ∉ enqueueRequestsFromTemplate (.ok clusters) event := by
  refine ⟨namedTemplates, ⟨[watched cellNamingCluster], by decide⟩, watched cellNamingCluster,
    adminEvent fallbackTemplate, List.mem_cons_self, status_watched _, rfl, ?_, by decide +kernel⟩
  intro heq
  exact absurd (congrArg adminReplicas heq) (by decide +kernel)

end

end MultigresOperator.TemplateEvents

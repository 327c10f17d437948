import MultigresOperator.Webhook.Admission

/-!
# Gateways of admitted clusters

A gateway's settings come from a CellTemplate, the overrides of the cell and its inline spec, so both
a cluster and a template can break it. Clusters are checked with all their cells, a template with the
cells that consume it, and each against what is stored: the gateways of all clusters stay valid.

Two paths are not covered by a check. An update that leaves a template's spec alone is not examined;
it may still turn a missing map of resources into an empty one, which only decides whether the default
resources apply, and these are consistent. And a consumer that is invalid with the stored template
does not stand in the way of a write; there is none as long as all gateways are valid.

## Main results

* `gatewayValidWith_of_same`: templates that compare as equal give gateways of equal validity
* `exists_invalid_of_consumers`: what the check of a template's consumers lets pass
* `gatewaysValid_of_change`: every change keeps the gateways of a namespace valid
* `gateways_stay_valid`: they are valid after every run from a namespace without clusters
-/

namespace MultigresOperator.Webhook

open V1Alpha1 Resolution

variable {go : GoLib} {r r' : Resolver} {cluster : MultigresCluster} {cell : CellConfig}

/-! ### Templates that compare as equal -/

theorem sameValue_cases {α : Type} {eq : α → α → Bool} {a b : Option α}
    (h : Table.sameValue eq a b = true) :
    (a = none ∧ b = none) ∨ ∃ x y, a = some x ∧ b = some y ∧ eq x y = true := by
  cases a with
  | none => cases b with
    | none => exact .inl ⟨rfl, rfl⟩
    | some y => cases h
  | some x => cases b with
    | none => cases h
    | some y => exact .inr ⟨x, y, rfl, rfl, h⟩

theorem amount_of_sameQuantities {a b : Option ResourceList} (h : sameQuantities a b = true)
    (name : String) :
    ((a.getD ∅).get name).map Quantity.amount = ((b.getD ∅).get name).map Quantity.amount := by
  rcases sameValue_cases ((Table.same_iff _).mp h name) with ⟨ha, hb⟩ | ⟨x, y, ha, hb, heq⟩
  · rw [ha, hb]
  · rw [ha, hb, Option.map_some, Option.map_some, eq_of_beq heq]

variable {a : ResourceRequirements} {g g' : MultigatewaySpec} {tpl : CellTemplateSpec}

theorem resourcesConsistent_of_same {b : ResourceRequirements} (h : sameResources a b = true)
    (ha : ResourcesConsistent a) : ResourcesConsistent b := by
  simp only [sameResources, Bool.and_eq_true] at h
  obtain ⟨⟨hrequests, hlimits⟩, -⟩ := h
  intro name limit request hlimit hrequest
  have hlimits := amount_of_sameQuantities hlimits name
  have hrequests := amount_of_sameQuantities hrequests name
  rw [hlimit, Option.map_some] at hlimits
  rw [hrequest, Option.map_some] at hrequests
  obtain ⟨limit', hlimit', hl⟩ := Option.map_eq_some_iff.mp hlimits
  obtain ⟨request', hrequest', hr⟩ := Option.map_eq_some_iff.mp hrequests
  rw [← hl, ← hr]
  exact ha name limit' request' hlimit' hrequest'

theorem resourcesConsistent_of_isResourcesZero (h : isResourcesZero a = true) :
    ResourcesConsistent a := by
  simp only [isResourcesZero, Bool.and_eq_true, Option.isNone_iff_eq_none] at h
  obtain ⟨⟨-, hlimits⟩, -⟩ := h
  intro name limit request hlimit
  rw [hlimits] at hlimit
  cases hlimit

theorem resourcesConsistent_defaultResourcesGateway :
    ResourcesConsistent defaultResourcesGateway := by
  have h : validateResourceRequirements defaultResourcesGateway "" = .ok () := by decide +kernel
  exact validateResourceRequirements_eq_ok.mp h

/-- Whether the resources of a layer are replaced by consistent ones does not matter. -/
theorem resourcesConsistent_overResources_default :
    ResourcesConsistent (overResources a defaultResourcesGateway) ↔ ResourcesConsistent a := by
  unfold overResources
  split
  · next h =>
    have ha := resourcesConsistent_of_isResourcesZero h
    exact iff_of_true resourcesConsistent_defaultResourcesGateway ha
  · exact Iff.rfl

/-- Gateways with the same buffer, the second with consistent resources if the first has. -/
def GatewayAlike (g g' : MultigatewaySpec) : Prop :=
  g.buffer = g'.buffer ∧ (ResourcesConsistent g.resources → ResourcesConsistent g'.resources)

theorem GatewayAlike.refl (g : MultigatewaySpec) : GatewayAlike g g := ⟨rfl, id⟩

theorem gatewayAlike_of_same (h : sameMultigatewaySpec g g' = true) : GatewayAlike g g' := by
  simp only [sameMultigatewaySpec, sameStatelessSpec, Bool.and_eq_true] at h
  obtain ⟨⟨hstateless, hbuffer⟩, -⟩ := h
  exact ⟨eq_of_beq hbuffer, resourcesConsistent_of_same hstateless.1.1.1.2⟩

/-- A layer on top keeps gateways alike: resources are replaced as a whole. -/
theorem GatewayAlike.merge (h : GatewayAlike g g') (upper : MultigatewaySpec) :
    GatewayAlike (mergeMultigatewaySpec g upper) (mergeMultigatewaySpec g' upper) := by
  refine ⟨?_, ?_⟩
  · rw [mergeMultigatewaySpec, mergeMultigatewaySpec, h.1]
  · change ResourcesConsistent (overResources upper.resources g.resources) →
      ResourcesConsistent (overResources upper.resources g'.resources)
    unfold overResources
    split
    · exact h.2
    · exact id

theorem gatewayAlike_mergeCellConfig {a b : CellTemplateSpec} (h : sameCellTemplate a b = true)
    (overrides : Option CellOverrides) (inline : Option CellInlineSpec) :
    GatewayAlike (mergeCellConfig a overrides inline).gateway
      (mergeCellConfig b overrides inline).gateway := by
  simp only [sameCellTemplate, Bool.and_eq_true] at h
  have hbase : GatewayAlike (a.multigateway.getD {}) (b.multigateway.getD {}) := by
    rcases sameValue_cases h.1.1 with ⟨ha, hb⟩ | ⟨x, y, ha, hb, hsame⟩
    · rw [ha, hb]
      exact .refl _
    · rw [ha, hb]
      exact gatewayAlike_of_same hsame
  unfold mergeCellConfig
  dsimp only
  cases (overrides.getD {}).multigateway with
  | none => cases inline with
    | none => exact hbase
    | some spec => exact hbase.merge spec.multigateway
  | some upper => cases inline with
    | none => exact hbase.merge upper
    | some spec => exact (hbase.merge upper).merge spec.multigateway

variable {mode : ShardMode} {cellName : String} {warnings : List String}

theorem gatewaySound_defaultGateway :
    GatewaySound (defaultGateway mode g) ↔
      ((defaultGatewayBuffer g.buffer).enabled = some false ∨
        BufferSound (defaultGatewayBuffer g.buffer)) ∧ ResourcesConsistent g.resources := by
  unfold GatewaySound
  refine and_congr ?_ ?_
  · simp only [defaultGateway, Option.mem_some_iff, forall_eq']
  · cases mode <;> exact resourcesConsistent_overResources_default

theorem gatewaySound_of_same (h : GatewayAlike g g') (hsound : GatewaySound (defaultGateway mode g)) :
    GatewaySound (defaultGateway mode g') := by
  rw [gatewaySound_defaultGateway] at hsound ⊢
  rw [← h.1]
  exact ⟨hsound.1, h.2 hsound.2⟩

/-! ### Local topology servers -/

/-- A local topology server can be defaulted if the roots can be derived and the compaction settings
of its etcd make sense. -/
theorem exists_defaultLocalTopo {topo : LocalTopoServerSpec} :
    (∃ x, defaultLocalTopo go cluster cellName topo = .ok x) ↔
      (∃ roots path, Topology.forCluster go.sha256 cluster = .ok roots ∧
        roots.cell cellName = .ok path) ∧
        ∀ etcd ∈ topo.etcd, ∃ c, effectiveCompaction go etcd.maintenance = .ok c := by
  unfold defaultLocalTopo
  simp only [Checks.bind_eq_ok, Checks.mapError_eq_ok]
  cases topo.etcd with
  | none => 
    constructor
    · rintro ⟨x, roots, hroots, path, hpath, -⟩
      exact ⟨⟨roots, path, hroots, hpath⟩, fun _ h => by cases h⟩
    · rintro ⟨⟨roots, path, hroots, hpath⟩, -⟩
      exact ⟨_, roots, hroots, path, hpath, rfl⟩
  | some etcd =>
    constructor
    · rintro ⟨x, roots, hroots, path, hpath, h⟩
      obtain ⟨c, hc, -⟩ := Checks.bind_eq_ok.mp h
      refine ⟨⟨roots, path, hroots, hpath⟩, fun e he => ?_⟩
      obtain rfl := Option.mem_some_iff.mp he
      exact ⟨c, Checks.mapError_eq_ok.mp hc⟩
    · rintro ⟨⟨roots, path, hroots, hpath⟩, hetcd⟩
      obtain ⟨c, hc⟩ := hetcd etcd rfl
      refine ⟨_, roots, hroots, path, hpath, Checks.bind_eq_ok.mpr ⟨c, ?_, rfl⟩⟩
      exact Checks.mapError_eq_ok.mpr hc

theorem exists_defaultLocalTopo_of_same {a b : LocalTopoServerSpec}
    (h : sameLocalTopoServerSpec a b = true)
    (ha : ∃ x, defaultLocalTopo go cluster cellName a = .ok x) :
    ∃ y, defaultLocalTopo go cluster cellName b = .ok y := by
  simp only [sameLocalTopoServerSpec, Bool.and_eq_true] at h
  rw [exists_defaultLocalTopo] at ha ⊢
  refine ⟨ha.1, fun etcd' hetcd' => ?_⟩
  rcases sameValue_cases h.1 with ⟨-, hnone⟩ | ⟨e, e', he, he', hsame⟩
  · rw [hnone] at hetcd'
    cases hetcd'
  · obtain rfl : e' = etcd' := Option.some.inj (he'.symm.trans hetcd')
    simp only [sameEtcdSpec, Bool.and_eq_true, beq_iff_eq] at hsame
    have hmaintenance := congrArg EtcdSpec.maintenance hsame.2
    change e.maintenance = e'.maintenance at hmaintenance
    rw [← hmaintenance]
    exact ha.2 e he

/-! ### Validity of a gateway -/

def GatewayValidWith (go : GoLib) (cluster : MultigresCluster) (cell : CellConfig)
    (tpl : CellTemplateSpec) : Prop :=
  ∃ resolved, resolveCellWith go cluster cell tpl = .ok resolved ∧ GatewaySound resolved.gateway

theorem gatewayValidWith_iff :
    GatewayValidWith go cluster cell tpl ↔
      (∀ topo ∈ (mergeCellConfig tpl cell.overrides cell.spec).localTopo,
        ∃ x, defaultLocalTopo go cluster cell.name topo = .ok x) ∧
      GatewaySound (defaultGateway cluster.spec.mode
        (mergeCellConfig tpl cell.overrides cell.spec).gateway) := by
  unfold GatewayValidWith resolveCellWith
  dsimp only
  generalize mergeCellConfig tpl cell.overrides cell.spec = merged
  cases merged.localTopo with
  | none =>
    constructor
    · rintro ⟨resolved, h, hsound⟩
      obtain rfl := Except.ok.inj h
      exact ⟨fun _ htopo => (by cases htopo), hsound⟩
    · rintro ⟨-, hsound⟩
      exact ⟨_, rfl, hsound⟩
  | some topo =>
    constructor
    · rintro ⟨resolved, h, hsound⟩
      obtain ⟨x, hx, h⟩ := Checks.bind_eq_ok.mp h
      obtain rfl := Except.ok.inj h
      refine ⟨fun topo' htopo => ?_, hsound⟩
      obtain rfl := Option.mem_some_iff.mp htopo
      exact ⟨x, hx⟩
    · rintro ⟨htopo, hsound⟩
      obtain ⟨x, hx⟩ := htopo topo rfl
      exact ⟨_, Checks.bind_eq_ok.mpr ⟨x, hx, rfl⟩, hsound⟩

/-- **Templates that compare as equal** give gateways of equal validity. -/
theorem gatewayValidWith_of_same {a b : CellTemplateSpec} (h : sameCellTemplate a b = true)
    (ha : GatewayValidWith go cluster cell a) : GatewayValidWith go cluster cell b := by
  rw [gatewayValidWith_iff] at ha ⊢
  refine ⟨fun topo htopo => ?_, gatewaySound_of_same (gatewayAlike_mergeCellConfig h _ _) ha.2⟩
  have hlocal : Table.sameValue sameLocalTopoServerSpec a.localTopoServer b.localTopoServer = true := by
    simp only [sameCellTemplate, Bool.and_eq_true] at h
    exact h.2
  -- either the cell has a server of its own, or both templates have one
  have hcases : topo ∈ (mergeCellConfig a cell.overrides cell.spec).localTopo ∨
      topo ∈ b.localTopoServer ∧
        (mergeCellConfig a cell.overrides cell.spec).localTopo = a.localTopoServer := by
    unfold mergeCellConfig at htopo ⊢
    cases hspec : cell.spec with
    | none =>
      rw [hspec] at htopo
      exact .inr ⟨htopo, rfl⟩
    | some inline =>
      rw [hspec] at htopo
      dsimp only at htopo ⊢
      cases hinline : inline.localTopoServer with
      | none =>
        rw [hinline] at htopo
        exact .inr ⟨htopo, rfl⟩
      | some own =>
        rw [hinline] at htopo
        exact .inl htopo
  rcases hcases with hown | ⟨hb, ha'⟩
  · exact ha.1 topo hown
  · rcases sameValue_cases hlocal with ⟨-, hnone⟩ | ⟨x, y, hx, hy, hsame⟩
    · rw [hnone] at hb
      cases hb
    · obtain rfl : y = topo := Option.some.inj (hy.symm.trans hb)
      exact exists_defaultLocalTopo_of_same hsame (ha.1 x (by rw [ha', hx]; rfl))

theorem gatewayValid_iff : GatewayValid go r cluster cell ↔
    ∃ tpl, r.resolveCellTemplate (effectiveCell cluster cell).cellTemplate = .ok tpl ∧
      GatewayValidWith go cluster (effectiveCell cluster cell) tpl := by
  unfold GatewayValid GatewayValidWith resolveCell
  simp only [Checks.bind_eq_ok]
  constructor
  · rintro ⟨resolved, ⟨tpl, htpl, h⟩, hsound⟩
    exact ⟨tpl, htpl, resolved, h, hsound⟩
  · rintro ⟨tpl, htpl, resolved, h, hsound⟩
    exact ⟨resolved, ⟨tpl, htpl, h⟩, hsound⟩

theorem gatewayValid_congr (h : r.resolveCellTemplate (effectiveCell cluster cell).cellTemplate =
    r'.resolveCellTemplate (effectiveCell cluster cell).cellTemplate) :
    GatewayValid go r cluster cell ↔ GatewayValid go r' cluster cell := by
  rw [gatewayValid_iff, gatewayValid_iff, h]

/-! ### Writes of CellTemplates -/

variable {w : Webhooks} {infra : Infrastructure} {s t : Store} {ns name ref : String}

theorem resolveCellTemplate_congr
    (h : t.templates.cell.get (ns, effectiveTemplateName ref) =
      s.templates.cell.get (ns, effectiveTemplateName ref)) :
    (t.resolver ns).resolveCellTemplate ref = (s.resolver ns).resolveCellTemplate ref :=
  resolveTemplate_stored_congr h

/-- **A write that is accepted** breaks a consumer of the template only next to another consumer of
the same cluster that was broken before. -/
theorem exists_invalid_of_consumers
    (haccepted : validateCellTemplateConsumers go (s.client infra) ns name tpl = .ok ())
    (hlive : s.Live cluster) (hns : cluster.namespace = ns) (hcell : cell ∈ cluster.spec.cells)
    (hconsumes : ConsumesCellTemplate cluster cell name)
    (hinvalid : ¬ GatewayValidWith go cluster (effectiveCell cluster cell) tpl) :
    ∃ broken ∈ cluster.spec.cells, ConsumesCellTemplate cluster broken name ∧
      ¬ GatewayValid go (s.resolver ns) cluster broken := by
  have hname : name ≠ "" := hconsumes ▸ effectiveTemplateName_ne _
  rw [validateCellTemplateConsumers, if_neg hname] at haccepted
  obtain ⟨clusters, hclusters, haccepted⟩ := Checks.bind_eq_ok.mp haccepted
  have hmem := (clusters_client (Checks.mapError_eq_ok.mp hclusters)).mpr ⟨hlive.1, hns⟩
  have hconsumer := Checks.forM_eq_ok.mp haccepted cluster hmem
  unfold validateCellTemplateConsumer at hconsumer
  dsimp only at hconsumer
  rw [hlive.2] at hconsumer
  simp only [Option.isSome_none, Bool.false_eq_true, if_false] at hconsumer
  split at hconsumer
  · -- the consumers pass with the new content, which the lookup finds in the cache
    next hok =>
    have hnew := (validateResolvedGateways_only_eq_ok hname).mp hok cell hcell hconsumes
    obtain ⟨tpl', htpl', hvalid'⟩ := gatewayValid_iff.mp hnew
    obtain rfl : tpl = tpl' :=
      Except.ok.inj ((resolveTemplate_seeded tpl hconsumes).symm.trans htpl')
    exact absurd hvalid' hinvalid
  · -- the ratchet let the write pass, so the check with the stored content failed as well
    next err _ =>
    by_contra hnone
    push Not at hnone
    have hbase : validateResolvedGateways go (newResolver (s.client infra) ns) cluster name
        ("MultigresCluster '" ++ cluster.name ++ "' ") = .ok () := by
      refine (validateResolvedGateways_only_eq_ok hname).mpr fun other hother hconsumer => ?_
      exact (gatewayValid_congr (resolveCellTemplate_client ns _)).mpr
        (hnone other hother hconsumer)
    rw [hbase] at hconsumer
    cases hconsumer

/-- If the consumers of the template are valid, they also are with the new content. -/
theorem gatewayValid_of_consumers
    (haccepted : validateCellTemplateConsumers go (s.client infra) ns name tpl = .ok ())
    (hlive : s.Live cluster) (hns : cluster.namespace = ns)
    (hvalid : ∀ cell ∈ cluster.spec.cells, GatewayValid go (s.resolver ns) cluster cell)
    (hcell : cell ∈ cluster.spec.cells) (hconsumes : ConsumesCellTemplate cluster cell name) :
    GatewayValidWith go cluster (effectiveCell cluster cell) tpl := by
  by_contra hinvalid
  obtain ⟨broken, hmem, -, hbroken⟩ :=
    exists_invalid_of_consumers haccepted hlive hns hcell hconsumes hinvalid
  exact hbroken (hvalid broken hmem)

theorem gatewayValid_put (hconsumes : ConsumesCellTemplate cluster cell name) :
    GatewayValid go (Store.resolver
        { s with templates := putTemplate s.templates ns name (.cell tpl) } ns) cluster cell ↔
      GatewayValidWith go cluster (effectiveCell cluster cell) tpl := by
  have hfound : (Store.resolver
      { s with templates := putTemplate s.templates ns name (.cell tpl) } ns).resolveCellTemplate
        (effectiveCell cluster cell).cellTemplate = .ok tpl := by
    refine resolveTemplate_stored ?_
    rw [hconsumes]
    exact (Table.get_set _ _ _ _).trans (if_pos rfl)
  rw [gatewayValid_iff, hfound]
  simp

theorem gatewayValid_put_of_ne {ns' : String}
    (hother : ns' = ns → ¬ ConsumesCellTemplate cluster cell name) :
    GatewayValid go (Store.resolver
        { s with templates := putTemplate s.templates ns name (.cell tpl) } ns') cluster cell ↔
      GatewayValid go (s.resolver ns') cluster cell := by
  refine gatewayValid_congr (resolveCellTemplate_congr ?_)
  refine (Table.get_set _ _ _ _).trans (if_neg fun heq => ?_)
  exact hother (Prod.mk.inj heq).1 (Prod.mk.inj heq).2

theorem gatewayValidWith_of_unchanged {old : Template} (hold : s.template .cell ns name = some old)
    (hsame : templateSpecUnchanged old (.cell tpl) = true)
    (hconsumes : ConsumesCellTemplate cluster cell name)
    (hvalid : GatewayValid go (s.resolver ns) cluster cell) :
    GatewayValidWith go cluster (effectiveCell cluster cell) tpl := by
  obtain ⟨oldSpec, hget, rfl⟩ := Option.map_eq_some_iff.mp hold
  obtain ⟨tpl', htpl', hvalid⟩ := gatewayValid_iff.mp hvalid
  have hfound : (s.resolver ns).resolveCellTemplate (effectiveCell cluster cell).cellTemplate =
      .ok oldSpec := resolveTemplate_stored (hconsumes ▸ hget)
  obtain rfl : oldSpec = tpl' := Except.ok.inj (hfound.symm.trans htpl')
  exact gatewayValidWith_of_same hsame hvalid

/-! ### All gateways of a namespace -/

/-- The gateways of the clusters of a namespace that are not being deleted. -/
def GatewaysValid (go : GoLib) (ns : String) (s : Store) : Prop :=
  ∀ cluster, s.Live cluster → cluster.namespace = ns →
    ∀ cell ∈ cluster.spec.cells, GatewayValid go (s.resolver ns) cluster cell

theorem validate_gateways {catalog : PostgresConfig.Catalog}
    (h : validate go catalog (s.client infra) cluster = .ok warnings) :
    ∀ cell ∈ cluster.spec.cells, GatewayValid go (s.resolver cluster.namespace) cluster cell := by
  obtain ⟨-, h⟩ := Checks.andThen_eq_ok.mp h
  obtain ⟨-, h⟩ := Checks.andThen_eq_ok.mp h
  intro cell hcell
  exact (gatewayValid_congr (resolveCellTemplate_client _ _)).mp
    ((validateClusterLogic_parts h).1 cell hcell)

theorem gatewaysValid_write (h : GatewaysValid w.go ns s)
    (accepted : AcceptsWrite w infra s ns name (.cell tpl)) :
    GatewaysValid w.go ns { s with templates := putTemplate s.templates ns name (.cell tpl) } := by
  intro cluster hlive hns cell hcell
  have hlive' : s.Live cluster := hlive
  have hvalid := h cluster hlive' hns
  by_cases hconsumes : ConsumesCellTemplate cluster cell name
  · refine (gatewayValid_put hconsumes).mpr ?_
    rcases accepted with ⟨old, hold, hsame⟩ | hwrite
    · exact gatewayValidWith_of_unchanged hold hsame hconsumes (hvalid cell hcell)
    · obtain ⟨-, hconsumers⟩ := Checks.andThen_eq_ok.mp hwrite
      exact gatewayValid_of_consumers hconsumers hlive' hns hvalid hcell hconsumes
  · exact (gatewayValid_put_of_ne fun _ => hconsumes).mpr (hvalid cell hcell)

theorem eq_fallback_of_consumes (hconsumes : ConsumesCellTemplate cluster cell name)
    (hcell : cell ∈ cluster.spec.cells) (hunused : isTemplateInUse .cell cluster name = false) :
    name = fallbackTemplate := by
  simp only [isTemplateInUse, Bool.or_eq_false_iff, beq_eq_false_iff_ne, List.any_eq_false,
    beq_iff_eq] at hunused
  obtain ⟨hdefault, hcells⟩ := hunused
  have hown := hcells cell hcell
  unfold ConsumesCellTemplate effectiveTemplateName effectiveCell
    MultigresClusterSpec.effectiveCellTemplate at hconsumes
  dsimp only at hconsumes
  split at hconsumes
  · split at hconsumes
    · exact hconsumes.symm
    · exact absurd hconsumes hdefault
  · exact absurd hconsumes hown

/-- A template is deleted: no live cluster refers to it, and consumers of the fallback are valid
without it. -/
theorem gatewaysValid_drop (h : GatewaysValid w.go ns s)
    (accepted : validateTemplateDelete w.go (s.client infra) ns name .cell = .ok ()) :
    GatewaysValid w.go ns { s with templates := dropTemplate s.templates ns name .cell } := by
  intro cluster hlive hns cell hcell
  have hlive' : s.Live cluster := hlive
  have hvalid := h cluster hlive' hns
  obtain ⟨hunused, hfallback, -⟩ := validateTemplateDelete_eq_ok accepted
  by_cases hconsumes : ConsumesCellTemplate cluster cell name
  · obtain rfl := eq_fallback_of_consumes hconsumes hcell (hunused cluster hlive' hns)
    refine gatewayValid_iff.mpr ⟨{}, resolveTemplate_stored_none hconsumes ?_, ?_⟩
    · exact (Table.get_erase _ _ _).trans (if_pos rfl)
    · exact gatewayValid_of_consumers (hfallback rfl rfl) hlive' hns hvalid hcell hconsumes
  · refine (gatewayValid_congr (resolveCellTemplate_congr ?_)).mpr (hvalid cell hcell)
    refine (Table.get_erase _ _ _).trans (if_neg fun heq => hconsumes ?_)
    exact (Prod.mk.inj heq).2

theorem GatewaysValid.congr (h : GatewaysValid w.go ns s)
    (hclusters : ∀ cluster, t.Live cluster → cluster.namespace = ns → s.Live cluster)
    (htemplates : ∀ name, t.templates.cell.get (ns, name) = s.templates.cell.get (ns, name)) :
    GatewaysValid w.go ns t := by
  intro cluster hlive hns cell hcell
  refine (gatewayValid_congr (resolveCellTemplate_congr (htemplates _))).mpr ?_
  exact h cluster (hclusters cluster hlive hns) hns cell hcell

theorem gatewaysValid_put {new : MultigresCluster} (h : GatewaysValid w.go ns s)
    (accepted : validate w.go w.catalog (s.client infra) new = .ok warnings)
    (templates : t.templates = s.templates) (members : ∀ c ∈ t.clusters, c = new ∨ c ∈ s.clusters) :
    GatewaysValid w.go ns t := by
  intro cluster hlive hns cell hcell
  have hcongr : GatewayValid w.go (t.resolver ns) cluster cell ↔
      GatewayValid w.go (s.resolver ns) cluster cell :=
    gatewayValid_congr (resolveCellTemplate_congr (by rw [templates]))
  rw [hcongr]
  rcases members cluster hlive.1 with rfl | hold
  · exact hns ▸ validate_gateways accepted cell hcell
  · exact h cluster ⟨hold, hlive.2⟩ hns cell hcell

/-- **Every change keeps the gateways of a namespace valid.** -/
theorem gatewaysValid_of_change {req : Request} (h : GatewaysValid w.go ns s)
    (hchange : Change w infra s req t) : GatewaysValid w.go ns t := by
  cases hchange with
  | create default accepted templates stored members =>
    exact gatewaysValid_put h accepted templates fun c hc => (members c hc).imp_right And.left
  | update default stored key accepted templates members =>
    exact gatewaysValid_put h (passed_of_validateUpdate accepted).2.2.1 templates members
  | retire notCreate templates members =>
    refine h.congr (fun cluster hlive _ => ⟨members cluster hlive.1 hlive.2, hlive.2⟩) ?_
    intro name
    rw [templates]
  | @write _ ns' name tpl notCreate accepted =>
    cases tpl with
    | core spec => exact h.congr (fun _ hlive _ => hlive) fun _ => rfl
    | shard spec => exact h.congr (fun _ hlive _ => hlive) fun _ => rfl
    | cell spec =>
      by_cases hns : ns' = ns
      · subst hns
        exact gatewaysValid_write h accepted
      · refine h.congr (fun _ hlive _ => hlive) fun name' => ?_
        exact (Table.get_set _ _ _ _).trans (if_neg fun heq => hns (Prod.mk.inj heq).1.symm)
  | @drop kind ns' name accepted =>
    cases kind with
    | core => exact h.congr (fun _ hlive _ => hlive) fun _ => rfl
    | shard => exact h.congr (fun _ hlive _ => hlive) fun _ => rfl
    | cell =>
      by_cases hns : ns' = ns
      · subst hns
        exact gatewaysValid_drop h accepted
      · refine h.congr (fun _ hlive _ => hlive) fun name' => ?_
        exact (Table.get_erase _ _ _).trans (if_neg fun heq => hns (Prod.mk.inj heq).1.symm)

/-- **The gateways of a namespace stay valid.** After any run of accepted requests from a state in
which the namespace has no clusters, every cell of every cluster in it that is not being deleted
resolves, and its gateway passes the checks of the validator. -/
theorem gateways_stay_valid {P : Request → Prop} {x y : State} (ns : String)
    (hempty : ∀ cluster ∈ x.store.clusters, cluster.namespace ≠ ns) (hrun : Run w P x y) :
    ∀ cluster ∈ y.store.clusters, cluster.namespace = ns → cluster.deletionTimestamp = none →
      ∀ cell ∈ cluster.spec.cells, ∃ resolved,
        resolveCell w.go (y.store.resolver ns) cluster (effectiveCell cluster cell) = .ok resolved ∧
          (∀ subject, validateGatewayBuffer resolved.gateway.buffer subject true = .ok ()) ∧
          ∀ component, validateResourceRequirements resolved.gateway.resources component = .ok () := by
  have hvalid : GatewaysValid w.go ns y.store := by
    refine hrun.induction (I := fun z => GatewaysValid w.go ns z.store) ?_ ?_
    · exact fun cluster hlive hns => absurd hns (hempty cluster hlive.1)
    · exact fun _ _ _ _ h _ hchange => gatewaysValid_of_change h hchange
  intro cluster hcluster hns hlive cell hcell
  obtain ⟨resolved, hresolved, hbuffer, hresources⟩ := hvalid cluster ⟨hcluster, hlive⟩ hns cell hcell
  refine ⟨resolved, hresolved, fun subject => validateGatewayBuffer_eq_ok.mpr hbuffer, ?_⟩
  exact fun component => validateResourceRequirements_eq_ok.mpr hresources

section

open Webhook.Sample

def gatewayRequests : List Request :=
  [.createTemplate "prod" "gw" gatewayTemplate, .createCluster liteCluster,
    .createTemplate "prod" "default" gatewayTemplate]

/-- The window of five seconds comes from the template. -/
theorem gateways_stay_valid_created :
    ∃ y, Run installed (fun _ => True) emptyState y ∧
      y.store.clusters.items.map clusterKey = [("prod", "db")] ∧
      ∀ cluster ∈ y.store.clusters, cluster.namespace = "prod" →
        cluster.deletionTimestamp = none → ∀ cell ∈ cluster.spec.cells, ∃ resolved,
          resolveCell installed.go (y.store.resolver "prod") cluster (effectiveCell cluster cell) =
              .ok resolved ∧
            (∀ subject, validateGatewayBuffer resolved.gateway.buffer subject true = .ok ()) ∧
            ∀ component, validateResourceRequirements resolved.gateway.resources component =
              .ok () := by
  have hrun : ((admitAll installed cloud emptyState.store gatewayRequests).map fun s =>
      s.clusters.items.map clusterKey) = .ok [("prod", "db")] := by decide +kernel
  cases hadmission : admitAll installed cloud emptyState.store gatewayRequests with
  | error err =>
    rw [hadmission] at hrun
    cases hrun
  | ok t =>
    obtain ⟨y, hy, rfl⟩ := exists_run_of_admitAll .refl hadmission fun _ _ => trivial
    rw [hadmission] at hrun
    refine ⟨y, hy, Except.ok.inj hrun, gateways_stay_valid "prod" ?_ hy⟩
    exact fun _ h => absurd h List.not_mem_nil

end

end MultigresOperator.Webhook

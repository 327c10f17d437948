import MultigresOperator.Webhook.Gateways

/-!
# Template writes next to clusters that are already broken

A write of a CellTemplate is checked against the clusters that consume it. A cluster that fails with
the new content but also fails with the stored one is passed over, so that a broken cluster does not
block a shared template. The comparison is made once for a whole cluster: as soon as one cell of it
is broken, the write may break the other cells too.

## Main results

* `cellTemplate_write_keeps_valid_iff`: an accepted write keeps all valid gateways valid iff it
  breaks no cell in the clusters that have a broken one
* `cellTemplate_write_breaks_sibling`: a write that breaks a second cell is accepted
-/

namespace MultigresOperator.Webhook

open V1Alpha1 Resolution

variable {w : Webhooks} {infra : Infrastructure} {s t : Store} {ns name : String}
  {tpl : CellTemplateSpec} {req : Request}

def WritesCellTemplate (req : Request) (ns name : String) (tpl : CellTemplateSpec) : Prop :=
  req = .createTemplate ns name (.cell tpl) ∨ req = .updateTemplate ns name (.cell tpl)

/-- The cells of live clusters with a valid gateway have one after the change as well. -/
def KeepsGatewaysValid (go : GoLib) (s t : Store) : Prop :=
  ∀ cluster, s.Live cluster → ∀ cell ∈ cluster.spec.cells,
    GatewayValid go (s.resolver cluster.namespace) cluster cell →
      GatewayValid go (t.resolver cluster.namespace) cluster cell

/-- A cluster with a consumer of the template whose gateway is not valid. -/
def HasBrokenConsumer (go : GoLib) (s : Store) (name : String) (cluster : MultigresCluster) : Prop :=
  ∃ cell ∈ cluster.spec.cells, ConsumesCellTemplate cluster cell name ∧
    ¬ GatewayValid go (s.resolver cluster.namespace) cluster cell

/-- The valid consumers of a template in a cluster are valid with other content. -/
def ConsumersBear (go : GoLib) (s : Store) (name : String) (tpl : CellTemplateSpec)
    (cluster : MultigresCluster) : Prop :=
  ∀ cell ∈ cluster.spec.cells, ConsumesCellTemplate cluster cell name →
    GatewayValid go (s.resolver cluster.namespace) cluster cell →
      GatewayValidWith go cluster (effectiveCell cluster cell) tpl

theorem admission_writesCellTemplate (hreq : WritesCellTemplate req ns name tpl)
    (h : admission w infra s req = .ok t) :
    AcceptsWrite w infra s ns name (.cell tpl) ∧
      t = { s with templates := putTemplate s.templates ns name (.cell tpl) } := by
  rcases hreq with rfl | rfl
  · rw [admission] at h
    split at h
    · cases h
    · obtain ⟨haccepted, h⟩ := Checks.andThen_eq_ok.mp h
      exact ⟨.inr haccepted, (Except.ok.inj h).symm⟩
  · rw [admission] at h
    split at h
    · cases h
    · next old hold =>
      obtain ⟨haccepted, h⟩ := Checks.andThen_eq_ok.mp h
      refine ⟨?_, (Except.ok.inj h).symm⟩
      unfold validateTemplateUpdate at haccepted
      split at haccepted
      · next hsame => exact .inl ⟨old, hold, hsame⟩
      · exact .inr haccepted

theorem consumersBear_of_accepted (haccepted : AcceptsWrite w infra s ns name (.cell tpl))
    {cluster : MultigresCluster} (hlive : s.Live cluster) (hns : cluster.namespace = ns)
    (hsound : ¬ HasBrokenConsumer w.go s name cluster) : ConsumersBear w.go s name tpl cluster := by
  intro cell hcell hconsumes hvalid
  rcases haccepted with ⟨old, hold, hsame⟩ | hwrite
  · exact gatewayValidWith_of_unchanged hold hsame hconsumes (hns ▸ hvalid)
  · obtain ⟨-, hconsumers⟩ := Checks.andThen_eq_ok.mp hwrite
    by_contra hinvalid
    have hbroken := exists_invalid_of_consumers hconsumers hlive hns hcell hconsumes hinvalid
    rw [← hns] at hbroken
    exact hsound hbroken

/-- **Template writes and valid gateways.** An accepted creation or update of a CellTemplate keeps
every valid gateway valid iff, in the clusters that have a broken consumer, the other consumers are
valid with the new content: of these clusters the check asks nothing. -/
theorem cellTemplate_write_keeps_valid_iff (hreq : WritesCellTemplate req ns name tpl)
    (h : admission w infra s req = .ok t) :
    KeepsGatewaysValid w.go s t ↔
      ∀ cluster, s.Live cluster → cluster.namespace = ns →
        HasBrokenConsumer w.go s name cluster → ConsumersBear w.go s name tpl cluster := by
  obtain ⟨haccepted, rfl⟩ := admission_writesCellTemplate hreq h
  constructor
  · rintro hkeeps cluster hlive rfl - cell hcell hconsumes hvalid
    exact (gatewayValid_put hconsumes).mp (hkeeps cluster hlive cell hcell hvalid)
  · intro hbear cluster hlive cell hcell hvalid
    by_cases hconsumer : cluster.namespace = ns ∧ ConsumesCellTemplate cluster cell name
    · obtain ⟨rfl, hconsumes⟩ := hconsumer
      refine (gatewayValid_put hconsumes).mpr ?_
      -- either the ratchet passed the cluster over, or the check saw all its consumers
      by_cases hbroken : HasBrokenConsumer w.go s name cluster
      · exact hbear cluster hlive rfl hbroken cell hcell hconsumes hvalid
      · exact consumersBear_of_accepted haccepted hlive rfl hbroken cell hcell hconsumes hvalid
    · refine (gatewayValid_put_of_ne fun hns => ?_).mpr hvalid
      exact fun hconsumes => hconsumer ⟨hns, hconsumes⟩

/-! ### A second cell -/

namespace Sample

/-- A cell whose own window exceeds the time that the gateway allows for a failover. -/
def brokenCell : CellConfig where
  name := "z1"
  cellTemplate := "gw"
  overrides := some { multigateway := some { buffer := some { window := some (30 * 10 ^ 9) } } }

/-- A cell that takes its gateway from the template. -/
def plainCell : CellConfig where
  name := "z2"
  cellTemplate := "gw"

def brokenCluster : MultigresCluster where
  name := "legacy"
  «namespace» := "prod"
  spec := { cells := [brokenCell, plainCell] }

def legacyStore : Store where
  clusters := ⟨[brokenCluster], by decide⟩
  templates := { cell := Table.set ∅ ("prod", "gw") {} }

/-- A window that suits only consumers with a longer time for a failover. -/
def longWindow : CellTemplateSpec where
  multigateway := some { buffer := some { window := some (25 * 10 ^ 9) } }

/-- A window that suits all consumers. -/
def shortWindow : CellTemplateSpec where
  multigateway := some { buffer := some { window := some (5 * 10 ^ 9) } }

end Sample

section

open Webhook.Sample

theorem gatewayValid_iff_check {go : GoLib} {r : Resolver} {cluster : MultigresCluster}
    {cell : CellConfig} :
    GatewayValid go r cluster cell ↔ validateResolvedGateway go r cluster "" cell = .ok () :=
  validateResolvedGateway_eq_ok.symm

theorem live_legacyStore : legacyStore.Live brokenCluster := ⟨List.mem_singleton.mpr rfl, rfl⟩

/-- A write that suits all consumers is accepted and keeps the valid gateway of the broken cluster
valid. -/
theorem cellTemplate_write_keeps_valid_short :
    ∃ t, admission installed cloud legacyStore (.updateTemplate "prod" "gw" (.cell shortWindow)) =
        .ok t ∧
      HasBrokenConsumer installed.go legacyStore "gw" brokenCluster ∧
      KeepsGatewaysValid installed.go legacyStore t := by
  have hadmitted : (admission installed cloud legacyStore
      (.updateTemplate "prod" "gw" (.cell shortWindow))).isOk = true := by decide +kernel
  cases hadmission : admission installed cloud legacyStore
      (.updateTemplate "prod" "gw" (.cell shortWindow)) with
  | error err =>
    rw [hadmission] at hadmitted
    cases hadmitted
  | ok t =>
    refine ⟨t, rfl, ⟨brokenCell, List.mem_cons_self, rfl, ?_⟩, ?_⟩
    · rw [gatewayValid_iff_check]
      decide +kernel
    · refine (cellTemplate_write_keeps_valid_iff (.inr rfl) hadmission).mpr ?_
      intro cluster hlive _ _ cell hcell _ hvalid
      obtain rfl : cluster = brokenCluster := List.mem_singleton.mp hlive.1
      rcases List.mem_pair.mp hcell with rfl | rfl
      · -- the broken cell is not valid in the first place
        rw [gatewayValid_iff_check] at hvalid
        exact absurd hvalid (by decide +kernel)
      · have hwritten : GatewayValid installed.go (Store.resolver
            { legacyStore with
              templates := putTemplate legacyStore.templates "prod" "gw" (.cell shortWindow) } "prod")
            brokenCluster plainCell := by
          rw [gatewayValid_iff_check]
          decide +kernel
        exact (gatewayValid_put rfl).mp hwritten

/-- **A write breaks a valid cell**: the other cell of its cluster was broken before, so the write is
accepted. -/
theorem cellTemplate_write_breaks_sibling :
    ∃ t, admission installed cloud legacyStore (.updateTemplate "prod" "gw" (.cell longWindow)) =
        .ok t ∧
      legacyStore.Live brokenCluster ∧
      GatewayValid installed.go (legacyStore.resolver "prod") brokenCluster plainCell ∧
      ¬ GatewayValid installed.go (t.resolver "prod") brokenCluster plainCell := by
  have hafter : (admission installed cloud legacyStore
      (.updateTemplate "prod" "gw" (.cell longWindow))).map (fun t =>
        (validateResolvedGateway installed.go (t.resolver "prod") brokenCluster "" plainCell).isOk) =
      .ok false := by decide +kernel
  cases hadmission : admission installed cloud legacyStore
      (.updateTemplate "prod" "gw" (.cell longWindow)) with
  | error err =>
    rw [hadmission] at hafter
    cases hafter
  | ok t =>
    rw [hadmission] at hafter
    refine ⟨t, rfl, live_legacyStore, ?_, ?_⟩
    · rw [gatewayValid_iff_check]
      decide +kernel
    · rw [gatewayValid_iff_check]
      intro hok
      have hfailed : (validateResolvedGateway installed.go (t.resolver "prod") brokenCluster ""
          plainCell).isOk = false := Except.ok.inj hafter
      rw [hok] at hfailed
      cases hfailed

end

end MultigresOperator.Webhook

import MultigresOperator.Resolver.Templates

/-!
# Resolution of cells

A cell's gateway is its template with the cell's overrides and its inline spec laid over it, each
setting on its own; resources are replaced as a whole, and so is the local topology server. What is
still missing gets a default.
-/

namespace MultigresOperator.Resolution

open V1Alpha1 MultigresOperator.Topology

/-! ### The model -/

def mergeGatewayBuffer (base override : Option GatewayBufferConfig) : Option GatewayBufferConfig :=
  match override with
  | none => base
  | some upper =>
    let base := base.getD {}
    some {
      enabled := upper.enabled.or base.enabled
      window := upper.window.or base.window
      maxFailoverDuration := upper.maxFailoverDuration.or base.maxFailoverDuration
      minTimeBetweenFailovers := upper.minTimeBetweenFailovers.or base.minTimeBetweenFailovers
      size := upper.size.or base.size
      drainConcurrency := upper.drainConcurrency.or base.drainConcurrency }

def mergeGatewayClusterViews (base override : Option GatewayClusterViewsConfig) :
    Option GatewayClusterViewsConfig :=
  match override with
  | none => base
  | some upper => some { enabled := upper.enabled.or (base.getD {}).enabled }

def mergeMultigatewaySpec (base override : MultigatewaySpec) : MultigatewaySpec where
  toStatelessSpec := mergeStatelessSpec base.toStatelessSpec override.toStatelessSpec
  buffer := mergeGatewayBuffer base.buffer override.buffer
  clusterViews := mergeGatewayClusterViews base.clusterViews override.clusterViews

def defaultGatewayBuffer (buffer : Option GatewayBufferConfig) : GatewayBufferConfig :=
  let buffer := buffer.getD {}
  { buffer with enabled := buffer.enabled.or (some true) }

def defaultGatewayClusterViews (views : Option GatewayClusterViewsConfig) :
    GatewayClusterViewsConfig :=
  { enabled := (views.getD {}).enabled.or (some false) }

/-- The configuration of a cell. -/
structure ResolvedCell where
  gateway : MultigatewaySpec
  placement : Option Document
  localTopo : Option LocalTopoServerSpec
  deriving DecidableEq

def mergeCellConfig (template : CellTemplateSpec) (overrides : Option CellOverrides)
    (inline : Option CellInlineSpec) : ResolvedCell :=
  let overrides := overrides.getD {}
  let gateway := template.multigateway.getD {}
  let gateway := match overrides.multigateway with
    | none => gateway
    | some upper => mergeMultigatewaySpec gateway upper
  let placement := mergePlacementSpec template.multigatewayPlacement overrides.multigatewayPlacement
  match inline with
  | none => ⟨gateway, placement, template.localTopoServer⟩
  | some inline =>
    { gateway := mergeMultigatewaySpec gateway inline.multigateway
      placement := mergePlacementSpec placement inline.multigatewayPlacement
      localTopo := inline.localTopoServer.or template.localTopoServer }

/-- The stateless settings of a gateway; a Lite cell runs no gateway, so its replicas are not
defaulted. -/
def defaultGatewayStateless (mode : ShardMode) (spec : StatelessSpec) : StatelessSpec :=
  match mode with
  | .lite => { spec with resources := overResources spec.resources defaultResourcesGateway }
  | .distributed => defaultStatelessSpec spec defaultResourcesGateway 1

def defaultGateway (mode : ShardMode) (gateway : MultigatewaySpec) : MultigatewaySpec where
  toStatelessSpec := defaultGatewayStateless mode gateway.toStatelessSpec
  buffer := some (defaultGatewayBuffer gateway.buffer)
  clusterViews := some (defaultGatewayClusterViews gateway.clusterViews)

section

variable (go : GoLib)

/-- The local topology server of a cell, with its roots derived from the cluster. -/
def defaultLocalTopo (cluster : MultigresCluster) (cellName : String) (topo : LocalTopoServerSpec) :
    Except ResolveError LocalTopoServerSpec := do
  let roots ← (forCluster go.sha256 cluster).mapError fun err =>
    ⟨"deriving topology roots for cell " ++ go.quote cellName ++ ": " ++ err, false⟩
  let defaultRootPath ← (roots.cell cellName).mapError fun err =>
    ⟨"deriving topology root for cell " ++ go.quote cellName ++ ": " ++ err, false⟩
  let etcd := topo.etcd.map (defaultEtcdSpec · defaultRootPath)
  match etcd with
  | none => pure ()
  | some etcd =>
    let _ ← (effectiveCompaction go etcd.maintenance).mapError
      (.wrap "local topology maintenance")
  return { etcd, external := topo.external.map (defaultExternalTopoSpec · defaultRootPath) }

/-- `ResolveCell` once the template is known. -/
def resolveCellWith (cluster : MultigresCluster) (cellSpec : CellConfig) (tpl : CellTemplateSpec) :
    Except ResolveError ResolvedCell := do
  let merged := mergeCellConfig tpl cellSpec.overrides cellSpec.spec
  let gateway := defaultGateway cluster.spec.mode merged.gateway
  match merged.localTopo with
  | none => return { merged with gateway }
  | some topo =>
    let topo ← defaultLocalTopo go cluster cellSpec.name topo
    return { merged with gateway, localTopo := some topo }

def resolveCell (r : Resolver) (cluster : MultigresCluster) (cellSpec : CellConfig) :
    Except ResolveError ResolvedCell := do
  let tpl ← r.resolveCellTemplate cellSpec.cellTemplate
  resolveCellWith go cluster cellSpec tpl

end

/-! ### What resolution depends on -/

variable {go : GoLib} {r r' : Resolver} {cluster : MultigresCluster} {cellSpec : CellConfig}

theorem resolveCell_congr
    (h : r.resolveCellTemplate cellSpec.cellTemplate = r'.resolveCellTemplate cellSpec.cellTemplate) :
    resolveCell go r cluster cellSpec = resolveCell go r' cluster cellSpec := by
  rw [resolveCell, resolveCell, h]

end MultigresOperator.Resolution

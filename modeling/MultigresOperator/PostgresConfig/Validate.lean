import Mathlib.Data.Char
import Mathlib.Data.List.Lex
import Mathlib.Data.List.Sort
import MultigresOperator.PostgresConfig.Parse

/-!
# Validation of inline settings

`spec.postgresConfig` is checked at admission: a parameter the operator manages is refused, and so is
one the catalog of PostgreSQL's parameters does not know or whose value does not match its type. Names
with a dot belong to extensions and are not checked.

The catalog is embedded from a file that is regenerated for each release of PostgreSQL; it is a
parameter of the model.

## Main results

* `validate_eq_ok`: a map is accepted if every setting is
* `sortedEntries_congr`: the order of the entries does not depend on how a map has them
* `known_of_validateGUC`: an accepted setting without a dot in its name is in the catalog
-/

namespace MultigresOperator.PostgresConfig

/-- The broad type of a parameter. -/
inductive GucType
  | bool
  | integer
  | real
  | string
  | enum
  deriving DecidableEq, Repr

/-- When a parameter can be changed, the `context` column of `pg_settings`. -/
inductive GucContext
  | internal
  | postmaster
  | sighup
  | superuserBackend
  | backend
  | superuser
  | user
  deriving DecidableEq, Repr

/-- What the catalog says of a parameter. -/
structure CatalogEntry where
  typ : GucType
  context : GucContext
  deriving DecidableEq, Repr

/-- The characters of the names in the catalog. -/
def isNameChar (c : Char) : Bool := c.isLower || c.isDigit || c == '_'

/-- The parameters of a release of PostgreSQL. Their names are made of letters, digits and
underscores, and none is empty. -/
structure Catalog where
  entries : List (Str × CatalogEntry)
  names : ∀ e ∈ entries, e.1.all isNameChar = true
  nonempty : ∀ e ∈ entries, e.1 ≠ []

/-- `managedGUCs`: the parameters the operator manages, and why. -/
def managedGUCs : List (Str × String) :=
  let pinned := "pinned by the operator on the pgctld command line"
  [("port".toList, pinned), ("listen_addresses".toList, pinned),
    ("unix_socket_directories".toList, pinned), ("data_directory".toList, pinned),
    ("hba_file".toList, pinned), ("ident_file".toList, pinned),
    ("wal_level".toList, "managed by the operator; multigres requires wal_level=logical")]

/-- The parameter is managed by the operator. -/
def Managed (name : Str) : Prop := name ∈ managedGUCs.map Prod.fst

/-- `isIntegerWithOptionalUnit`: an integer and letters after it. -/
def isIntegerWithOptionalUnit (go : GoText) (v : Str) : Bool :=
  let v := go.trimSpace v
  let v := if v.head? = some '-' ∨ v.head? = some '+' then v.tail else v
  v.takeWhile Char.isDigit ≠ [] ∧
    (go.trimSpace (v.dropWhile Char.isDigit)).all fun c => c.isLower || c.isUpper

def GucType.text : GucType → String
  | .bool => "bool"
  | .integer => "integer"
  | .real => "real"
  | .string => "string"
  | .enum => "enum"

def valueMatchesType (go : GoText) (value : Str) : GucType → Bool
  | .bool => go.lower (go.trimSpace value) ∈
      ["on", "off", "true", "false", "yes", "no", "1", "0"].map String.toList
  | .integer => isIntegerWithOptionalUnit go (go.trimSpace value)
  | .real => go.parsesFloat (go.trimSpace value)
  | .enum | .string => true

section

variable (go : GoText) (catalog : Catalog)

def validateGUC (name value : Str) : Except Str Unit :=
  if '.' ∈ name then .ok ()
  else
    let lower := go.lower (go.trimSpace name)
    match managedGUCs.lookup lower with
    | some reason =>
      .error ("parameter ".toList ++ go.quoted name ++
        " is managed by the operator and cannot be set: ".toList ++ reason.toList)
    | none =>
      match catalog.entries.lookup lower with
      | none => .error ("unknown parameter ".toList ++ go.quoted name)
      | some entry =>
        if valueMatchesType go value entry.typ then .ok ()
        else .error ("parameter ".toList ++ go.quoted name ++ " expects a ".toList ++
          entry.typ.text.toList ++ " value, got ".toList ++ go.quoted value)

/-- The entries of a map in the order of their names, `sort.Strings`. -/
def sortedEntries (m : Table Str Str) : List (Str × Str) :=
  m.items.insertionSort fun a b => a.1 ≤ b.1

theorem mem_sortedEntries {m : Table Str Str} {e : Str × Str} : e ∈ sortedEntries m ↔ e ∈ m :=
  List.mem_insertionSort _

theorem pairwise_sortedEntries (m : Table Str Str) :
    (sortedEntries m).Pairwise fun a b => a.1 ≤ b.1 :=
  haveI : Std.Total (fun a b : Str × Str => a.1 ≤ b.1) := ⟨fun a b => le_total a.1 b.1⟩
  haveI : IsTrans (Str × Str) fun a b => a.1 ≤ b.1 := ⟨fun _ _ _ => le_trans⟩
  List.pairwise_insertionSort _ _

theorem pairwise_lt_sortedEntries (m : Table Str Str) :
    (sortedEntries m).Pairwise fun a b => a.1 < b.1 := by
  have hnodup : ((sortedEntries m).map Prod.fst).Nodup :=
    ((List.perm_insertionSort _ _).map Prod.fst).nodup_iff.mpr m.nodup
  refine ((pairwise_sortedEntries m).and (List.pairwise_map.mp hnodup)).imp ?_
  exact fun h => lt_of_le_of_ne h.1 h.2

theorem sortedEntries_congr {m m' : Table Str Str} (h : ∀ name, m.get name = m'.get name) :
    sortedEntries m = sortedEntries m' := by
  have hmem (e : Str × Str) : e ∈ m ↔ e ∈ m' := by
    rw [← Table.get_eq_some, h, Table.get_eq_some]
  have hperm : (sortedEntries m).Perm (sortedEntries m') :=
    (List.perm_insertionSort _ _).trans <| ((List.perm_ext_iff_of_nodup m.nodup.of_map
      m'.nodup.of_map).mpr hmem).trans (List.perm_insertionSort _ _).symm
  refine hperm.eq_of_pairwise (fun a b ha hb hab hba => ?_) (pairwise_sortedEntries m)
    (pairwise_sortedEntries m')
  -- entries of one name are the same entry
  have hkey : a.1 = b.1 := le_antisymm hab hba
  have ha' := Table.get_eq_some.mpr (mem_sortedEntries.mp ha)
  have hb' := Table.get_eq_some.mpr (mem_sortedEntries.mp hb)
  rw [hkey, h, hb'] at ha'
  exact Prod.ext hkey (Option.some.inj ha').symm

/-- The problems of a map of settings, in the order of their names. -/
def problems (m : Table Str Str) : List Str :=
  (sortedEntries m).filterMap fun (name, value) =>
    match validateGUC go catalog name value with
    | .ok () => none
    | .error text => some text

def validate (m : Table Str Str) : Except Str Unit :=
  if problems go catalog m = [] then .ok ()
  else .error ("invalid postgresConfig: ".toList ++ [';', ' '].intercalate (problems go catalog m))

end

variable {go : GoText} {catalog : Catalog}

/-- **A map is accepted** if and only if each of its settings is. -/
theorem validate_eq_ok {m : Table Str Str} :
    validate go catalog m = .ok () ↔ ∀ e ∈ m, validateGUC go catalog e.1 e.2 = .ok () := by
  have hproblems : problems go catalog m = [] ↔
      ∀ e ∈ m, validateGUC go catalog e.1 e.2 = .ok () := by
    rw [problems, List.filterMap_eq_nil_iff]
    refine forall_congr' fun e => ?_
    rw [mem_sortedEntries]
    refine imp_congr_right fun _ => ?_
    cases h : validateGUC go catalog e.1 e.2 <;> simp [h]
  rw [← hproblems, validate]
  split <;> simp_all

/-- An accepted setting without a dot in its name is known to the catalog, and not a managed one. -/
theorem known_of_validateGUC {name value : Str} (h : validateGUC go catalog name value = .ok ())
    (hdot : '.' ∉ name) :
    ¬ Managed (go.lower (go.trimSpace name)) ∧
      ∃ entry, catalog.entries.lookup (go.lower (go.trimSpace name)) = some entry := by
  rw [validateGUC, if_neg hdot] at h
  extract_lets lower at h
  split at h
  · cases h
  · next hmanaged =>
    split at h
    · cases h
    · next entry hentry =>
      refine ⟨fun hmem => ?_, entry, hentry⟩
      obtain ⟨e, he, heq⟩ := List.mem_map.mp hmem
      have hsome : (managedGUCs.lookup lower).isSome = true :=
        List.lookup_isSome_iff.mpr ⟨e, he, by simpa using heq.symm⟩
      rw [hmanaged] at hsome
      cases hsome

theorem plain_of_validateGUC {name value : Str} (h : validateGUC go catalog name value = .ok ())
    (hdot : '.' ∉ name) :
    ¬ Managed (go.lower (go.trimSpace name)) ∧
      (go.lower (go.trimSpace name)).all isNameChar = true := by
  obtain ⟨hmanaged, entry, hentry⟩ := known_of_validateGUC h hdot
  exact ⟨hmanaged, catalog.names _ (Assoc.mem_of_lookup hentry)⟩

end MultigresOperator.PostgresConfig

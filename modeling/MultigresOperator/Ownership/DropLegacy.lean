import MultigresOperator.Lib.ArrayPatch
import MultigresOperator.Lib.Checks
import MultigresOperator.Lib.Trie
import Mathlib.Data.List.Sort

/-!
# Legacy field ownership

Earlier versions of the operator wrote status under other manager names, and their entries in
`metadata.managedFields` keep the fields alive. After a status write the operator removes such an entry
once the current entries cover every field that it claims. The list it decides on may be stale, so the
JSON patch tests, at their positions, the entries it removes and the entries it relies on.

## Main results

* `mem_removals`: the patch removes the entries that are to be removed
* `dropLegacy_keeps_claims`: a patch that applies removes those entries and no others, and what they
  claim is claimed by what remains, itself or something below it
* `dropLegacy_drops_container`: the path of a container need not be claimed itself
-/

namespace MultigresOperator.Ownership

/-! ### The managed fields -/

inductive PathElement
  | fieldName (name : String)
  | key (fields : List (String × String))
  | value (text : String)
  | index (i : ℤ)
  deriving DecidableEq

abbrev Path := List PathElement

/-- `fieldpath.Set` -/
abbrev FieldSet := Trie PathElement

inductive ManagedFieldsOperationType
  | apply
  | update
  deriving DecidableEq

/-- `ManagedFieldsEntry`, with the type of its raw fields. -/
structure ManagedFieldsEntry (J : Type) where
  manager : String
  operation : ManagedFieldsOperationType
  apiVersion : String
  time : Option String := none
  fieldsType : String := "FieldsV1"
  fieldsV1 : Option J
  subresource : String := ""
  deriving DecidableEq

/-- `Managers`: the status managers, sorted. -/
def managers : List String :=
  ["multigres-cell", "multigres-cluster", "multigres-etcd-maintenance", "multigres-shard",
    "multigres-shard-guard", "multigres-shard-readiness", "multigres-tablegroup",
    "multigres-toposerver", "multigres-toposerver-guard"]

def managerChildWriter : String := "multigres-operator"
def legacyResourceHandler : String := "multigres-resource-handler"
def legacyResourceHandlerGuard : String := "multigres-resource-handler-guard"
def legacyResourceHandlerReadiness : String := "multigres-resource-handler-readiness"
def legacyOperatorGuard : String := "multigres-operator-guard"

variable {J : Type}

def isLegacyEntry (e : ManagedFieldsEntry J) : Bool :=
  if e.manager ∈ [legacyResourceHandlerGuard, legacyResourceHandlerReadiness, legacyOperatorGuard] then
    true
  else if e.manager ∈ [managerChildWriter, legacyResourceHandler] then e.subresource = "status"
  else false

/-- `decode`, with the codec of field sets. -/
def decode (fromJSON : J → Except String FieldSet) (e : ManagedFieldsEntry J) :
    Except String FieldSet :=
  match e.fieldsV1 with
  | none => .ok (.node [] .nil)
  | some raw => (fromJSON raw).mapError fun err =>
    "decode managedFields entry of " ++ e.manager ++ ": " ++ err

def isStatusRoot (p : Path) : Bool := p = [.fieldName "status"]

/-! ### The patch -/

/-- What a test op compares: the whole entry, or one of its fields. -/
inductive Expected (J : Type)
  | entry (e : ManagedFieldsEntry J)
  | manager (value : String)
  | operation (value : ManagedFieldsOperationType)
  | fieldsV1 (value : Option J)
  | subresource (value : String)

/-- A test op. An empty text is not in the JSON form of an entry, so no value is equal to it. -/
def Expected.holds [DecidableEq J] (e : ManagedFieldsEntry J) : Expected J → Bool
  | entry value => e = value
  | manager value => e.manager ≠ "" ∧ e.manager = value
  | operation value => e.operation = value
  | fieldsV1 value => e.fieldsV1 ≠ none ∧ e.fieldsV1 = value
  | subresource value => e.subresource ≠ "" ∧ e.subresource = value

abbrev PatchOp (J : Type) := ArrayPatch.Op (Expected J)

/-- The list of the stored object after the JSON patch, if it applies. -/
def applyPatch [DecidableEq J] (ops : List (PatchOp J)) (stored : List (ManagedFieldsEntry J)) :
    Option (List (ManagedFieldsEntry J)) :=
  ArrayPatch.run (fun t e => Expected.holds e t) ops stored

def positions (p : ManagedFieldsEntry J → Bool) (entries : List (ManagedFieldsEntry J)) : List ℕ :=
  (List.range entries.length).filter fun i => (entries[i]?).any p

/-- The order in which the current entries are asked: the status managers first. -/
def preferred (entries : List (ManagedFieldsEntry J)) (a b : ℕ) : Prop :=
  (entries[a]?).any (fun e => managers.contains e.manager) = true ∨
    (entries[b]?).any (fun e => managers.contains e.manager) = false

instance (entries : List (ManagedFieldsEntry J)) : DecidableRel (preferred entries) :=
  fun _ _ => inferInstanceAs (Decidable (_ ∨ _))

/-- The claims of an entry. -/
def claimsAt (claims : List FieldSet) (i : ℕ) : FieldSet := claims.getD i (.node [] .nil)

/-- The first current entry that covers a field. -/
def coverer (claims : List FieldSet) (current : List ℕ) (p : Path) : Option ℕ :=
  current.find? fun j => (claimsAt claims j).covers p

/-- The current entries that a legacy entry leaves its fields to, unless a field is not covered. -/
def coverage (claims : List FieldSet) (current : List ℕ) (i : ℕ) : Option (List ℕ) :=
  let fields := (claimsAt claims i).iterate.filter fun p => !isStatusRoot p
  if fields.all fun p => (coverer claims current p).isSome then
    some (fields.filterMap (coverer claims current))
  else none

/-- The tests for an entry that is relied on. -/
def guardTests (e : ManagedFieldsEntry J) : List (Expected J) :=
  [.manager e.manager, .operation e.operation, .fieldsV1 e.fieldsV1] ++
    if e.subresource ≠ "" then [.subresource e.subresource] else []

/-- What the patch does at a position. -/
def patchStep (entries : List (ManagedFieldsEntry J)) (remove guard : List ℕ) (i : ℕ) :
    ArrayPatch.Step (Expected J) :=
  match entries[i]? with
  | none => {}
  | some e =>
    if i ∈ remove then { tests := [.entry e], drops := true }
    else if i ∈ guard then { tests := guardTests e }
    else {}

/-- The current entries, in the order in which they are asked. -/
def currentEntries (entries : List (ManagedFieldsEntry J)) : List ℕ :=
  (positions (fun e => !isLegacyEntry e) entries).insertionSort (preferred entries)

def removals (claims : List FieldSet) (entries : List (ManagedFieldsEntry J)) : List ℕ :=
  (positions isLegacyEntry entries).filter fun i =>
    (coverage claims (currentEntries entries) i).isSome

/-- The entries that they leave their fields to. -/
def guards (claims : List FieldSet) (entries : List (ManagedFieldsEntry J)) : List ℕ :=
  (positions isLegacyEntry entries).flatMap fun i =>
    (coverage claims (currentEntries entries) i).getD []

/-- `DropLegacy`: the patch that is sent, if any. -/
def dropLegacy (fromJSON : J → Except String FieldSet) (entries : List (ManagedFieldsEntry J)) :
    Except String (Option (List (PatchOp J))) := do
  let claims ← entries.mapM (decode fromJSON)
  if positions isLegacyEntry entries = [] ∨ positions (fun e => !isLegacyEntry e) entries = [] then
    return none
  if removals claims entries = [] then
    return none
  return some (ArrayPatch.script (patchStep entries (removals claims entries) (guards claims entries))
    entries.length)

/-! ### What is to be removed -/

def Claims (fromJSON : J → Except String FieldSet) (e : ManagedFieldsEntry J) (p : Path) : Prop :=
  ∃ set, decode fromJSON e = .ok set ∧ p ∈ set.iterate

/-- The entry at a position is to be removed: it is a legacy entry, and every path that it claims,
the bare status field aside, is covered by a current entry. -/
def Intended (fromJSON : J → Except String FieldSet) (entries : List (ManagedFieldsEntry J)) (i : ℕ) :
    Prop :=
  ∃ e, entries[i]? = some e ∧ isLegacyEntry e = true ∧
    ∀ p, Claims fromJSON e p → isStatusRoot p = false →
      ∃ e' ∈ entries, isLegacyEntry e' = false ∧
        ∃ set, decode fromJSON e' = .ok set ∧ set.covers p = true

variable {fromJSON : J → Except String FieldSet} {entries : List (ManagedFieldsEntry J)}
  {claims : List FieldSet} {i : ℕ} {p : Path}

theorem mem_positions {p : ManagedFieldsEntry J → Bool} :
    i ∈ positions p entries ↔ ∃ e, entries[i]? = some e ∧ p e = true := by
  unfold positions
  rw [List.mem_filter, Option.any_eq_true, List.mem_range]
  constructor
  · rintro ⟨-, e, he, hp⟩
    exact ⟨e, he, hp⟩
  · rintro ⟨e, he, hp⟩
    exact ⟨(List.getElem?_eq_some_iff.mp he).1, e, he, hp⟩

theorem mem_currentEntries :
    i ∈ currentEntries entries ↔ ∃ e, entries[i]? = some e ∧ isLegacyEntry e = false := by
  unfold currentEntries
  rw [List.mem_insertionSort, mem_positions]
  simp only [Bool.not_eq_true']

theorem decode_of_mapM (h : entries.mapM (decode fromJSON) = .ok claims) {i : ℕ}
    {e : ManagedFieldsEntry J} (he : entries[i]? = some e) :
    decode fromJSON e = .ok (claimsAt claims i) := by
  induction entries generalizing claims i with
  | nil => cases he
  | cons a entries ih =>
    rw [List.mapM_cons] at h
    obtain ⟨set, hset, h⟩ := Checks.bind_eq_ok.mp h
    obtain ⟨sets, hsets, h⟩ := Checks.bind_eq_ok.mp h
    obtain rfl := Except.ok.inj h
    cases i with
    | zero =>
      obtain rfl := Option.some.inj he
      exact hset
    | succ i => exact ih hsets he

theorem coverer_eq_some {j : ℕ} (h : coverer claims (currentEntries entries) p = some j) :
    (∃ e, entries[j]? = some e ∧ isLegacyEntry e = false) ∧ (claimsAt claims j).covers p = true :=
  ⟨mem_currentEntries.mp (List.mem_of_find?_eq_some h),
    List.find?_some (p := fun j => (claimsAt claims j).covers p) h⟩

theorem mem_fields :
    p ∈ (claimsAt claims i).iterate.filter (fun p => !isStatusRoot p) ↔
      p ∈ (claimsAt claims i).iterate ∧ isStatusRoot p = false := by
  rw [List.mem_filter, Bool.not_eq_true']

/-- **The patch removes what is to be removed.** -/
theorem mem_removals (h : entries.mapM (decode fromJSON) = .ok claims) :
    i ∈ removals claims entries ↔ Intended fromJSON entries i := by
  unfold removals
  rw [List.mem_filter, mem_positions]
  constructor
  · rintro ⟨⟨e, he, hlegacy⟩, hcoverage⟩
    refine ⟨e, he, hlegacy, ?_⟩
    rintro p ⟨set, hset, hp⟩ hroot
    obtain rfl := Except.ok.inj (hset.symm.trans (decode_of_mapM h he))
    unfold coverage at hcoverage
    dsimp only at hcoverage
    split at hcoverage
    · next hall =>
      obtain ⟨j, hj⟩ := Option.isSome_iff_exists.mp
        (List.all_eq_true.mp hall p (mem_fields.mpr ⟨hp, hroot⟩))
      obtain ⟨⟨e', he', hcurrent⟩, hcovers⟩ := coverer_eq_some hj
      exact ⟨e', List.mem_of_getElem? he', hcurrent, _, decode_of_mapM h he', hcovers⟩
    · cases hcoverage
  · rintro ⟨e, he, hlegacy, hcovered⟩
    refine ⟨⟨e, he, hlegacy⟩, ?_⟩
    unfold coverage
    dsimp only
    rw [if_pos]
    · rfl
    · refine List.all_eq_true.mpr fun p hp => ?_
      obtain ⟨hp, hroot⟩ := mem_fields.mp hp
      obtain ⟨e', he', hcurrent, set, hset, hcovers⟩ :=
        hcovered p ⟨_, decode_of_mapM h he, hp⟩ hroot
      obtain ⟨j, hj⟩ := List.mem_iff_getElem?.mp he'
      obtain rfl := Except.ok.inj (hset.symm.trans (decode_of_mapM h hj))
      exact List.find?_isSome.mpr ⟨j, mem_currentEntries.mpr ⟨e', hj, hcurrent⟩, hcovers⟩

theorem exists_guard (h : entries.mapM (decode fromJSON) = .ok claims) {e : ManagedFieldsEntry J}
    (hi : i ∈ removals claims entries) (he : entries[i]? = some e) (hp : Claims fromJSON e p)
    (hroot : isStatusRoot p = false) :
    ∃ j ∈ guards claims entries, ∃ e', entries[j]? = some e' ∧ isLegacyEntry e' = false ∧
      ∃ set, decode fromJSON e' = .ok set ∧ set.covers p = true := by
  obtain ⟨hlegacy, hcoverage⟩ := List.mem_filter.mp hi
  obtain ⟨used, hused⟩ := Option.isSome_iff_exists.mp hcoverage
  have hcoverage' := hused
  unfold coverage at hcoverage'
  dsimp only at hcoverage'
  split at hcoverage'
  · next hall =>
    obtain ⟨set, hset, hmem⟩ := hp
    obtain rfl := Except.ok.inj (hset.symm.trans (decode_of_mapM h he))
    have hfield := mem_fields.mpr ⟨hmem, hroot⟩
    obtain ⟨j, hj⟩ := Option.isSome_iff_exists.mp (List.all_eq_true.mp hall p hfield)
    obtain ⟨⟨e', he', hcurrent⟩, hcovers⟩ := coverer_eq_some hj
    refine ⟨j, ?_, e', he', hcurrent, _, decode_of_mapM h he', hcovers⟩
    refine List.mem_flatMap.mpr ⟨i, hlegacy, ?_⟩
    rw [hused, ← Option.some.inj hcoverage']
    exact List.mem_filterMap.mpr ⟨p, hfield, hj⟩
  · cases hcoverage'

/-! ### What a patch leaves -/

theorem decode_of_fieldsV1 {e e' : ManagedFieldsEntry J} {set : FieldSet}
    (h : e.fieldsV1 = e'.fieldsV1) (hset : decode fromJSON e' = .ok set) :
    decode fromJSON e = .ok set := by
  unfold decode at hset ⊢
  rw [h]
  cases hraw : e'.fieldsV1 with
  | none =>
    rw [hraw] at hset
    exact hset
  | some raw =>
    rw [hraw] at hset
    exact Checks.mapError_eq_ok.mpr (Checks.mapError_eq_ok.mp hset)

theorem dropLegacy_eq_some {ops : List (PatchOp J)} (h : dropLegacy fromJSON entries = .ok (some ops)) :
    ∃ claims, entries.mapM (decode fromJSON) = .ok claims ∧
      ops = ArrayPatch.script
        (patchStep entries (removals claims entries) (guards claims entries)) entries.length := by
  unfold dropLegacy at h
  obtain ⟨claims, hclaims, h⟩ := Checks.bind_eq_ok.mp h
  refine ⟨claims, hclaims, ?_⟩
  split at h
  · cases h
  · split at h
    · cases h
    · exact (Option.some.inj (Except.ok.inj h)).symm

/-- **Dropping legacy entries orphans no field.** The list that the operator read and the stored one
are arbitrary. If a patch is sent and applies, then the entries that it removes are those to be
removed, each one as it was read; and each path that one of them claims, the bare status field aside,
is claimed by an entry that remains, itself or with a path below it. -/
theorem dropLegacy_keeps_claims [DecidableEq J] {read stored result : List (ManagedFieldsEntry J)}
    {ops : List (PatchOp J)} (hsent : dropLegacy fromJSON read = .ok (some ops))
    (happlied : applyPatch ops stored = some result) :
    ∃ removed : ℕ → Bool,
      (∀ i, removed i = true ↔ Intended fromJSON read i) ∧
      (∀ i, removed i = true → ∃ e, read[i]? = some e ∧ stored[i]? = some e) ∧
      result = ArrayPatch.keep removed stored ∧
      ∀ i e p, removed i = true → stored[i]? = some e → Claims fromJSON e p →
        isStatusRoot p = false → ∃ e' ∈ result, ∃ q, Claims fromJSON e' q ∧ p <+: q := by
  obtain ⟨claims, hclaims, rfl⟩ := dropLegacy_eq_some hsent
  obtain ⟨rfl, hpass⟩ := ArrayPatch.run_script happlied
  have hlength {i : ℕ} {e : ManagedFieldsEntry J} (he : read[i]? = some e) : i < read.length :=
    (List.getElem?_eq_some_iff.mp he).1
  have hstep {i : ℕ} {e : ManagedFieldsEntry J} (he : read[i]? = some e) :
      patchStep read (removals claims read) (guards claims read) i =
        if i ∈ removals claims read then { tests := [.entry e], drops := true }
        else if i ∈ guards claims read then { tests := guardTests e }
        else {} := by
    unfold patchStep
    rw [he]
  -- the positions that the patch drops are those of the entries to be removed
  have hdrops (i : ℕ) : (decide (i < read.length) &&
      (patchStep read (removals claims read) (guards claims read) i).drops) = true ↔
        i ∈ removals claims read := by
    constructor
    · intro h
      obtain ⟨hlt, hdrops⟩ := Bool.and_eq_true_iff.mp h
      have he := List.getElem?_eq_getElem (of_decide_eq_true hlt)
      rw [hstep he] at hdrops
      by_contra hnot
      rw [if_neg hnot] at hdrops
      split at hdrops
      · cases hdrops
      · cases hdrops
    · intro hi
      obtain ⟨e, he, -⟩ := (mem_removals hclaims).mp hi
      rw [hstep he, if_pos hi, decide_eq_true (hlength he)]
      rfl
  have hsame (i : ℕ) (hi : i ∈ removals claims read) :
      ∃ e, read[i]? = some e ∧ stored[i]? = some e := by
    obtain ⟨e, he, -⟩ := (mem_removals hclaims).mp hi
    have htest := hpass i (hlength he) (.entry e)
    rw [hstep he, if_pos hi] at htest
    obtain ⟨a, ha, hholds⟩ := htest List.mem_cons_self
    obtain rfl : a = e := of_decide_eq_true hholds
    exact ⟨a, he, ha⟩
  refine ⟨_, fun i => (hdrops i).trans (mem_removals hclaims),
    fun i hi => hsame i ((hdrops i).mp hi), rfl, ?_⟩
  intro i e p hi hstored hp hroot
  have hi := (hdrops i).mp hi
  obtain ⟨e₀, hread, hstored'⟩ := hsame i hi
  obtain rfl := Option.some.inj (hstored.symm.trans hstored')
  obtain ⟨j, hj, e', he', hcurrent, set, hset, hcovers⟩ := exists_guard hclaims hi hread hp hroot
  -- the entry relied on is current, so the patch leaves it, and its fields were tested
  have hkept : j ∉ removals claims read := by
    intro hremoved
    obtain ⟨e'', he'', hlegacy, -⟩ := (mem_removals hclaims).mp hremoved
    obtain rfl := Option.some.inj (he'.symm.trans he'')
    exact Bool.false_ne_true (hcurrent.symm.trans hlegacy)
  have htest := hpass j (hlength he') (.fieldsV1 e'.fieldsV1)
  rw [hstep he', if_neg hkept, if_pos hj] at htest
  obtain ⟨a, ha, hholds⟩ := htest (List.mem_append_left _ (by simp))
  have hfields : a.fieldsV1 = e'.fieldsV1 := (of_decide_eq_true hholds).2
  obtain ⟨q, hq, hpq⟩ := Trie.exists_of_covers hcovers
  refine ⟨a, ArrayPatch.mem_keep ha ?_, q, ⟨set, decode_of_fieldsV1 hfields hset, hq⟩, hpq⟩
  exact Bool.eq_false_iff.mpr fun h => hkept ((hdrops j).mp h)

namespace Sample

def statusField (name : String) : Path := [.fieldName "status", .fieldName name]

/-- The claims on fields below `.status.podRoles`, and on the map itself. -/
def podRoles (container : Bool) : FieldSet :=
  .node [] (.cons (.fieldName "status")
    (.node (if container then [.fieldName "podRoles"] else [])
      (.cons (.fieldName "podRoles") (.node [.fieldName "pod-0"] .nil) .nil)) .nil)

/-- The raw fields stand for these sets. -/
def fields : Bool → Except String FieldSet := fun container => .ok (podRoles container)

def shardEntry : ManagedFieldsEntry Bool where
  manager := "multigres-shard"
  operation := .apply
  apiVersion := "multigres.com/v1alpha1"
  fieldsV1 := some false
  subresource := "status"

/-- An entry of a retired manager, which claims the map itself as well. -/
def legacyEntry : ManagedFieldsEntry Bool where
  manager := legacyResourceHandler
  operation := .update
  apiVersion := "multigres.com/v1alpha1"
  fieldsV1 := some true
  subresource := "status"

/-- An entry of another writer, added after the list was read. -/
def kubeletEntry : ManagedFieldsEntry Bool where
  manager := "kubelet"
  operation := .update
  apiVersion := "v1"
  fieldsV1 := some false

end Sample

section

open Ownership.Sample

/-- The patch for a legacy entry applies to a list with one more entry, and the field that the legacy
entry claims remains claimed. -/
theorem dropLegacy_keeps_podRole :
    ∃ ops, dropLegacy fields [shardEntry, legacyEntry] = .ok (some ops) ∧
      applyPatch ops [shardEntry, legacyEntry, kubeletEntry] = some [shardEntry, kubeletEntry] ∧
      ∃ e' ∈ [shardEntry, kubeletEntry], ∃ q, Claims fields e' q ∧ statusField "podRoles" <+: q := by
  have hsent : dropLegacy fields [shardEntry, legacyEntry] = .ok (some
      (ArrayPatch.script (patchStep [shardEntry, legacyEntry] [1] [0, 0]) 2)) := by rfl
  have happlied : applyPatch (ArrayPatch.script (patchStep [shardEntry, legacyEntry] [1] [0, 0]) 2)
      [shardEntry, legacyEntry, kubeletEntry] = some [shardEntry, kubeletEntry] := by decide +kernel
  refine ⟨_, hsent, happlied, ?_⟩
  obtain ⟨removed, hintended, -, hresult, hclaimed⟩ := dropLegacy_keeps_claims hsent happlied
  refine hclaimed 1 legacyEntry _ ?_ rfl ⟨podRoles true, rfl, by decide +kernel⟩ (by decide)
  have hclaims : [shardEntry, legacyEntry].mapM (decode fields) =
      .ok [podRoles false, podRoles true] := by rfl
  exact (hintended 1).mpr ((mem_removals hclaims).mp (by decide +kernel))

/-- **The path of a container is dropped**: the current entry claims what is below it, and no entry
that remains claims the container itself. -/
theorem dropLegacy_drops_container :
    ∃ (read result : List (ManagedFieldsEntry Bool)) (ops : List (PatchOp Bool)),
      dropLegacy fields read = .ok (some ops) ∧ applyPatch ops read = some result ∧
      ∃ e ∈ read, e ∉ result ∧ Claims fields e (statusField "podRoles") ∧
        isStatusRoot (statusField "podRoles") = false ∧
        ∀ e' ∈ result, ¬ Claims fields e' (statusField "podRoles") := by
  refine ⟨[shardEntry, legacyEntry], [shardEntry], _, rfl, by decide +kernel, legacyEntry,
    by decide, by decide, ⟨podRoles true, rfl, by decide +kernel⟩, by decide, ?_⟩
  intro e' he' hclaims
  obtain rfl := List.mem_singleton.mp he'
  obtain ⟨set, hset, hmem⟩ := hclaims
  obtain rfl : podRoles false = set := Except.ok.inj hset
  exact absurd hmem (by decide +kernel)

end

end MultigresOperator.Ownership

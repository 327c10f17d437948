import Mathlib.Data.List.Nodup

/-!
# Keyed collections

A list of items no two of which share a key: a collection of named objects, with the operations a
server performs on it. The uniqueness of keys is part of the type, so an item is determined by its
key in every collection that can be built.

## Main results

* `Keyed.find_eq_some`: the item found under a key is the member with that key
* `Keyed.mem_insert`, `Keyed.mem_modify`, `Keyed.mem_erase`: the members after an operation
* `Keyed.length_hits_add_misses`: counting items against a list of keys
-/

variable {α κ : Type}

/-- A list of items with distinct keys. -/
@[ext] structure Keyed (key : α → κ) where
  items : List α
  nodup : (items.map key).Nodup

namespace Keyed

variable {key : α → κ}

instance : Membership α (Keyed key) := ⟨fun t a => a ∈ t.items⟩

variable {t : Keyed key} {a b : α} {k : κ}

@[simp] theorem mem_items : a ∈ t.items ↔ a ∈ t := Iff.rfl

instance [DecidableEq α] : DecidableEq (Keyed key) := fun s t =>
  decidable_of_iff (s.items = t.items) ⟨Keyed.ext, congrArg items⟩

theorem eq_of_key_eq (t : Keyed key) (ha : a ∈ t) (hb : b ∈ t) (h : key a = key b) : a = b :=
  List.inj_on_of_nodup_map t.nodup ha hb h

variable [DecidableEq κ]

def find (t : Keyed key) (k : κ) : Option α := t.items.find? fun a => key a = k

theorem find_eq_some : t.find k = some a ↔ a ∈ t ∧ key a = k := by
  have sound {b : α} (h : t.find k = some b) : b ∈ t ∧ key b = k :=
    ⟨List.mem_of_find?_eq_some h, by simpa using List.find?_some h⟩
  refine ⟨sound, fun ⟨ha, hkey⟩ => ?_⟩
  have hsome : (t.find k).isSome := List.find?_isSome.mpr ⟨a, ha, decide_eq_true hkey⟩
  obtain ⟨b, hb⟩ := Option.isSome_iff_exists.mp hsome
  rw [hb, t.eq_of_key_eq (sound hb).1 ha ((sound hb).2.trans hkey.symm)]

theorem find_eq_none : t.find k = none ↔ ∀ a ∈ t, key a ≠ k := by
  simp [find]

/-- The collection with one more item, under a key no member has. -/
def insert (t : Keyed key) (a : α) (h : t.find (key a) = none) : Keyed key where
  items := a :: t.items
  nodup := by
    rw [List.map_cons, List.nodup_cons]
    refine ⟨fun hmem => ?_, t.nodup⟩
    obtain ⟨b, hb, hkey⟩ := List.mem_map.mp hmem
    exact find_eq_none.mp h b hb hkey

@[simp] theorem mem_insert {h : t.find (key a) = none} :
    b ∈ t.insert a h ↔ b = a ∨ b ∈ t := List.mem_cons

/-- The collection with the item of a key updated; an update keeps the key. -/
def modify (t : Keyed key) (k : κ) (f : α → α) (h : ∀ a, key (f a) = key a) : Keyed key where
  items := t.items.map fun a => if key a = k then f a else a
  nodup := by
    have hkey : key ∘ (fun a => if key a = k then f a else a) = key := by
      funext a
      by_cases hk : key a = k <;> simp [hk, h]
    rw [List.map_map, hkey]
    exact t.nodup

theorem mem_modify {f : α → α} {h : ∀ a, key (f a) = key a} :
    b ∈ t.modify k f h ↔ ∃ a ∈ t, b = if key a = k then f a else a := by
  constructor
  · intro hmem
    obtain ⟨a, ha, hb⟩ := List.mem_map.mp hmem
    exact ⟨a, ha, hb.symm⟩
  · rintro ⟨a, ha, rfl⟩
    exact List.mem_map.mpr ⟨a, ha, rfl⟩

def erase (t : Keyed key) (k : κ) : Keyed key where
  items := t.items.filter fun a => key a ≠ k
  nodup := t.nodup.sublist (List.filter_sublist.map key)

@[simp] theorem mem_erase : b ∈ t.erase k ↔ b ∈ t ∧ key b ≠ k := by
  rw [← mem_items, erase, List.mem_filter]
  simp

/-- Items with distinct keys against a list of keys: the keys that some item has, and the items whose
key is not in the list, are together as many as the items. -/
theorem length_hits_add_misses {xs : List α} (hxs : (xs.map key).Nodup) {keys : List κ}
    (hkeys : keys.Nodup) :
    (keys.filter fun k => xs.any (key · = k)).length +
      (xs.filter fun a => key a ∉ keys).length = xs.length := by
  have hperm : (keys.filter fun k => xs.any (key · = k)).Perm
      ((xs.filter fun a => key a ∈ keys).map key) := by
    refine (List.perm_ext_iff_of_nodup (hkeys.filter _)
      (hxs.sublist (List.filter_sublist.map key))).mpr fun k => ?_
    simp only [List.mem_filter, List.any_eq_true, List.mem_map, decide_eq_true_eq]
    constructor
    · rintro ⟨hk, a, ha, rfl⟩
      exact ⟨a, ⟨ha, hk⟩, rfl⟩
    · rintro ⟨a, ⟨ha, hk⟩, rfl⟩
      exact ⟨hk, a, ha, rfl⟩
  rw [hperm.length_eq, List.length_map]
  simpa using (List.length_eq_length_filter_add fun a => decide (key a ∈ keys)).symm

end Keyed

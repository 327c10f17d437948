import Mathlib.Data.List.Nodup

/-!
# Association lists

Lookups in association lists, where the first entry of a key counts.

## Main results

* `Assoc.mem_of_lookup`: a value found is an entry
* `Assoc.lookup_of_mem`: with distinct keys, every entry is found
* `Assoc.lookup_isSome_of_mem`: a key with an entry is found
* `Assoc.lookup_reverse`: in a reversed list the last entry of a key is found
-/

namespace Assoc

variable {α β : Type} [BEq α] [LawfulBEq α] {l : List (α × β)} {k : α} {b : β}

theorem mem_of_lookup (h : l.lookup k = some b) : (k, b) ∈ l := by
  obtain ⟨l₁, l₂, rfl, -⟩ := List.lookup_eq_some_iff.mp h
  simp

theorem lookup_isSome_of_mem (h : (k, b) ∈ l) : ∃ b', l.lookup k = some b' :=
  Option.isSome_iff_exists.mp (List.lookup_isSome_iff.mpr ⟨(k, b), h, by simp⟩)

theorem lookup_of_mem (hnodup : (l.map Prod.fst).Nodup) (h : (k, b) ∈ l) : l.lookup k = some b := by
  obtain ⟨b', hb'⟩ := lookup_isSome_of_mem h
  have heq := List.inj_on_of_nodup_map hnodup (mem_of_lookup hb') h rfl
  rw [hb', (Prod.mk.inj heq).2]

theorem lookup_eq_head? :
    l.lookup k = (l.filterMap fun e => if e.1 == k then some e.2 else none).head? := by
  induction l with
  | nil => rfl
  | cons e l ih =>
    obtain ⟨k', b⟩ := e
    by_cases h : k' = k
    · simp [h]
    · rw [List.lookup_cons, beq_false_of_ne (Ne.symm h), List.filterMap_cons_none (by simp [h])]
      exact ih

theorem lookup_filter {f : α → Bool} (hk : f k = true) :
    (l.filter fun e => f e.1).lookup k = l.lookup k := by
  induction l with
  | nil => rfl
  | cons e l ih =>
    obtain ⟨k', b⟩ := e
    by_cases h : k = k'
    · simp [List.filter, ← h, hk]
    · cases hf : f k' <;> simp [List.lookup_cons, List.filter, hf, beq_false_of_ne h, ih]

theorem lookup_reverse :
    l.reverse.lookup k = (l.filterMap fun e => if e.1 == k then some e.2 else none).getLast? := by
  rw [lookup_eq_head?, List.filterMap_reverse, List.head?_reverse]

end Assoc

import Mathlib.Data.Int.Notation
import Mathlib.Data.List.Induction

/-!
# The first of the best

A selection by score: the elements of a list are visited in order, and one replaces the best so far
if its score is higher. On a list in order of some relation the selection is the least, by that
relation, among the elements of the highest score.

## Main results

* `firstBest_eq_none`: nothing is selected from an empty list only
* `beats_firstBest`: the element selected is preferred to every other
-/

namespace Select

variable {α : Type} {score : α → ℤ} {r : α → α → Prop} {l : List α} {a b : α}

def firstBest (score : α → ℤ) (l : List α) : Option α :=
  l.foldl (fun best a =>
    match best with
    | none => some a
    | some b => if score b < score a then some a else some b) none

/-- `a` is preferred to `b`: it has a higher score, or the same and comes first. -/
def Beats (score : α → ℤ) (r : α → α → Prop) (a b : α) : Prop :=
  score b < score a ∨ score b = score a ∧ r a b

theorem firstBest_concat (score : α → ℤ) (l : List α) (a : α) :
    firstBest score (l ++ [a]) =
      match firstBest score l with
      | none => some a
      | some b => if score b < score a then some a else some b := by
  simp [firstBest]

theorem firstBest_eq_none : firstBest score l = none ↔ l = [] := by
  induction l using List.reverseRecOn with
  | nil => simp [firstBest]
  | append_singleton l a _ =>
    rw [firstBest_concat]
    simp only [List.append_eq_nil_iff, List.cons_ne_nil, and_false, iff_false]
    split
    · exact Option.some_ne_none a
    · split <;> exact Option.some_ne_none _

theorem mem_of_firstBest (h : firstBest score l = some a) : a ∈ l := by
  induction l using List.reverseRecOn generalizing a with
  | nil => simp [firstBest] at h
  | append_singleton l b ih =>
    rw [firstBest_concat] at h
    split at h
    · simp [Option.some.inj h]
    · next best hbest =>
      split at h
      · simp [Option.some.inj h]
      · obtain rfl := Option.some.inj h
        exact List.mem_append_left _ (ih hbest)

/-- **The element selected** is preferred to every element, in a list in order. -/
theorem beats_firstBest (hrefl : ∀ a, r a a) (hsorted : l.Pairwise r)
    (h : firstBest score l = some a) (hb : b ∈ l) : Beats score r a b := by
  induction l using List.reverseRecOn generalizing a b with
  | nil => simp at hb
  | append_singleton l c ih =>
    rw [List.pairwise_append] at hsorted
    obtain ⟨hsorted, -, hlast⟩ := hsorted
    rw [firstBest_concat] at h
    rw [List.mem_append, List.mem_singleton] at hb
    split at h
    · next hnone =>
      -- the list so far is empty
      obtain rfl := Option.some.inj h
      obtain rfl := firstBest_eq_none.mp hnone
      obtain rfl : b = c := by simpa using hb
      exact .inr ⟨rfl, hrefl b⟩
    next best hbest =>
    split at h
    · next hlt =>
      obtain rfl := Option.some.inj h
      rcases hb with hb | rfl
      · refine .inl ?_
        rcases ih hsorted hbest hb with hless | ⟨heq, -⟩
        · exact Int.lt_trans hless hlt
        · rwa [heq]
      · exact .inr ⟨rfl, hrefl b⟩
    · next hle =>
      obtain rfl := Option.some.inj h
      rcases hb with hb | rfl
      · exact ih hsorted hbest hb
      · rcases Int.lt_or_eq_of_le (Int.not_lt.mp hle) with hless | heq
        · exact .inl hless
        · exact .inr ⟨heq, hlast best (mem_of_firstBest hbest) b (List.mem_singleton_self b)⟩

end Select

import Mathlib.Data.List.Perm.Basic

/-!
# The latest of a list of entries

A loop that assigns to a cell of its state keeps the value of the last element that assigned one.
`latest` is that value, for elements that may or may not assign; a state is read through it by
`foldl_latest`.

## Main results

* `foldl_latest`: what a loop leaves in a cell
* `exists_of_latest_range`: the latest value of a sequence, and nothing since
* `latest_eq_of_perm`: the latest value does not depend on the order if all values agree
* `exists_perm_concat`, `latest_concat`: any value is the latest in some order
-/

namespace Loop

variable {α β γ σ : Type}

/-- The value of the last element that has one. -/
def latest (f : α → Option β) (l : List α) : Option β := (l.filterMap f).getLast?

theorem latest_append (f : α → Option β) (l l' : List α) :
    latest f (l ++ l') = (latest f l').or (latest f l) := by
  rw [latest, List.filterMap_append, List.getLast?_append]
  rfl

theorem latest_cons (f : α → Option β) (a : α) (l : List α) :
    latest f (a :: l) = (latest f l).or (f a) := by
  have hone : latest f [a] = f a := by
    cases h : f a with
    | none => simp [latest, h]
    | some b => simp [latest, h]
  rw [← List.singleton_append, latest_append, hone]

theorem latest_map (f : α → Option β) (g : β → γ) (l : List α) :
    latest (fun a => (f a).map g) l = (latest f l).map g := by
  induction l with
  | nil => rfl
  | cons a l ih =>
    rw [latest_cons, latest_cons, ih, Option.map_or]

variable {f : α → Option β} {l : List α}

theorem exists_of_latest {b : β} (h : latest f l = some b) :
    ∃ a ∈ l, f a = some b := List.mem_filterMap.mp (List.mem_of_getLast? h)

theorem latest_eq_none : latest f l = none ↔ ∀ a ∈ l, f a = none := by
  rw [latest, List.getLast?_eq_none_iff, List.filterMap_eq_nil_iff]

/-- **What a loop leaves in a cell**: the latest value assigned to it, or what was there. -/
theorem foldl_latest (read : σ → Option β) {step : σ → α → σ}
    (h : ∀ s a, read (step s a) = (f a).or (read s)) (l : List α) (s : σ) :
    read (l.foldl step s) = (latest f l).or (read s) := by
  induction l generalizing s with
  | nil => rfl
  | cons a l ih => rw [List.foldl_cons, ih, h, latest_cons, Option.or_assoc]

/-- The same for a cell that always has a value. -/
theorem foldl_latest_getD (read : σ → β) {step : σ → α → σ}
    (h : ∀ s a, read (step s a) = (f a).getD (read s)) (l : List α) (s : σ) :
    read (l.foldl step s) = (latest f l).getD (read s) := by
  have hsome := foldl_latest (fun s => some (read s)) (f := f) (fun s a => by rw [h, Option.or_some]) l s
  rwa [Option.or_some, Option.some.injEq] at hsome

theorem foldl_latest_flatMap (read : σ → Option β) {step : σ → γ → σ} {entries : γ → List α}
    (h : ∀ s c, read (step s c) = (latest f (entries c)).or (read s)) (l : List γ) (s : σ) :
    read (l.foldl step s) = (latest f (l.flatMap entries)).or (read s) := by
  induction l generalizing s with
  | nil => rfl
  | cons c l ih =>
    rw [List.foldl_cons, ih, h, List.flatMap_cons, latest_append, Option.or_assoc]

theorem latest_eq_of_perm {l' : List α} (hagree : ∀ a ∈ l, ∀ b ∈ l, ∀ x ∈ f a, ∀ y ∈ f b, x = y)
    (h : l.Perm l') : latest f l' = latest f l := by
  cases hl : latest f l with
  | none =>
    rw [latest_eq_none] at hl ⊢
    exact fun a ha => hl a (h.mem_iff.mpr ha)
  | some x =>
    obtain ⟨a, ha, hx⟩ := exists_of_latest hl
    cases hl' : latest f l' with
    | none => rw [latest_eq_none.mp hl' a (h.mem_iff.mp ha)] at hx; cases hx
    | some y =>
      obtain ⟨b, hb, hy⟩ := exists_of_latest hl'
      rw [hagree a ha b (h.mem_iff.mpr hb) x hx y hy]

theorem exists_perm_concat {a : α} (ha : a ∈ l) : ∃ front, l.Perm (front ++ [a]) := by
  obtain ⟨front, back, rfl⟩ := List.append_of_mem ha
  exact ⟨front ++ back, List.perm_middle.trans (List.perm_append_singleton a _).symm⟩

theorem latest_concat {a : α} {x : β} (h : f a = some x) (l : List α) :
    latest f (l ++ [a]) = some x := by
  rw [latest_append, latest_cons, h]
  rfl

theorem exists_of_latest_range {g : ℕ → α} {n : ℕ} {b : β}
    (h : latest f ((List.range n).map g) = some b) :
    ∃ k < n, f (g k) = some b ∧ ∀ j, k < j → j < n → f (g j) = none := by
  induction n with
  | zero => cases h
  | succ n ih =>
    rw [List.range_succ, List.map_append, latest_append] at h
    cases hn : f (g n) with
    | none =>
      obtain ⟨k, hk, hb, hlater⟩ := ih (by simpa [latest, hn] using h)
      refine ⟨k, Nat.lt_succ_of_lt hk, hb, fun j hkj hj => ?_⟩
      rcases Nat.lt_succ_iff_lt_or_eq.mp hj with hj | rfl
      · exact hlater j hkj hj
      · exact hn
    | some c =>
      exact ⟨n, Nat.lt_succ_self n, by simpa [latest, hn] using h, fun j hnj hj => by omega⟩

end Loop

import Mathlib.Tactic.Common

/-!
# Computations that may fail

When a computation built from others succeeds: each part does. A check is a computation without a
result; a list of checks passes if every one does.

## Main results

* `Checks.bind_eq_ok`, `Checks.mapError_eq_ok`: when a sequence and an annotated computation succeed
* `Checks.forM_eq_ok`: a list of checks passes if every one does
* `Checks.exists_of_mapM`, `Checks.exists_of_mem_mapM`: a list of computations that succeeds, by its
  items and by its results
* `Checks.mapM_eq_self`: a rewriting that succeeds without changing anything
-/

namespace Checks

variable {ε ε' α β : Type} {f : α → Except ε β} {l : List α} {x : Except ε α} {b : β} {bs : List β}

theorem bind_eq_ok : (x >>= f) = .ok b ↔ ∃ a, x = .ok a ∧ f a = .ok b := by
  constructor
  · intro h
    cases x with
    | error e => cases h
    | ok a => exact ⟨a, rfl, h⟩
  · rintro ⟨a, rfl, h⟩
    exact h

theorem exists_of_toBool (h : x.toBool = true) : ∃ a, x = .ok a := by
  cases x with
  | ok a => exact ⟨a, rfl⟩
  | error err => cases h

theorem andThen_eq_ok {x : Except ε Unit} {f : Unit → Except ε β} :
    (x >>= f) = .ok b ↔ x = .ok () ∧ f () = .ok b := by
  rw [bind_eq_ok]
  exact ⟨fun ⟨_, hx, hf⟩ => ⟨hx, hf⟩, fun ⟨hx, hf⟩ => ⟨(), hx, hf⟩⟩

theorem when_eq_ok {c : Prop} [Decidable c] {x : Except ε Unit} {f : Unit → Except ε β} :
    (if c then x >>= f else f ()) = .ok b ↔ (c → x = .ok ()) ∧ f () = .ok b := by
  by_cases hc : c <;> simp [hc, andThen_eq_ok]

@[simp] theorem mapError_eq_ok {g : ε → ε'} {a : α} : x.mapError g = .ok a ↔ x = .ok a := by
  cases x <;> simp [Except.mapError]

/-- **A list of checks** passes if every one does. -/
theorem forM_eq_ok {f : α → Except ε Unit} : l.forM f = .ok () ↔ ∀ a ∈ l, f a = .ok () := by
  induction l with
  | nil => exact ⟨fun _ _ ha => absurd ha List.not_mem_nil, fun _ => rfl⟩
  | cons a l ih =>
    rw [List.forall_mem_cons, ← ih]
    exact andThen_eq_ok

theorem exists_of_mapM (h : l.mapM f = .ok bs) : ∀ a ∈ l, ∃ b, f a = .ok b := by
  induction l generalizing bs with
  | nil => exact fun _ ha => absurd ha List.not_mem_nil
  | cons a l ih =>
    rw [List.mapM_cons] at h
    obtain ⟨b, hb, h⟩ := bind_eq_ok.mp h
    obtain ⟨bs', hbs, -⟩ := bind_eq_ok.mp h
    exact List.forall_mem_cons.mpr ⟨⟨b, hb⟩, ih hbs⟩

theorem exists_of_mem_mapM (h : l.mapM f = .ok bs) : ∀ b ∈ bs, ∃ a ∈ l, f a = .ok b := by
  induction l generalizing bs with
  | nil =>
    obtain rfl : bs = [] := (Except.ok.inj h).symm
    exact fun _ hb => absurd hb List.not_mem_nil
  | cons a l ih =>
    rw [List.mapM_cons] at h
    obtain ⟨b, hb, h⟩ := bind_eq_ok.mp h
    obtain ⟨bs', hbs, h⟩ := bind_eq_ok.mp h
    obtain rfl : bs = b :: bs' := (Except.ok.inj h).symm
    refine List.forall_mem_cons.mpr ⟨⟨a, List.mem_cons_self, hb⟩, fun b' hb' => ?_⟩
    obtain ⟨a', ha', hf⟩ := ih hbs b' hb'
    exact ⟨a', List.mem_cons_of_mem a ha', hf⟩

theorem mapM_eq_self {f : α → Except ε α} (h : ∀ a ∈ l, f a = .ok a) : l.mapM f = .ok l := by
  induction l with
  | nil => rfl
  | cons a l ih =>
    rw [List.forall_mem_cons] at h
    rw [List.mapM_cons, h.1, ih h.2]
    rfl

end Checks

import Mathlib.Data.List.Induction

/-!
# Consecutive counts

A counter over a history: a strike adds one, a reset clears it, and anything else passes it by. A
debounce acts on such a counter, so what it may act on is what the counter says about the history.

## Main results

* `Mark.tally_pos_iff`: the counter is positive exactly after a strike that no reset followed
* `Mark.tally_eq_zero_of_reset`: it is zero after a reset that no strike followed
-/

/-- What an event does to the counter. -/
inductive Mark
  | strike
  | reset
  | skip
  deriving DecidableEq, Repr

namespace Mark

/-- The counter after one more event. -/
def count : Mark → Nat → Nat
  | strike, n => n + 1
  | reset, _ => 0
  | skip, n => n

/-- The counter after a history, from zero. -/
def tally (marks : List Mark) : Nat := marks.foldl (fun n m => m.count n) 0

@[simp] theorem tally_nil : tally [] = 0 := rfl

theorem tally_concat (marks : List Mark) (m : Mark) : tally (marks ++ [m]) = m.count (tally marks) := by
  simp [tally]

/-- **The counter is positive** exactly after a strike that no reset followed. -/
theorem tally_pos_iff {marks : List Mark} :
    0 < tally marks ↔ ∃ before after, marks = before ++ strike :: after ∧ reset ∉ after := by
  induction marks using List.reverseRecOn with
  | nil => simp
  | append_singleton marks m ih =>
    rw [tally_concat]
    cases m with
    | strike => exact ⟨fun _ => ⟨marks, [], rfl, by simp⟩, fun _ => Nat.succ_pos _⟩
    | reset =>
      refine ⟨fun h => absurd h (Nat.lt_irrefl 0), ?_⟩
      -- a strike before the end would have this reset after it
      rintro ⟨before, after, heq, hafter⟩
      rcases List.eq_nil_or_concat after with rfl | ⟨after, m, rfl⟩
      · exact absurd (List.append_inj_right' heq rfl) (by simp)
      · rw [List.concat_eq_append] at heq hafter
        rw [← List.cons_append, ← List.append_assoc] at heq
        obtain rfl : reset = m := by simpa using List.append_inj_right' heq rfl
        exact absurd hafter (by simp)
    | skip =>
      rw [count, ih]
      constructor
      · rintro ⟨before, after, rfl, hafter⟩
        exact ⟨before, after ++ [skip], by simp, by simp [hafter]⟩
      · rintro ⟨before, after, heq, hafter⟩
        rcases List.eq_nil_or_concat after with rfl | ⟨after, m, rfl⟩
        · exact absurd (List.append_inj_right' heq rfl) (by simp)
        · rw [List.concat_eq_append] at heq hafter
          rw [← List.cons_append, ← List.append_assoc] at heq
          exact ⟨before, after, List.append_inj_left' heq rfl, fun h => hafter (by simp [h])⟩

/-- **The counter is zero** after a reset that no strike followed. -/
theorem tally_eq_zero_of_reset {before after : List Mark} (h : strike ∉ after) :
    tally (before ++ reset :: after) = 0 := by
  induction after using List.reverseRecOn with
  | nil => simp [tally_concat, count]
  | append_singleton after m ih =>
    rw [← List.cons_append, ← List.append_assoc, tally_concat, ih fun hm => h (by simp [hm])]
    cases m with
    | strike => simp at h
    | reset => rfl
    | skip => rfl

end Mark

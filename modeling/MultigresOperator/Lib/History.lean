import Mathlib.Data.List.Basic

/-!
# Histories that never return

A value that is edited over time, of which only some property is compared: `f a`. When the property
never returns to what it was before, two moments with the same property have it in between as well,
so that a copy taken somewhere in between has it too.
-/

variable {α β : Type} {f : α → β} {l : List α}

/-- Between two moments with one property every moment has it. -/
def NoReturn (f : α → β) (l : List α) : Prop :=
  ∀ (i j k : ℕ) (a b c : α), i ≤ j → j ≤ k → l[i]? = some a → l[j]? = some b → l[k]? = some c →
    f a = f c → f b = f c

theorem noReturn_singleton (a : α) : NoReturn f [a] := by
  intro i j k a b c _ _ _ hb hc _
  obtain ⟨-, rfl⟩ := List.getElem?_eq_some_iff.mp hb
  obtain ⟨-, rfl⟩ := List.getElem?_eq_some_iff.mp hc
  simp

/-- **One more moment**: its property is that of the last one, or one that was not there before. -/
theorem NoReturn.concat (h : NoReturn f l) {c : α}
    (hc : ∀ a ∈ l, f a = f c → ∀ b, l.getLast? = some b → f b = f c) : NoReturn f (l ++ [c]) := by
  -- moments of the longer history are those of `l` and the new one
  have split {i : ℕ} {a : α} (ha : (l ++ [c])[i]? = some a) :
      i < l.length ∧ l[i]? = some a ∨ i = l.length ∧ a = c := by
    rcases Nat.lt_trichotomy i l.length with hi | rfl | hi
    · rw [List.getElem?_append_left hi] at ha
      exact .inl ⟨hi, ha⟩
    · rw [List.getElem?_append_right (Nat.le_refl _), Nat.sub_self] at ha
      exact .inr ⟨rfl, (Option.some.inj ha).symm⟩
    · rw [List.getElem?_eq_none (by simp; omega)] at ha
      cases ha
  intro i j k a b c' hij hjk ha hb hc' heq
  rcases split hc' with ⟨hk, hc'⟩ | ⟨rfl, rfl⟩
  · rcases split hb with ⟨-, hb⟩ | ⟨rfl, -⟩
    · rcases split ha with ⟨-, ha⟩ | ⟨rfl, -⟩
      · exact h i j k a b c' hij hjk ha hb hc' heq
      · omega
    · omega
  · rcases split hb with ⟨hj, hb⟩ | ⟨rfl, rfl⟩
    · rcases split ha with ⟨hi, ha⟩ | ⟨rfl, -⟩
      · -- the last moment of `l` has the property too
        have hne : l ≠ [] := by rintro rfl; simp at hj
        have hlast := List.getLast?_eq_some_getLast hne
        have heq' := hc a (List.mem_of_getElem? ha) heq _ hlast
        rw [List.getLast?_eq_getElem?] at hlast
        rw [← heq']
        exact h i j _ a b _ hij (by omega) ha hb hlast (heq.trans heq'.symm)
      · omega
    · rfl

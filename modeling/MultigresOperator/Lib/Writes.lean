import Mathlib.Data.List.Basic

/-!
# Pieces written one after another

A list of pieces is written as one text, each piece as its own text and nothing in between. Two
lists are written alike although they differ exactly if one of them spills: at the first piece in
which they differ, the text of one goes on, after the text of the other, with what the other list
writes next.

## Main results

* `Writes.written_eq_iff`: when two lists are written alike
* `Writes.flatMap_append_inj`: groups that start with a head piece are read back
-/

namespace Writes

variable {α β : Type}

section

variable (text : α → List β)

def written (xs : List α) : List β := xs.flatMap text

@[simp] theorem written_nil : written text [] = [] := rfl

@[simp] theorem written_cons (x : α) (xs : List α) :
    written text (x :: xs) = text x ++ written text xs := rfl

@[simp] theorem written_append (xs ys : List α) :
    written text (xs ++ ys) = written text xs ++ written text ys := List.flatMap_append

/-- The lists agree up to a piece, there the text of the second goes on after the text of the first,
and what it goes on with is what the first list writes next. -/
def Spills (xs ys : List α) : Prop :=
  ∃ common x xs' y ys' spill, xs = common ++ x :: xs' ∧ ys = common ++ y :: ys' ∧ x ≠ y ∧
    text y = text x ++ spill ∧ written text xs' = spill ++ written text ys'

end

variable {text : α → List β} {xs ys : List α}

theorem Spills.cons (h : Spills text xs ys) (z : α) : Spills text (z :: xs) (z :: ys) := by
  obtain ⟨common, x, xs', y, ys', spill, rfl, rfl, hne, hover, hrest⟩ := h
  exact ⟨z :: common, x, xs', y, ys', spill, rfl, rfl, hne, hover, hrest⟩

theorem Spills.written_eq (h : Spills text xs ys) : written text xs = written text ys := by
  obtain ⟨common, x, xs', y, ys', spill, rfl, rfl, -, hover, hrest⟩ := h
  simp [hover, hrest]

theorem Spills.ne (h : Spills text xs ys) : xs ≠ ys := by
  obtain ⟨common, x, xs', y, ys', spill, rfl, rfl, hne, -, -⟩ := h
  intro heq
  exact hne (List.cons.inj (List.append_cancel_left heq)).1

/-- **Two lists are written alike** exactly if they are the same list or one of them spills. -/
theorem written_eq_iff (htext : ∀ a, text a ≠ []) :
    written text xs = written text ys ↔ xs = ys ∨ Spills text xs ys ∨ Spills text ys xs := by
  constructor
  · intro h
    induction xs generalizing ys with
    | nil =>
      cases ys with
      | nil => exact .inl rfl
      | cons y ys =>
        rw [written_nil, written_cons, List.nil_eq, List.append_eq_nil_iff] at h
        exact absurd h.1 (htext y)
    | cons x xs ih =>
      cases ys with
      | nil =>
        rw [written_nil, written_cons, List.append_eq_nil_iff] at h
        exact absurd h.1 (htext x)
      | cons y ys =>
        by_cases hxy : x = y
        · subst hxy
          rcases ih (List.append_cancel_left h) with rfl | hspill | hspill
          · exact .inl rfl
          · exact .inr (.inl (hspill.cons x))
          · exact .inr (.inr (hspill.cons x))
        -- the first pieces differ: one of the two texts is the beginning of the other
        · rcases List.append_eq_append_iff.mp h with ⟨spill, hy, hxs⟩ | ⟨spill, hx, hys⟩
          · exact .inr (.inl ⟨[], x, xs, y, ys, spill, rfl, rfl, hxy, hy, hxs⟩)
          · exact .inr (.inr ⟨[], y, ys, x, xs, spill, rfl, rfl, Ne.symm hxy, hx, hys⟩)
  · rintro (rfl | hspill | hspill)
    · rfl
    · exact hspill.written_eq
    · exact hspill.written_eq.symm

/-- Groups of a head and body pieces, followed by pieces of other kinds, are read back. -/
theorem flatMap_append_inj {γ : Type} {head : γ → β} {body : γ → List β} {isBody isHead : β → Bool}
    (hbody : ∀ c, ∀ b ∈ body c, isBody b = true) (hhead : ∀ c, isHead (head c) = true)
    (hapart : ∀ b, isHead b = true → isBody b = false)
    (hinj : ∀ c d, head c = head d → body c = body d → c = d) {cs ds : List γ} {r s : List β}
    (hr : ∀ b ∈ r, isBody b = false ∧ isHead b = false)
    (hs : ∀ b ∈ s, isBody b = false ∧ isHead b = false)
    (h : cs.flatMap (fun c => head c :: body c) ++ r = ds.flatMap (fun c => head c :: body c) ++ s) :
    cs = ds ∧ r = s := by
  -- what follows a body does not start with a body piece
  have hstop (cs : List γ) {r : List β} (hr : ∀ b ∈ r, isBody b = false ∧ isHead b = false) :
      (cs.flatMap (fun c => head c :: body c) ++ r).takeWhile isBody = [] := by
    cases cs with
    | nil =>
      cases r with
      | nil => rfl
      | cons b r => simp [(hr b List.mem_cons_self).1]
    | cons c cs => simp [hapart _ (hhead c)]
  induction cs generalizing ds with
  | nil =>
    cases ds with
    | nil => exact ⟨rfl, h⟩
    | cons d ds =>
      simp only [List.flatMap_nil, List.nil_append, List.flatMap_cons, List.cons_append] at h
      have hcontra := (hr (head d) (h ▸ List.mem_cons_self)).2
      rw [hhead] at hcontra
      cases hcontra
  | cons c cs ih =>
    cases ds with
    | nil =>
      simp only [List.flatMap_nil, List.nil_append, List.flatMap_cons, List.cons_append] at h
      have hcontra := (hs (head c) (h ▸ List.mem_cons_self)).2
      rw [hhead] at hcontra
      cases hcontra
    | cons d ds =>
      simp only [List.flatMap_cons, List.cons_append, List.append_assoc, List.cons.injEq] at h
      obtain ⟨hheads, htail⟩ := h
      have hbodies := congrArg (List.takeWhile isBody) htail
      rw [List.takeWhile_append_of_pos (hbody c), List.takeWhile_append_of_pos (hbody d),
        hstop cs hr, hstop ds hs, List.append_nil, List.append_nil] at hbodies
      obtain rfl := hinj c d hheads hbodies
      obtain ⟨rfl, hrest⟩ := ih (List.append_cancel_left htail)
      exact ⟨rfl, hrest⟩

end Writes

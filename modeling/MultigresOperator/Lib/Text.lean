import Mathlib.Data.List.DropRight

/-!
# Lines of text

Text is a list of characters. It is split into lines, a line is cut at the first occurrence of a
character, and white space is trimmed.

## Main definitions

* `Text.lines`: the lines of a text
* `Text.cut`: what stands before and after the first occurrence of a character
* `Text.trim`: a text without what surrounds it
* `Text.entryLines`: one `key=value` line per entry

## Main results

* `Text.lines_append`: the lines of two texts put together
* `Text.cut_eq_some`: a text is cut at the first occurrence
* `Text.trim_append_cons`: trimming stops at a character that is kept
* `Text.filterMap_cut_entryLines`: entries are read back off their lines
* `Text.Behind.digits`: digits are compared as a number
-/

namespace Text

/-- The lines of a text; an empty text is one empty line. -/
def lines (t : List Char) : List (List Char) := t.splitOn '\n'

@[simp] theorem lines_nil : lines [] = [[]] := rfl

theorem lines_cons (c : Char) (t : List Char) :
    lines (c :: t) = if c = '\n' then [] :: lines t else (lines t).modifyHead (List.cons c) := by
  simp [lines, List.splitOn, List.splitOnP_cons_eq_if_modifyHead]

theorem lines_append_newline (s t : List Char) : lines (s ++ '\n' :: t) = lines s ++ lines t :=
  List.splitOnP_append_cons s t rfl

theorem lines_of_notMem {t : List Char} (h : '\n' ∉ t) : lines t = [t] :=
  List.splitOnP_eq_singleton fun c hc => by
    simpa using fun heq : c = '\n' => h (heq ▸ hc)

theorem lines_ne_nil (t : List Char) : lines t ≠ [] := by
  induction t with
  | nil => simp
  | cons c t ih =>
    rw [lines_cons]
    split
    · simp
    · simpa using ih

/-- The last line of one text and the first of the other are put together. -/
theorem lines_append (s t : List Char) : ∃ before last first after,
    lines s = before ++ [last] ∧ lines t = first :: after ∧
      lines (s ++ t) = before ++ (last ++ first) :: after := by
  obtain ⟨first, after, ht⟩ := List.exists_cons_of_ne_nil (lines_ne_nil t)
  induction s with
  | nil => exact ⟨[], [], first, after, rfl, ht, by simpa using ht⟩
  | cons c s ih =>
    obtain ⟨before, last, first, after, hs, ht, hst⟩ := ih
    by_cases hc : c = '\n'
    · exact ⟨[] :: before, last, first, after, by simp [lines_cons, hc, hs], ht,
        by simp [lines_cons, hc, hst]⟩
    · -- the character belongs to the first line, which may be the last one as well
      cases before with
      | nil => exact ⟨[], c :: last, first, after, by simp [lines_cons, hc, hs], ht,
          by simp [lines_cons, hc, hst]⟩
      | cons line before => exact ⟨(c :: line) :: before, last, first, after,
          by simp [lines_cons, hc, hs], ht, by simp [lines_cons, hc, hst]⟩

theorem lines_flatMap {f : Char → List Char} (hnewline : f '\n' = ['\n'])
    (hf : ∀ c, c ≠ '\n' → '\n' ∉ f c) (t : List Char) :
    lines (t.flatMap f) = (lines t).map (List.flatMap f) := by
  induction t with
  | nil => rfl
  | cons c t ih =>
    by_cases hc : c = '\n'
    · simp [hc, hnewline, lines_cons, ih]
    · obtain ⟨before, last, first, after, hlast, hfirst, heq⟩ := lines_append (f c) (t.flatMap f)
      rw [lines_of_notMem (hf c hc)] at hlast
      obtain ⟨rfl, rfl⟩ : before = [] ∧ last = f c := by
        cases before with
        | nil => exact ⟨rfl, (List.singleton_inj.mp hlast).symm⟩
        | cons a l => simp at hlast
      rw [List.flatMap_cons, heq, lines_cons, if_neg hc]
      rw [hfirst] at ih
      cases hlines : lines t with
      | nil => exact absurd hlines (lines_ne_nil t)
      | cons line rest =>
        rw [hlines, List.map_cons] at ih
        obtain ⟨rfl, rfl⟩ := List.cons.inj ih
        simp

variable {α : Type}

/-- What stands before and after the first occurrence of an element. -/
def cut [DecidableEq α] (sep : α) (t : List α) : Option (List α × List α) :=
  if sep ∈ t then some (t.takeWhile (· ≠ sep), (t.dropWhile (· ≠ sep)).tail) else none

theorem cut_append [DecidableEq α] {sep : α} {s : List α} (h : sep ∉ s) (t : List α) :
    cut sep (s ++ sep :: t) = some (s, t) := by
  have hs : ∀ c ∈ s, decide (c ≠ sep) = true := fun c hc => by
    simpa using fun heq : c = sep => h (heq ▸ hc)
  rw [cut, if_pos (by simp), List.takeWhile_append_of_pos hs, List.dropWhile_append_of_pos hs]
  simp

variable {t : List α} {p : α → Bool} {c : α}

theorem cut_eq_some [DecidableEq α] {sep : α} {pre post : List α} :
    cut sep t = some (pre, post) ↔ t = pre ++ sep :: post ∧ sep ∉ pre := by
  constructor
  · intro h
    by_cases hmem : sep ∈ t
    · obtain ⟨s, u, rfl, hs⟩ := List.eq_append_cons_of_mem hmem
      rw [cut_append hs] at h
      cases h
      exact ⟨rfl, hs⟩
    · simp [cut, hmem] at h
  · rintro ⟨rfl, h⟩
    exact cut_append h post

/-- A text without the elements of a kind that surround it. -/
def trim (p : α → Bool) (t : List α) : List α := (t.dropWhile p).rdropWhile p

theorem dropWhile_append_cons (h : p c = false) (s t : List α) :
    (s ++ c :: t).dropWhile p = s.dropWhile p ++ c :: t := by
  induction s with
  | nil => simp [h]
  | cons a s ih => by_cases ha : p a <;> simp [ha, ih]

theorem rdropWhile_append_cons (h : p c = false) (s t : List α) :
    (s ++ c :: t).rdropWhile p = s ++ c :: t.rdropWhile p := by
  simp [List.rdropWhile, dropWhile_append_cons h]

theorem trim_append_cons (h : p c = false) (s t : List α) :
    trim p (s ++ c :: t) = s.dropWhile p ++ c :: t.rdropWhile p := by
  rw [trim, dropWhile_append_cons h, rdropWhile_append_cons h]

theorem trim_dropWhile (p : α → Bool) (t : List α) : trim p (t.dropWhile p) = trim p t := by
  rw [trim, List.dropWhile_idempotent, trim]

theorem trim_eq_nil (h : ∀ a ∈ t, p a = true) : trim p t = [] := by
  rw [trim, List.dropWhile_eq_nil_iff.mpr h, List.rdropWhile_nil]

theorem trim_append_left {s : List α} (h : ∀ a ∈ s, p a = true) (t : List α) :
    trim p (s ++ t) = trim p t := by
  rw [trim, List.dropWhile_append_of_pos h, trim]

theorem trim_append_right (h : ∀ a ∈ t, p a = true) (s : List α) : trim p (s ++ t) = trim p s := by
  induction s with
  | nil => rw [List.nil_append, trim_eq_nil h, trim, List.dropWhile_nil, List.rdropWhile_nil]
  | cons a s ih =>
    by_cases ha : p a
    · simpa [trim, ha] using ih
    · have hdrop (u : List α) : trim p (a :: u) = a :: u.rdropWhile p := by
        simpa using trim_append_cons (by simpa using ha) [] u
      rw [List.cons_append, hdrop, hdrop]
      have hreverse : ∀ a ∈ t.reverse, p a = true := by simpa using h
      simp [List.rdropWhile, List.dropWhile_append_of_pos hreverse]

/-- A text that is not all of the kind keeps its first other element when it is trimmed. -/
theorem head?_trim (h : (t.dropWhile p).head? = some c) : (trim p t).head? = some c := by
  obtain ⟨rest, hrest⟩ := List.head?_eq_some_iff.mp h
  have hc : p c = false := by
    have := List.head?_dropWhile_not p t
    simpa [h] using this
  rw [trim, hrest]
  simpa using congrArg List.head? (rdropWhile_append_cons hc [] rest)

/-- What is trimmed is a text of the kind, the result, and a text of the kind. -/
theorem exists_trim (p : α → Bool) (t : List α) : ∃ left right,
    (∀ a ∈ left, p a = true) ∧ (∀ a ∈ right, p a = true) ∧ t = left ++ trim p t ++ right := by
  refine ⟨t.takeWhile p, (t.dropWhile p).rtakeWhile p, fun a ha => List.mem_takeWhile_imp ha,
    fun a ha => List.mem_rtakeWhile_imp ha, ?_⟩
  rw [trim, List.append_assoc, List.rdropWhile_append_rtakeWhile, List.takeWhile_append_dropWhile]

theorem trim_trim (p : α → Bool) (t : List α) : trim p (trim p t) = trim p t := by
  rcases hdrop : t.dropWhile p with _ | ⟨c, rest⟩
  · simp [trim, hdrop]
  · have hc : p c = false := by
      simpa [hdrop] using List.head?_dropWhile_not p t
    have htrim (s : List α) : trim p (c :: s) = c :: s.rdropWhile p := trim_append_cons hc [] s
    rw [← trim_dropWhile p t, hdrop, htrim, htrim, List.rdropWhile_idempotent]

theorem mem_trim {a : α} (h : a ∈ trim p t) : a ∈ t := by
  obtain ⟨left, right, -, -, ht⟩ := exists_trim p t
  rw [ht]
  simp [h]

theorem mem_trim_of_mem {a : α} (h : a ∈ t) (ha : p a = false) : a ∈ trim p t := by
  obtain ⟨left, right, hleft, hright, ht⟩ := exists_trim p t
  have absurdSpace {s : List α} (hs : ∀ a ∈ s, p a = true) : a ∉ s := fun hmem => by
    simp [hs a hmem] at ha
  rw [ht, List.mem_append, List.mem_append] at h
  rcases h with (h | h) | h
  · exact absurd h (absurdSpace hleft)
  · exact h
  · exact absurd h (absurdSpace hright)

theorem trim_congr {q : α → Bool} (h : ∀ a ∈ t, p a = q a) : trim p t = trim q t := by
  have drop {t : List α} (h : ∀ a ∈ t, p a = q a) : t.dropWhile p = t.dropWhile q := by
    induction t with
    | nil => rfl
    | cons a t ih =>
      rw [List.dropWhile_cons, List.dropWhile_cons, h a (by simp), ih fun b hb => h b (by simp [hb])]
  rw [trim, trim, drop h, List.rdropWhile, List.rdropWhile, drop fun a ha =>
    h a ((List.dropWhile_sublist _).subset (List.mem_reverse.mp ha))]

theorem mem_of_mem_lines {c : Char} {line t : List Char} (hline : line ∈ lines t) (hc : c ∈ line) :
    c ∈ t := by
  induction t generalizing line with
  | nil => simp_all
  | cons a t ih =>
    rw [lines_cons] at hline
    split at hline
    · rcases List.mem_cons.mp hline with rfl | hline
      · cases hc
      · exact List.mem_cons_of_mem _ (ih hline hc)
    · obtain ⟨first, rest, hlines⟩ := List.exists_cons_of_ne_nil (lines_ne_nil t)
      rw [hlines, List.modifyHead_cons] at hline
      rcases List.mem_cons.mp hline with rfl | hline
      · rcases List.mem_cons.mp hc with rfl | hc
        · exact List.mem_cons_self
        · exact List.mem_cons_of_mem _ (ih (by rw [hlines]; exact List.mem_cons_self) hc)
      · exact List.mem_cons_of_mem _ (ih (by rw [hlines]; exact List.mem_cons_of_mem _ hline) hc)

theorem newline_notMem_of_mem_lines {line t : List Char} (h : line ∈ lines t) : '\n' ∉ line := by
  induction t generalizing line with
  | nil =>
    obtain rfl : line = [] := by simpa using h
    simp
  | cons a t ih =>
    rw [lines_cons] at h
    split at h
    · rcases List.mem_cons.mp h with rfl | h
      · simp
      · exact ih h
    · next ha =>
      obtain ⟨first, rest, hlines⟩ := List.exists_cons_of_ne_nil (lines_ne_nil t)
      rw [hlines, List.modifyHead_cons] at h
      rcases List.mem_cons.mp h with rfl | h
      · have hfirst : '\n' ∉ first := ih (by rw [hlines]; exact List.mem_cons_self)
        simp [Ne.symm ha, hfirst]
      · exact ih (by rw [hlines]; exact List.mem_cons_of_mem _ h)

/-- One `key=value` line per entry. -/
def entryLines (entries : List (List Char × List Char)) : List Char :=
  entries.flatMap fun e => e.1 ++ '=' :: e.2 ++ ['\n']

/-- **Entries are read back** off their lines, if no key has the sign in it and nothing a newline. -/
theorem filterMap_cut_entryLines {entries : List (List Char × List Char)}
    (h : ∀ e ∈ entries, '=' ∉ e.1 ∧ '\n' ∉ e.1 ∧ '\n' ∉ e.2) :
    (lines (entryLines entries)).filterMap (cut '=') = entries := by
  induction entries with
  | nil => rfl
  | cons e entries ih =>
    obtain ⟨hsign, hkey, hvalue⟩ := h e List.mem_cons_self
    have hline : '\n' ∉ e.1 ++ '=' :: e.2 := by simp [hkey, hvalue]
    have htext : entryLines (e :: entries) = (e.1 ++ '=' :: e.2) ++ '\n' :: entryLines entries := by
      simp [entryLines]
    rw [htext, lines_append_newline, lines_of_notMem hline, List.singleton_append,
      List.filterMap_cons_some (cut_append hsign e.2), ih fun e he => h e (List.mem_cons_of_mem _ he)]

/-! ### Numbers in front of a text -/

/-- The first of two texts is less, by the number read off it so far or else by the rest. -/
def Behind (n k : ℕ) (x y : List Char) : Prop := n < k ∨ n = k ∧ x < y

/-- **Digits are compared as a number**: the order is kept when as many of them are read off both
texts. -/
theorem Behind.digits {n k : ℕ} {a b x y : List Char} (hlength : a.length = b.length)
    (ha : a.all Char.isDigit) (hb : b.all Char.isDigit) (h : Behind n k (a ++ x) (b ++ y)) :
    Behind (Nat.ofDigitChars 10 a n) (Nat.ofDigitChars 10 b k) x y := by
  induction a generalizing b n k with
  | nil =>
    obtain rfl := List.eq_nil_of_length_eq_zero hlength.symm
    exact h
  | cons c a ih =>
    cases b with
    | nil => cases hlength
    | cons d b =>
      rw [List.all_cons, Bool.and_eq_true, Char.isDigit_iff_toNat] at ha hb
      have hbounds : '0'.toNat = 48 ∧ '9'.toNat = 57 := ⟨rfl, rfl⟩
      refine ih (b := b) (Nat.succ.inj hlength) ha.2 hb.2 ?_
      rcases h with hlt | ⟨rfl, hlt⟩
      · left
        dsimp only
        omega
      · rw [List.cons_append, List.cons_append, List.cons_lt_cons_iff] at hlt
        rcases hlt with hlt | ⟨rfl, hlt⟩
        · have hnat : c.toNat < d.toNat := hlt
          left
          dsimp only
          omega
        · exact .inr ⟨rfl, hlt⟩

end Text

import MultigresOperator.PostgresConfig.Render

/-!
# Quotation of settings

An inline setting is written as one line, with its value in quotes and its own quotes doubled. The
reader cuts the line at the sign, drops a comment that starts outside quotes, and leaves the quotes
to `unquoteValue`. What is found is the setting that was written, whatever the value holds, as long
as the setting stays on its line.

## Main results

* `unquoteValue_quote`, `stripInlineComment_quote`: quotation is undone, and protects its text
* `assignment_entryText`: what the line of a setting assigns
* `assignments_writeSortedMap`: the assignments of the inline settings, setting by setting
* `get_inline`, `get_inline_eq_none`: what the inline settings give a parameter
-/

namespace MultigresOperator.PostgresConfig

/-- Doubled quotes stand for one. -/
def undouble : Str → Str
  | '\'' :: '\'' :: s => '\'' :: undouble s
  | c :: s => c :: undouble s
  | [] => []

def unquoteValue (go : GoText) (v : Str) : Str :=
  let v := go.trimSpace v
  if 2 ≤ v.length ∧ v.head? = some '\'' ∧ v.getLast? = some '\'' then undouble v.tail.dropLast
  else v

/-- The parameter a name stands for: names are compared without the white space around them and
without case. -/
def GoText.parameter (go : GoText) (name : Str) : Str := go.lower (go.trimSpace name)

variable {go : GoText}

/-! ## Quotation -/

/-- A text between quotes that starts and ends with no space is trimmed already. -/
theorem trimSpace_quoted (t : Str) :
    go.trimSpace ('\'' :: t ++ ['\'']) = '\'' :: t ++ ['\''] := by
  have htrim : go.trimSpace ([] ++ '\'' :: (t ++ '\'' :: [])) =
      [].dropWhile go.isSpace ++ '\'' :: (t ++ '\'' :: []).rdropWhile go.isSpace :=
    Text.trim_append_cons isSpace_quote [] _
  rw [Text.rdropWhile_append_cons isSpace_quote] at htrim
  simpa using htrim

theorem undouble_flatMap_escape (v : Str) : undouble (v.flatMap escape) = v := by
  induction v with
  | nil => rfl
  | cons c v ih =>
    by_cases hc : c = '\''
    · subst hc
      exact congrArg _ ih
    · rw [List.flatMap_cons, escape, if_neg hc, List.singleton_append, undouble, ih]
      exact fun _ heq => absurd heq hc

theorem unquoteValue_quote (v : Str) : unquoteValue go (quote v) = v := by
  have hlast : (quote v).getLast? = some '\'' := List.getLast?_concat
  have htrim : go.trimSpace (quote v) = quote v := trimSpace_quoted _
  unfold unquoteValue
  dsimp only
  rw [htrim, if_pos ⟨by simp [quote], rfl, hlast⟩, quote, List.cons_append, List.tail_cons,
    List.dropLast_concat, undouble_flatMap_escape]

theorem unquoteValue_trimSpace (v : Str) : unquoteValue go (go.trimSpace v) = unquoteValue go v := by
  unfold unquoteValue
  rw [GoText.trimSpace, GoText.trimSpace, Text.trim_trim]

/-- The scan leaves a string at the quote that closes it, not at a doubled one. -/
theorem stripInlineComment_inside (v : Str) {rest : Str} (hrest : rest.head? ≠ some '\'') :
    stripInlineComment true (v.flatMap escape ++ '\'' :: rest) =
      v.flatMap escape ++ '\'' :: stripInlineComment false rest := by
  induction v with
  | nil =>
    rw [List.flatMap_nil, List.nil_append, List.nil_append, stripInlineComment, Bool.not_true]
    rintro t - heq
    exact hrest (by rw [heq, List.head?_cons])
  | cons c v ih =>
    by_cases hc : c = '\''
    · subst hc
      have hstep (s : Str) : stripInlineComment true ('\'' :: '\'' :: s) =
          '\'' :: '\'' :: stripInlineComment true s := by rw [stripInlineComment]
      simpa [escape] using (hstep _).trans (by rw [ih])
    · rw [List.flatMap_cons, escape, if_neg hc, List.singleton_append, List.cons_append,
        stripInlineComment, ih, List.cons_append]
      · exact hc
      · exact fun _ _ heq => absurd heq hc
      · simp

/-- **Quotation protects its text** from being taken for a comment. -/
theorem stripInlineComment_quote (v : Str) {rest : Str} (hrest : rest.head? ≠ some '\'') :
    stripInlineComment false (quote v ++ rest) = quote v ++ stripInlineComment false rest := by
  have htext : quote v ++ rest = '\'' :: (v.flatMap escape ++ '\'' :: rest) := by simp [quote]
  have hopen (s : Str) : stripInlineComment false ('\'' :: s) = '\'' :: stripInlineComment true s := by
    rw [stripInlineComment]
    · rfl
    · simp
  rw [htext, hopen, stripInlineComment_inside v hrest]
  simp [quote]

/-! ## Lines of settings -/

/-- The setting stays on its line, and its name is read as a name. -/
structure OneLine (e : Str × Str) : Prop where
  name : '\n' ∉ e.1
  value : '\n' ∉ e.2
  sign : '=' ∉ e.1
  hash : '#' ∉ e.1

instance (e : Str × Str) : Decidable (OneLine e) :=
  decidable_of_iff ('\n' ∉ e.1 ∧ '\n' ∉ e.2 ∧ '=' ∉ e.1 ∧ '#' ∉ e.1)
    ⟨fun ⟨name, value, sign, hash⟩ => ⟨name, value, sign, hash⟩,
      fun h => ⟨h.name, h.value, h.sign, h.hash⟩⟩

variable {e : Str × Str} {m : Table Str Str}

theorem newline_notMem_entryText (h : OneLine e) : '\n' ∉ entryText e := by
  have hquote : '\n' ∉ quote e.2 := by
    simpa [quote, List.mem_flatMap, mem_escape_iff] using h.value
  rw [entryText, String.toList_ofList]
  simp [h.name, hquote]

/-- **The line of a setting** assigns the parameter of its name the value in quotes. -/
theorem assignment_entryText (h : OneLine e) (hname : go.trimSpace e.1 ≠ []) :
    assignment go (entryText e) = some (go.parameter e.1, quote e.2) := by
  have hspace : ∀ c ∈ [' '], go.isSpace c = true := fun c hc => by
    rw [List.mem_singleton.mp hc]
    exact isSpace_space
  have htrim : go.trimSpace (e.1 ++ [' ']) = go.trimSpace e.1 := Text.trim_append_right hspace _
  have htext : entryText e = (e.1 ++ [' ']) ++ '=' :: ([' '] ++ quote e.2) := by
    rw [entryText, String.toList_ofList]
    simp
  have hsign : '=' ∉ e.1 ++ [' '] := by simpa using h.sign
  have hhash : ((e.1 ++ [' ']).dropWhile go.isSpace).head? ≠ some '#' := fun hhead => by
    have hmem := (List.dropWhile_sublist _).subset (List.mem_of_head? hhead)
    simp [h.hash] at hmem
  -- the line ends with the closing quote
  have hlast : ([' '] ++ quote e.2).rdropWhile go.isSpace = [' '] ++ quote e.2 := by
    have hclosing : go.isSpace '\'' = false := isSpace_quote
    simpa [quote] using
      Text.rdropWhile_append_cons hclosing (' ' :: '\'' :: e.2.flatMap escape) []
  have hstrip : stripInlineComment false ([' '] ++ quote e.2) = [' '] ++ quote e.2 := by
    have hstep (s : Str) : stripInlineComment false (' ' :: s) = ' ' :: stripInlineComment false s := by
      rw [stripInlineComment] <;> simp
    have hquote : stripInlineComment false (quote e.2 ++ []) = quote e.2 ++ [] :=
      stripInlineComment_quote e.2 (by simp)
    rw [List.append_nil] at hquote
    rw [List.singleton_append, hstep, hquote]
  rw [htext, assignment_append hsign hhash (by rwa [htrim]), htrim, hlast, hstrip]
  congr 2
  rw [GoText.trimSpace, Text.trim_append_left hspace]
  exact trimSpace_quoted _

theorem assignments_flatMap_entryText (entries : List (Str × Str)) :
    assignments go (entries.flatMap fun e => entryText e ++ ['\n']) =
      entries.flatMap fun e => assignments go (entryText e) := by
  induction entries with
  | nil => rfl
  | cons e entries ih =>
    have htext : (e :: entries).flatMap (fun e => entryText e ++ ['\n']) =
        entryText e ++ '\n' :: entries.flatMap fun e => entryText e ++ ['\n'] := by simp
    rw [htext, assignments_append_newline, ih, List.flatMap_cons]

/-- **The assignments of the inline settings**, setting by setting. -/
theorem assignments_writeSortedMap (hline : ∀ e ∈ m, OneLine e)
    (hname : ∀ e ∈ m, go.trimSpace e.1 ≠ []) :
    assignments go (writeSortedMap m) =
      (sortedEntries m).map fun e => (go.parameter e.1, quote e.2) := by
  rw [writeSortedMap, assignments_flatMap_entryText, ← List.flatMap_pure_eq_map]
  refine List.flatMap_congr fun e he => ?_
  have hmem := mem_sortedEntries.mp he
  rw [assignments, Text.lines_of_notMem (newline_notMem_entryText (hline e hmem)),
    List.filterMap_cons_some (assignment_entryText (hline e hmem) (hname e hmem))]
  rfl

theorem parse_writeSortedMap (hline : ∀ e ∈ m, OneLine e) (hname : ∀ e ∈ m, go.trimSpace e.1 ≠ []) :
    parseEffectiveConfig go (writeSortedMap m) =
      Table.ofList ((sortedEntries m).map fun e => (go.parameter e.1, quote e.2)) := by
  rw [parseEffectiveConfig, assignments_writeSortedMap hline hname]

/-- A setting is read back if no other one is for its parameter. -/
theorem get_inline (hline : ∀ e ∈ m, OneLine e) (hname : ∀ e ∈ m, go.trimSpace e.1 ≠ [])
    (hdistinct : ∀ e ∈ m, ∀ e' ∈ m, go.parameter e.1 = go.parameter e'.1 → e.1 = e'.1) (he : e ∈ m) :
    (parseEffectiveConfig go (writeSortedMap m)).get (go.parameter e.1) = some (quote e.2) := by
  rw [parse_writeSortedMap hline hname]
  have hassigned : (go.parameter e.1, quote e.2) ∈
      (sortedEntries m).map fun e => (go.parameter e.1, quote e.2) :=
    List.mem_map.mpr ⟨e, mem_sortedEntries.mpr he, rfl⟩
  obtain ⟨value, hvalue⟩ := Option.isSome_iff_exists.mp
    (Table.isSome_get_ofList.mpr ⟨quote e.2, hassigned⟩)
  rw [hvalue]
  -- the setting it is read from has the same name, so it is the same setting
  obtain ⟨e', he', heq⟩ := List.mem_map.mp (Table.mem_of_mem_ofList (Table.get_eq_some.mp hvalue))
  obtain ⟨hparameter, rfl⟩ := Prod.mk.inj heq
  have hmem := mem_sortedEntries.mp he'
  have hkey := hdistinct e' hmem e he hparameter
  have hget : m.get e.1 = some e'.2 := Table.get_eq_some.mpr (by rwa [← hkey])
  rw [Table.get_eq_some.mpr he] at hget
  rw [Option.some.inj hget]

theorem get_inline_eq_none (hline : ∀ e ∈ m, OneLine e) (hname : ∀ e ∈ m, go.trimSpace e.1 ≠ [])
    {name : Str} (hother : ∀ e ∈ m, go.parameter e.1 ≠ name) :
    (parseEffectiveConfig go (writeSortedMap m)).get name = none := by
  rw [parse_writeSortedMap hline hname, ← Option.not_isSome_iff_eq_none, Table.isSome_get_ofList]
  rintro ⟨value, hmem⟩
  obtain ⟨e, he, heq⟩ := List.mem_map.mp hmem
  exact hother e (mem_sortedEntries.mp he) (congrArg Prod.fst heq)

end MultigresOperator.PostgresConfig

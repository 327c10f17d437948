import MultigresOperator.Lib.Table
import MultigresOperator.Lib.Text

/-!
# Reading a postgresql.conf

A rendered postgresql.conf is read line by line; the last assignment of a parameter counts. Strings
are lists of characters. What Go decides about characters, numbers and quotation is a parameter of
the model, known on ASCII.

## Main results

* `assignment_append_eq`: what a line with a `=` assigns
* `get_parse_append`: what a file assigns later wins
* `Ascii.parse`: on ASCII the reader does not depend on the Go library
-/

namespace MultigresOperator.PostgresConfig

/-- A Go string, by its characters. -/
abbrev Str := List Char

/-- The functions of the Go library on text: `unicode.ToLower`, `unicode.IsSpace`, whether
`strconv.ParseFloat` succeeds, and the quotation of `%q`. -/
structure GoText where
  toLower : Char → Char
  isSpace : Char → Bool
  parsesFloat : Str → Bool
  quoted : Str → Str
  toLower_ascii : ∀ c, c.toNat < 128 → toLower c = c.toLower
  isSpace_ascii : ∀ c, c.toNat < 128 → isSpace c = (c.toNat == 32 || (9 ≤ c.toNat && c.toNat ≤ 13))

/-- The ASCII part of the Go library. -/
def GoText.ascii : GoText where
  toLower := Char.toLower
  isSpace c := c.toNat == 32 || (9 ≤ c.toNat && c.toNat ≤ 13)
  parsesFloat t := t ≠ [] ∧ t.all Char.isDigit
  quoted t := '"' :: t ++ ['"']
  toLower_ascii _ _ := rfl
  isSpace_ascii _ _ := rfl

variable (go : GoText)

/-- `strings.TrimSpace` -/
def GoText.trimSpace (t : Str) : Str := Text.trim go.isSpace t

/-- `strings.ToLower` -/
def GoText.lower (t : Str) : Str := t.map go.toLower

/-- `stripInlineComment`: drops a comment that starts outside quotes. A doubled quote stays inside the
string; `inQuote` says whether the scan is inside one. -/
def stripInlineComment : Bool → Str → Str
  | _, [] => []
  | true, '\'' :: '\'' :: s => '\'' :: '\'' :: stripInlineComment true s
  | inQuote, '\'' :: s => '\'' :: stripInlineComment (!inQuote) s
  | false, '#' :: _ => []
  | inQuote, c :: s => c :: stripInlineComment inQuote s

/-- The parameter and the value a line assigns. -/
def assignment (line : Str) : Option (Str × Str) :=
  let line := go.trimSpace line
  if line = [] ∨ line.head? = some '#' then none
  else match Text.cut '=' line with
    | none => none
    | some (key, val) =>
      let key := go.lower (go.trimSpace key)
      if key = [] then none else some (key, go.trimSpace (stripInlineComment false val))

/-- The assignments of a file in order. -/
def assignments (rendered : Str) : List (Str × Str) :=
  (Text.lines rendered).filterMap (assignment go)

def parseEffectiveConfig (rendered : Str) : Table Str Str := Table.ofList (assignments go rendered)

variable {go}

/-! ## Names of parameters -/

/-- The line has a `=`, and what stands before the first one is the name, in any case and with white
space around it. -/
def Names (go : GoText) (name line : Str) : Prop :=
  ∃ pre post, line = pre ++ '=' :: post ∧ '=' ∉ pre ∧ go.lower (go.trimSpace pre) = name

/-- A name that is not empty and does not start a comment. -/
def Proper (name : Str) : Prop := name ≠ [] ∧ name.head? ≠ some '#'

theorem isSpace_eq : go.isSpace '=' = false := by rw [go.isSpace_ascii _ (by decide)]; decide

theorem isSpace_hash : go.isSpace '#' = false := by rw [go.isSpace_ascii _ (by decide)]; decide

theorem toLower_hash : go.toLower '#' = '#' := by rw [go.toLower_ascii _ (by decide)]; decide

/-- **The assignment of a line with a `=`**: there is none if a comment or nothing stands before it. -/
theorem assignment_append_eq {pre : Str} (hpre : '=' ∉ pre) (post : Str) :
    assignment go (pre ++ '=' :: post) =
      if (pre.dropWhile go.isSpace).head? = some '#' ∨ go.trimSpace pre = [] then none
      else some (go.lower (go.trimSpace pre),
        go.trimSpace (stripInlineComment false (post.rdropWhile go.isSpace))) := by
  have htrim : go.trimSpace (pre ++ '=' :: post) =
      pre.dropWhile go.isSpace ++ '=' :: post.rdropWhile go.isSpace :=
    Text.trim_append_cons isSpace_eq pre post
  have hcut : Text.cut '=' (go.trimSpace (pre ++ '=' :: post)) =
      some (pre.dropWhile go.isSpace, post.rdropWhile go.isSpace) := by
    rw [htrim]
    exact Text.cut_append (fun hmem => hpre ((List.dropWhile_sublist _).subset hmem)) _
  have hline : (go.trimSpace (pre ++ '=' :: post) = [] ∨
      (go.trimSpace (pre ++ '=' :: post)).head? = some '#') ↔
        (pre.dropWhile go.isSpace).head? = some '#' := by
    rw [htrim]
    cases pre.dropWhile go.isSpace <;> simp
  have hkey : go.trimSpace (pre.dropWhile go.isSpace) = go.trimSpace pre := Text.trim_dropWhile _ _
  have hlower : go.lower (go.trimSpace pre) = [] ↔ go.trimSpace pre = [] := by simp [GoText.lower]
  simp only [assignment, hcut, hline, hkey, hlower]
  by_cases hhash : (pre.dropWhile go.isSpace).head? = some '#'
  · rw [if_pos hhash, if_pos (.inl hhash)]
  · simp only [hhash, false_or, if_false]

theorem assignment_append {pre : Str} (hpre : '=' ∉ pre)
    (hhash : (pre.dropWhile go.isSpace).head? ≠ some '#') (hname : go.trimSpace pre ≠ [])
    (post : Str) :
    assignment go (pre ++ '=' :: post) = some (go.lower (go.trimSpace pre),
      go.trimSpace (stripInlineComment false (post.rdropWhile go.isSpace))) := by
  rw [assignment_append_eq hpre, if_neg (not_or.mpr ⟨hhash, hname⟩)]

variable {name line t : Str}

theorem Names.exists_assignment (hname : Proper name) (h : Names go name line) :
    ∃ value, assignment go line = some (name, value) := by
  obtain ⟨pre, post, rfl, hpre, rfl⟩ := h
  -- a comment sign in front would be the first character of the name
  have hhash : (pre.dropWhile go.isSpace).head? ≠ some '#' := by
    intro hhash
    refine hname.2 ?_
    rw [GoText.lower, List.head?_map, GoText.trimSpace, Text.head?_trim hhash, Option.map_some,
      toLower_hash]
  have htrim : go.trimSpace pre ≠ [] := fun hnil => hname.1 (by rw [hnil]; rfl)
  exact ⟨_, assignment_append hpre hhash htrim post⟩

theorem names_of_assignment {value : Str} (h : assignment go line = some (name, value)) :
    Names go name line := by
  unfold assignment at h
  extract_lets trimmed at h
  split at h
  · cases h
  · split at h
    · cases h
    · next key val hcut =>
      extract_lets lowered at h
      split at h
      · cases h
      · obtain ⟨rfl, -⟩ := Prod.mk.inj (Option.some.inj h)
        have ⟨htrimmed, hkey⟩ := Text.cut_eq_some.mp hcut
        obtain ⟨left, right, hleft, hright, hline⟩ := Text.exists_trim go.isSpace line
        refine ⟨left ++ key, val ++ right, ?_, ?_, ?_⟩
        · rw [hline]
          change left ++ trimmed ++ right = _
          rw [htrimmed]
          simp
        · rw [List.mem_append, not_or]
          refine ⟨fun hmem => ?_, hkey⟩
          have := hleft _ hmem
          rw [isSpace_eq] at this
          cases this
        · rw [GoText.trimSpace, Text.trim_append_left hleft]
          rfl

/-! ## Files -/

theorem assignments_append_newline (s t : Str) :
    assignments go (s ++ '\n' :: t) = assignments go s ++ assignments go t := by
  rw [assignments, Text.lines_append_newline, List.filterMap_append, assignments, assignments]

theorem get_parse_append (s t : Str) (name : Str) :
    (parseEffectiveConfig go (s ++ '\n' :: t)).get name =
      ((parseEffectiveConfig go t).get name).or ((parseEffectiveConfig go s).get name) := by
  rw [parseEffectiveConfig, assignments_append_newline, Table.get_ofList_append]
  rfl

theorem get_parse_isSome_iff (h : Proper name) :
    ((parseEffectiveConfig go t).get name).isSome = true ↔
      ∃ line ∈ Text.lines t, Names go name line := by
  rw [parseEffectiveConfig, Table.isSome_get_ofList]
  constructor
  · rintro ⟨value, hmem⟩
    obtain ⟨line, hline, hvalue⟩ := List.mem_filterMap.mp hmem
    exact ⟨line, hline, names_of_assignment hvalue⟩
  · rintro ⟨line, hline, hnames⟩
    obtain ⟨value, hvalue⟩ := hnames.exists_assignment h
    exact ⟨value, List.mem_filterMap.mpr ⟨line, hline, hvalue⟩⟩

/-! ## ASCII -/

/-- The text is ASCII. -/
def Ascii (t : Str) : Prop := ∀ c ∈ t, c.toNat < 128

instance (t : Str) : Decidable (Ascii t) := List.decidableBAll (fun c : Char => c.toNat < 128) t

theorem Ascii.trimSpace (h : Ascii t) : go.trimSpace t = GoText.ascii.trimSpace t :=
  Text.trim_congr fun c hc => by rw [go.isSpace_ascii c (h c hc)]; rfl

theorem Ascii.lower (h : Ascii t) : go.lower t = GoText.ascii.lower t :=
  List.map_congr_left fun c hc => by rw [go.toLower_ascii c (h c hc)]; rfl

theorem mem_of_mem_stripInlineComment {c : Char} {inQuote : Bool}
    (h : c ∈ stripInlineComment inQuote t) : c ∈ t := by
  fun_induction stripInlineComment inQuote t <;> simp_all <;> tauto

/-- On ASCII an assignment is read as the ASCII part of the library reads it. -/
theorem Ascii.assignment (h : Ascii line) :
    assignment go line = PostgresConfig.assignment .ascii line := by
  unfold PostgresConfig.assignment
  rw [h.trimSpace]
  dsimp only
  split
  · rfl
  · rcases hcut : Text.cut '=' (GoText.ascii.trimSpace line) with _ | ⟨key, val⟩
    · rfl
    · have hmem := (Text.cut_eq_some.mp hcut).1
      have hkey : Ascii key := fun c hc => h c (Text.mem_trim (p := GoText.ascii.isSpace) (by
        rw [GoText.trimSpace] at hmem; rw [hmem]; simp [hc]))
      have hval : Ascii (stripInlineComment false val) := fun c hc =>
        h c (Text.mem_trim (p := GoText.ascii.isSpace) (by
          rw [GoText.trimSpace] at hmem; rw [hmem]; simp [mem_of_mem_stripInlineComment hc]))
      have hkey' : Ascii (GoText.ascii.trimSpace key) := fun c hc => hkey c (Text.mem_trim hc)
      simp only [hkey.trimSpace, hkey'.lower, hval.trimSpace]

/-- **On ASCII the reader does not depend on the library.** -/
theorem Ascii.parse (h : Ascii t) : parseEffectiveConfig go t = parseEffectiveConfig .ascii t := by
  have : assignments go t = assignments .ascii t :=
    List.filterMap_congr fun line hline =>
      Ascii.assignment fun c hc => h c (Text.mem_of_mem_lines hline hc)
  rw [parseEffectiveConfig, this, parseEffectiveConfig]

end MultigresOperator.PostgresConfig

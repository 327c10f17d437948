import MultigresOperator.PostgresConfig.Hashes

/-!
# PostgreSQL's grammar

PostgreSQL reads a line of its configuration file as a name, an optional `=`, a value with or without
quotes, and a comment; in quotes a backslash escapes the next character. The operator reads only what
has a `=`, and takes the quote behind a backslash for the end of the string: a setting that is written
without the sign or behind such a quote is not among those it hashes, so a change of it goes unnoticed.

## Main definitions

* `readLine`: how PostgreSQL reads a line
* `WellFormed`, `pgSetting`: a file that PostgreSQL accepts, and the setting of a name in it
* `WrittenWithSign`: the value on the last line with a `=` for a name
* `ReadOtherwise`: a name that the operator may read otherwise than PostgreSQL

## Main results

* `lineValue_of_signed`: a plain setting with a `=` is read by the operator as by PostgreSQL
* `not_word_of_unsigned`: one written without is read under no name of a parameter
* `changes_noticed_iff`: when a change of the settings of PostgreSQL changes a hash
* `unsigned_change_unnoticed`: a change that does not
-/

namespace MultigresOperator.PostgresConfig

open Encoding

/-! ## The reader of PostgreSQL -/

/-- White space within a line. -/
def isBlank (c : Char) : Bool := c == ' ' || c == '\t' || c == '\r'

/-- The letters of the scanner, which takes every byte beyond ASCII for one. -/
def isLetter (c : Char) : Bool := c.isAlpha || c == '_' || 128 ≤ c.toNat

/-- The characters of identifiers. -/
def isIdChar (c : Char) : Bool := isLetter c || c.isDigit

/-- The characters of words without quotes. -/
def isUnquotedChar (c : Char) : Bool := isIdChar c || c == '-' || c == '.' || c == ':' || c == '/'

/-- The characters of values without quotes. -/
def isBareChar (c : Char) : Bool := isUnquotedChar c || c == '+'

def isIdentifier (t : Str) : Bool := t.head?.any isLetter && t.all isIdChar

/-- Two identifiers with a dot between them. -/
def isQualified (t : Str) : Bool :=
  (Text.cut '.' t).any fun r => isIdentifier r.1 && isIdentifier r.2

/-- At least one character of one kind, and then only such of another. -/
def isRun (p q : Char → Bool) (t : Str) : Bool := t.head?.any p && (t.dropWhile p).all q

def dropSign : Str → Str
  | '-' :: t => t
  | '+' :: t => t
  | t => t

def isHexDigit (c : Char) : Bool := c.isDigit || 'a' ≤ c.toLower && c.toLower ≤ 'f'

/-- An integer in decimal or hexadecimal digits, with its unit. -/
def isInteger (t : Str) : Bool :=
  isRun Char.isDigit Char.isAlpha (dropSign t) ||
    "0x".toList.isPrefixOf (dropSign t) && isRun isHexDigit Char.isAlpha ((dropSign t).drop 2)

/-- A number with a point, and with an exponent or not. -/
def isReal (t : Str) : Bool :=
  match (dropSign t).dropWhile Char.isDigit with
  | '.' :: fraction =>
    match fraction.dropWhile Char.isDigit with
    | [] => true
    | e :: exponent => e.toLower == 'e' && isRun Char.isDigit (fun _ => false) (dropSign exponent)
  | _ => false

/-- A value without quotes: a word, but not a qualified name, or a number. -/
def isBareValue (t : Str) : Bool :=
  t.head?.any isLetter && t.all isUnquotedChar && !isQualified t || isInteger t || isReal t

/-- A setting as it is written: its name, its value with the quotes, and whether a `=` stands between
them. -/
structure PgSetting where
  word : Str
  token : Str
  signed : Bool
  deriving DecidableEq, Repr

/-- Names are compared without the case of ASCII letters. -/
def PgSetting.name (s : PgSetting) : Str := s.word.map Char.toLower

/-- The text of a string up to the quote that closes it, and what follows. A quote is doubled or escaped
to stand in a string. -/
def readQuoted : Str → Option (Str × Str)
  | '\\' :: c :: t => (readQuoted t).map fun r => ('\\' :: c :: r.1, r.2)
  | '\'' :: '\'' :: t => (readQuoted t).map fun r => ('\'' :: '\'' :: r.1, r.2)
  | '\'' :: t => some ([], t)
  | c :: t => (readQuoted t).map fun r => (c :: r.1, r.2)
  | [] => none

/-- Up to three octal digits. -/
def octalDigits (t : Str) : Str := (t.take 3).takeWhile fun c => '0' ≤ c && c ≤ '7'

/-- What the characters behind a backslash stand for. -/
def escapeBytes : Str → Bytes
  | [] => []
  | 'b' :: _ => [8]
  | 'f' :: _ => [12]
  | 'n' :: _ => [10]
  | 'r' :: _ => [13]
  | 't' :: _ => [9]
  | c :: t =>
    if octalDigits (c :: t) = [] then String.utf8EncodeChar c
    else [UInt8.ofNat (Nat.ofDigitChars 8 (octalDigits (c :: t)) 0)]

/-- The bytes the text of a string stands for, after the characters that an escape has used up. -/
def deescape : ℕ → Str → Bytes
  | _, [] => []
  | used + 1, _ :: t => deescape used t
  | 0, '\\' :: t => escapeBytes t ++ deescape (max 1 (octalDigits t).length) t
  | 0, '\'' :: t => 39 :: deescape 1 t
  | 0, c :: t => String.utf8EncodeChar c ++ deescape 0 t

/-- The value of a setting, which ends before the first zero byte. -/
def PgSetting.value (s : PgSetting) : Bytes :=
  (match s.token with
    | '\'' :: t => deescape 0 t.dropLast
    | t => t.flatMap String.utf8EncodeChar).takeWhile (· ≠ 0)

/-- Only white space and a comment are left. -/
def endsLine (t : Str) : Bool := (t.dropWhile isBlank).head?.all (· == '#')

def readToken (t : Str) : Option Str :=
  match t with
  | '\'' :: s => (readQuoted s).bind fun r => if endsLine r.2 then some ('\'' :: r.1 ++ ['\'']) else none
  | _ =>
    let bare := t.takeWhile isBareChar
    if isBareValue bare ∧ endsLine (t.dropWhile isBareChar) then some bare else none

/-- The setting of a line: nothing if the line has a syntax error, and no setting if it is blank or a
comment. -/
def readLine (line : Str) : Option (Option PgSetting) :=
  if endsLine line then some none
  else
    let body := line.dropWhile isBlank
    let word := body.takeWhile isUnquotedChar
    let text := (body.dropWhile isUnquotedChar).dropWhile isBlank
    if isIdentifier word || isQualified word then
      if text.head? = some '=' then
        (readToken (text.tail.dropWhile isBlank)).map fun token => some ⟨word, token, true⟩
      else (readToken text).map fun token => some ⟨word, token, false⟩
    else none

/-- PostgreSQL finds no syntax error. -/
def WellFormed (file : Str) : Prop := ∀ line ∈ Text.lines file, readLine line ≠ none

instance (file : Str) : Decidable (WellFormed file) := inferInstanceAs (Decidable (∀ _ ∈ _, _))

/-- The setting of a name in a file: the last line that has one counts. -/
def pgSetting (file name : Str) : Option PgSetting :=
  (Text.lines file).reverse.findSome? fun line => (readLine line).join.filter (·.name = name)

def pgValue (file name : Str) : Option Bytes := (pgSetting file name).map PgSetting.value

/-! ### The parts of a line -/

def escapesQuote : Str → Bool
  | '\\' :: c :: t => c == '\'' || escapesQuote t
  | _ :: t => escapesQuote t
  | [] => false

variable {t v rest line name token file content : Str} {s : PgSetting} {c : Char}

theorem exists_of_map_fst {f : Str → Str} {o : Option (Str × Str)}
    (h : o.map (fun r => (f r.1, r.2)) = some (content, rest)) :
    ∃ u, o = some (u, rest) ∧ content = f u := by
  obtain ⟨⟨u, r⟩, ho, heq⟩ := Option.map_eq_some_iff.mp h
  obtain ⟨rfl, rfl⟩ := Prod.mk.inj heq
  exact ⟨u, ho, rfl⟩

/-- A string is read up to the quote that closes it; without escaped quotes, every quote in it is
doubled. -/
theorem readQuoted_eq_some (h : readQuoted t = some (content, rest)) :
    t = content ++ '\'' :: rest ∧
      (escapesQuote (content ++ ['\'']) = false → ∃ v : Str, content = v.flatMap escape) := by
  fun_induction readQuoted t generalizing content with
  | case1 c s ih =>
    obtain ⟨u, hu, rfl⟩ := exists_of_map_fst (f := fun u => '\\' :: c :: u) h
    refine ⟨by rw [(ih hu).1]; rfl, fun hescapes => ?_⟩
    -- the escaped character is none of the quotes that are doubled
    obtain ⟨hc, hescapes⟩ : c ≠ '\'' ∧ escapesQuote (u ++ ['\'']) = false := by
      simpa [escapesQuote] using hescapes
    obtain ⟨v, rfl⟩ := (ih hu).2 hescapes
    exact ⟨'\\' :: c :: v, by simp [escape, hc]⟩
  | case2 s ih =>
    obtain ⟨u, hu, rfl⟩ := exists_of_map_fst (f := fun u => '\'' :: '\'' :: u) h
    refine ⟨by rw [(ih hu).1]; rfl, fun hescapes => ?_⟩
    obtain ⟨v, rfl⟩ := (ih hu).2 (by simpa [escapesQuote] using hescapes)
    exact ⟨'\'' :: v, by simp [escape]⟩
  | case3 s hs =>
    obtain ⟨rfl, rfl⟩ := Prod.mk.inj (Option.some.inj h)
    exact ⟨rfl, fun _ => ⟨[], rfl⟩⟩
  | case4 c s hescape hdouble hquote ih =>
    obtain ⟨u, hu, rfl⟩ := exists_of_map_fst (f := fun u => c :: u) h
    refine ⟨by rw [(ih hu).1]; rfl, fun hescapes => ?_⟩
    have hc : c ≠ '\\' := by
      rintro rfl
      cases s with
      | nil => cases hu
      | cons a s => exact hescape a s rfl rfl
    rw [List.cons_append, escapesQuote] at hescapes
    · obtain ⟨v, rfl⟩ := (ih hu).2 hescapes
      have hc' : c ≠ '\'' := hquote
      exact ⟨c :: v, by simp [escape, hc']⟩
    · exact fun _ _ heq => absurd heq hc
  | case5 => cases h

/-- A value as it is written: a string, or a word. -/
inductive Token : Str → Prop
  | quoted {content : Str}
      (doubled : escapesQuote (content ++ ['\'']) = false → ∃ v : Str, content = v.flatMap escape) :
      Token ('\'' :: content ++ ['\''])
  | bare {t : Str} (nonempty : t ≠ []) (chars : ∀ c ∈ t, isBareChar c = true) : Token t

theorem token_of_readToken (h : readToken t = some token) :
    ∃ rest, Token token ∧ t = token ++ rest ∧ endsLine rest = true := by
  unfold readToken at h
  split at h
  · next s =>
    obtain ⟨⟨content, rest⟩, hread, hend⟩ := Option.bind_eq_some_iff.mp h
    dsimp only at hend
    split at hend
    · next hends =>
      obtain rfl := Option.some.inj hend
      obtain ⟨hs, hdoubled⟩ := readQuoted_eq_some hread
      exact ⟨rest, .quoted hdoubled, by rw [hs]; simp, hends⟩
    · cases hend
  · dsimp only at h
    split at h
    · next hbare =>
      obtain rfl := Option.some.inj h
      refine ⟨_, .bare (fun hnil => ?_) fun c hc => List.mem_takeWhile_imp hc,
        List.takeWhile_append_dropWhile.symm, hbare.2⟩
      have hempty : isBareValue [] = false := rfl
      rw [hnil, hempty] at hbare
      cases hbare.1
    · cases h

/-- How a line with a setting is made up. -/
structure Layout (line : Str) (s : PgSetting) (indent gap sign rest : Str) : Prop where
  blank_indent : ∀ c ∈ indent, isBlank c = true
  word_ne : s.word ≠ []
  word_chars : ∀ c ∈ s.word, isBareChar c = true
  blank_gap : ∀ c ∈ gap, isBlank c = true
  signed : sign = [] ∧ s.signed = false ∨
    s.signed = true ∧ ∃ gap', (∀ c ∈ gap', isBlank c = true) ∧ sign = '=' :: gap'
  shape : Token s.token
  ends : endsLine rest = true
  parts : line = indent ++ s.word ++ gap ++ sign ++ s.token ++ rest

theorem layout_of_readLine (h : readLine line = some (some s)) :
    ∃ indent gap sign rest, Layout line s indent gap sign rest := by
  unfold readLine at h
  split at h
  · cases h
  · extract_lets body word text at h
    have hblank {t : Str} : ∀ c ∈ t.takeWhile isBlank, isBlank c = true :=
      fun c hc => List.mem_takeWhile_imp hc
    have hchars : ∀ c ∈ word, isBareChar c = true := fun c hc => by
      have : isUnquotedChar c = true := List.mem_takeWhile_imp hc
      simp [isBareChar, this]
    have hline : line = line.takeWhile isBlank ++ word ++
        (body.dropWhile isUnquotedChar).takeWhile isBlank ++ text := by
      rw [List.append_assoc, List.append_assoc, List.takeWhile_append_dropWhile,
        List.takeWhile_append_dropWhile, List.takeWhile_append_dropWhile]
    split at h
    · next hname =>
      have hne : word ≠ [] := fun hnil => by
        have hempty : (isIdentifier [] || isQualified []) = false := rfl
        rw [hnil, hempty] at hname
        cases hname
      split at h
      · next hsign =>
        obtain ⟨token, htoken, heq⟩ := Option.map_eq_some_iff.mp h
        obtain rfl := Option.some.inj heq
        obtain ⟨rest, hshape, hrest, hend⟩ := token_of_readToken htoken
        obtain ⟨after, hafter⟩ := List.head?_eq_some_iff.mp hsign
        refine ⟨line.takeWhile isBlank, (body.dropWhile isUnquotedChar).takeWhile isBlank,
          '=' :: text.tail.takeWhile isBlank, rest, hblank, hne, hchars, hblank,
          .inr ⟨rfl, _, hblank, rfl⟩, hshape, hend, ?_⟩
        rw [List.append_assoc _ token, ← hrest, List.append_assoc _ (_ :: _), List.cons_append,
          List.takeWhile_append_dropWhile, hafter, List.tail_cons, ← hafter]
        exact hline
      · obtain ⟨token, htoken, heq⟩ := Option.map_eq_some_iff.mp h
        obtain rfl := Option.some.inj heq
        obtain ⟨rest, hshape, hrest, hend⟩ := token_of_readToken htoken
        refine ⟨line.takeWhile isBlank, (body.dropWhile isUnquotedChar).takeWhile isBlank, [], rest,
          hblank, hne, hchars, hblank, .inl ⟨rfl, rfl⟩, hshape, hend, ?_⟩
        rw [List.append_nil, List.append_assoc _ token, ← hrest]
        exact hline
    · cases h

/-! ### The characters of a line -/

theorem isBlank_cases (h : isBlank c = true) : (c = ' ' ∨ c = '\t') ∨ c = '\r' := by
  simpa [isBlank] using h

theorem ne_of_isBlank (h : isBlank c = true) : c ≠ '=' ∧ c ≠ '#' ∧ c ≠ '\'' := by
  rcases isBlank_cases h with (rfl | rfl) | rfl <;> decide

theorem ne_of_isBareChar (h : isBareChar c = true) : c ≠ '=' ∧ c ≠ '#' ∧ c ≠ '\'' ∧ c ≠ '\\' := by
  refine ⟨?_, ?_, ?_, ?_⟩ <;> rintro rfl <;> exact absurd h (by decide)

variable {go : GoText}

theorem isSpace_of_isBlank (h : isBlank c = true) : go.isSpace c = true := by
  rcases isBlank_cases h with (rfl | rfl) | rfl <;> (rw [go.isSpace_ascii _ (by decide)]; decide)

theorem Layout.ne_of_mem {indent gap sign : Str} (h : Layout line s indent gap sign rest)
    (hc : c ∈ indent ++ s.word ++ gap) : c ≠ '=' ∧ c ≠ '#' := by
  have hblank (hc : isBlank c = true) : c ≠ '=' ∧ c ≠ '#' :=
    ⟨(ne_of_isBlank hc).1, (ne_of_isBlank hc).2.1⟩
  rcases List.mem_append.mp hc with hc | hc
  · rcases List.mem_append.mp hc with hc | hc
    · exact hblank (h.blank_indent c hc)
    · have hbare := ne_of_isBareChar (h.word_chars c hc)
      exact ⟨hbare.1, hbare.2.1⟩
  · exact hblank (h.blank_gap c hc)

/-! ## Lines as the operator reads them -/

theorem head?_of_endsLine (h : endsLine t = true) : t.head? ≠ some '\'' := by
  cases t with
  | nil => simp
  | cons c t =>
    intro heq
    obtain rfl : c = '\'' := by simpa using heq
    simp [endsLine, isBlank] at h

theorem endsLine_cases (h : endsLine t = true) :
    (∀ c ∈ t, isBlank c = true) ∨
      ∃ blanks comment, (∀ c ∈ blanks, isBlank c = true) ∧ t = blanks ++ '#' :: comment := by
  rcases hdrop : t.dropWhile isBlank with _ | ⟨c, rest⟩
  · exact .inl (List.dropWhile_eq_nil_iff.mp hdrop)
  · obtain rfl : c = '#' := by simpa [endsLine, hdrop] using h
    refine .inr ⟨t.takeWhile isBlank, rest, fun c hc => List.mem_takeWhile_imp hc, ?_⟩
    rw [← hdrop, List.takeWhile_append_dropWhile]

theorem stripInlineComment_append (h : ∀ c ∈ t, c ≠ '#' ∧ c ≠ '\'') (rest : Str) :
    stripInlineComment false (t ++ rest) = t ++ stripInlineComment false rest := by
  induction t with
  | nil => rfl
  | cons c t ih =>
    obtain ⟨⟨hhash, hquote⟩, hrest⟩ := List.forall_mem_cons.mp h
    rw [List.cons_append, stripInlineComment, ih hrest, List.cons_append]
    all_goals simp_all

theorem isSpace_of_mem_strip (h : endsLine t = true) :
    ∀ c ∈ stripInlineComment false (t.rdropWhile go.isSpace), go.isSpace c = true := by
  rcases endsLine_cases h with hblank | ⟨blanks, comment, hblank, rfl⟩
  · have hnil : t.rdropWhile go.isSpace = [] := List.rdropWhile_eq_nil_iff.mpr fun c hc =>
      isSpace_of_isBlank (hblank c hc)
    simp [hnil, stripInlineComment]
  · have hstop (s : Str) : stripInlineComment false ('#' :: s) = [] := by
      rw [stripInlineComment]
    rw [Text.rdropWhile_append_cons isSpace_hash,
      stripInlineComment_append fun c hc => (ne_of_isBlank (hblank c hc)).2, hstop, List.append_nil]
    exact fun c hc => isSpace_of_isBlank (hblank c hc)

/-- The operator finds the value where PostgreSQL does: no quote in it is escaped by a backslash, and
there is nothing at its ends that Go takes for white space. -/
structure Plain (go : GoText) (token : Str) : Prop where
  escapes : escapesQuote token = false
  trim : go.trimSpace token = token

instance (go : GoText) (token : Str) : Decidable (Plain go token) :=
  decidable_of_iff (escapesQuote token = false ∧ go.trimSpace token = token)
    ⟨fun h => ⟨h.1, h.2⟩, fun h => ⟨h.escapes, h.trim⟩⟩

theorem Plain.exists_last (h : Plain go token) (hne : token ≠ []) :
    ∃ front c, token = front ++ [c] ∧ go.isSpace c = false := by
  obtain ⟨front, c, rfl⟩ := (List.eq_nil_or_concat token).resolve_left hne
  rw [List.concat_eq_append] at h
  refine ⟨front, c, List.concat_eq_append, ?_⟩
  have hself : (front ++ [c]).rdropWhile go.isSpace = front ++ [c] := by
    have htrim := h.trim
    rw [GoText.trimSpace, Text.trim] at htrim
    rw [← htrim, List.rdropWhile_idempotent]
  simpa using List.rdropWhile_eq_self_iff.mp hself (by simp)

/-- The bytes PostgreSQL takes for a value the operator reads. -/
def storedValue (v : Str) : Bytes := (deescape 0 (v.flatMap escape)).takeWhile (· ≠ 0)

theorem deescape_of_bare (h : ∀ c ∈ t, isBareChar c = true) :
    deescape 0 (t.flatMap escape) = t.flatMap String.utf8EncodeChar := by
  induction t with
  | nil => rfl
  | cons c t ih =>
    obtain ⟨hc, ht⟩ := List.forall_mem_cons.mp h
    have hne := ne_of_isBareChar hc
    rw [List.flatMap_cons, escape, if_neg hne.2.2.1, List.singleton_append, deescape, ih ht,
      List.flatMap_cons]
    · exact hne.2.2.2
    · exact hne.2.2.1

theorem Token.cases_of_plain (h : Token token) (hplain : Plain go token) :
    (∃ v, token = quote v) ∨ ∀ c ∈ token, isBareChar c = true := by
  cases h with
  | quoted doubled =>
    have hescapes := hplain.escapes
    rw [List.cons_append, escapesQuote] at hescapes
    · obtain ⟨v, rfl⟩ := doubled hescapes
      exact .inl ⟨v, rfl⟩
    · exact fun _ _ heq => absurd heq (by decide)
  | bare _ chars => exact .inr chars

theorem Token.cases_head (h : Token token) :
    (∃ tail, token = '\'' :: tail) ∨ ∀ c ∈ token, isBareChar c = true := by
  cases h with
  | quoted => exact .inl ⟨_, rfl⟩
  | bare _ chars => exact .inr chars

theorem Token.ne_nil (h : Token token) : token ≠ [] := by
  cases h with
  | quoted => simp
  | bare nonempty => exact nonempty

theorem Token.strip (h : Token token) (hplain : Plain go token) (hrest : rest.head? ≠ some '\'') :
    stripInlineComment false (token ++ rest) = token ++ stripInlineComment false rest := by
  rcases h.cases_of_plain hplain with ⟨v, rfl⟩ | hchars
  · exact stripInlineComment_quote v hrest
  · exact stripInlineComment_append
      (fun c hc => ⟨(ne_of_isBareChar (hchars c hc)).2.1, (ne_of_isBareChar (hchars c hc)).2.2.1⟩) rest

theorem storedValue_unquoteValue (h : Token s.token) (hplain : Plain go s.token) :
    storedValue (unquoteValue go s.token) = s.value := by
  unfold PgSetting.value
  rcases h.cases_of_plain hplain with ⟨v, hv⟩ | hchars
  · rw [hv, unquoteValue_quote]
    change storedValue v = (deescape 0 (v.flatMap escape ++ ['\'']).dropLast).takeWhile _
    rw [List.dropLast_concat, storedValue]
  · have hquote : s.token.head? ≠ some '\'' := fun hhead =>
      (ne_of_isBareChar (hchars _ (List.mem_of_head? hhead))).2.2.1 rfl
    have hself : unquoteValue go s.token = s.token := by
      unfold unquoteValue
      dsimp only
      rw [hplain.trim, if_neg fun hquoted => hquote hquoted.2.1]
    split
    · next heq => exact absurd (by rw [heq]; rfl) hquote
    · rw [hself, storedValue, deescape_of_bare hchars]

/-- The value of a token, as the operator finds it at the end of a line. -/
theorem Token.unquote_line {gap : Str} (h : Token token) (hplain : Plain go token)
    (hend : endsLine rest = true) (hgap : ∀ c ∈ gap, isBlank c = true) :
    unquoteValue go (go.trimSpace (stripInlineComment false
      ((gap ++ (token ++ rest)).rdropWhile go.isSpace))) = unquoteValue go token := by
  have hfront : (gap ++ (token ++ rest)).rdropWhile go.isSpace =
      gap ++ (token ++ rest.rdropWhile go.isSpace) := by
    obtain ⟨front, c, htoken, hc⟩ := hplain.exists_last h.ne_nil
    have := Text.rdropWhile_append_cons hc (gap ++ front) rest
    simpa [htoken] using this
  have hhead : (rest.rdropWhile go.isSpace).head? ≠ some '\'' := by
    intro hquote
    obtain ⟨t, ht⟩ := List.head?_eq_some_iff.mp hquote
    obtain ⟨u, hu⟩ := List.rdropWhile_prefix go.isSpace rest
    exact head?_of_endsLine hend (by rw [← hu, ht]; rfl)
  have htrim : go.trimSpace token = go.trimSpace (gap ++ (token ++
      stripInlineComment false (rest.rdropWhile go.isSpace))) := by
    rw [GoText.trimSpace, GoText.trimSpace,
      Text.trim_append_left fun c hc => isSpace_of_isBlank (hgap c hc),
      Text.trim_append_right (isSpace_of_mem_strip hend)]
  rw [hfront, stripInlineComment_append fun c hc => (ne_of_isBlank (hgap c hc)).2,
    h.strip hplain hhead, ← htrim, unquoteValue_trimSpace]

/-- The value a line gives a name, as the operator reads it. -/
def lineValue (go : GoText) (name line : Str) : Option Str :=
  (assignment go line).bind fun e => if e.1 = name then some (unquoteValue go e.2) else none

/-- **A setting written with a `=`** is read by the operator under the name Go makes of its own, and if
it is plain, as PostgreSQL reads it. -/
theorem lineValue_of_signed (h : readLine line = some (some s)) (hsigned : s.signed = true) :
    (go.parameter s.word ≠ name → lineValue go name line = none) ∧
      (go.parameter s.word = name → name ≠ [] → Plain go s.token →
        ∃ v, lineValue go name line = some v ∧ storedValue v = s.value) := by
  obtain ⟨indent, gap, sign, rest, hlayout⟩ := layout_of_readLine h
  rcases hlayout.signed with ⟨-, hunsigned⟩ | ⟨-, gap', hgap', rfl⟩
  · rw [hsigned] at hunsigned
    cases hunsigned
  · have hsign : '=' ∉ indent ++ s.word ++ gap := fun hmem => (hlayout.ne_of_mem hmem).1 rfl
    have hhash : ((indent ++ s.word ++ gap).dropWhile go.isSpace).head? ≠ some '#' := fun hhead =>
      (hlayout.ne_of_mem ((List.dropWhile_sublist _).subset (List.mem_of_head? hhead))).2 rfl
    have htrim : go.trimSpace (indent ++ s.word ++ gap) = go.trimSpace s.word := by
      rw [GoText.trimSpace,
        Text.trim_append_right fun c hc => isSpace_of_isBlank (hlayout.blank_gap c hc),
        Text.trim_append_left fun c hc => isSpace_of_isBlank (hlayout.blank_indent c hc),
        GoText.trimSpace]
    have hline : line = indent ++ s.word ++ gap ++ '=' :: (gap' ++ (s.token ++ rest)) := by
      rw [hlayout.parts]
      simp
    have hassign : assignment go line = _ :=
      hline ▸ assignment_append_eq hsign (gap' ++ (s.token ++ rest))
    rw [htrim] at hassign
    rw [lineValue, hassign]
    constructor
    · intro hne
      split_ifs with hnone
      · rfl
      · exact if_neg hne
    · intro hname hne hplain
      have hword : go.trimSpace s.word ≠ [] := fun hnil => hne (by
        rw [← hname, GoText.parameter, hnil]
        rfl)
      rw [if_neg (not_or.mpr ⟨hhash, hword⟩), Option.bind_some]
      dsimp only
      rw [← GoText.parameter, if_pos hname, hlayout.shape.unquote_line hplain hlayout.ends hgap']
      exact ⟨_, rfl, storedValue_unquoteValue hlayout.shape hplain⟩

/-- No name of a parameter has a quote or the sign of a comment in it. -/
def Word (name : Str) : Prop := '\'' ∉ name ∧ '#' ∉ name

theorem exists_append_of_notMem {s u pre post : Str} (hs : '=' ∉ s)
    (h : s ++ u = pre ++ '=' :: post) : ∃ pre', pre = s ++ pre' ∧ u = pre' ++ '=' :: post := by
  rcases List.append_eq_append_iff.mp h with ⟨pre', hpre, hu⟩ | ⟨t, hs', ht⟩
  · exact ⟨pre', hpre, hu⟩
  · cases t with
    | nil => exact ⟨[], by simpa using hs'.symm, by simpa using ht.symm⟩
    | cons a t =>
      obtain ⟨rfl, -⟩ := List.cons.inj ht
      exact absurd (by rw [hs']; simp) hs

/-- **A setting written without a `=`** is read by the operator under no name of a parameter. -/
theorem not_word_of_unsigned {raw : Str} (h : readLine line = some (some s))
    (hsigned : s.signed = false) (hassign : assignment go line = some (name, raw)) :
    ¬ Word name := by
  obtain ⟨pre, post, hline, hpre, rfl⟩ := names_of_assignment hassign
  obtain ⟨indent, gap, sign, rest, hlayout⟩ := layout_of_readLine h
  have hmem {c : Char} (hspace : go.isSpace c = false) (hlower : go.toLower c = c) (hc : c ∈ pre) :
      c ∈ go.lower (go.trimSpace pre) :=
    List.mem_map.mpr ⟨c, Text.mem_trim_of_mem hc hspace, hlower⟩
  rcases hlayout.signed with ⟨rfl, -⟩ | ⟨hsign, -⟩
  · -- the first sign stands in a string or in a comment
    have hfront : '=' ∉ indent ++ s.word ++ gap := fun hmem => (hlayout.ne_of_mem hmem).1 rfl
    have hcut : indent ++ s.word ++ gap ++ (s.token ++ rest) = pre ++ '=' :: post := by
      rw [← hline, hlayout.parts]
      simp
    obtain ⟨pre', rfl, hrest⟩ := exists_append_of_notMem hfront hcut
    intro hword
    rcases hlayout.shape.cases_head with ⟨tail, htoken⟩ | hbare
    · rw [htoken] at hrest
      obtain ⟨pre'', rfl, -⟩ := exists_append_of_notMem (s := ['\'']) (by decide) hrest
      exact hword.1 (hmem isSpace_quote toLower_quote (by simp))
    · have htoken : '=' ∉ s.token := fun hmem => (ne_of_isBareChar (hbare _ hmem)).1 rfl
      obtain ⟨pre'', rfl, hcomment⟩ := exists_append_of_notMem htoken hrest
      rcases endsLine_cases hlayout.ends with hblank | ⟨blanks, comment, hblank, rfl⟩
      · exact (ne_of_isBlank (hblank '=' (by rw [hcomment]; simp))).1 rfl
      · have hblanks : '=' ∉ blanks ++ ['#'] := fun hmem => by
          rcases List.mem_append.mp hmem with hmem | hmem
          · exact (ne_of_isBlank (hblank _ hmem)).1 rfl
          · exact absurd (List.mem_singleton.mp hmem) (by decide)
        rw [List.append_cons] at hcomment
        obtain ⟨pre₃, rfl, -⟩ := exists_append_of_notMem hblanks hcomment
        exact hword.2 (hmem isSpace_hash toLower_hash (by simp))
  · rw [hsigned] at hsign
    cases hsign

theorem assignment_of_blank (h : readLine line = some none) : assignment go line = none := by
  have hend : endsLine line = true := by
    by_contra hne
    rw [readLine, if_neg hne] at h
    extract_lets body word text at h
    split_ifs at h <;> simp at h
  rcases endsLine_cases hend with hblank | ⟨blanks, comment, hblank, rfl⟩
  · have hnil : go.trimSpace line = [] :=
      Text.trim_eq_nil fun c hc => isSpace_of_isBlank (hblank c hc)
    simp [assignment, hnil]
  · have htrim : go.trimSpace (blanks ++ '#' :: comment) = go.trimSpace ('#' :: comment) :=
      Text.trim_append_left (fun c hc => isSpace_of_isBlank (hblank c hc)) _
    have hcomment : assignment go ('#' :: comment) = none := assignment_comment comment
    rw [assignment] at hcomment ⊢
    rwa [htrim]

/-! ## Files -/

theorem get_effectiveSettings_lines (file name : Str) :
    (effectiveSettings go file).get name =
      (Text.lines file).reverse.findSome? (lineValue go name) := by
  rw [get_effectiveSettings, parseEffectiveConfig, assignments, List.filterMap_eq_flatMap_toList,
    Table.get_ofList_flatMap, List.map_findSome?]
  refine congrArg (List.findSome? · _) (funext fun line => ?_)
  rw [lineValue, Function.comp_apply]
  rcases assignment go line with _ | e
  · rfl
  · have hone : Table.ofList (some e).toList = (∅ : Table Str Str).set e.1 e.2 := rfl
    rw [hone, Table.get_set, Option.bind_some]
    by_cases h : e.1 = name
    · rw [if_pos h, if_pos h.symm, Option.map_some]
    · rw [if_neg h, if_neg (Ne.symm h)]
      rfl

theorem pgSetting_eq_some (h : pgSetting file name = some s) :
    ∃ after line before, (Text.lines file).reverse = after ++ line :: before ∧
      readLine line = some (some s) ∧ s.name = name ∧
      ∀ later ∈ after, ∀ s', readLine later = some (some s') → s'.name ≠ name := by
  obtain ⟨after, line, before, hsplit, hread, hafter⟩ := List.findSome?_eq_some_iff.mp h
  obtain ⟨hjoin, hname⟩ := Option.filter_eq_some_iff.mp hread
  refine ⟨after, line, before, hsplit, Option.join_eq_some_iff.mp hjoin, by simpa using hname, ?_⟩
  intro later hlater s' hs' heq
  have hnone := hafter later hlater
  rw [hs', Option.join_some, Option.filter_eq_none_iff] at hnone
  simpa [heq] using hnone s' rfl

theorem name_of_readLine (h : readLine line = some (some s)) : s.name ≠ [] ∧ Word s.name := by
  obtain ⟨indent, gap, sign, rest, hlayout⟩ := layout_of_readLine h
  have hchar {d : Char} (hd : d.toNat < 65) (hmem : d ∈ s.name) : isBareChar d = true := by
    obtain ⟨c, hc, hlower⟩ := List.mem_map.mp hmem
    rw [← toLower_eq_of_lt hd hlower]
    exact hlayout.word_chars c hc
  refine ⟨fun hnil => hlayout.word_ne (List.map_eq_nil_iff.mp hnil), ?_, ?_⟩
  · exact fun hmem => (ne_of_isBareChar (hchar (by decide) hmem)).2.2.1 rfl
  · exact fun hmem => (ne_of_isBareChar (hchar (by decide) hmem)).2.1 rfl

theorem lineValue_eq_none (hname : Word name) (hline : readLine line ≠ none)
    (h : ∀ s, readLine line = some (some s) → s.signed = true → go.parameter s.word ≠ name) :
    lineValue go name line = none := by
  obtain ⟨read, hread⟩ := Option.ne_none_iff_exists'.mp hline
  rcases read with _ | s
  · rw [lineValue, assignment_of_blank hread]
    rfl
  · rcases hsigned : s.signed with _ | _
    · rcases hassign : assignment go line with _ | ⟨key, raw⟩
      · rw [lineValue, hassign]
        rfl
      · rw [lineValue, hassign, Option.bind_some]
        exact if_neg fun heq : key = name =>
          not_word_of_unsigned hread hsigned hassign (heq ▸ hname)
    · exact (lineValue_of_signed hread hsigned).1 (h s hread hsigned)

/-- The operator may read the name otherwise than PostgreSQL: its setting has no `=` or is not plain, or
Go does not tell its name from another one as PostgreSQL does. -/
def ReadOtherwise (go : GoText) (file name : Str) : Prop :=
  (∃ s, pgSetting file name = some s ∧ ¬ (s.signed = true ∧ Plain go s.token)) ∨
    ∃ line ∈ Text.lines file, ∃ s, readLine line = some (some s) ∧ s.signed = true ∧
      ¬ (go.parameter s.word = name ↔ s.name = name)

/-- **The other names** have the value in PostgreSQL that the operator reads. -/
theorem pgValue_eq_effective (hfile : WellFormed file) (hname : Word name)
    (h : ¬ ReadOtherwise go file name) :
    pgValue file name = ((effectiveSettings go file).get name).map storedValue := by
  obtain ⟨hplain, hsame⟩ := not_or.mp h
  -- a line of another name gives the name no value
  have hother {line : Str} (hline : line ∈ (Text.lines file).reverse)
      (hne : ∀ s, readLine line = some (some s) → s.name ≠ name) : lineValue go name line = none := by
    refine lineValue_eq_none hname (hfile line (List.mem_reverse.mp hline)) fun s hs hsigned heq => ?_
    by_contra
    exact hsame ⟨line, List.mem_reverse.mp hline, s, hs, hsigned, fun hiff => hne s hs (hiff.mp heq)⟩
  rw [get_effectiveSettings_lines, pgValue]
  rcases hpg : pgSetting file name with _ | s
  · have hnone : (Text.lines file).reverse.findSome? (lineValue go name) = none := by
      refine List.findSome?_eq_none_iff.mpr fun line hline => hother hline fun s hs => ?_
      simpa [hs] using List.findSome?_eq_none_iff.mp hpg line hline
    rw [hnone]
    rfl
  · obtain ⟨after, line, before, hsplit, hline, hs, hafter⟩ := pgSetting_eq_some hpg
    have hmem : line ∈ Text.lines file := by
      rw [← List.mem_reverse, hsplit]
      simp
    obtain ⟨hsigned, htoken⟩ : s.signed = true ∧ Plain go s.token := by
      by_contra hne
      exact hplain ⟨s, hpg, hne⟩
    have hparameter : go.parameter s.word = name := by
      by_contra hne
      exact hsame ⟨line, hmem, s, hline, hsigned, fun hiff => hne (hiff.mpr hs)⟩
    obtain ⟨v, hv, hvalue⟩ := (lineValue_of_signed hline hsigned).2 hparameter
      (hs ▸ (name_of_readLine hline).1) htoken
    have hfound : (Text.lines file).reverse.findSome? (lineValue go name) = some v := by
      refine List.findSome?_eq_some_iff.mpr ⟨after, line, before, hsplit, hv, fun later hlater => ?_⟩
      exact hother (by rw [hsplit]; exact List.mem_append_left _ hlater) (hafter later hlater)
    rw [hfound, Option.map_some, Option.map_some, hvalue]

/-! ## Changes -/

/-- A line with a `=` gives a name a value: the name stands before the first `=`, and the value is what
follows without its comment and out of quotes. -/
def SignedLine (go : GoText) (name value line : Str) : Prop :=
  ∃ pre post, line = pre ++ '=' :: post ∧ '=' ∉ pre ∧
    (pre.dropWhile go.isSpace).head? ≠ some '#' ∧ go.trimSpace pre ≠ [] ∧ go.parameter pre = name ∧
    unquoteValue go (stripInlineComment false (post.rdropWhile go.isSpace)) = value

/-- The last line of a file with a `=` for the name gives it the value. -/
def WrittenWithSign (go : GoText) (file name value : Str) : Prop :=
  ∃ before line after, Text.lines file = before ++ line :: after ∧ SignedLine go name value line ∧
    ∀ later ∈ after, ∀ other, ¬ SignedLine go name other later

theorem lineValue_eq_some_iff {value : Str} :
    lineValue go name line = some value ↔ SignedLine go name value line := by
  constructor
  · intro h
    obtain ⟨⟨key, raw⟩, hassign, hvalue⟩ := Option.bind_eq_some_iff.mp h
    dsimp only at hvalue
    split at hvalue
    · next hkey =>
      obtain ⟨pre, post, rfl, hpre, -⟩ := names_of_assignment hassign
      rw [assignment_append_eq hpre] at hassign
      split at hassign
      · cases hassign
      · next hne =>
        obtain ⟨rfl, rfl⟩ := Prod.mk.inj (Option.some.inj hassign)
        rw [unquoteValue_trimSpace] at hvalue
        exact ⟨pre, post, rfl, hpre, fun hhash => hne (.inl hhash), fun hnil => hne (.inr hnil), hkey,
          Option.some.inj hvalue⟩
    · cases hvalue
  · rintro ⟨pre, post, rfl, hpre, hhash, hnil, rfl, rfl⟩
    rw [lineValue, assignment_append hpre hhash hnil, Option.bind_some, unquoteValue_trimSpace]
    exact if_pos rfl

theorem writtenWithSign_iff {value : Str} :
    WrittenWithSign go file name value ↔ (effectiveSettings go file).get name = some value := by
  rw [get_effectiveSettings_lines, List.findSome?_eq_some_iff]
  have hnone (line : Str) : lineValue go name line = none ↔
      ∀ other, ¬ SignedLine go name other line := by
    rw [Option.eq_none_iff_forall_ne_some]
    exact forall_congr' fun other => not_congr lineValue_eq_some_iff
  constructor
  · rintro ⟨before, line, after, hsplit, hline, hafter⟩
    refine ⟨after.reverse, line, before.reverse, by simp [hsplit], lineValue_eq_some_iff.mpr hline, ?_⟩
    exact fun later hlater => (hnone later).mpr (hafter later (List.mem_reverse.mp hlater))
  · rintro ⟨after, line, before, hsplit, hline, hafter⟩
    refine ⟨before.reverse, line, after.reverse, ?_, lineValue_eq_some_iff.mp hline, ?_⟩
    · rw [← List.reverse_reverse (Text.lines file), hsplit]
      simp
    · exact fun later hlater => (hnone later).mp (hafter later (List.mem_reverse.mp hlater))

theorem hashes_eq_iff_written {catalog : Catalog} {sha256 : Bytes → Vector UInt8 32} {file' : Str}
    (hlines : go.KeepsLines) (hsigns : go.KeepsSigns)
    (hapart : DigestsApart go catalog sha256 [file, file']) :
    ((stampAndSplit go catalog sha256 file).2.restartHash =
        (stampAndSplit go catalog sha256 file').2.restartHash ∧
      (stampAndSplit go catalog sha256 file).2.reloadHash =
        (stampAndSplit go catalog sha256 file').2.reloadHash) ↔
      ∀ name value, WrittenWithSign go file name value ↔ WrittenWithSign go file' name value := by
  refine (hashes_eq_iff hlines hsigns hapart).trans (forall_congr' fun name => ?_)
  simp only [writtenWithSign_iff]
  exact Option.ext_iff

/-- What PostgreSQL makes of a name that is read alike depends on what the operator reads. -/
theorem pgValue_eq_of_written {file' : Str} (hfile : WellFormed file) (hfile' : WellFormed file')
    (halike : ¬ ReadOtherwise go file name) (halike' : ¬ ReadOtherwise go file' name)
    (hsame : ∀ value, WrittenWithSign go file name value ↔ WrittenWithSign go file' name value) :
    pgValue file name = pgValue file' name := by
  by_cases hword : Word name
  · have hget : (effectiveSettings go file).get name = (effectiveSettings go file').get name := by
      refine Option.ext fun value => ?_
      rw [← writtenWithSign_iff, hsame, writtenWithSign_iff]
    rw [pgValue_eq_effective hfile hword halike, pgValue_eq_effective hfile' hword halike', hget]
  · -- no file has a setting under another name
    have hnone (f : Str) : pgValue f name = none := by
      rcases hpg : pgSetting f name with _ | s
      · rw [pgValue, hpg, Option.map_none]
      · obtain ⟨_, _, _, -, hline, rfl, -⟩ := pgSetting_eq_some hpg
        exact absurd (name_of_readLine hline).2 hword
    rw [hnone, hnone]

/-- **When a change is noticed.** For two referenced bodies with the same baseline and inline settings:
a difference in what PostgreSQL reads from the two files changes a hash exactly if either something
written with a `=` differs, or no setting that the operator may read otherwise than PostgreSQL does. -/
theorem changes_noticed_iff (go : GoText) (catalog : Catalog) (sha256 : Bytes → Vector UInt8 32)
    (hlines : go.KeepsLines) (hsigns : go.KeepsSigns) (cfg : Config) (m : Table Str Str)
    (ref ref' : Str) (hapart : DigestsApart go catalog sha256 [render cfg ref m, render cfg ref' m])
    (hread : WellFormed (render cfg ref m)) (hread' : WellFormed (render cfg ref' m)) :
    ((∃ name, pgValue (render cfg ref m) name ≠ pgValue (render cfg ref' m) name) →
      ¬ ((stampAndSplit go catalog sha256 (render cfg ref m)).2.restartHash =
          (stampAndSplit go catalog sha256 (render cfg ref' m)).2.restartHash ∧
        (stampAndSplit go catalog sha256 (render cfg ref m)).2.reloadHash =
          (stampAndSplit go catalog sha256 (render cfg ref' m)).2.reloadHash)) ↔
    (¬ (∀ name value, WrittenWithSign go (render cfg ref m) name value ↔
        WrittenWithSign go (render cfg ref' m) name value) ∨
      ∀ name, ReadOtherwise go (render cfg ref m) name ∨ ReadOtherwise go (render cfg ref' m) name →
        pgValue (render cfg ref m) name = pgValue (render cfg ref' m) name) := by
  generalize render cfg ref m = file at *
  generalize render cfg ref' m = file' at *
  rw [hashes_eq_iff_written hlines hsigns hapart]
  constructor
  · intro h
    by_cases hsame : ∀ name value,
        WrittenWithSign go file name value ↔ WrittenWithSign go file' name value
    · refine .inr fun name _ => ?_
      by_contra hne
      exact h ⟨name, hne⟩ hsame
    · exact .inl hsame
  · rintro (hdiffer | hagree) ⟨name, hne⟩ hsame
    · exact hdiffer hsame
    · refine hne ?_
      by_cases hother : ReadOtherwise go file name ∨ ReadOtherwise go file' name
      · exact hagree name hother
      · obtain ⟨halike, halike'⟩ := not_or.mp hother
        exact pgValue_eq_of_written hread hread' halike halike' (hsame name)

/-- PostgreSQL reads on behind an escaped quote, where the operator sees a comment. -/
example :
    ((readLine "a = '\\' # b'".toList).join.map PgSetting.value ≠
      (readLine "a = '\\' # c'".toList).join.map PgSetting.value) ∧
    assignment .ascii "a = '\\' # b'".toList = assignment .ascii "a = '\\' # c'".toList := by
  decide +kernel

namespace Sample

def indexDigest (texts : List Bytes) (text : Bytes) : Vector UInt8 32 :=
  Vector.replicate 32 (UInt8.ofNat (texts.idxOf text))

theorem injOn_indexDigest {texts : List Bytes} (hlength : texts.length ≤ 256) :
    Set.InjOn (indexDigest texts) {text | text ∈ texts} := by
  intro a ha b hb h
  have hbyte : UInt8.ofNat (texts.idxOf a) = UInt8.ofNat (texts.idxOf b) := by
    simpa [indexDigest] using congrArg (fun v : Vector UInt8 32 => v[0]) h
  have ha' := List.idxOf_lt_length_iff.mpr ha
  have hb' := List.idxOf_lt_length_iff.mpr hb
  have hindex : texts.idxOf a = texts.idxOf b := by
    have hnat := congrArg UInt8.toNat hbyte
    rwa [UInt8.toNat_ofNat', UInt8.toNat_ofNat', Nat.mod_eq_of_lt (by omega),
      Nat.mod_eq_of_lt (by omega)] at hnat
  exact (List.idxOf_inj ha).mp hindex

def digestTexts (files : List Str) : List Bytes :=
  files.flatMap fun file => [digestText (restartOnly .ascii workMemCatalog file),
    digestText (reloadSafe .ascii workMemCatalog file)]

theorem digestsApart_index (files : List Str) (hlength : (digestTexts files).length ≤ 256) :
    DigestsApart .ascii workMemCatalog (indexDigest (digestTexts files)) files := by
  refine (injOn_indexDigest hlength).mono ?_
  rintro text ⟨file, hfile, htext⟩
  refine List.mem_flatMap.mpr ⟨file, hfile, ?_⟩
  rcases htext with rfl | rfl <;> simp

def timeoutName : Str := "statement_timeout".toList

/-- A setting with a `=` and a plain value, whose name Go reads as PostgreSQL does. -/
def ordinary (s : PgSetting) : Bool :=
  s.signed && decide (Plain .ascii s.token) && GoText.ascii.parameter s.word == s.name

theorem readLine_baseTemplate : ∀ line ∈ Text.lines (baseTemplate defaults), readLine line ≠ none ∧
    (readLine line).join.all (fun s => ordinary s && s.name ≠ timeoutName) = true := by
  unfold baseTemplate templateHead templateTail timeoutName
  -- nested to the right, the text is read in one go
  simp only [List.flatMap_cons, List.append_assoc]
  repeat rewrite [chars_ofList]
  rewrite [defaults]
  dsimp only
  repeat rewrite [chars_ofList]
  rewrite [String.toList_ofList]
  decide +kernel

def bodyFile (body : Str) : Str := render defaults body ∅

def bodyHeading : Str := "# postgresConfigRef".toList

variable {body : Str}

theorem render_body (hline : '\n' ∉ body) (hne : body ≠ []) (cfg : Config) :
    render cfg body ∅ = bodyHeading ++ '\n' :: (body ++ '\n' :: ([] ++ '\n' :: baseTemplate cfg)) := by
  have htrim : body.rdropWhile (· = '\n') = body := List.rdropWhile_eq_self_iff.mpr fun hne => by
    simpa using fun heq : body.getLast hne = '\n' => hline (heq ▸ List.getLast_mem hne)
  have hempty : (∅ : Table Str Str).items = [] := rfl
  unfold render renderBase bodyHeading
  generalize baseTemplate cfg = base
  rw [if_neg (not_not.mpr hempty)]
  simp [htrim, hne]

theorem lines_bodyFile (hline : '\n' ∉ body) (hne : body ≠ []) :
    Text.lines (bodyFile body) =
      bodyHeading :: body :: [] :: Text.lines (baseTemplate defaults) := by
  rw [bodyFile, render_body hline hne]
  generalize baseTemplate defaults = base
  rw [Text.lines_append_newline, Text.lines_append_newline, Text.lines_append_newline,
    Text.lines_of_notMem hline, Text.lines_of_notMem (by decide +kernel), Text.lines_nil]
  rfl

/-- A body of one line with a setting. -/
structure SettingBody (body : Str) (s : PgSetting) : Prop where
  line : '\n' ∉ body
  ne : body ≠ []
  read : readLine body = some (some s)

variable {s s' : PgSetting} {line : Str}

theorem SettingBody.mem_lines (h : SettingBody body s) (hmem : line ∈ Text.lines (bodyFile body)) :
    readLine line = some none ∨ line = body ∨ line ∈ Text.lines (baseTemplate defaults) := by
  have hheading : readLine bodyHeading = some none := by decide +kernel
  rw [lines_bodyFile h.line h.ne] at hmem
  rcases List.mem_cons.mp hmem with rfl | hmem
  · exact .inl hheading
  rcases List.mem_cons.mp hmem with rfl | hmem
  · exact .inr (.inl rfl)
  rcases List.mem_cons.mp hmem with rfl | hmem
  · exact .inl rfl
  · exact .inr (.inr hmem)

theorem SettingBody.wellFormed (h : SettingBody body s) : WellFormed (bodyFile body) := by
  intro line hmem
  rcases h.mem_lines hmem with hnone | rfl | hmem
  · simp [hnone]
  · simp [h.read]
  · exact (readLine_baseTemplate line hmem).1

theorem reverse_three {α : Type} (a b c : α) (l : List α) :
    (a :: b :: c :: l).reverse = (c :: l).reverse ++ b :: [a] := by simp

theorem SettingBody.pgSetting (h : SettingBody body s) (hname : s.name = timeoutName) :
    pgSetting (bodyFile body) timeoutName = some s := by
  rw [PostgresConfig.pgSetting, lines_bodyFile h.line h.ne, reverse_three, List.findSome?_eq_some_iff]
  refine ⟨_, body, [bodyHeading], rfl, by rw [h.read]; simp [hname], fun later hlater => ?_⟩
  -- no later line is about the timeout
  rw [Option.filter_eq_none_iff]
  intro s' hs'
  rcases List.mem_cons.mp (List.mem_reverse.mp hlater) with rfl | hmem
  · cases hs'
  · have hall := (readLine_baseTemplate later hmem).2
    rw [hs', Option.all_some] at hall
    simpa using (Bool.and_eq_true_iff.mp hall).2

theorem SettingBody.not_readOtherwise (h : SettingBody body s) (hs : ordinary s = true) (name : Str) :
    ¬ ReadOtherwise .ascii (bodyFile body) name := by
  have hall {line : Str} {s' : PgSetting} (hmem : line ∈ Text.lines (bodyFile body))
      (hread : readLine line = some (some s')) :
      (s'.signed = true ∧ Plain .ascii s'.token) ∧ GoText.ascii.parameter s'.word = s'.name := by
    have hordinary : ordinary s' = true := by
      rcases h.mem_lines hmem with hnone | rfl | hmem
      · cases hnone.symm.trans hread
      · cases h.read.symm.trans hread
        exact hs
      · have hall := (readLine_baseTemplate line hmem).2
        rw [hread, Option.join_some, Option.all_some] at hall
        exact (Bool.and_eq_true_iff.mp hall).1
    simpa [ordinary] using hordinary
  rintro (⟨s', hs', hplain⟩ | ⟨line, hmem, s', hread, -, hiff⟩)
  · obtain ⟨after, line, before, hsplit, hread, -, -⟩ := pgSetting_eq_some hs'
    have hmem : line ∈ Text.lines (bodyFile body) := by
      rw [← List.mem_reverse, hsplit]
      simp
    exact hplain (hall hmem hread).1
  · exact hiff (by rw [(hall hmem hread).2])

theorem SettingBody.pgValue_ne {body' : Str} (h : SettingBody body s) (h' : SettingBody body' s')
    (hname : s.name = timeoutName) (hname' : s'.name = timeoutName) (hne : s.value ≠ s'.value) :
    pgValue (bodyFile body) timeoutName ≠ pgValue (bodyFile body') timeoutName := by
  rw [pgValue, h.pgSetting hname, pgValue, h'.pgSetting hname']
  exact fun heq => hne (Option.some.inj heq)

theorem get_bodyFile_of_unread (hline : '\n' ∉ body) (hne : body ≠ [])
    (hbody : assignment .ascii body = none) (name : Str) :
    (effectiveSettings .ascii (bodyFile body)).get name =
      (effectiveSettings .ascii (baseTemplate defaults)).get name := by
  have hvalue {line : Str} (h : assignment .ascii line = none) : lineValue .ascii name line = none := by
    rw [lineValue, h, Option.bind_none]
  have hheading : assignment .ascii bodyHeading = none := by decide +kernel
  have hempty : assignment .ascii [] = none := rfl
  rw [get_effectiveSettings_lines, get_effectiveSettings_lines, lines_bodyFile hline hne,
    reverse_three, List.reverse_cons]
  generalize (Text.lines (baseTemplate defaults)).reverse = base
  simp [List.findSome?_append, hvalue hheading, hvalue hempty, hvalue hbody]

/-- A timeout, written without and with the sign. -/
def unsignedTimeout (minutes : Char) : Str :=
  "statement_timeout ".toList ++ minutes :: "min".toList

def signedTimeout (minutes : Char) : Str :=
  "statement_timeout = ".toList ++ minutes :: "min".toList

end Sample

section

open PostgresConfig.Sample

/-- **A change without a `=` goes unnoticed**: a timeout in the referenced body is raised, on a line
without the sign, and both hashes stay. -/
theorem unsigned_change_unnoticed :
    ∃ (go : GoText) (catalog : Catalog) (sha256 : Bytes → Vector UInt8 32) (cfg : Config)
      (m : Table Str Str) (ref ref' : Str), go.KeepsLines ∧ go.KeepsSigns ∧
      DigestsApart go catalog sha256 [render cfg ref m, render cfg ref' m] ∧
      WellFormed (render cfg ref m) ∧ WellFormed (render cfg ref' m) ∧
      (∃ name, pgValue (render cfg ref m) name ≠ pgValue (render cfg ref' m) name) ∧
      (stampAndSplit go catalog sha256 (render cfg ref m)).2.restartHash =
        (stampAndSplit go catalog sha256 (render cfg ref' m)).2.restartHash ∧
      (stampAndSplit go catalog sha256 (render cfg ref m)).2.reloadHash =
        (stampAndSplit go catalog sha256 (render cfg ref' m)).2.reloadHash := by
  have hread (minutes : Char) (h : minutes = '5' ∨ minutes = '8') :
      SettingBody (unsignedTimeout minutes) ⟨timeoutName, minutes :: "min".toList, false⟩ ∧
      assignment .ascii (unsignedTimeout minutes) = none := by
    rcases h with rfl | rfl <;> exact ⟨⟨by decide +kernel, by decide +kernel, by decide +kernel⟩,
      by decide +kernel⟩
  obtain ⟨hbody, hunread⟩ := hread '5' (.inl rfl)
  obtain ⟨hbody', hunread'⟩ := hread '8' (.inr rfl)
  have hapart := digestsApart_index
    [bodyFile (unsignedTimeout '5'), bodyFile (unsignedTimeout '8')] (by simp [digestTexts])
  have hhashes := (hashes_eq_iff keepsLines_ascii keepsSigns_ascii hapart).mpr fun name => by
    rw [get_bodyFile_of_unread hbody.line hbody.ne hunread,
      get_bodyFile_of_unread hbody'.line hbody'.ne hunread']
  refine ⟨.ascii, workMemCatalog, _, defaults, ∅, unsignedTimeout '5', unsignedTimeout '8',
    keepsLines_ascii, keepsSigns_ascii, hapart, hbody.wellFormed, hbody'.wellFormed,
    ⟨timeoutName, hbody.pgValue_ne hbody' rfl rfl (by decide)⟩, ?_⟩
  unfold stampAndSplit
  dsimp only
  exact hhashes

/-- A change of a timeout that is written with a `=` changes a hash. -/
theorem changes_noticed_signed :
    pgValue (bodyFile (signedTimeout '5')) timeoutName ≠
      pgValue (bodyFile (signedTimeout '8')) timeoutName ∧
    ∃ sha256, ¬ ((stampAndSplit .ascii workMemCatalog sha256 (bodyFile (signedTimeout '5'))).2.restartHash =
        (stampAndSplit .ascii workMemCatalog sha256 (bodyFile (signedTimeout '8'))).2.restartHash ∧
      (stampAndSplit .ascii workMemCatalog sha256 (bodyFile (signedTimeout '5'))).2.reloadHash =
        (stampAndSplit .ascii workMemCatalog sha256 (bodyFile (signedTimeout '8'))).2.reloadHash) := by
  have hread (minutes : Char) (h : minutes = '5' ∨ minutes = '8') :
      SettingBody (signedTimeout minutes) ⟨timeoutName, minutes :: "min".toList, true⟩ := by
    rcases h with rfl | rfl <;> exact ⟨by decide +kernel, by decide +kernel, by decide +kernel⟩
  have hbody := hread '5' (.inl rfl)
  have hbody' := hread '8' (.inr rfl)
  have hapart := digestsApart_index
    [bodyFile (signedTimeout '5'), bodyFile (signedTimeout '8')] (by simp [digestTexts])
  have hdiffer := hbody.pgValue_ne hbody' rfl rfl (by decide)
  have hnoticed := (changes_noticed_iff .ascii workMemCatalog _ keepsLines_ascii keepsSigns_ascii
    defaults ∅ (signedTimeout '5') (signedTimeout '8') hapart hbody.wellFormed hbody'.wellFormed).mpr
      (.inr fun name hother => by
        rcases hother with hother | hother
        · exact absurd hother (hbody.not_readOtherwise (by decide +kernel) name)
        · exact absurd hother (hbody'.not_readOtherwise (by decide +kernel) name))
  exact ⟨hdiffer, _, hnoticed ⟨timeoutName, hdiffer⟩⟩

end

end MultigresOperator.PostgresConfig

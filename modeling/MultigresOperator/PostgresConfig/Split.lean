import MultigresOperator.Lib.Encoding
import MultigresOperator.PostgresConfig.Quote

/-!
# Restart and reload settings

The settings of a rendered postgresql.conf fall in two parts: those that need a restart, and those a
reload applies. Each part has a hash. The hash of the second is stamped into the file as the value
of a marker, which makes a file verifiable: two files with one marker agree on every setting a
reload applies, also on those one of them does not have.

## Main definitions

* `requiresRestart`, `reloadSafe`: the classification, and the settings of a file that a reload
  applies
* `hashSettings`: the hash of a map of settings
* `stampAndSplit`: the stamped file, the hashes and the settings a reload is asked to verify
* `Carries`: a file has the settings a reload expects

## Main results

* `reloadSafe_stamp`: the marker does not change the settings it stands for
* `get_marker_stamp`: a stamped file has its hash as the value of the marker
* `reloadHash_of_carries`: a file that carries what a reload expects has the expected hash
* `get_eq_of_hashSettings_eq`: settings with one hash are the same
-/

namespace MultigresOperator.PostgresConfig

open Encoding

def restartContexts : GucContext → Bool
  | .postmaster | .internal | .backend | .superuserBackend => true
  | .sighup | .superuser | .user => false

/-- `RequiresRestart`: names with a dot and unknown names are taken to need a restart. -/
def requiresRestart (go : GoText) (catalog : Catalog) (name : Str) : Bool :=
  let lower := go.lower (go.trimSpace name)
  if '.' ∈ lower then true
  else match catalog.entries.lookup lower with
    | none => true
    | some entry => restartContexts entry.context

/-- What is digested of a map of settings: its entries in the order of their names. -/
def digestText (m : Table Str Str) : Bytes :=
  utf8 (String.ofList (Text.entryLines (sortedEntries m)))

/-- `hashSettings`: the digest of the entries in the order of their names. -/
def hashSettings (sha256 : Bytes → Vector UInt8 32) (m : Table Str Str) : Str :=
  hexText (sha256 (digestText m)).toList

def reloadMarkerGUC : Str := chars "multigres.config_reload_marker"

def markerLine (reloadHash : Str) : Str :=
  reloadMarkerGUC ++ ' ' :: '=' :: ' ' :: '\'' :: reloadHash ++ ['\'']

def reloadMarkerLine (reloadHash : Str) : Str :=
  '\n' :: chars "# Operator-managed config-version marker; do not edit." ++
    '\n' :: markerLine reloadHash ++ ['\n']

structure ConfigSplit where
  restartHash : Str
  reloadHash : Str
  reloadSettings : Table Str Str

section

variable (go : GoText) (catalog : Catalog) (sha256 : Bytes → Vector UInt8 32)

/-- The settings of a file that need a restart. -/
def restartOnly (file : Str) : Table Str Str :=
  (parseEffectiveConfig go file).select (requiresRestart go catalog) (unquoteValue go)

/-- The settings of a file that a reload applies. -/
def reloadSafe (file : Str) : Table Str Str :=
  (parseEffectiveConfig go file).select (fun name => !requiresRestart go catalog name)
    (unquoteValue go)

def reloadHash (file : Str) : Str := hashSettings sha256 (reloadSafe go catalog file)

def stampAndSplit (rendered : Str) : Str × ConfigSplit :=
  let hash := reloadHash go catalog sha256 rendered
  (rendered ++ reloadMarkerLine hash,
    { restartHash := hashSettings sha256 (restartOnly go catalog rendered)
      reloadHash := hash
      reloadSettings := (reloadSafe go catalog rendered).set reloadMarkerGUC hash })

/-- The file, as PostgreSQL lists it, has every expected setting. -/
def Carries (file : Str) (expected : Table Str Str) : Prop :=
  ∀ e ∈ expected, ((parseEffectiveConfig go file).get e.1).map (unquoteValue go) = some e.2

instance (file : Str) (expected : Table Str Str) : Decidable (Carries go file expected) :=
  inferInstanceAs (Decidable (∀ e ∈ expected.items, _))

end

variable {go : GoText} {catalog : Catalog} {sha256 : Bytes → Vector UInt8 32}

/-! ## The marker -/

variable {c : Char} {hash file : Str} {e : Str × Str}

theorem notMem_reloadHash (hc : c.isAlphanum = false) (m : Table Str Str) :
    c ∉ hashSettings sha256 m := fun h => by
  have := isAlphanum_of_mem_hexText h
  rw [hc] at this
  cases this

theorem parameter_marker : go.parameter reloadMarkerGUC = reloadMarkerGUC := by
  have hascii : Ascii reloadMarkerGUC := by
    rw [reloadMarkerGUC, chars_ofList]
    decide
  have hascii' : Ascii (GoText.ascii.trimSpace reloadMarkerGUC) := by
    rw [reloadMarkerGUC, chars_ofList]
    decide +kernel
  rw [GoText.parameter, hascii.trimSpace, hascii'.lower, reloadMarkerGUC, chars_ofList]
  decide +kernel

theorem markerLine_eq (h : '\'' ∉ hash) : markerLine hash = entryText (reloadMarkerGUC, hash) := by
  rw [markerLine, entryText, quote, flatMap_escape h, String.toList_ofList]
  simp

theorem oneLine_marker (h : '\n' ∉ hash) : OneLine (reloadMarkerGUC, hash) := by
  have hname : '\n' ∉ reloadMarkerGUC ∧ '=' ∉ reloadMarkerGUC ∧ '#' ∉ reloadMarkerGUC := by
    rw [reloadMarkerGUC, chars_ofList]
    decide
  exact ⟨hname.1, h, hname.2.1, hname.2.2⟩

theorem assignment_markerLine (hquote : '\'' ∉ hash) (hnewline : '\n' ∉ hash) :
    assignment go (markerLine hash) = some (reloadMarkerGUC, '\'' :: hash ++ ['\'']) := by
  have hname : go.trimSpace reloadMarkerGUC ≠ [] := by
    intro hnil
    have hlower : go.parameter reloadMarkerGUC = [] := by rw [GoText.parameter, hnil]; rfl
    rw [parameter_marker, reloadMarkerGUC, chars_ofList] at hlower
    cases hlower
  rw [markerLine_eq hquote, assignment_entryText (oneLine_marker hnewline) hname, parameter_marker,
    quote, flatMap_escape hquote]

/-- **The stamped file** is read as the file with the marker set last. -/
theorem parse_stamp (rendered : Str) :
    parseEffectiveConfig go (stampAndSplit go catalog sha256 rendered).1 =
      (parseEffectiveConfig go rendered).set reloadMarkerGUC
        ('\'' :: reloadHash go catalog sha256 rendered ++ ['\'']) := by
  have hquote : '\'' ∉ reloadHash go catalog sha256 rendered := notMem_reloadHash (by decide) _
  have hhash : '\n' ∉ reloadHash go catalog sha256 rendered := notMem_reloadHash (by decide) _
  have hnewline : '\n' ∉ markerLine (reloadHash go catalog sha256 rendered) := by
    rw [markerLine_eq hquote]
    exact newline_notMem_entryText (oneLine_marker hhash)
  have hcomment : assignments go (chars "# Operator-managed config-version marker; do not edit.") =
      [] := by
    rw [chars_ofList, assignments, Text.lines_of_notMem (by decide),
      List.filterMap_cons_none (assignment_comment _)]
    rfl
  have hlast : assignments go (markerLine (reloadHash go catalog sha256 rendered)) =
      [(reloadMarkerGUC, '\'' :: reloadHash go catalog sha256 rendered ++ ['\''])] := by
    rw [assignments, Text.lines_of_notMem hnewline,
      List.filterMap_cons_some (assignment_markerLine hquote hhash)]
    rfl
  have hempty : assignments go [] = [] := rfl
  have htext : (stampAndSplit go catalog sha256 rendered).1 = rendered ++ '\n' ::
      (chars "# Operator-managed config-version marker; do not edit." ++ '\n' ::
        (markerLine (reloadHash go catalog sha256 rendered) ++ '\n' :: [])) := by
    simp [stampAndSplit, reloadMarkerLine]
  rw [parseEffectiveConfig, htext, assignments_append_newline, assignments_append_newline,
    assignments_append_newline, hcomment, hlast, hempty, List.nil_append, List.append_nil,
    Table.ofList_concat, parseEffectiveConfig]

theorem requiresRestart_marker : requiresRestart go catalog reloadMarkerGUC = true := by
  have hdot : '.' ∈ go.lower (go.trimSpace reloadMarkerGUC) := by
    change '.' ∈ go.parameter reloadMarkerGUC
    rw [parameter_marker, reloadMarkerGUC, chars_ofList]
    decide
  unfold requiresRestart
  dsimp only
  rw [if_pos hdot]

/-- **The marker stays out of the settings it stands for.** -/
theorem reloadSafe_stamp (rendered : Str) :
    reloadSafe go catalog (stampAndSplit go catalog sha256 rendered).1 =
      reloadSafe go catalog rendered := by
  rw [reloadSafe, parse_stamp, Table.select_set _ _ _ _ (by simp [requiresRestart_marker]),
    reloadSafe]

theorem reloadHash_stamp (rendered : Str) :
    reloadHash go catalog sha256 (stampAndSplit go catalog sha256 rendered).1 =
      reloadHash go catalog sha256 rendered := by
  rw [reloadHash, reloadSafe_stamp, reloadHash]

/-- **A stamped file** has its hash as the value of the marker. -/
theorem get_marker_stamp (rendered : Str) :
    ((parseEffectiveConfig go (stampAndSplit go catalog sha256 rendered).1).get
      reloadMarkerGUC).map (unquoteValue go) = some (reloadHash go catalog sha256 rendered) := by
  have hquote : '\'' ∉ reloadHash go catalog sha256 rendered := notMem_reloadHash (by decide) _
  have hvalue : unquoteValue go (quote (reloadHash go catalog sha256 rendered)) = _ :=
    unquoteValue_quote _
  rw [quote, flatMap_escape hquote] at hvalue
  rw [parse_stamp, Table.get_set, if_pos rfl, Option.map_some, hvalue]

/-- **What a reload verifies**: a stamped file that carries the settings expected for another has the
hash of the other. -/
theorem reloadHash_of_carries {rendered expected : Str}
    (h : Carries go (stampAndSplit go catalog sha256 rendered).1
      (stampAndSplit go catalog sha256 expected).2.reloadSettings) :
    reloadHash go catalog sha256 rendered = reloadHash go catalog sha256 expected := by
  have hmarker := h (reloadMarkerGUC, reloadHash go catalog sha256 expected)
    (Table.mem_set.mpr (.inl rfl))
  rw [get_marker_stamp] at hmarker
  exact Option.some.inj hmarker

theorem carries_stamp (rendered : Str) :
    Carries go (stampAndSplit go catalog sha256 rendered).1
      (stampAndSplit go catalog sha256 rendered).2.reloadSettings := by
  intro e he
  rcases Table.mem_set.mp he with rfl | ⟨hmem, hne⟩
  · exact get_marker_stamp rendered
  · obtain ⟨value, hvalue, -, heq⟩ := Table.mem_select.mp hmem
    rw [parse_stamp, Table.get_set, if_neg hne, Table.get_eq_some.mpr hvalue, Option.map_some, heq]

/-! ## What a hash determines -/

/-- Lowering a character does not make it a newline. -/
def GoText.KeepsLines (go : GoText) : Prop := ∀ c, go.toLower c = '\n' → c = '\n'

theorem toLower_eq_of_lt {d : Char} (hd : d.toNat < 65) (h : c.toLower = d) : c = d := by
  unfold Char.toLower at h
  split at h
  · next hupper =>
    have hval : (c.val + ('a'.val - 'A'.val)).toNat = d.toNat := congrArg (·.val.toNat) h
    have := UInt32.le_iff_toNat_le.mp hupper.1
    have := UInt32.le_iff_toNat_le.mp hupper.2
    rw [UInt32.toNat_add] at hval
    simp at *
    omega
  · exact h

theorem keepsLines_ascii : GoText.ascii.KeepsLines := fun _ => toLower_eq_of_lt (by decide)

theorem mem_of_mem_undouble {t : Str} (h : c ∈ undouble t) : c ∈ t := by
  fun_induction undouble t <;> simp_all <;> tauto

theorem mem_of_mem_unquoteValue {v : Str} (h : c ∈ unquoteValue go v) : c ∈ v := by
  unfold unquoteValue at h
  dsimp only at h
  split at h
  · have hmem := List.mem_of_mem_dropLast (mem_of_mem_undouble h)
    exact Text.mem_trim (List.mem_of_mem_tail hmem)
  · exact Text.mem_trim h

theorem notMem_name_of_reloadSafe {name : Str} (h : requiresRestart go catalog name = false) :
    '=' ∉ name := by
  intro hmem
  have hlower : '=' ∈ go.lower (go.trimSpace name) := by
    refine List.mem_map.mpr ⟨'=', Text.mem_trim_of_mem hmem isSpace_eq, ?_⟩
    rw [go.toLower_ascii _ (by decide)]
    decide
  unfold requiresRestart at h
  dsimp only at h
  split at h
  · cases h
  · split at h
    · cases h
    · next entry hentry =>
      have hall := catalog.names _ (Assoc.mem_of_lookup hentry)
      exact absurd (List.all_eq_true.mp hall _ hlower) (by decide)

theorem newline_notMem_of_mem_parse (hlines : go.KeepsLines) (h : e ∈ parseEffectiveConfig go file) :
    '\n' ∉ e.1 ∧ '\n' ∉ e.2 := by
  obtain ⟨line, hline, hassign⟩ := List.mem_filterMap.mp (Table.mem_of_mem_ofList h)
  have hnewline := Text.newline_notMem_of_mem_lines hline
  unfold assignment at hassign
  dsimp only at hassign
  split at hassign
  · cases hassign
  · split at hassign
    · cases hassign
    · next key val hcut =>
      split at hassign
      · cases hassign
      · obtain rfl := Option.some.inj hassign
        have htrimmed := (Text.cut_eq_some.mp hcut).1
        have hof {c : Char} (hc : c ∈ key ++ '=' :: val) : c ∈ line :=
          Text.mem_trim (p := go.isSpace) (by rw [GoText.trimSpace] at htrimmed; rwa [htrimmed])
        constructor
        · intro hmem
          obtain ⟨c, hc, hlower⟩ := List.mem_map.mp hmem
          obtain rfl := hlines c hlower
          exact hnewline (hof (by simp [Text.mem_trim hc]))
        · intro hmem
          have hval := mem_of_mem_stripInlineComment (Text.mem_trim hmem)
          exact hnewline (hof (by simp [hval]))

theorem clean_of_mem_reloadSafe (hlines : go.KeepsLines) (h : e ∈ reloadSafe go catalog file) :
    '=' ∉ e.1 ∧ '\n' ∉ e.1 ∧ '\n' ∉ e.2 := by
  obtain ⟨name, value⟩ := e
  obtain ⟨raw, hraw, hsafe, rfl⟩ := Table.mem_select.mp h
  have ⟨hname, hvalue⟩ := newline_notMem_of_mem_parse hlines hraw
  exact ⟨notMem_name_of_reloadSafe (by simpa using hsafe), hname,
    fun hmem => hvalue (mem_of_mem_unquoteValue hmem)⟩

/-- **Settings with one digest are the same**, unless the digest has a collision. -/
theorem get_eq_of_hashSettings_eq {s t : Table Str Str}
    (hs : ∀ e ∈ s, '=' ∉ e.1 ∧ '\n' ∉ e.1 ∧ '\n' ∉ e.2)
    (ht : ∀ e ∈ t, '=' ∉ e.1 ∧ '\n' ∉ e.1 ∧ '\n' ∉ e.2)
    (collisionFree : Set.InjOn sha256 {digestText s, digestText t})
    (h : hashSettings sha256 s = hashSettings sha256 t) (name : Str) : s.get name = t.get name := by
  have hdigest := Vector.toList_inj.mp (hexText_injective h)
  have htext := utf8_inj.mp (collisionFree (.inl rfl) (.inr rfl) hdigest)
  have hlist := String.ofList_inj.mp htext
  have hread {m : Table Str Str} (hm : ∀ e ∈ m, '=' ∉ e.1 ∧ '\n' ∉ e.1 ∧ '\n' ∉ e.2) :=
    Text.filterMap_cut_entryLines fun e he => hm e (mem_sortedEntries.mp he)
  have hentries : sortedEntries s = sortedEntries t := by
    rw [← hread hs, hlist, hread ht]
  refine Option.ext fun value => ?_
  rw [Table.get_eq_some, Table.get_eq_some, ← mem_sortedEntries, hentries, mem_sortedEntries]

theorem get_eq_of_reloadHash_eq (hlines : go.KeepsLines) {a b : Str}
    (collisionFree : Set.InjOn sha256 {text | ∃ file ∈ [a, b],
      text = utf8 (String.ofList (Text.entryLines (sortedEntries (reloadSafe go catalog file))))})
    (h : reloadHash go catalog sha256 a = reloadHash go catalog sha256 b) (name : Str) :
    (reloadSafe go catalog a).get name = (reloadSafe go catalog b).get name := by
  refine get_eq_of_hashSettings_eq (fun e he => clean_of_mem_reloadSafe hlines he)
    (fun e he => clean_of_mem_reloadSafe hlines he) (collisionFree.mono ?_) h name
  rintro text (rfl | rfl)
  · exact ⟨a, by simp, rfl⟩
  · exact ⟨b, by simp, rfl⟩

end MultigresOperator.PostgresConfig

import MultigresOperator.PostgresConfig.RoundTrip

/-!
# The hashes of a file

The restart hash and the reload hash of a file together stand for its effective settings: they are
equal for two files exactly if the files have the same settings. The marker that a stamped file ends
with is made from the reload hash. The hashes are taken before it is appended; taken again from the
stamped file, the reload hash is the same, but the marker has a dot in its name and counts as a
setting that needs a restart.

## Main results

* `hashes_eq_iff`: two files have the same hashes exactly if they have the same settings
* `get_restartOnly_stamp`: the restart settings of a stamped file
* `config_hashes_exact`: the hashes, the settings sent along, and the marker
* `marker_moves_restart_hash`: the restart hash of a stamped file is another one
-/

namespace MultigresOperator.PostgresConfig

open Encoding

def restartHash (go : GoText) (catalog : Catalog) (sha256 : Bytes → Vector UInt8 32) (file : Str) :
    Str :=
  hashSettings sha256 (restartOnly go catalog file)

/-- Lowering a character does not make it the sign of an assignment. -/
def GoText.KeepsSigns (go : GoText) : Prop := ∀ c, go.toLower c = '=' → c = '='

/-- The digests of the settings of the files do not collide. -/
def DigestsApart (go : GoText) (catalog : Catalog) (sha256 : Bytes → Vector UInt8 32)
    (files : List Str) : Prop :=
  Set.InjOn sha256 {text | ∃ file ∈ files, text = digestText (restartOnly go catalog file) ∨
    text = digestText (reloadSafe go catalog file)}

variable {go : GoText} {catalog : Catalog} {sha256 : Bytes → Vector UInt8 32}

theorem sign_notMem_of_mem_parse (hsigns : go.KeepsSigns) {file : Str} {e : Str × Str}
    (h : e ∈ parseEffectiveConfig go file) : '=' ∉ e.1 := by
  obtain ⟨line, -, hassign⟩ := List.mem_filterMap.mp (Table.mem_of_mem_ofList h)
  obtain ⟨pre, post, -, hpre, hname⟩ := names_of_assignment hassign
  intro hmem
  rw [← hname] at hmem
  obtain ⟨c, hc, hlower⟩ := List.mem_map.mp hmem
  obtain rfl := hsigns c hlower
  exact hpre (Text.mem_trim hc)

theorem clean_of_mem_restartOnly (hlines : go.KeepsLines) (hsigns : go.KeepsSigns) {file : Str}
    {e : Str × Str} (h : e ∈ restartOnly go catalog file) :
    '=' ∉ e.1 ∧ '\n' ∉ e.1 ∧ '\n' ∉ e.2 := by
  obtain ⟨name, value⟩ := e
  obtain ⟨raw, hraw, -, rfl⟩ := Table.mem_select.mp h
  have ⟨hname, hvalue⟩ := newline_notMem_of_mem_parse hlines hraw
  have hsign := sign_notMem_of_mem_parse hsigns hraw
  exact ⟨hsign, hname, fun hmem => hvalue (mem_of_mem_unquoteValue hmem)⟩

theorem hashSettings_congr {s t : Table Str Str} (h : ∀ name, s.get name = t.get name) :
    hashSettings sha256 s = hashSettings sha256 t := by
  rw [hashSettings, digestText, sortedEntries_congr h, hashSettings, digestText]

/-- **Two files have the same hashes** exactly if they have the same settings. -/
theorem hashes_eq_iff (hlines : go.KeepsLines) (hsigns : go.KeepsSigns) {a b : Str}
    (hapart : DigestsApart go catalog sha256 [a, b]) :
    (restartHash go catalog sha256 a = restartHash go catalog sha256 b ∧
      reloadHash go catalog sha256 a = reloadHash go catalog sha256 b) ↔
      ∀ name, (effectiveSettings go a).get name = (effectiveSettings go b).get name := by
  constructor
  · rintro ⟨hrestart, hreload⟩ name
    have hrestart' : (restartOnly go catalog a).get name = (restartOnly go catalog b).get name := by
      refine get_eq_of_hashSettings_eq (fun e he => clean_of_mem_restartOnly hlines hsigns he)
        (fun e he => clean_of_mem_restartOnly hlines hsigns he) (hapart.mono ?_) hrestart name
      rintro text (rfl | rfl)
      · exact ⟨a, by simp, .inl rfl⟩
      · exact ⟨b, by simp, .inl rfl⟩
    have hreload' : (reloadSafe go catalog a).get name = (reloadSafe go catalog b).get name := by
      refine get_eq_of_reloadHash_eq hlines (hapart.mono ?_) hreload name
      rintro text ⟨file, hfile, rfl⟩
      exact ⟨file, hfile, .inr rfl⟩
    -- every setting is in one of the two parts
    rw [get_restartOnly, get_restartOnly] at hrestart'
    rw [get_reloadSafe, get_reloadSafe] at hreload'
    by_cases hname : requiresRestart go catalog name = true
    · simpa only [if_pos hname] using hrestart'
    · simpa only [if_neg hname] using hreload'
  · intro h
    constructor
    · refine hashSettings_congr fun name => ?_
      rw [get_restartOnly, get_restartOnly, h]
    · refine hashSettings_congr fun name => ?_
      rw [get_reloadSafe, get_reloadSafe, h]

/-- **The restart settings of a stamped file** are those of the file, and the marker. -/
theorem get_restartOnly_stamp (rendered name : Str) :
    (restartOnly go catalog (stampAndSplit go catalog sha256 rendered).1).get name =
      if name = reloadMarkerGUC then some (reloadHash go catalog sha256 rendered)
      else (restartOnly go catalog rendered).get name := by
  rw [get_restartOnly]
  split_ifs with hrestart hmarker hmarker
  · rw [hmarker, get_effectiveSettings, get_marker_stamp]
  · rw [get_effectiveSettings, parse_stamp, Table.get_set, if_neg hmarker, get_restartOnly,
      if_pos hrestart, get_effectiveSettings]
  · rw [hmarker] at hrestart
    exact absurd requiresRestart_marker hrestart
  · rw [get_restartOnly, if_neg hrestart]

/-- **The hashes are exact.** They are equal for two files exactly if the effective settings are;
every setting sent along with a reload, the marker included, is effective in the file returned; and
the hashes returned are those of the file before the marker is appended. Taken from the stamped file
the reload hash is the same, while the marker counts as one more setting that needs a restart. -/
theorem config_hashes_exact (go : GoText) (catalog : Catalog) (sha256 : Bytes → Vector UInt8 32)
    (hlines : go.KeepsLines) (hsigns : go.KeepsSigns) :
    (∀ a b, DigestsApart go catalog sha256 [a, b] →
      (((stampAndSplit go catalog sha256 a).2.restartHash =
          (stampAndSplit go catalog sha256 b).2.restartHash ∧
        (stampAndSplit go catalog sha256 a).2.reloadHash =
          (stampAndSplit go catalog sha256 b).2.reloadHash) ↔
        ∀ name, (effectiveSettings go a).get name = (effectiveSettings go b).get name)) ∧
    (∀ rendered, ∀ e ∈ (stampAndSplit go catalog sha256 rendered).2.reloadSettings,
      (effectiveSettings go (stampAndSplit go catalog sha256 rendered).1).get e.1 = some e.2) ∧
    ∀ rendered, let stamped := (stampAndSplit go catalog sha256 rendered).1
      (stampAndSplit go catalog sha256 rendered).2.restartHash =
        restartHash go catalog sha256 rendered ∧
      (stampAndSplit go catalog sha256 rendered).2.reloadHash =
        reloadHash go catalog sha256 rendered ∧
      reloadHash go catalog sha256 stamped = reloadHash go catalog sha256 rendered ∧
      ∀ name, (restartOnly go catalog stamped).get name =
        if name = reloadMarkerGUC then some (reloadHash go catalog sha256 rendered)
        else (restartOnly go catalog rendered).get name := by
  refine ⟨fun a b hapart => hashes_eq_iff hlines hsigns hapart, ?_, ?_⟩
  · intro rendered e he
    rw [get_effectiveSettings]
    exact carries_stamp rendered e he
  · exact fun rendered => ⟨rfl, rfl, reloadHash_stamp rendered, get_restartOnly_stamp rendered⟩

theorem keepsSigns_ascii : GoText.ascii.KeepsSigns := fun _ => toLower_eq_of_lt (by decide)

namespace Sample

/-- A digest that tells the empty text from the others. -/
def emptiness (text : Bytes) : Vector UInt8 32 := Vector.replicate 32 (if text = [] then 0 else 1)

/-- One setting, written plainly and with capitals, quotes and a comment. -/
def plainFile : Str := "work_mem = 4MB".toList

def decoratedFile : Str := "WORK_MEM='4MB' # ours".toList

end Sample

section

open PostgresConfig.Sample

theorem injOn_emptiness (text : Bytes) : Set.InjOn emptiness {[], text} := by
  have hzero (t : Bytes) (h : emptiness t = emptiness []) : t = [] := by
    by_contra hne
    have hbyte := congrArg (fun v : Vector UInt8 32 => v[0]) h
    simp [emptiness, hne] at hbyte
  rw [Set.injOn_pair]
  exact fun h => (hzero _ h.symm).symm

/-- The hashes of two files that write one setting in different ways are equal. -/
theorem config_hashes_exact_rewritten :
    DigestsApart .ascii workMemCatalog emptiness [plainFile, decoratedFile] ∧
      plainFile ≠ decoratedFile ∧
      (stampAndSplit .ascii workMemCatalog emptiness plainFile).2.reloadHash =
        (stampAndSplit .ascii workMemCatalog emptiness decoratedFile).2.reloadHash := by
  have hrestart : digestText (restartOnly .ascii workMemCatalog plainFile) = [] ∧
      digestText (restartOnly .ascii workMemCatalog decoratedFile) = [] := by decide +kernel
  have hreload : digestText (reloadSafe .ascii workMemCatalog plainFile) ≠ [] ∧
      digestText (reloadSafe .ascii workMemCatalog plainFile) =
        digestText (reloadSafe .ascii workMemCatalog decoratedFile) := by decide +kernel
  have hsettings : effectiveSettings .ascii plainFile = effectiveSettings .ascii decoratedFile := by
    decide +kernel
  have hapart : DigestsApart .ascii workMemCatalog emptiness [plainFile, decoratedFile] := by
    refine (injOn_emptiness (digestText (reloadSafe .ascii workMemCatalog plainFile))).mono ?_
    rintro text ⟨file, hfile, htext⟩
    have hcases : file = plainFile ∨ file = decoratedFile := by simpa using hfile
    rcases hcases with rfl | rfl <;> rcases htext with rfl | rfl
    · exact .inl hrestart.1
    · exact .inr rfl
    · exact .inl hrestart.2
    · exact .inr hreload.2.symm
  refine ⟨hapart, by decide +kernel, ?_⟩
  have hexact := config_hashes_exact .ascii workMemCatalog emptiness keepsLines_ascii keepsSigns_ascii
  exact ((hexact.1 plainFile decoratedFile hapart).mpr fun name => by rw [hsettings]).2

/-- **The marker moves the restart hash**: taken again from the stamped file, it is another one. -/
theorem marker_moves_restart_hash :
    ∃ (go : GoText) (catalog : Catalog) (sha256 : Bytes → Vector UInt8 32) (rendered : Str),
      go.KeepsLines ∧ go.KeepsSigns ∧
      DigestsApart go catalog sha256 [rendered, (stampAndSplit go catalog sha256 rendered).1] ∧
      restartHash go catalog sha256 (stampAndSplit go catalog sha256 rendered).1 ≠
        restartHash go catalog sha256 rendered := by
  refine ⟨.ascii, workMemCatalog, emptiness, [], keepsLines_ascii, keepsSigns_ascii, ?_, ?_⟩
  · refine (injOn_emptiness (digestText (restartOnly .ascii workMemCatalog
      (stampAndSplit .ascii workMemCatalog emptiness []).1))).mono ?_
    have hempty : digestText (restartOnly .ascii workMemCatalog []) = [] ∧
        digestText (reloadSafe .ascii workMemCatalog []) = [] := by decide +kernel
    rintro text ⟨file, hfile, htext⟩
    have hcases : file = [] ∨ file = (stampAndSplit .ascii workMemCatalog emptiness []).1 := by
      simpa using hfile
    rcases hcases with rfl | rfl <;> rcases htext with rfl | rfl
    · exact .inl hempty.1
    · exact .inl hempty.2
    · exact .inr rfl
    · rw [reloadSafe_stamp]
      exact .inl hempty.2
  · decide +kernel

end

end MultigresOperator.PostgresConfig

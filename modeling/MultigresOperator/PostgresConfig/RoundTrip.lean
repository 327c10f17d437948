import MultigresOperator.PostgresConfig.Managed
import MultigresOperator.PostgresConfig.Split

/-!
# Inline settings are read back

Rendering the inline settings of a shard and reading the file again gives the settings back, and
changes no other setting of the file.

## Main results

* `get_restartOnly`, `get_reloadSafe`: the two parts are those of the effective settings
* `inline_settings_round_trip`: inline settings are read back, and nothing else changes
-/

namespace MultigresOperator.PostgresConfig

variable {go : GoText} {catalog : Catalog}

theorem trimSpace_ne_nil_of_validateGUC {name value : Str}
    (h : validateGUC go catalog name value = .ok ()) : go.trimSpace name ≠ [] := by
  by_cases hdot : '.' ∈ name
  · have hspace : go.isSpace '.' = false := by
      rw [go.isSpace_ascii _ (by decide)]
      decide
    exact List.ne_nil_of_mem (Text.mem_trim_of_mem hdot hspace)
  · obtain ⟨entry, hentry⟩ := (known_of_validateGUC h hdot).2
    intro hnil
    exact catalog.nonempty _ (Assoc.mem_of_lookup hentry) (by rw [hnil]; rfl)

/-! ## Effective settings -/

/-- The settings of a file with their values out of quotes. -/
def effectiveSettings (go : GoText) (file : Str) : Table Str Str :=
  (parseEffectiveConfig go file).mapValues (unquoteValue go)

theorem get_effectiveSettings (file name : Str) :
    (effectiveSettings go file).get name =
      ((parseEffectiveConfig go file).get name).map (unquoteValue go) :=
  Table.get_mapValues _ _ _

theorem get_restartOnly (file name : Str) :
    (restartOnly go catalog file).get name =
      if requiresRestart go catalog name then (effectiveSettings go file).get name else none := by
  rw [restartOnly, Table.get_select, get_effectiveSettings]

theorem get_reloadSafe (file name : Str) :
    (reloadSafe go catalog file).get name =
      if requiresRestart go catalog name then none else (effectiveSettings go file).get name := by
  rw [reloadSafe, Table.get_select, get_effectiveSettings]
  cases requiresRestart go catalog name <;> rfl

/-- **Inline settings are read back.** A map of settings that is accepted, with every setting on a
line of its own and no two for one parameter, gives each of its parameters the value in the map and
every other parameter the one it has without the map. The settings that need a restart and those a
reload applies are together the settings of the file. -/
theorem inline_settings_round_trip (go : GoText) (catalog : Catalog) (cfg : Config) (ref : Str)
    (m : Table Str Str) (haccepted : validate go catalog m = .ok ()) (hline : ∀ e ∈ m, OneLine e)
    (hdistinct : ∀ e ∈ m, ∀ e' ∈ m, go.parameter e.1 = go.parameter e'.1 → e.1 = e'.1) :
    (∀ e ∈ m, (effectiveSettings go (render cfg ref m)).get (go.parameter e.1) = some e.2) ∧
    (∀ name, (∀ e ∈ m, go.parameter e.1 ≠ name) →
      (effectiveSettings go (render cfg ref m)).get name =
        (effectiveSettings go (render cfg ref ∅)).get name) ∧
    ∀ name value, (effectiveSettings go (render cfg ref m)).get name = some value ↔
      ((restartOnly go catalog (render cfg ref m)).get name = some value ∧
        (reloadSafe go catalog (render cfg ref m)).get name = none) ∨
      ((reloadSafe go catalog (render cfg ref m)).get name = some value ∧
        (restartOnly go catalog (render cfg ref m)).get name = none) := by
  have hname : ∀ e ∈ m, go.trimSpace e.1 ≠ [] := fun e he =>
    trimSpace_ne_nil_of_validateGUC (validate_eq_ok.mp haccepted e he)
  refine ⟨fun e he => ?_, fun name hother => ?_, fun name value => ?_⟩
  · rw [get_effectiveSettings, get_render, get_inline hline hname hdistinct he, Option.some_or,
      Option.map_some, unquoteValue_quote]
  · have hnone : writeSortedMap ∅ = [] := rfl
    rw [get_effectiveSettings, get_render, get_inline_eq_none hline hname hother,
      get_effectiveSettings, get_render, hnone]
    rfl
  · rw [get_restartOnly, get_reloadSafe]
    cases requiresRestart go catalog name <;> simp

namespace Sample

/-- The value of a setting with quotes, a backslash, a comment sign and an assignment in it. -/
def trickyValue : Str := "it's 'C:\\tmp' # work_mem = 1 ".toList

def trickySettings : Table Str Str :=
  Table.ofList [("app.note".toList, trickyValue), (" Work_Mem ".toList, "4MB".toList)]

end Sample

section

open PostgresConfig.Sample

/-- A value with quotes, a backslash and a comment sign is read back over every baseline. -/
theorem inline_settings_round_trip_tricky :
    validate .ascii workMemCatalog trickySettings = .ok () ∧ ∀ cfg ref,
      (effectiveSettings .ascii (render cfg ref trickySettings)).get "app.note".toList =
        some trickyValue := by
  have hvalid : validate .ascii workMemCatalog trickySettings = .ok () := by decide +kernel
  have hline : ∀ e ∈ trickySettings.items, OneLine e := by decide +kernel
  have hdistinct : ∀ e ∈ trickySettings.items, ∀ e' ∈ trickySettings.items,
      GoText.ascii.parameter e.1 = GoText.ascii.parameter e'.1 → e.1 = e'.1 := by decide +kernel
  have hmem : ("app.note".toList, trickyValue) ∈ trickySettings.items := by decide +kernel
  have hname : GoText.ascii.parameter "app.note".toList = "app.note".toList := by decide +kernel
  refine ⟨hvalid, fun cfg ref => ?_⟩
  have hround := inline_settings_round_trip .ascii workMemCatalog cfg ref trickySettings hvalid hline
    hdistinct
  have hread := hround.1 _ hmem
  rwa [hname] at hread

end

end MultigresOperator.PostgresConfig

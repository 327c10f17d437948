import MultigresOperator.PostgresConfig.RoundTrip
import MultigresOperator.Webhook.Validator

/-!
# The layers of PostgreSQL settings

The settings of a shard come from its template, the overrides of the shard and its inline spec, each
laid over the one before. The layers are merged by the spelling of a name, but PostgreSQL compares
names without case: the merged map may have several settings for one parameter. They are written in
the order of their spelling, and the last one counts, from whichever layer it is.

## Main definitions

* `settingLayers`: the layers of the settings of a shard
* `Spelled`: a setting of the highest layer that has its spelling
* `Gives`, `HighestGives`: a layer gives a parameter a value; the highest one that does
* `valueIn`: the value the lines of a setting give a parameter
* `LastWritten`: the value of the last setting that is written for a parameter

## Main results

* `get_render_iff_lastWritten`: the effective value of a parameter
* `render_congr`: the file does not depend on the order in which maps are traversed
* `setting_precedence_iff`: when the highest layer decides every parameter
* `lower_layer_wins`: a template's setting wins over an inline one with a capital letter
-/

namespace MultigresOperator.Resolution

open V1Alpha1 PostgresConfig Webhook

/-! ## Layers -/

/-- The maps of settings of a shard, the highest layer first. -/
def settingLayers (template : ShardTemplateSpec) (overrides : Option ShardOverrides)
    (inline : Option ShardInlineSpec) : List (Table Str Str) :=
  [(inline.map (settings ·.postgresConfig)).getD ∅,
    (overrides.map (settings ·.postgresConfig)).getD ∅, settings template.postgresConfig]

def mergedSettings (template : ShardTemplateSpec) (overrides : Option ShardOverrides)
    (inline : Option ShardInlineSpec) (backupOverride inheritedBackup : Option BackupConfig) :
    Table Str Str :=
  settings (mergeShardConfig template overrides inline backupOverride inheritedBackup).postgresConfig

theorem get_settings (m : Table String String) (name : Str) :
    (settings m).get name = (m.get (String.ofList name)).map String.toList := by
  have hkey := Table.get_mapKeys (f := String.toList) (fun _ _ => String.toList_inj.mp) m
    (String.ofList name)
  rw [String.toList_ofList] at hkey
  rw [settings, Table.get_mapValues, hkey]

theorem get_settings_update (base upper : Table String String) (name : Str) :
    (settings (mergePostgresConfig base upper)).get name =
      ((settings upper).get name).or ((settings base).get name) := by
  rw [get_settings, mergePostgresConfig, Table.get_update, get_settings, get_settings,
    Option.map_or]

/-- **A name has the value of the highest layer that spells it so.** -/
theorem get_mergedSettings (template : ShardTemplateSpec) (overrides : Option ShardOverrides)
    (inline : Option ShardInlineSpec) (backupOverride inheritedBackup : Option BackupConfig)
    (name : Str) :
    (mergedSettings template overrides inline backupOverride inheritedBackup).get name =
      (((inline.map (settings ·.postgresConfig)).getD ∅).get name).or
        ((((overrides.map (settings ·.postgresConfig)).getD ∅).get name).or
          ((settings template.postgresConfig).get name)) := by
  unfold mergedSettings mergeShardConfig
  cases overrides <;> cases inline <;>
    simp [applyInline, applyOverrides, shardOfTemplate, get_settings_update]

/-- The setting is in the highest layer that has its name, spelled the same. -/
def Spelled (layers : List (Table Str Str)) (e : Str × Str) : Prop :=
  ∃ above layer below, layers = above ++ layer :: below ∧
    (∀ higher ∈ above, higher.get e.1 = none) ∧ layer.get e.1 = some e.2

/-- **The merged settings** are those of each spelling in the highest layer. -/
theorem mem_mergedSettings_iff {template : ShardTemplateSpec} {overrides : Option ShardOverrides}
    {inline : Option ShardInlineSpec} {backupOverride inheritedBackup : Option BackupConfig}
    {e : Str × Str} :
    e ∈ mergedSettings template overrides inline backupOverride inheritedBackup ↔
      Spelled (settingLayers template overrides inline) e := by
  have hfind : (settingLayers template overrides inline).findSome? (·.get e.1) = some e.2 ↔
      Spelled (settingLayers template overrides inline) e := by
    rw [List.findSome?_eq_some_iff, Spelled]
    exact exists_congr fun _ => exists_congr fun _ => exists_congr fun _ =>
      and_congr_right fun _ => and_comm
  have hlayers : (settingLayers template overrides inline).findSome? (·.get e.1) =
      (((inline.map (settings ·.postgresConfig)).getD ∅).get e.1).or
        ((((overrides.map (settings ·.postgresConfig)).getD ∅).get e.1).or
          ((settings template.postgresConfig).get e.1)) := by
    have hor (l : List (Table Str Str)) (layer : Table Str Str) :
        (layer :: l).findSome? (·.get e.1) = (layer.get e.1).or (l.findSome? (·.get e.1)) := by
      rw [List.findSome?_cons]
      cases layer.get e.1 <;> rfl
    rw [settingLayers, hor, hor, hor, List.findSome?_nil, Option.or_none]
  rw [← hfind, hlayers, ← get_mergedSettings template overrides inline backupOverride inheritedBackup,
    Table.get_eq_some]

/-- A layer gives a parameter a value, under some spelling of its name. -/
def Gives (go : GoText) (layer : Table Str Str) (parameter value : Str) : Prop :=
  ∃ name, layer.get name = some value ∧ go.parameter name = parameter

/-- The highest layer that gives the parameter gives it the value. -/
def HighestGives (go : GoText) (layers : List (Table Str Str)) (parameter value : Str) : Prop :=
  ∃ above layer below, layers = above ++ layer :: below ∧
    (∀ higher ∈ above, ∀ other, ¬ Gives go higher parameter other) ∧
    Gives go layer parameter value

variable {go : GoText}

/-! ## What is written -/

/-- The value that the lines of a setting give a parameter. -/
def valueIn (go : GoText) (parameter : Str) (e : Str × Str) : Option Str :=
  (effectiveSettings go (entryText e)).get parameter

/-- The value of the last of the settings, in the order of their spelling, that is written for a
parameter; of the layers below if none is. -/
def LastWritten (go : GoText) (below : Str) (written : Str × Str → Prop) (parameter value : Str) :
    Prop :=
  (∃ e, written e ∧ valueIn go parameter e = some value ∧
    ∀ later, written later → e.1 < later.1 → valueIn go parameter later = none) ∨
  (∀ e, written e → valueIn go parameter e = none) ∧
    (effectiveSettings go below).get parameter = some value

theorem get_effectiveSettings_inline (m : Table Str Str) (parameter : Str) :
    (effectiveSettings go (writeSortedMap m)).get parameter =
      (sortedEntries m).reverse.findSome? (valueIn go parameter) := by
  rw [get_effectiveSettings, parseEffectiveConfig, writeSortedMap, assignments_flatMap_entryText,
    Table.get_ofList_flatMap, List.map_findSome?]
  refine congrArg (List.findSome? · _) (funext fun e => ?_)
  rw [valueIn, get_effectiveSettings]
  rfl

/-- The last of the settings that gives a parameter a value is the one that counts. -/
theorem findSome?_sortedEntries_iff {m : Table Str Str} {f : Str × Str → Option Str} {value : Str} :
    (sortedEntries m).reverse.findSome? f = some value ↔
      ∃ e ∈ m, f e = some value ∧ ∀ later ∈ m, e.1 < later.1 → f later = none := by
  rw [List.findSome?_eq_some_iff]
  have hsorted := List.pairwise_reverse.mpr (pairwise_lt_sortedEntries m)
  constructor
  · rintro ⟨after, e, before, hsplit, hvalue, hnone⟩
    have hmem (e' : Str × Str) : e' ∈ m ↔ e' ∈ after ++ e :: before := by
      rw [← hsplit, List.mem_reverse, mem_sortedEntries]
    rw [hsplit] at hsorted
    refine ⟨e, (hmem e).mpr (by simp), hvalue, fun later hlater hlt => ?_⟩
    rcases List.mem_append.mp ((hmem later).mp hlater) with hafter | hbefore
    · exact hnone later hafter
    · -- what stands behind it in the reversed list has a smaller name
      rcases List.mem_cons.mp hbefore with rfl | hbefore
      · exact absurd hlt (lt_irrefl _)
      · have hlt' := (List.pairwise_cons.mp (List.pairwise_append.mp hsorted).2.1).1 later hbefore
        exact absurd (hlt.trans hlt') (lt_irrefl _)
  · rintro ⟨e, he, hvalue, hnone⟩
    obtain ⟨after, before, hsplit⟩ :=
      List.append_of_mem (List.mem_reverse.mpr (mem_sortedEntries.mpr he))
    rw [hsplit] at hsorted
    refine ⟨after, e, before, hsplit, hvalue, fun later hlater => hnone later ?_ ?_⟩
    · rw [← mem_sortedEntries, ← List.mem_reverse, hsplit]
      exact List.mem_append_left _ hlater
    · exact (List.pairwise_append.mp hsorted).2.2 later hlater e List.mem_cons_self

/-- **The effective value of a parameter.** -/
theorem get_render_iff_lastWritten (cfg : Config) (ref : Str) (m : Table Str Str)
    {parameter value : Str} :
    (effectiveSettings go (render cfg ref m)).get parameter = some value ↔
      LastWritten go (renderBase cfg ref) (· ∈ m) parameter value := by
  have hget : (effectiveSettings go (render cfg ref m)).get parameter =
      ((effectiveSettings go (writeSortedMap m)).get parameter).or
        ((effectiveSettings go (renderBase cfg ref)).get parameter) := by
    rw [get_effectiveSettings, get_render, Option.map_or, get_effectiveSettings,
      get_effectiveSettings]
  rw [hget, get_effectiveSettings_inline, Option.or_eq_some_iff, findSome?_sortedEntries_iff,
    List.findSome?_eq_none_iff]
  simp only [List.mem_reverse, mem_sortedEntries]
  rfl

/-- **The file does not depend on the order** in which the map of settings is traversed. -/
theorem render_congr (cfg : Config) (ref : Str) {m m' : Table Str Str}
    (h : ∀ name, m.get name = m'.get name) : render cfg ref m = render cfg ref m' := by
  have hempty : m.items = [] ↔ m'.items = [] := by
    rw [Table.items_eq_nil, Table.items_eq_nil]
    simp only [h]
  rw [render, render, writeSortedMap, writeSortedMap, sortedEntries_congr h]
  simp only [ne_eq, hempty]

/-! ## Precedence -/

/-- The layers of a shard with the same entries, in whatever order their maps have them. -/
structure SameLayers (template template' : ShardTemplateSpec) (overrides overrides' : Option ShardOverrides)
    (inline inline' : Option ShardInlineSpec) : Prop where
  template : ∀ name, (settings template.postgresConfig).get name =
    (settings template'.postgresConfig).get name
  overrides : ∀ name, ((overrides.map (settings ·.postgresConfig)).getD ∅).get name =
    ((overrides'.map (settings ·.postgresConfig)).getD ∅).get name
  inline : ∀ name, ((inline.map (settings ·.postgresConfig)).getD ∅).get name =
    ((inline'.map (settings ·.postgresConfig)).getD ∅).get name

/-- **Precedence of the layers.** The highest layer that gives a parameter decides its effective
value, for every parameter and in whatever order maps are traversed, exactly if for every parameter
that a layer gives, the last of its spellings, each with its value in the highest layer that has it,
has a value of the highest layer that gives the parameter. -/
theorem setting_precedence_iff (go : GoText) (cfg : Config) (ref : Str)
    (template : ShardTemplateSpec) (overrides : Option ShardOverrides)
    (inline : Option ShardInlineSpec) (backupOverride inheritedBackup : Option BackupConfig) :
    (∀ template' overrides' inline', SameLayers template template' overrides overrides' inline inline' →
      ∀ parameter, (∃ value, HighestGives go (settingLayers template overrides inline) parameter value) →
      ∃ value, HighestGives go (settingLayers template overrides inline) parameter value ∧
        (effectiveSettings go (render cfg ref
          (mergedSettings template' overrides' inline' backupOverride inheritedBackup))).get parameter =
          some value) ↔
    ∀ parameter, (∃ value, HighestGives go (settingLayers template overrides inline) parameter value) →
      ∃ value, HighestGives go (settingLayers template overrides inline) parameter value ∧
        LastWritten go (renderBase cfg ref) (Spelled (settingLayers template overrides inline))
          parameter value := by
  have hwritten : Spelled (settingLayers template overrides inline) =
      (· ∈ mergedSettings template overrides inline backupOverride inheritedBackup) :=
    funext fun _ => propext mem_mergedSettings_iff.symm
  rw [hwritten]
  constructor
  · intro h parameter hgiven
    obtain ⟨value, hhighest, hvalue⟩ := h template overrides inline
      ⟨fun _ => rfl, fun _ => rfl, fun _ => rfl⟩ parameter hgiven
    exact ⟨value, hhighest, (get_render_iff_lastWritten cfg ref _).mp hvalue⟩
  · intro h template' overrides' inline' hsame parameter hgiven
    obtain ⟨value, hhighest, hlast⟩ := h parameter hgiven
    refine ⟨value, hhighest, ?_⟩
    have hmerged : ∀ name,
        (mergedSettings template' overrides' inline' backupOverride inheritedBackup).get name =
          (mergedSettings template overrides inline backupOverride inheritedBackup).get name := by
      intro name
      rw [get_mergedSettings, get_mergedSettings, hsame.template, hsame.overrides, hsame.inline]
    rw [render_congr cfg ref hmerged]
    exact (get_render_iff_lastWritten cfg ref _).mpr hlast

namespace Sample

/-- A template with a setting of its own. -/
def workMemTemplate : ShardTemplateSpec :=
  { postgresConfig := Table.ofList [("work_mem", "4MB")] }

def capitalInline : ShardInlineSpec := { postgresConfig := Table.ofList [("Work_Mem", "8MB")] }

def capitalLayers : List (Table Str Str) := settingLayers workMemTemplate none (some capitalInline)

theorem eq_of_highestGives {value : Str}
    (h : HighestGives .ascii capitalLayers "work_mem".toList value) : value = "8MB".toList := by
  have hinline : Gives .ascii (settings capitalInline.postgresConfig) "work_mem".toList
      "8MB".toList := ⟨"Work_Mem".toList, by decide +kernel, by decide +kernel⟩
  have hentries : ∀ e ∈ (settings capitalInline.postgresConfig).items, e.2 = "8MB".toList := by
    decide +kernel
  obtain ⟨above, layer, below, hlayers, habove, name, hvalue, -⟩ := h
  cases above with
  | nil =>
    obtain ⟨rfl, -⟩ := List.cons.inj hlayers
    exact hentries _ (Table.get_eq_some.mp hvalue)
  | cons top above =>
    obtain ⟨rfl, -⟩ := List.cons.inj hlayers
    exact absurd hinline (habove _ List.mem_cons_self _)

end Sample

section

open Resolution.Sample PostgresConfig.Sample

/-- **A lower layer wins**: the template's setting is written behind the inline one, whose name has
capital letters, so that the template's value counts. -/
theorem lower_layer_wins :
    ∃ (template : ShardTemplateSpec) (inline : ShardInlineSpec),
      (∀ layer ∈ settingLayers template none (some inline),
        validate .ascii workMemCatalog layer = .ok ()) ∧
      ∀ cfg ref, ∃ parameter,
        (∃ value, HighestGives .ascii (settingLayers template none (some inline)) parameter value) ∧
        ¬ ∃ value, HighestGives .ascii (settingLayers template none (some inline)) parameter value ∧
          (effectiveSettings .ascii (render cfg ref
            (mergedSettings template none (some inline) none none))).get parameter = some value := by
  refine ⟨workMemTemplate, capitalInline, by decide +kernel, fun cfg ref => ⟨"work_mem".toList, ?_, ?_⟩⟩
  · exact ⟨"8MB".toList, [], _, _, rfl, by simp, "Work_Mem".toList, by decide +kernel, by decide +kernel⟩
  · rintro ⟨value, hhighest, hvalue⟩
    obtain rfl := eq_of_highestGives hhighest
    have hinline : (parseEffectiveConfig .ascii (writeSortedMap
        (mergedSettings workMemTemplate none (some capitalInline) none none))).get "work_mem".toList =
        some "'4MB'".toList := by decide +kernel
    rw [get_effectiveSettings, get_render, hinline, Option.some_or] at hvalue
    exact absurd hvalue (by decide +kernel)

end

end MultigresOperator.Resolution

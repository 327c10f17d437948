import MultigresOperator.PostgresConfig.Render

/-!
# Managed parameters and inline settings

Validation refuses an inline setting whose name is a managed parameter. The rendered file is read line
by line, though, and neither the names with a dot nor the values are kept to one line: a line break in
one of them starts a line of its own, which may assign a managed parameter.

## Main results

* `not_names_of_plain`: an accepted name without a dot assigns no managed parameter
* `contained_of_single_line`: settings without line breaks are contained
* `inline_keeps_managed_iff`: inline settings leave the managed parameters alone exactly if they are
  contained
* `dotted_name_injects`: an accepted setting that overrides one
-/

namespace MultigresOperator.PostgresConfig

variable {go : GoText} {catalog : Catalog}

/-- No line of a name with a dot, and no line of a value after its first, assigns a managed
parameter. -/
def Contained (go : GoText) (m : Table Str Str) : Prop :=
  ∀ e ∈ m, ∀ name, Managed name →
    ('.' ∈ e.1 → ∀ line ∈ Text.lines (e.1 ++ ['=']), ¬ Names go name line) ∧
      ∀ line ∈ (Text.lines e.2).tail, ¬ Names go name line

variable {name t value : Str} {m : Table Str Str}

/-- The characters of the managed parameters, read off their literals. -/
def managedNames : List Str :=
  ["port".toList, "listen_addresses".toList, "unix_socket_directories".toList,
    "data_directory".toList, "hba_file".toList, "ident_file".toList, "wal_level".toList]

theorem managed_iff : Managed name ↔ name ∈ managedNames := Iff.rfl

theorem dot_notMem_of_managed (h : Managed name) : '.' ∉ name := by
  have hall : ∀ name ∈ managedNames, '.' ∉ name := by
    unfold managedNames
    iterate 7 rewrite [String.toList_ofList]
    decide +kernel
  exact hall name (managed_iff.mp h)

theorem solid_of_managed (h : Managed name) : Solid name := by
  have hall : ∀ name ∈ managedNames, (name ≠ [] ∧ name.head? ≠ some '#') ∧ '\'' ∉ name := by
    unfold managedNames
    iterate 7 rewrite [String.toList_ofList]
    decide +kernel
  have ⟨hproper, hquote⟩ := hall name (managed_iff.mp h)
  exact ⟨hproper, hquote⟩

/-! ## Names without a dot -/

theorem notMem_of_lower {c : Char} (hc : c.toNat < 128) (hlower : c.toLower = c)
    (hname : isNameChar c = false) (h : (go.lower t).all isNameChar = true) : c ∉ t := by
  intro hmem
  have := List.all_eq_true.mp h _ (List.mem_map.mpr ⟨c, hmem, rfl⟩)
  rw [go.toLower_ascii c hc, hlower, hname] at this
  cases this

/-- The lines of a text that is one line but for white space are that line and blank ones. -/
theorem trim_of_mem_lines {p : Char → Bool} {line : Str} (ht : '\n' ∉ Text.trim p t)
    (hline : line ∈ Text.lines t) : Text.trim p line = Text.trim p t ∨ Text.trim p line = [] := by
  obtain ⟨left, right, hleft, hright, heq⟩ := Text.exists_trim p t
  obtain ⟨before, last, first, after, hl, hm, hlm⟩ := Text.lines_append left (Text.trim p t)
  obtain ⟨before', last', first', after', hlm', hr, hlmr⟩ :=
    Text.lines_append (left ++ Text.trim p t) right
  -- the trimmed text is a part of one line
  rw [Text.lines_of_notMem ht] at hm
  obtain ⟨rfl, rfl⟩ := List.cons.inj hm
  rw [hlm] at hlm'
  obtain ⟨rfl, hlast⟩ := List.append_inj' hlm' rfl
  obtain rfl := List.singleton_inj.mp hlast
  rw [← heq] at hlmr
  have blank {s l : Str} (hs : ∀ a ∈ s, p a = true) (hl : l ∈ Text.lines s) :
      ∀ a ∈ l, p a = true := fun a ha => hs a (Text.mem_of_mem_lines hl ha)
  rw [hlmr, List.mem_append, List.mem_cons] at hline
  rcases hline with hline | rfl | hline
  · exact .inr (Text.trim_eq_nil (blank hleft (by rw [hl]; simp [hline])))
  · refine .inl ?_
    rw [List.append_assoc, Text.trim_append_left (blank hleft (by rw [hl]; simp)),
      Text.trim_append_right (blank hright (by rw [hr]; simp)), Text.trim_trim]
  · exact .inr (Text.trim_eq_nil (blank hright (by rw [hr]; simp [hline])))

/-- **An accepted name without a dot** assigns no managed parameter. -/
theorem not_names_of_plain {e : Str × Str} (h : validateGUC go catalog e.1 e.2 = .ok ())
    (hdot : '.' ∉ e.1) (hname : Managed name) :
    ∀ line ∈ Text.lines (e.1 ++ ['=']), ¬ Names go name line := by
  have ⟨hmanaged, hchars⟩ := plain_of_validateGUC h hdot
  have hnewline : '\n' ∉ go.trimSpace e.1 := notMem_of_lower (by decide) (by decide) (by decide) hchars
  have hsign : '=' ∉ e.1 := fun hmem =>
    notMem_of_lower (by decide) (by decide) (by decide) hchars
      (Text.mem_trim_of_mem hmem isSpace_eq)
  obtain ⟨before, last, first, after, hlines, hfirst, heq⟩ := Text.lines_append e.1 ['=']
  obtain ⟨rfl, rfl⟩ : ['='] = first ∧ [] = after := List.cons.inj hfirst
  have hpart {line : Str} (hline : line ∈ Text.lines e.1) : '=' ∉ line := fun hmem =>
    hsign (Text.mem_of_mem_lines hline hmem)
  intro line hline
  rw [heq, List.mem_append, List.mem_singleton] at hline
  rcases hline with hline | rfl
  · exact not_names_of_notMem (hpart (by rw [hlines]; simp [hline]))
  · have hlast : last ∈ Text.lines e.1 := by rw [hlines]; simp
    rw [names_append_iff (hpart hlast), GoText.trimSpace]
    rcases trim_of_mem_lines hnewline hlast with htrim | htrim
    · rw [htrim]
      exact fun heq => hmanaged (heq ▸ hname)
    · rw [htrim]
      exact fun heq => (solid_of_managed hname).proper.1 heq.symm

/-- Settings whose values are single lines, and whose names with a dot are single lines without a
`=`, are contained. -/
theorem contained_of_single_line (h : ∀ e ∈ m, '\n' ∉ e.2 ∧ ('.' ∈ e.1 → '\n' ∉ e.1 ∧ '=' ∉ e.1)) :
    Contained go m := by
  intro e he name hname
  have ⟨hvalue, hkey⟩ := h e he
  refine ⟨fun hdot line hline => ?_, by simp [Text.lines_of_notMem hvalue]⟩
  have ⟨hnewline, hsign⟩ := hkey hdot
  rw [Text.lines_of_notMem (by simpa using hnewline), List.mem_singleton] at hline
  rw [hline, names_append_iff hsign]
  -- the dot is part of the name, and no managed parameter has one
  rintro rfl
  have hlower : go.toLower '.' = '.' := by rw [go.toLower_ascii _ (by decide)]; decide
  have hspace : go.isSpace '.' = false := by rw [go.isSpace_ascii _ (by decide)]; decide
  exact dot_notMem_of_managed hname
    (List.mem_map.mpr ⟨'.', Text.mem_trim_of_mem hdot hspace, hlower⟩)

/-! ## The two directions -/

theorem inline_eq_none_iff (h : validate go catalog m = .ok ()) :
    (∀ name, Managed name → (parseEffectiveConfig go (writeSortedMap m)).get name = none) ↔
      Contained go m := by
  have hvalid := validate_eq_ok.mp h
  have hnone {name : Str} (hname : Managed name) :
      (parseEffectiveConfig go (writeSortedMap m)).get name = none ↔
        ∀ e ∈ m, (∀ line ∈ Text.lines (e.1 ++ ['=']), ¬ Names go name line) ∧
          ∀ line ∈ (Text.lines e.2).tail, ¬ Names go name line := by
    rw [← Option.not_isSome_iff_eq_none, isSome_inline_iff (solid_of_managed hname)]
    simp only [not_exists, not_and, not_or]
  constructor
  · intro hall e he name hname
    have := (hnone hname).mp (hall name hname) e he
    exact ⟨fun _ => this.1, this.2⟩
  · intro hcontained name hname
    refine (hnone hname).mpr fun e he => ⟨?_, (hcontained e he name hname).2⟩
    by_cases hdot : '.' ∈ e.1
    · exact (hcontained e he name hname).1 hdot
    · exact not_names_of_plain (hvalid e he) hdot hname

/-- A configuration that sets a parameter below the inline settings: the template writes the name of
the cluster as it is. -/
def settingConfig (name value : Str) : Config :=
  { defaults with
    clusterName := String.ofList ('\'' :: '\n' :: (name ++ " = ".toList ++ value ++ ['\n'])) }

theorem get_templateTail (hname : Managed name) :
    (parseEffectiveConfig go templateTail).get name = none := by
  have hall : Ascii templateTail ∧
      ∀ name ∈ managedNames, (parseEffectiveConfig .ascii templateTail).get name = none := by
    unfold managedNames
    iterate 7 rewrite [String.toList_ofList]
    unfold templateTail
    simp only [List.flatMap_cons]
    repeat rewrite [chars_ofList]
    decide +kernel
  rw [hall.1.parse]
  exact hall.2 name (managed_iff.mp hname)

theorem get_line (hname : Managed name) (hvalue : value ∈ [['0'], ['1']]) :
    (parseEffectiveConfig go (name ++ " = ".toList ++ value)).get name = some value := by
  have hall : ∀ name ∈ managedNames, ∀ value ∈ [['0'], ['1']],
      Ascii (name ++ " = ".toList ++ value) ∧
        (parseEffectiveConfig .ascii (name ++ " = ".toList ++ value)).get name = some value := by
    unfold managedNames
    iterate 8 rewrite [String.toList_ofList]
    decide +kernel
  have ⟨hascii, hget⟩ := hall name (managed_iff.mp hname) value hvalue
  rw [hascii.parse, hget]

theorem get_settingConfig (go : GoText) (hname : Managed name) (hvalue : value ∈ [['0'], ['1']]) :
    (parseEffectiveConfig go (renderBase (settingConfig name value) [])).get name = some value := by
  have htext : renderBase (settingConfig name value) [] =
      (templateHead (settingConfig name value) ++ ['\'']) ++ '\n' ::
        ((name ++ " = ".toList ++ value) ++ '\n' :: templateTail) := by
    have hname : chars (settingConfig name value).clusterName =
        '\'' :: '\n' :: (name ++ " = ".toList ++ value ++ ['\n']) := chars_ofList _
    rw [renderBase, List.rdropWhile_nil, if_neg (by simp), baseTemplate, hname]
    simp only [List.nil_append, List.append_assoc, List.cons_append]
  rw [htext, get_parse_append, get_parse_append, get_templateTail hname, get_line hname hvalue]
  rfl

/-- **Inline settings leave every managed parameter alone**, whatever the configuration and the
referenced content are, exactly if they are contained. -/
theorem inline_keeps_managed_iff (go : GoText) (catalog : Catalog) (m : Table Str Str)
    (h : validate go catalog m = .ok ()) :
    (∀ cfg ref name, Managed name →
      (parseEffectiveConfig go (render cfg ref m)).get name =
        (parseEffectiveConfig go (render cfg ref ∅)).get name) ↔ Contained go m := by
  rw [← inline_eq_none_iff h]
  have hempty (cfg : Config) (ref name : Str) : (parseEffectiveConfig go (render cfg ref ∅)).get name =
      (parseEffectiveConfig go (renderBase cfg ref)).get name := by
    rw [get_render]
    rfl
  constructor
  · intro hkeep name hname
    by_contra hsome
    obtain ⟨value, hvalue⟩ := Option.ne_none_iff_exists'.mp hsome
    -- the layers below may set the parameter to either of two values
    have hbelow (v : Str) (hv : v ∈ [['0'], ['1']]) : value = v := by
      have := hkeep (settingConfig name v) [] name hname
      rw [hempty, get_render, hvalue, Option.some_or, get_settingConfig go hname hv] at this
      exact Option.some.inj this
    have := (hbelow ['0'] (by simp)).symm.trans (hbelow ['1'] (by simp))
    simp at this
  · intro hnone cfg ref name hname
    rw [get_render, hnone name hname, Option.none_or, hempty]

namespace Sample

/-- A setting of PostgreSQL and one of an extension. -/
def ordinarySettings : Table Str Str :=
  Table.ofList [("work_mem".toList, "4MB".toList), ("cron.log_run".toList, "on".toList)]

def workMemCatalog : Catalog where
  entries := [("work_mem".toList, ⟨.integer, .user⟩)]
  names := by
    rw [String.toList_ofList]
    decide +kernel
  nonempty := by
    rw [String.toList_ofList]
    decide +kernel

/-- A setting of an extension whose name goes on in a second line. -/
def brokenSettings : Table Str Str :=
  Table.ofList [("a.b\nwal_level".toList, "minimal".toList)]

end Sample

section

open PostgresConfig.Sample

/-- Ordinary settings are accepted, and leave the managed parameters alone. -/
theorem inline_keeps_managed_ordinary :
    validate .ascii workMemCatalog ordinarySettings = .ok () ∧ ∀ cfg ref name, Managed name →
      (parseEffectiveConfig .ascii (render cfg ref ordinarySettings)).get name =
        (parseEffectiveConfig .ascii (render cfg ref ∅)).get name := by
  have hvalid : validate .ascii workMemCatalog ordinarySettings = .ok () := by decide +kernel
  have hcontained : Contained .ascii ordinarySettings := contained_of_single_line (by
    have hall : ∀ e ∈ ordinarySettings.items, '\n' ∉ e.2 ∧ ('.' ∈ e.1 → '\n' ∉ e.1 ∧ '=' ∉ e.1) := by
      decide +kernel
    exact hall)
  exact ⟨hvalid, (inline_keeps_managed_iff _ _ _ hvalid).mpr hcontained⟩

/-- **A managed parameter overridden**: the name of an extension's setting with a line break in it is
accepted, and its second line assigns `wal_level`, which the baseline sets to `logical`. -/
theorem dotted_name_injects :
    ∃ m : Table Str Str, (∀ go catalog, validate go catalog m = .ok ()) ∧
      ∃ name, Managed name ∧
        (parseEffectiveConfig .ascii (render defaults [] m)).get name ≠
          (parseEffectiveConfig .ascii (render defaults [] ∅)).get name := by
  have hname : Managed "wal_level".toList := managed_iff.mpr (by simp [managedNames])
  refine ⟨brokenSettings, fun go catalog => validate_eq_ok.mpr fun e he => ?_,
    "wal_level".toList, hname, ?_⟩
  · have hdot : ∀ e ∈ brokenSettings.items, '.' ∈ e.1 := by decide +kernel
    rw [validateGUC, if_pos (hdot e he)]
  · have hinline : (parseEffectiveConfig .ascii (writeSortedMap brokenSettings)).get
        "wal_level".toList = some "'minimal'".toList := by decide +kernel
    have hempty : render defaults [] ∅ = baseTemplate defaults := List.append_nil _
    have hbelow : (parseEffectiveConfig .ascii (render defaults [] ∅)).get
        "wal_level".toList = some "logical".toList := by
      rw [hempty, parseEffectiveConfig, Table.get_ofList]
      unfold baseTemplate templateHead templateTail
      simp only [List.flatMap_cons, List.append_assoc]
      repeat rewrite [chars_ofList]
      rewrite [defaults]
      dsimp only
      repeat rewrite [chars_ofList]
      decide +kernel
    rw [get_render, hinline, Option.some_or, hbelow]
    decide +kernel

end

end MultigresOperator.PostgresConfig

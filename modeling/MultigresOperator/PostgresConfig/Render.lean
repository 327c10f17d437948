import MultigresOperator.PostgresConfig.Validate

/-!
# Rendering a postgresql.conf

The rendered file has three layers: the content a `postgresConfigRef` names, the operator's
baseline, and the inline settings, one line each with the value in quotes.

## Main results

* `get_render`: a parameter has the value the inline settings give it, or the one of the rest
* `names_entryText_iff`: the lines of an inline setting that assign a parameter
* `isSome_inline_iff`: the parameters that inline settings assign
-/

namespace MultigresOperator.PostgresConfig

/-- The tunable values of the baseline. `checkpointCompletionTarget` and `randomPageCost` are the
numbers as the template prints them. -/
structure Config where
  maxConnections : ℤ
  sharedBuffers : String
  maintenanceWorkMem : String
  workMem : String
  maxWorkerProcesses : ℤ
  effectiveIoConcurrency : ℤ
  maxParallelWorkers : ℤ
  maxParallelWorkersPerGather : ℤ
  maxParallelMaintenanceWorkers : ℤ
  walBuffers : String
  minWalSize : String
  maxWalSize : String
  walKeepSize : String
  maxSlotWalKeepSize : String
  checkpointCompletionTarget : String
  maxWalSenders : ℤ
  maxReplicationSlots : ℤ
  effectiveCacheSize : String
  randomPageCost : String
  defaultStatisticsTarget : ℤ
  clusterName : String

def defaults : Config where
  maxConnections := 60
  sharedBuffers := "64MB"
  maintenanceWorkMem := "16MB"
  workMem := "1092kB"
  maxWorkerProcesses := 6
  effectiveIoConcurrency := 200
  maxParallelWorkers := 2
  maxParallelWorkersPerGather := 1
  maxParallelMaintenanceWorkers := 1
  walBuffers := "1920kB"
  minWalSize := "80MB"
  maxWalSize := "1024MB"
  walKeepSize := "1000MB"
  maxSlotWalKeepSize := "1024MB"
  checkpointCompletionTarget := "0.9"
  maxWalSenders := 25
  maxReplicationSlots := 25
  effectiveCacheSize := "192MB"
  randomPageCost := "1.1"
  defaultStatisticsTarget := 100
  clusterName := "default"

def chars (s : String) : Str := s.toList

theorem chars_ofList (t : Str) : chars (String.ofList t) = t := String.toList_ofList

/-- The template up to the name of the cluster. -/
def templateHead (cfg : Config) : Str :=
  ["# PostgreSQL configuration rendered by multigres-operator.\n",
    "# port, listen_addresses, unix_socket_directories, data_directory, hba_file and\n",
    "# ident_file are intentionally omitted: pgctld pins them via command-line args.\n",
    "\n",
    "#------------------------------------------------------------------------------\n",
    "# CONNECTIONS AND AUTHENTICATION\n",
    "#------------------------------------------------------------------------------\n",
    "\n",
    "max_connections = ", toString cfg.maxConnections, "\n",
    "\n",
    "authentication_timeout = 1min\t\t# 1s-600s\n",
    "password_encryption = scram-sha-256\t# scram-sha-256 or md5\n",
    "\n",
    "# - SSL -\n",
    "ssl = off\n",
    "ssl_ca_file = ''\n",
    "ssl_cert_file = ''\n",
    "ssl_crl_file = ''\n",
    "ssl_crl_dir = ''\n",
    "ssl_key_file = ''\n",
    "ssl_ciphers = 'HIGH:MEDIUM:+3DES:!aNULL' # allowed SSL ciphers\n",
    "ssl_prefer_server_ciphers = on\n",
    "ssl_ecdh_curve = 'prime256v1'\n",
    "ssl_min_protocol_version = 'TLSv1.2'\n",
    "ssl_max_protocol_version = ''\n",
    "ssl_dh_params_file = ''\n",
    "ssl_passphrase_command = ''\n",
    "ssl_passphrase_command_supports_reload = off\n",
    "\n",
    "#------------------------------------------------------------------------------\n",
    "# RESOURCE USAGE (except WAL)\n",
    "#------------------------------------------------------------------------------\n",
    "\n",
    "# - Memory -\n",
    "shared_buffers = ", cfg.sharedBuffers,
    "\t\t\t# min 128kB (change requires restart)\n",
    "maintenance_work_mem = ", cfg.maintenanceWorkMem, "\t\t# min 1MB\n",
    "work_mem = ", cfg.workMem, "\t\t\t\t# min 64kB\n",
    "\n",
    "# - Kernel Resources -\n",
    "max_worker_processes = ", toString cfg.maxWorkerProcesses,
    "\t\t# (change requires restart)\n",
    "\n",
    "# - Asynchronous Behavior -\n",
    "effective_io_concurrency = ", toString cfg.effectiveIoConcurrency,
    "\t# 1-1000; 0 disables prefetching\n",
    "max_parallel_workers = ", toString cfg.maxParallelWorkers,
    "\t\t# max number of parallel workers\n",
    "max_parallel_workers_per_gather = ", toString cfg.maxParallelWorkersPerGather,
    "\n",
    "max_parallel_maintenance_workers = ",
    toString cfg.maxParallelMaintenanceWorkers, "\n",
    "\n",
    "#------------------------------------------------------------------------------\n",
    "# WRITE-AHEAD LOG\n",
    "#------------------------------------------------------------------------------\n",
    "\n",
    "wal_level = logical\t\t\t# minimal, replica, or logical (change requires restart)\n",
    "wal_buffers = ", cfg.walBuffers,
    "\t\t\t# min 32kB (change requires restart)\n",
    "min_wal_size = ", cfg.minWalSize, "\n",
    "max_wal_size = ", cfg.maxWalSize, "\n",
    "wal_keep_size = ", cfg.walKeepSize, "\n",
    "\n",
    "# - Checkpoints -\n",
    "checkpoint_completion_target = ", cfg.checkpointCompletionTarget,
    "\t# 0.0 - 1.0\n",
    "checkpoint_flush_after = 256kB\t\t# measured in pages, 0 disables\n",
    "\n",
    "#------------------------------------------------------------------------------\n",
    "# REPLICATION\n",
    "#------------------------------------------------------------------------------\n",
    "\n",
    "max_wal_senders = ", toString cfg.maxWalSenders,
    "\t\t# (change requires restart)\n",
    "max_replication_slots = ", toString cfg.maxReplicationSlots,
    "\t# (change requires restart)\n",
    "# Protect the primary's disk; a logical consumer that exceeds this cap can\n",
    "# lose its slot at checkpoint and require resynchronization.\n",
    "max_slot_wal_keep_size = ", cfg.maxSlotWalKeepSize,
    "   # in megabytes; -1 disables\n",
    "\n",
    "# - Standby Servers -\n",
    "# Lets a replica report its oldest needed xmin back to the primary so\n",
    "# autovacuum does not remove rows a replica query still has open.\n",
    "hot_standby_feedback = on\n",
    "\n",
    "#------------------------------------------------------------------------------\n",
    "# QUERY TUNING\n",
    "#------------------------------------------------------------------------------\n",
    "\n",
    "effective_cache_size = ", cfg.effectiveCacheSize, "\n",
    "random_page_cost = ", cfg.randomPageCost,
    "\t\t\t# same scale as above\n",
    "default_statistics_target = ", toString cfg.defaultStatisticsTarget,
    "\t# range 1-10000\n",
    "\n",
    "#------------------------------------------------------------------------------\n",
    "# REPORTING AND LOGGING\n",
    "#------------------------------------------------------------------------------\n",
    "\n",
    "log_line_prefix = '%h %m [%p] %q%u@%d '\n",
    "log_statement = 'ddl'\t\t\t# none, ddl, mod, all\n",
    "log_timezone = 'UTC'\n",
    "\n",
    "#------------------------------------------------------------------------------\n",
    "# PROCESS TITLE\n",
    "#------------------------------------------------------------------------------\n",
    "\n",
    "cluster_name = '"].flatMap chars

/-- The template after the name of the cluster. -/
def templateTail : Str :=
  ["'\t\t# added to process titles if nonempty (change requires restart)\n",
    "\n",
    "#------------------------------------------------------------------------------\n",
    "# CLIENT CONNECTION DEFAULTS\n",
    "#------------------------------------------------------------------------------\n",
    "\n",
    "row_security = on\n",
    "timezone = 'UTC'\n",
    "lc_messages = 'en_US.UTF-8'\n",
    "lc_monetary = 'en_US.UTF-8'\n",
    "lc_numeric = 'en_US.UTF-8'\n",
    "lc_time = 'en_US.UTF-8'\n",
    "default_text_search_config = 'pg_catalog.english'\n",
    "jit_provider = 'llvmjit'\t\t# JIT library to use\n",
    "\n",
    "#------------------------------------------------------------------------------\n",
    "# CUSTOMIZED OPTIONS\n",
    "#------------------------------------------------------------------------------\n",
    "\n",
    "auto_explain.log_min_duration = 10s\n",
    "cron.database_name = 'postgres'\n",
    "# Run pg_cron jobs in background workers. Otherwise pg_cron connects through\n",
    "# libpq as the job owner, and since pg_hba.conf requires scram-sha-256\n",
    "# everywhere, jobs owned by roles without a password source fail to connect.\n",
    "cron.use_background_workers = on\n",
    "wal_log_hints = 'on'\n"].flatMap chars

/-- The baseline, `postgresql.conf.tmpl` executed. -/
def baseTemplate (cfg : Config) : Str := templateHead cfg ++ chars cfg.clusterName ++ templateTail

/-- A quote is doubled. -/
def escape (c : Char) : Str := if c = '\'' then ['\'', '\''] else [c]

/-- `quote`: the value in quotes, with its own doubled. -/
def quote (v : Str) : Str := '\'' :: v.flatMap escape ++ ['\'']

/-- The line of an inline setting. -/
def entryText (e : Str × Str) : Str := e.1 ++ " = ".toList ++ quote e.2

def writeSortedMap (m : Table Str Str) : Str :=
  (sortedEntries m).flatMap fun e => entryText e ++ ['\n']

/-- The layers below the inline settings. -/
def renderBase (cfg : Config) (refContent : Str) : Str :=
  let trimmed := refContent.rdropWhile (· = '\n')
  (if trimmed ≠ [] then "# postgresConfigRef\n".toList ++ trimmed ++ "\n\n".toList else []) ++
    baseTemplate cfg

def render (cfg : Config) (refContent : Str) (inline : Table Str Str) : Str :=
  renderBase cfg refContent ++
    if inline.items ≠ [] then "\n# spec.postgresConfig\n".toList ++ writeSortedMap inline else []

variable {go : GoText}

/-! ## Layers -/

theorem assignment_comment (t : Str) : assignment go ('#' :: t) = none := by
  have htrim : go.trimSpace ('#' :: t) = '#' :: t.rdropWhile go.isSpace :=
    Text.trim_append_cons isSpace_hash [] t
  simp [assignment, htrim]

/-- **A parameter of the rendered file** has the value of the inline settings, or the one below. -/
theorem get_render (cfg : Config) (ref : Str) (m : Table Str Str) (name : Str) :
    (parseEffectiveConfig go (render cfg ref m)).get name =
      ((parseEffectiveConfig go (writeSortedMap m)).get name).or
        ((parseEffectiveConfig go (renderBase cfg ref)).get name) := by
  by_cases hm : m.items = []
  · have hwrite : writeSortedMap m = [] := by simp [writeSortedMap, sortedEntries, hm]
    rw [render, if_neg (not_not.mpr hm), List.append_nil, hwrite]
    rfl
  · have htext : render cfg ref m = renderBase cfg ref ++ '\n' ::
        ("# spec.postgresConfig".toList ++ '\n' :: writeSortedMap m) := by
      rw [render, if_pos hm, String.toList_ofList, String.toList_ofList]
      rfl
    have hheading : (parseEffectiveConfig go "# spec.postgresConfig".toList).get name = none := by
      rw [String.toList_ofList, parseEffectiveConfig, assignments, Text.lines_of_notMem (by decide),
        List.filterMap_cons_none (assignment_comment _)]
      rfl
    rw [htext, get_parse_append, get_parse_append, hheading, Option.or_none]

/-! ## Lines of the inline settings -/

structure Solid (name : Str) : Prop where
  proper : Proper name
  quote : '\'' ∉ name

variable {name s : Str}

theorem names_append_iff (h : '=' ∉ s) (t : Str) :
    Names go name (s ++ '=' :: t) ↔ go.lower (go.trimSpace s) = name := by
  constructor
  · rintro ⟨pre, post, heq, hpre, hname⟩
    have hcut := Text.cut_append h t
    rw [heq, Text.cut_append hpre post] at hcut
    cases hcut
    exact hname
  · exact fun hname => ⟨s, t, rfl, h, hname⟩

theorem not_names_of_notMem {line : Str} (h : '=' ∉ line) : ¬ Names go name line := by
  rintro ⟨pre, post, rfl, -, -⟩
  simp at h

theorem names_append_of_mem (h : '=' ∈ s) (t : Str) : Names go name (s ++ t) ↔ Names go name s := by
  obtain ⟨pre, post, rfl, hpre⟩ := List.eq_append_cons_of_mem h
  rw [List.append_assoc, List.cons_append, names_append_iff hpre, names_append_iff hpre]

theorem isSpace_space : go.isSpace ' ' = true := by rw [go.isSpace_ascii _ (by decide)]; decide

theorem isSpace_quote : go.isSpace '\'' = false := by rw [go.isSpace_ascii _ (by decide)]; decide

theorem toLower_quote : go.toLower '\'' = '\'' := by rw [go.toLower_ascii _ (by decide)]; decide

theorem quote_notMem_of_lower {pre : Str} (hname : Solid name)
    (h : go.lower (go.trimSpace pre) = name) : '\'' ∉ pre := by
  intro hmem
  refine hname.quote (h ▸ ?_)
  have := Text.mem_trim_of_mem (p := go.isSpace) hmem isSpace_quote
  exact List.mem_map.mpr ⟨'\'', this, toLower_quote⟩

theorem mem_escape_iff {c d : Char} : d ∈ escape c ↔ d = c := by
  unfold escape
  split <;> simp_all

theorem flatMap_escape {t : Str} (h : '\'' ∉ t) : t.flatMap escape = t := by
  induction t with
  | nil => rfl
  | cons c t ih =>
    have hc : c ≠ '\'' := fun heq => h (by simp [heq])
    rw [List.flatMap_cons, ih fun hmem => h (by simp [hmem]), escape, if_neg hc, List.singleton_append]

theorem names_flatMap_escape {line : Str} (hname : Solid name) :
    Names go name (line.flatMap escape) ↔ Names go name line := by
  by_cases heq : '=' ∈ line
  · obtain ⟨pre, post, rfl, hpre⟩ := List.eq_append_cons_of_mem heq
    have hesc : '=' ∉ pre.flatMap escape := by
      simpa [List.mem_flatMap, mem_escape_iff] using hpre
    have htext : (pre ++ '=' :: post).flatMap escape =
        pre.flatMap escape ++ '=' :: post.flatMap escape := by
      simp [escape]
    rw [htext, names_append_iff hesc, names_append_iff hpre]
    constructor
    · intro h
      have hquote : '\'' ∉ pre := fun hmem =>
        quote_notMem_of_lower hname h (List.mem_flatMap.mpr ⟨_, hmem, mem_escape_iff.mpr rfl⟩)
      rwa [flatMap_escape hquote] at h
    · intro h
      rwa [flatMap_escape (quote_notMem_of_lower hname h)]
  · have hesc : '=' ∉ line.flatMap escape := by
      simpa [List.mem_flatMap, mem_escape_iff] using heq
    exact iff_of_false (not_names_of_notMem hesc) (not_names_of_notMem heq)

theorem names_append_space {t : Str} :
    Names go name (s ++ ' ' :: '=' :: t) ↔ Names go name (s ++ ['=']) := by
  by_cases h : '=' ∈ s
  · rw [names_append_of_mem h, names_append_of_mem h]
  · have hspace : '=' ∉ s ++ [' '] := by simpa using h
    rw [show s ++ ' ' :: '=' :: t = (s ++ [' ']) ++ '=' :: t by simp, names_append_iff hspace,
      names_append_iff h, GoText.trimSpace, GoText.trimSpace,
      Text.trim_append_right fun c hc => by
        rw [List.mem_singleton.mp hc]
        exact isSpace_space]

theorem tail_lines_cons {c : Char} (hc : c ≠ '\n') (t : Str) :
    (Text.lines (c :: t)).tail = (Text.lines t).tail := by
  rw [Text.lines_cons, if_neg hc]
  cases Text.lines t <;> rfl

/-- The lines a quoted value begins assign what the lines of the value do. -/
theorem names_quote_iff {v : Str} (hname : Solid name) :
    (∃ line ∈ (Text.lines (quote v)).tail, Names go name line) ↔
      ∃ line ∈ (Text.lines v).tail, Names go name line := by
  obtain ⟨before, last, first, after, hesc, hquote, heq⟩ :=
    Text.lines_append (v.flatMap escape) ['\'']
  obtain ⟨rfl, rfl⟩ : ['\''] = first ∧ [] = after := List.cons.inj hquote
  have hmap : Text.lines (v.flatMap escape) = (Text.lines v).map (List.flatMap escape) :=
    Text.lines_flatMap rfl (fun c hc hmem => hc (mem_escape_iff.mp hmem).symm) v
  have hescape : (∃ line ∈ (Text.lines (v.flatMap escape)).tail, Names go name line) ↔
      ∃ line ∈ (Text.lines v).tail, Names go name line := by
    rw [hmap, ← List.map_tail]
    simp only [List.mem_map, exists_exists_and_eq_and, names_flatMap_escape hname]
  rw [quote, List.cons_append, tail_lines_cons (by decide), heq, ← hescape, hesc]
  -- the closing quote stands on the last line
  have hclosing : Names go name (last ++ ['\'']) ↔ Names go name last := by
    by_cases h : '=' ∈ last
    · exact names_append_of_mem h _
    · exact iff_of_false (not_names_of_notMem (by simpa using h)) (not_names_of_notMem h)
  cases before with
  | nil => simp
  | cons line before => simp [or_and_right, exists_or, hclosing]

/-- **The lines of an inline setting that assign a parameter** are lines of its name, and lines of its
value other than the first. -/
theorem names_entryText_iff {e : Str × Str} (hname : Solid name) :
    (∃ line ∈ Text.lines (entryText e), Names go name line) ↔
      (∃ line ∈ Text.lines (e.1 ++ ['=']), Names go name line) ∨
        ∃ line ∈ (Text.lines e.2).tail, Names go name line := by
  obtain ⟨before, last, first, after, hkey, hvalue, heq⟩ :=
    Text.lines_append e.1 (" = ".toList ++ quote e.2)
  obtain ⟨before', last', first', after', hkey', hsign, heq'⟩ := Text.lines_append e.1 ['=']
  obtain ⟨rfl, rfl⟩ : ['='] = first' ∧ [] = after' := List.cons.inj hsign
  obtain ⟨rfl, hlast⟩ := List.append_inj' (hkey.symm.trans hkey') rfl
  obtain rfl := List.singleton_inj.mp hlast
  have hvalue' : Text.lines (' ' :: '=' :: ' ' :: quote e.2) = first :: after := by
    rw [← hvalue, String.toList_ofList]
    rfl
  have hfirst : ∃ t, first = ' ' :: '=' :: t := by
    obtain ⟨line, rest, hline⟩ := List.exists_cons_of_ne_nil (Text.lines_ne_nil (' ' :: quote e.2))
    rw [Text.lines_cons, if_neg (by decide), Text.lines_cons, if_neg (by decide), hline] at hvalue'
    exact ⟨line, (List.cons.inj hvalue').1.symm⟩
  obtain ⟨t, rfl⟩ := hfirst
  have hafter : after = (Text.lines (quote e.2)).tail := by
    rw [← tail_lines_cons (c := ' ') (by decide), ← tail_lines_cons (c := '=') (by decide),
      ← tail_lines_cons (c := ' ') (by decide), hvalue', List.tail_cons]
  rw [entryText, List.append_assoc, heq, heq', ← names_quote_iff hname, ← hafter]
  simp only [List.mem_append, List.mem_cons, or_and_right, exists_or, exists_eq_left,
    List.not_mem_nil, or_false, names_append_space, or_assoc]

/-- **The parameters that inline settings assign.** -/
theorem isSome_inline_iff {m : Table Str Str} (hname : Solid name) :
    ((parseEffectiveConfig go (writeSortedMap m)).get name).isSome = true ↔
      ∃ e ∈ m, (∃ line ∈ Text.lines (e.1 ++ ['=']), Names go name line) ∨
        ∃ line ∈ (Text.lines e.2).tail, Names go name line := by
  have hlines (entries : List (Str × Str)) :
      (∃ line ∈ Text.lines (entries.flatMap fun e => entryText e ++ ['\n']), Names go name line) ↔
        ∃ e ∈ entries, ∃ line ∈ Text.lines (entryText e), Names go name line := by
    induction entries with
    | nil => simpa using not_names_of_notMem (by simp)
    | cons e entries ih =>
      rw [List.flatMap_cons, List.append_assoc, List.singleton_append, Text.lines_append_newline]
      simp only [List.mem_append, or_and_right, exists_or, ih, List.mem_cons, exists_eq_left]
  rw [get_parse_isSome_iff hname.proper, writeSortedMap, hlines]
  simp only [mem_sortedEntries, names_entryText_iff hname]

end MultigresOperator.PostgresConfig

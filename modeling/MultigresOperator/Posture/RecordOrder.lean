import MultigresOperator.Lib.Latest
import MultigresOperator.Posture.Evaluate
import MultigresOperator.Posture.Soundness

/-!
# The order of topology records

`GetPoolerStatus` and `Evaluate` go through the records of a shard's poolers and assign to maps under
the name of a record's pod. A pod with several live records keeps what the last one assigned, so what
they return depends on the order in which the records are listed, unless the live records of each pod
agree.

## Main results

* `lookup_getPoolerStatus`, `Scan.covers_cells`: the role and the observation of a pod are those of
  its last record
* `record_order_irrelevant_iff`: the order is irrelevant iff the live records of each pod agree
* `record_order_changes_verdict`: two records of a pod with different roles
-/

namespace MultigresOperator

open Loop

/-- The records that the listings of the cells return, in their order. -/
def readRecords (store : TopoStore) (cells : List String) : List Multipooler :=
  cells.flatMap fun cell => (store cell).toOption.getD []

/-- The pod that a live record belongs to. -/
def Multipooler.podIn (pooler : Multipooler) (podNames : List String) : Option String :=
  if pooler.isLifecycleShutdown || matchPod pooler podNames == "" then none
  else some (matchPod pooler podNames)

/-- Two topologies with the same records in another order. Listing a cell fails in both or in
neither. -/
structure Reordered (cells : List String) (store store' : TopoStore) : Prop where
  errors : ∀ cell ∈ cells, ∀ err, store cell = .error err ↔ store' cell = .error err
  records : (readRecords store cells).Perm (readRecords store' cells)

theorem readRecords_cons (store : TopoStore) (cell : String) (cells : List String) :
    readRecords store (cell :: cells) =
      (store cell).toOption.getD [] ++ readRecords store cells := rfl

/-! ## Records put in any order -/

/-- The topology in which one cell lists all the records, in a given order. -/
def gathered (store : TopoStore) (home : String) (records : List Multipooler) : TopoStore :=
  fun cell => (store cell).map fun _ => if cell = home then records else []

variable {store : TopoStore} {cells : List String} {pooler : Multipooler}

theorem readRecords_gathered_of_notMem {home : String} (records : List Multipooler)
    (h : home ∉ cells) : readRecords (gathered store home records) cells = [] := by
  refine List.flatMap_eq_nil_iff.mpr fun cell hcell => ?_
  have hne : cell ≠ home := fun heq => h (heq ▸ hcell)
  unfold gathered
  cases store cell with
  | error err => rfl
  | ok poolers => exact if_neg hne

theorem readRecords_gathered {home : String} {poolers : List Multipooler}
    (records : List Multipooler) (hnodup : cells.Nodup) (hmem : home ∈ cells)
    (hhome : store home = .ok poolers) :
    readRecords (gathered store home records) cells = records := by
  induction cells with
  | nil => cases hmem
  | cons cell cells ih =>
    rw [List.nodup_cons] at hnodup
    rw [readRecords_cons]
    by_cases hcell : cell = home
    · -- here all records are listed, and nowhere after
      subst hcell
      rw [readRecords_gathered_of_notMem records hnodup.1, List.append_nil]
      simp [gathered, hhome, Except.map, Except.toOption]
    · have hempty : ((gathered store home records) cell).toOption.getD [] = [] := by
        unfold gathered
        cases store cell with
        | error err => rfl
        | ok _ => exact if_neg hcell
      rw [hempty, List.nil_append]
      exact ih hnodup.2 ((List.mem_cons.mp hmem).resolve_left (Ne.symm hcell))

theorem exists_readable_of_mem (h : pooler ∈ readRecords store cells) :
    ∃ home ∈ cells, ∃ poolers, store home = .ok poolers := by
  obtain ⟨home, hhome, hmem⟩ := List.mem_flatMap.mp h
  cases hstore : store home with
  | error err => simp [hstore, Except.toOption] at hmem
  | ok poolers => exact ⟨home, hhome, poolers, hstore⟩

/-- **Any order of the records** is that of some topology. -/
theorem exists_reordered {records : List Multipooler} (hnodup : cells.Nodup)
    (hmem : pooler ∈ readRecords store cells) (hperm : (readRecords store cells).Perm records) :
    ∃ store', Reordered cells store store' ∧ readRecords store' cells = records := by
  obtain ⟨home, hhome, poolers, hpoolers⟩ := exists_readable_of_mem hmem
  have hread := readRecords_gathered records hnodup hhome hpoolers
  refine ⟨gathered store home records, ⟨fun cell _ err => ?_, ?_⟩, hread⟩
  · unfold gathered
    cases store cell <;> simp [Except.map]
  · rw [hread]
    exact hperm

theorem nodup_collectCells (shard : Shard) : (collectCells shard).Nodup :=
  (List.perm_insertionSort _ _).nodup_iff.mpr (List.nodup_dedup _)

/-! ## The roles of the pods -/

/-- The role that a record gives a pod. -/
def roleFor (podNames : List String) (pod : String) (pooler : Multipooler) : Option PodRole :=
  if pooler.podIn podNames = some pod then some pooler.role else none

theorem roleFor_of_podIn {podNames : List String} {pod : String}
    (h : pooler.podIn podNames = some pod) : roleFor podNames pod pooler = some pooler.role :=
  if_pos h

theorem lookup_record (podNames : List String) (pod : String) (result : PoolerStatusResult)
    (pooler : Multipooler) :
    (result.record podNames pooler).roles.lookup pod =
      (roleFor podNames pod pooler).or (result.roles.lookup pod) := by
  unfold PoolerStatusResult.record roleFor Multipooler.podIn
  dsimp only
  by_cases hskip : (pooler.isLifecycleShutdown || matchPod pooler podNames == "") = true
  · rw [if_pos hskip, if_pos hskip]
    rfl
  · rw [if_neg hskip, if_neg hskip, List.lookup_cons]
    by_cases hpod : pod = matchPod pooler podNames
    · simp [hpod]
    · simp [beq_eq_false_iff_ne.mpr hpod, Ne.symm hpod]

/-- **The role of a pod** is that of its last record. -/
theorem lookup_getPoolerStatus (store : TopoStore) (shard : Shard) (podNames : List String)
    (pod : String) :
    (getPoolerStatus store shard podNames).roles.lookup pod =
      latest (roleFor podNames pod) (readRecords store (collectCells shard)) := by
  let read : PoolerStatusResult → Option PodRole := fun result => result.roles.lookup pod
  have hrecord : ∀ result pooler, read (PoolerStatusResult.record podNames result pooler) = _ :=
    lookup_record podNames pod
  refine (foldl_latest_flatMap read ?_ _ _).trans Option.or_none
  intro result cell
  cases store cell with
  | error err => rfl
  | ok poolers => exact foldl_latest read hrecord poolers result

/-! ## The observation of a shard -/

/-- What a record makes `Evaluate` assign for its pod. -/
structure Glimpse where
  posture : String
  readiness : Readiness
  routed : Bool

section Observation

variable (C : Consensus) (rpc : StatusRpc) (podNames : List String)

/-- What the pooler of a record answers, next to the role its record advertises. -/
def glimpse (pooler : Multipooler) : Glimpse where
  posture := (observePooler C rpc pooler).1
  readiness := (observePooler C rpc pooler).2
  routed := pooler.isPrimaryPooler

/-- What a record makes `Evaluate` assign for a pod. -/
def glimpseFor (pod : String) (pooler : Multipooler) : Option Glimpse :=
  if pooler.podIn podNames = some pod then some (glimpse C rpc pooler) else none

/-- A live record that leaves the observation partial. -/
def missed (pooler : Multipooler) : Bool :=
  !pooler.isLifecycleShutdown &&
    (matchPod pooler podNames == "" || (observePooler C rpc pooler).1 == "UNKNOWN")

/-- **A scan after some records**: for each pod it holds what the last record assigned. -/
structure Scan.Covers (records : List Multipooler) (scan scan' : Scan) : Prop where
  postures : ∀ pod, scan'.postures.get pod =
    ((latest (glimpseFor C rpc podNames pod) records).map Glimpse.posture).or
      (scan.postures.get pod)
  readiness : ∀ pod, scan'.readiness.get pod =
    ((latest (glimpseFor C rpc podNames pod) records).map Glimpse.readiness).or
      (scan.readiness.get pod)
  routed : ∀ pod, scan'.isTopoPrimary.get pod =
    ((latest (glimpseFor C rpc podNames pod) records).map Glimpse.routed).or
      (scan.isTopoPrimary.get pod)

variable {C rpc podNames}

theorem Scan.Covers.append {records records' : List Multipooler} {a b c : Scan}
    (h : Scan.Covers C rpc podNames records a b) (h' : Scan.Covers C rpc podNames records' b c) :
    Scan.Covers C rpc podNames (records ++ records') a c := by
  constructor
  · intro pod
    rw [h'.postures, h.postures, latest_append, Option.map_or, Option.or_assoc]
  · intro pod
    rw [h'.readiness, h.readiness, latest_append, Option.map_or, Option.or_assoc]
  · intro pod
    rw [h'.routed, h.routed, latest_append, Option.map_or, Option.or_assoc]

theorem get_record {α : Type} {value : Glimpse → α} {table : Scan → Table String α}
    (hskip : ∀ scan pooler, pooler.podIn podNames = none →
      table (scan.record C rpc podNames pooler) = table scan)
    (hset : ∀ scan pooler pod, pooler.podIn podNames = some pod →
      table (scan.record C rpc podNames pooler) =
        (table scan).set pod (value (glimpse C rpc pooler)))
    (pod : String) (scan : Scan) (pooler : Multipooler) :
    (table (scan.record C rpc podNames pooler)).get pod =
      ((glimpseFor C rpc podNames pod pooler).map value).or ((table scan).get pod) := by
  unfold glimpseFor
  cases hpod : pooler.podIn podNames with
  | none => rw [hskip scan pooler hpod]; rfl
  | some own =>
    rw [hset scan pooler own hpod, Table.get_set]
    by_cases heq : own = pod
    · rw [if_pos heq.symm, if_pos (congrArg some heq)]
      rfl
    · rw [if_neg (Ne.symm heq), if_neg fun h => heq (Option.some.inj h)]
      rfl

variable {scan scan' : Scan} {store store' : TopoStore} {shard : Shard}

theorem Scan.record_skip {pooler : Multipooler} (h : pooler.podIn podNames = none) :
    ∃ incomplete, scan.record C rpc podNames pooler = { scan with incomplete := incomplete } := by
  unfold Multipooler.podIn at h
  unfold Scan.record
  split at h
  · next hskip =>
    rw [Bool.or_eq_true, beq_iff_eq] at hskip
    by_cases hdown : pooler.isLifecycleShutdown = true
    · rw [if_pos hdown]
      exact ⟨scan.incomplete, rfl⟩
    · rw [if_neg hdown]
      dsimp only
      rw [if_pos (hskip.resolve_left hdown)]
      exact ⟨true, rfl⟩
  · cases h

theorem Scan.record_set {pooler : Multipooler} {pod : String} (h : pooler.podIn podNames = some pod) :
    scan.record C rpc podNames pooler =
      { postures := scan.postures.set pod (glimpse C rpc pooler).posture
        readiness := scan.readiness.set pod (glimpse C rpc pooler).readiness
        isTopoPrimary := scan.isTopoPrimary.set pod (glimpse C rpc pooler).routed
        incomplete := scan.incomplete || (glimpse C rpc pooler).posture == "UNKNOWN" } := by
  unfold Multipooler.podIn at h
  unfold Scan.record
  split at h
  · cases h
  · next hkeep =>
    rw [Bool.or_eq_true, beq_iff_eq, not_or] at hkeep
    obtain rfl := Option.some.inj h
    rw [if_neg hkeep.1]
    dsimp only
    rw [if_neg hkeep.2]
    rfl

/-- A scan of some records, for a table of it: a record that counts sets one entry, and any other
leaves the table as it is. -/
theorem get_foldl_record {α : Type} {value : Glimpse → α} {table : Scan → Table String α}
    (htable : ∀ (scan : Scan) incomplete, table { scan with incomplete := incomplete } = table scan)
    (hset : ∀ (scan : Scan) (pooler : Multipooler) pod, pooler.podIn podNames = some pod →
      table (scan.record C rpc podNames pooler) =
        (table scan).set pod (value (glimpse C rpc pooler)))
    (pod : String) (records : List Multipooler) (scan : Scan) :
    (table (records.foldl (Scan.record C rpc podNames) scan)).get pod =
      ((latest (glimpseFor C rpc podNames pod) records).map value).or ((table scan).get pod) := by
  rw [← latest_map]
  refine foldl_latest (fun scan : Scan => (table scan).get pod)
    (get_record (fun scan pooler h => ?_) hset pod) records scan
  obtain ⟨incomplete, hrecord⟩ : ∃ incomplete, scan.record C rpc podNames pooler =
    { scan with incomplete := incomplete } := Scan.record_skip h
  rw [hrecord, htable]

theorem Scan.covers_foldl (records : List Multipooler) (scan : Scan) :
    Scan.Covers C rpc podNames records scan (records.foldl (Scan.record C rpc podNames) scan) := by
  exact ⟨fun pod => get_foldl_record (fun _ _ => rfl)
      (fun _ _ _ h => congrArg Scan.postures (Scan.record_set h)) pod records scan,
    fun pod => get_foldl_record (fun _ _ => rfl)
      (fun _ _ _ h => congrArg Scan.readiness (Scan.record_set h)) pod records scan,
    fun pod => get_foldl_record (fun _ _ => rfl)
      (fun _ _ _ h => congrArg Scan.isTopoPrimary (Scan.record_set h)) pod records scan⟩

theorem Scan.incomplete_record (scan : Scan) (pooler : Multipooler) :
    (scan.record C rpc podNames pooler).incomplete =
      (scan.incomplete || missed C rpc podNames pooler) := by
  unfold Scan.record missed
  by_cases hdown : pooler.isLifecycleShutdown = true
  · simp [hdown]
  · by_cases hpod : matchPod pooler podNames = ""
    · simp [hdown, hpod]
    · simp [hdown, hpod, beq_eq_false_iff_ne.mpr hpod]

theorem Scan.incomplete_foldl (records : List Multipooler) (scan : Scan) :
    (records.foldl (Scan.record C rpc podNames) scan).incomplete =
      (scan.incomplete || records.any (missed C rpc podNames)) := by
  induction records generalizing scan with
  | nil => simp
  | cons pooler records ih =>
    rw [List.foldl_cons, ih, Scan.incomplete_record, List.any_cons, Bool.or_assoc]

/-- No listing of a cell fails other than by an unavailable topology. -/
def Readable (store : TopoStore) (cells : List String) : Prop :=
  ∀ cell ∈ cells, ∀ err, store cell = .error err → err.unavailable = true

/-- **The scan of the cells** has gone through all records, and knows whether something is missing. -/
theorem Scan.covers_cells {cells : List String} (h : Readable store cells) (scan : Scan) :
    ∃ scan', Scan.cells C store rpc podNames cells scan = .ok scan' ∧
      Scan.Covers C rpc podNames (readRecords store cells) scan scan' ∧
      scan'.incomplete = (scan.incomplete || cells.any (fun cell => !(store cell).isOk) ||
        (readRecords store cells).any (missed C rpc podNames)) := by
  induction cells generalizing scan with
  | nil => exact ⟨scan, rfl, Scan.covers_foldl [] scan, by simp [readRecords]⟩
  | cons cell cells ih =>
    obtain ⟨hcell, hcells⟩ := List.forall_mem_cons.mp h
    unfold Scan.cells
    rw [readRecords_cons, List.any_cons, List.any_append]
    cases hstore : store cell with
    | error err =>
      obtain ⟨scan', hok, hcovers, hincomplete⟩ := ih hcells { scan with incomplete := true }
      refine ⟨scan', ?_, ⟨hcovers.postures, hcovers.readiness, hcovers.routed⟩, ?_⟩
      · dsimp only
        rw [if_pos (hcell err hstore)]
        exact hok
      · simp [hincomplete, Except.isOk, Except.toBool]
    | ok poolers =>
      obtain ⟨scan', hok, hcovers, hincomplete⟩ :=
        ih hcells (poolers.foldl (Scan.record C rpc podNames) scan)
      refine ⟨scan', hok, (Scan.covers_foldl poolers scan).append hcovers, ?_⟩
      rw [hincomplete, Scan.incomplete_foldl]
      simp only [Except.isOk, Except.toBool, Except.toOption, Option.getD_some, Bool.not_true,
        Bool.false_or]
      cases scan.incomplete <;> cases poolers.any (missed C rpc podNames) <;> simp

theorem Scan.cells_of_not_readable {cells : List String} (h : ¬ Readable store cells)
    (herrors : ∀ cell ∈ cells, ∀ err, store cell = .error err ↔ store' cell = .error err)
    (scan scan' : Scan) :
    ∃ text, Scan.cells C store rpc podNames cells scan = .error text ∧
      Scan.cells C store' rpc podNames cells scan' = .error text := by
  induction cells generalizing scan scan' with
  | nil => exact absurd (fun _ hmem => by cases hmem) h
  | cons cell cells ih =>
    obtain ⟨hcell, hcells⟩ := List.forall_mem_cons.mp herrors
    have hrest (hok : ∀ err, store cell = .error err → err.unavailable = true) :
        ¬ Readable store cells := fun hread => h (List.forall_mem_cons.mpr ⟨hok, hread⟩)
    unfold Scan.cells
    cases hstore : store cell with
    | error err =>
      rw [(hcell err).mp hstore]
      dsimp only
      by_cases hunavailable : err.unavailable = true
      · rw [if_pos hunavailable, if_pos hunavailable]
        refine ih (hrest fun err' herr => ?_) hcells _ _
        rw [hstore] at herr
        cases herr
        exact hunavailable
      · rw [if_neg hunavailable, if_neg hunavailable]
        exact ⟨_, rfl, rfl⟩
    | ok poolers =>
      cases hstore' : store' cell with
      | error err => rw [(hcell err).mpr hstore'] at hstore; cases hstore
      | ok poolers' =>
        refine ih (hrest fun err herr => ?_) hcells _ _
        rw [hstore] at herr
        cases herr

/-! ## The verdict -/

/-- Two observations that are the same, map by map. -/
structure PostureResult.Same (a b : PostureResult) : Prop where
  postures : ∀ pod, a.postures.get pod = b.postures.get pod
  readiness : ∀ pod, a.readiness.get pod = b.readiness.get pod
  multiplePrimaries : a.multiplePrimaries = b.multiplePrimaries
  mismatches : a.mismatches = b.mismatches
  primaryCount : a.primaryCount = b.primaryCount
  incomplete : a.incomplete = b.incomplete
  message : a.message = b.message

/-- Two results of `evaluate` that are the same. -/
inductive SameVerdict :
    Except String (Option PostureResult) → Except String (Option PostureResult) → Prop
  | failed (text : String) : SameVerdict (.error text) (.error text)
  | unregistered : SameVerdict (.ok none) (.ok none)
  | observed {a b : PostureResult} (h : a.Same b) : SameVerdict (.ok (some a)) (.ok (some b))

/-- A glimpse without the routing role where it does not count: only a primary is compared with
it. -/
def Glimpse.counted (s : Glimpse) : Glimpse :=
  { s with routed := s.posture == "PRIMARY" && s.routed }

theorem Scan.nodup_primaries (scan : Scan) : scan.primaries.Nodup := by
  refine (List.perm_insertionSort _ _).nodup_iff.mpr ?_
  exact scan.postures.nodup.sublist (List.filter_sublist.map Prod.fst)

theorem Scan.primaries_eq (h : ∀ pod, scan'.postures.get pod = scan.postures.get pod) :
    scan'.primaries = scan.primaries := by
  have hperm : scan'.primaries.Perm scan.primaries := by
    rw [List.perm_ext_iff_of_nodup scan'.nodup_primaries scan.nodup_primaries]
    intro pod
    rw [Scan.mem_primaries, Scan.mem_primaries, h]
  exact hperm.eq_of_pairwise' (List.pairwise_insertionSort _ _) (List.pairwise_insertionSort _ _)

/-- Scans with the same entries amount to the same observation. The routing roles matter for the pods
that report a primary. -/
theorem Scan.conclude_same (hpostures : ∀ pod, scan'.postures.get pod = scan.postures.get pod)
    (hreadiness : ∀ pod, scan'.readiness.get pod = scan.readiness.get pod)
    (hrouted : ∀ pod, scan.postures.get pod = some "PRIMARY" →
      scan'.isTopoPrimary.get pod = scan.isTopoPrimary.get pod)
    (hincomplete : scan'.incomplete = scan.incomplete) : scan'.conclude.Same scan.conclude := by
  have hprimaries := Scan.primaries_eq hpostures
  have hmismatches : scan'.mismatches = scan.mismatches := by
    unfold Scan.mismatches
    rw [hprimaries]
    refine List.filter_congr fun pod hpod => ?_
    rw [hrouted pod (Scan.mem_primaries.mp hpod)]
  refine ⟨hpostures, hreadiness, ?_, hmismatches, ?_, hincomplete, ?_⟩
  · simp only [Scan.conclude, hprimaries]
  · simp only [Scan.conclude, hprimaries]
  · simp only [Scan.conclude, hprimaries, hmismatches, hincomplete]

/-- The scan that `Evaluate` starts from. -/
def Scan.seeded (podNames : List String) : Scan where
  readiness := Table.ofList (podNames.map fun podName => (podName, awaitingRegistration))

def Scan.verdict (scan : Scan) : Option PostureResult :=
  if scan.postures.items.isEmpty && !scan.incomplete then none else some scan.conclude

theorem evaluate_eq_verdict
    (h : Scan.cells C store rpc podNames (collectCells shard) (.seeded podNames) = .ok scan) :
    evaluate C store rpc shard podNames = .ok scan.verdict := by
  unfold evaluate
  change Except.map _ (Scan.cells C store rpc podNames (collectCells shard) (.seeded podNames)) = _
  rw [h]
  rfl

theorem Scan.sameVerdict (hpostures : ∀ pod, scan'.postures.get pod = scan.postures.get pod)
    (hreadiness : ∀ pod, scan'.readiness.get pod = scan.readiness.get pod)
    (hrouted : ∀ pod, scan.postures.get pod = some "PRIMARY" →
      scan'.isTopoPrimary.get pod = scan.isTopoPrimary.get pod)
    (hincomplete : scan'.incomplete = scan.incomplete) :
    SameVerdict (.ok scan'.verdict) (.ok scan.verdict) := by
  have hempty : scan'.postures.items.isEmpty = scan.postures.items.isEmpty := by
    rw [Bool.eq_iff_iff, List.isEmpty_iff, List.isEmpty_iff, Table.items_eq_nil,
      Table.items_eq_nil]
    simp only [hpostures]
  unfold Scan.verdict
  rw [hempty, hincomplete]
  split
  · exact .unregistered
  · exact .observed (Scan.conclude_same hpostures hreadiness hrouted hincomplete)

/-- **The verdict of reordered records**: if the records of each pod agree as far as they count, it is
the same. -/
theorem sameVerdict_of_reordered (hreadable : Readable store (collectCells shard))
    (hagree : ∀ pod, ∀ p ∈ readRecords store (collectCells shard),
      ∀ q ∈ readRecords store (collectCells shard), p.podIn podNames = some pod →
        q.podIn podNames = some pod → (glimpse C rpc p).counted = (glimpse C rpc q).counted)
    (h : Reordered (collectCells shard) store store') :
    SameVerdict (evaluate C store' rpc shard podNames) (evaluate C store rpc shard podNames) := by
  have hreadable' : Readable store' (collectCells shard) := fun cell hcell err herr =>
    hreadable cell hcell err ((h.errors cell hcell err).mpr herr)
  obtain ⟨scan, hscan, hcovers, hincomplete⟩ := Scan.covers_cells hreadable (.seeded podNames)
  obtain ⟨scan', hscan', hcovers', hincomplete'⟩ := Scan.covers_cells hreadable' (.seeded podNames)
  rw [evaluate_eq_verdict hscan, evaluate_eq_verdict hscan']
  -- what counts of the last record of a pod is the same in both orders
  have hcounted (pod : String) :
      (latest (glimpseFor C rpc podNames pod) (readRecords store' (collectCells shard))).map
          Glimpse.counted =
        (latest (glimpseFor C rpc podNames pod) (readRecords store (collectCells shard))).map
          Glimpse.counted := by
    rw [← latest_map, ← latest_map]
    refine latest_eq_of_perm (fun p hp q hq x hx y hy => ?_) h.records
    obtain ⟨a, ha, rfl⟩ := Option.map_eq_some_iff.mp hx
    obtain ⟨b, hb, rfl⟩ := Option.map_eq_some_iff.mp hy
    obtain ⟨hpPod, ha⟩ := Option.ite_none_right_eq_some.mp ha
    obtain ⟨hqPod, hb⟩ := Option.ite_none_right_eq_some.mp hb
    rw [← Option.some.inj ha, ← Option.some.inj hb]
    exact hagree pod p hp q hq hpPod hqPod
  have hmap {α : Type} {g : Glimpse → α} (hg : ∀ s, g s.counted = g s) (pod : String) :
      (latest (glimpseFor C rpc podNames pod) (readRecords store' (collectCells shard))).map g =
        (latest (glimpseFor C rpc podNames pod) (readRecords store (collectCells shard))).map g := by
    have heq := congrArg (Option.map g) (hcounted pod)
    simp only [Option.map_map] at heq
    rwa [show g ∘ Glimpse.counted = g from funext hg] at heq
  refine Scan.sameVerdict (fun pod => ?_) (fun pod => ?_) (fun pod hprimary => ?_) ?_
  · rw [hcovers'.postures, hcovers.postures, hmap fun _ => rfl]
  · rw [hcovers'.readiness, hcovers.readiness, hmap fun _ => rfl]
  · rw [hcovers'.routed, hcovers.routed]
    rw [hcovers.postures] at hprimary
    have hlast := hcounted pod
    cases hs : latest (glimpseFor C rpc podNames pod)
        (readRecords store (collectCells shard)) with
    | none => simp [hs, Scan.seeded] at hprimary
    | some s =>
      rw [hs] at hlast hprimary
      obtain ⟨s', hs', hcount⟩ := Option.map_eq_some_iff.mp hlast
      -- both report a primary, so the routing role counts in both
      have hposture : s.posture = "PRIMARY" := Option.some.inj hprimary
      have hposture' : s'.posture = "PRIMARY" := (congrArg Glimpse.posture hcount).trans hposture
      have hrouted := congrArg Glimpse.routed hcount
      simp only [Glimpse.counted, hposture, hposture', beq_self_eq_true, Bool.true_and] at hrouted
      rw [hs', Option.map_some, Option.map_some, hrouted]
  · rw [hincomplete, hincomplete']
    congr 1
    · congr 1
      rw [Bool.eq_iff_iff, List.any_eq_true, List.any_eq_true]
      refine exists_congr fun cell => and_congr_right fun hcell => ?_
      have herrors := h.errors cell hcell
      cases hstore : store cell with
      | error err => rw [(herrors err).mp hstore]
      | ok poolers =>
        cases hstore' : store' cell with
        | error err => rw [(herrors err).mpr hstore'] at hstore; cases hstore
        | ok poolers' => rfl
    · rw [Bool.eq_iff_iff, List.any_eq_true, List.any_eq_true]
      simp only [h.records.mem_iff]

theorem exists_verdict_of_last {front : List Multipooler} {p : Multipooler} {pod : String}
    {v : Except String (Option PostureResult)} (hreadable : Readable store' (collectCells shard))
    (hlast : readRecords store' (collectCells shard) = front ++ [p])
    (hpod : p.podIn podNames = some pod) (h : SameVerdict (evaluate C store' rpc shard podNames) v) :
    ∃ result, v = .ok (some result) ∧
      result.postures.get pod = some (glimpse C rpc p).posture ∧
      result.readiness.get pod = some (glimpse C rpc p).readiness ∧
      ((glimpse C rpc p).posture = "PRIMARY" →
        (pod ∈ result.mismatches ↔ p.isPrimaryPooler = false)) := by
  obtain ⟨scan, hscan, hcovers, -⟩ := Scan.covers_cells hreadable (.seeded podNames)
  have hsighting : latest (glimpseFor C rpc podNames pod)
      (readRecords store' (collectCells shard)) = some (glimpse C rpc p) := by
    rw [hlast]
    exact latest_concat (f := glimpseFor C rpc podNames pod) (if_pos hpod) front
  have hposture : scan.postures.get pod = some (glimpse C rpc p).posture := by
    rw [hcovers.postures, hsighting]
    rfl
  have hroute : scan.isTopoPrimary.get pod = some p.isPrimaryPooler := by
    rw [hcovers.routed, hsighting]
    rfl
  have hverdict : scan.verdict = some scan.conclude := by
    refine if_neg fun hempty => ?_
    rw [Bool.and_eq_true, List.isEmpty_iff, Table.items_eq_nil] at hempty
    rw [hempty.1 pod] at hposture
    cases hposture
  rw [evaluate_eq_verdict hscan, hverdict] at h
  cases h with
  | observed hsame =>
    refine ⟨_, rfl, ?_, ?_, fun hprimary => ?_⟩
    · rw [← hsame.postures]
      exact hposture
    · rw [← hsame.readiness]
      refine (hcovers.readiness pod).trans ?_
      rw [hsighting]
      rfl
    · rw [← hsame.mismatches]
      change pod ∈ scan.mismatches ↔ _
      rw [Scan.mismatches, List.mem_filter, Scan.mem_primaries, hposture, hprimary, hroute]
      simp

end Observation

/-! ## The order -/

def Registered (store : TopoStore) (shard : Shard) (podNames : List String) (pod : String)
    (pooler : Multipooler) : Prop :=
  pooler ∈ readRecords store (collectCells shard) ∧ pooler.podIn podNames = some pod

/-- **When the order of records is irrelevant.** The role map of `GetPoolerStatus` and the verdict of
`Evaluate` are the same for every order of the records iff the live records of each pod give it the
same role and, unless `Evaluate` fails, the same observation: posture, readiness, and for a primary
whether the topology routes to it. -/
theorem record_order_irrelevant_iff (C : Consensus) (store : TopoStore) (rpc : StatusRpc)
    (shard : Shard) (podNames : List String) :
    (∀ store', Reordered (collectCells shard) store store' →
      (∀ pod, (getPoolerStatus store' shard podNames).roles.lookup pod =
        (getPoolerStatus store shard podNames).roles.lookup pod) ∧
      SameVerdict (evaluate C store' rpc shard podNames) (evaluate C store rpc shard podNames)) ↔
    ∀ pod p q, Registered store shard podNames pod p → Registered store shard podNames pod q →
      p.role = q.role ∧ (Readable store (collectCells shard) →
        (observePooler C rpc p) = (observePooler C rpc q) ∧
          ((observePooler C rpc p).1 = "PRIMARY" → p.isPrimaryPooler = q.isPrimaryPooler)) := by
  constructor
  · intro h pod p q ⟨hp, hpPod⟩ ⟨hq, hqPod⟩
    -- bring the one record to the end, and the other
    obtain ⟨front, hperm⟩ := exists_perm_concat hp
    obtain ⟨front', hperm'⟩ := exists_perm_concat hq
    obtain ⟨store₁, hstore₁, hread₁⟩ := exists_reordered (nodup_collectCells shard) hp hperm
    obtain ⟨store₂, hstore₂, hread₂⟩ := exists_reordered (nodup_collectCells shard) hq hperm'
    obtain ⟨hroles₁, hverdict₁⟩ := h store₁ hstore₁
    obtain ⟨hroles₂, hverdict₂⟩ := h store₂ hstore₂
    constructor
    · have hlook₁ := hroles₁ pod
      have hlook₂ := hroles₂ pod
      rw [lookup_getPoolerStatus, hread₁, latest_concat (roleFor_of_podIn hpPod)] at hlook₁
      rw [lookup_getPoolerStatus, hread₂, latest_concat (roleFor_of_podIn hqPod)] at hlook₂
      exact Option.some.inj (hlook₁.trans hlook₂.symm)
    · intro hreadable
      have hreadable₁ : Readable store₁ (collectCells shard) := fun cell hcell err herr =>
        hreadable cell hcell err ((hstore₁.errors cell hcell err).mpr herr)
      have hreadable₂ : Readable store₂ (collectCells shard) := fun cell hcell err herr =>
        hreadable cell hcell err ((hstore₂.errors cell hcell err).mpr herr)
      obtain ⟨result, hresult, hposture, hready, hmismatch⟩ :=
        exists_verdict_of_last hreadable₁ hread₁ hpPod hverdict₁
      obtain ⟨result', hresult', hposture', hready', hmismatch'⟩ :=
        exists_verdict_of_last hreadable₂ hread₂ hqPod hverdict₂
      obtain rfl : result = result' :=
        Option.some.inj (Except.ok.inj (hresult.symm.trans hresult'))
      have hpostures := Option.some.inj (hposture.symm.trans hposture')
      refine ⟨Prod.ext hpostures (Option.some.inj (hready.symm.trans hready')), fun hprimary => ?_⟩
      have hiff := (hmismatch hprimary).symm.trans (hmismatch' (hpostures.symm.trans hprimary))
      cases hrouted : p.isPrimaryPooler with
      | false => exact (hiff.mp hrouted).symm
      | true =>
        cases hrouted' : q.isPrimaryPooler with
        | true => rfl
        | false =>
          rw [hiff.mpr hrouted'] at hrouted
          cases hrouted
  · intro h store' hstore'
    constructor
    · intro pod
      rw [lookup_getPoolerStatus, lookup_getPoolerStatus]
      refine latest_eq_of_perm (fun p hp q hq x hx y hy => ?_) hstore'.records
      obtain ⟨hpPod, hx⟩ := Option.ite_none_right_eq_some.mp hx
      obtain ⟨hqPod, hy⟩ := Option.ite_none_right_eq_some.mp hy
      rw [← Option.some.inj hx, ← Option.some.inj hy]
      exact (h pod p q ⟨hp, hpPod⟩ ⟨hq, hqPod⟩).1
    · by_cases hreadable : Readable store (collectCells shard)
      · refine sameVerdict_of_reordered hreadable (fun pod p hp q hq hpPod hqPod => ?_) hstore'
        obtain ⟨hobserved, hrouted⟩ := (h pod p q ⟨hp, hpPod⟩ ⟨hq, hqPod⟩).2 hreadable
        unfold Glimpse.counted glimpse
        rw [← hobserved]
        dsimp only
        by_cases hprimary : (observePooler C rpc p).1 = "PRIMARY"
        · rw [hrouted hprimary]
        · rw [beq_eq_false_iff_ne.mpr hprimary]
          rfl
      · obtain ⟨text, hfailed, hfailed'⟩ := Scan.cells_of_not_readable (C := C) hreadable
          hstore'.errors (.seeded podNames) (.seeded podNames)
        have hsame : evaluate C store' rpc shard podNames = .error text := by
          unfold evaluate
          exact congrArg (Except.map _) hfailed'
        have hbase : evaluate C store rpc shard podNames = .error text := by
          unfold evaluate
          exact congrArg (Except.map _) hfailed
        rw [hsame, hbase]
        exact .failed text

/-! ## A pod with two records -/

namespace Sample

/-- A record that the pod registered under an earlier identity. -/
def oldRecord : Multipooler := record "old-1" "p-1" .replica

/-- Both records lead to the pooler that runs on the pod, a primary. -/
def primaryRpc : StatusRpc := fun _ => .ok (answer "p-1" (poolerId "p-1") cohort .primary)

def oldLast : TopoStore := fun _ => .ok [leadRecord, oldRecord]

def leadLast : TopoStore := fun _ => .ok [oldRecord, leadRecord]

end Sample

section

open Sample

/-- **The order of two records decides**: the pod is a replica or the primary, and its posture is an
inconsistency or none. -/
theorem record_order_changes_verdict :
    Reordered (collectCells shard) oldLast leadLast ∧
      (getPoolerStatus oldLast shard podNames).roles.lookup "p-1" = some .replica ∧
      (getPoolerStatus leadLast shard podNames).roles.lookup "p-1" = some .primary ∧
      ¬ SameVerdict (evaluate countingConsensus oldLast primaryRpc shard podNames)
        (evaluate countingConsensus leadLast primaryRpc shard podNames) := by
  refine ⟨⟨?_, ?_⟩, by decide +kernel, by decide +kernel, ?_⟩
  · simp [oldLast, leadLast]
  · exact List.Perm.swap _ _ _
  · have hold : (evaluate countingConsensus oldLast primaryRpc shard podNames).map
        (Option.map PostureResult.mismatches) = .ok (some ["p-1"]) := by decide +kernel
    have hlead : (evaluate countingConsensus leadLast primaryRpc shard podNames).map
        (Option.map PostureResult.mismatches) = .ok (some []) := by decide +kernel
    intro hsame
    generalize evaluate countingConsensus oldLast primaryRpc shard podNames = a at hold hsame
    generalize evaluate countingConsensus leadLast primaryRpc shard podNames = b at hlead hsame
    cases hsame with
    | failed text => cases hold
    | unregistered => cases hold
    | observed h =>
      have hmismatch := Option.some.inj (Except.ok.inj hold)
      have hnone := Option.some.inj (Except.ok.inj hlead)
      rw [h.mismatches, hnone] at hmismatch
      cases hmismatch

end

end MultigresOperator

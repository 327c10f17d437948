import Mathlib.Algebra.Group.Int.Defs
import Mathlib.Data.List.MinMax
import Mathlib.Data.String.Basic
import MultigresOperator.Api.Conditions
import MultigresOperator.Lib.Latest
import MultigresOperator.Lib.Text
import MultigresOperator.Shard.Quarantine

/-!
# Backup health

A pass asks the primary for its backups at its end and keeps the verdict in the `BackupHealthy`
condition, by which a later pass wipes quarantined pods. The id of a backup starts with its time, and
ids are compared as text.

## Main results

* `healthy_iff_recent`: the verdict is that of the latest backup
* `backup_condition_run`: the condition over any sequence of passes
* `wipes_rest_on_backup`: the verdict that a wipe goes back to
-/

namespace MultigresOperator.BackupHealth

/-! ## Times -/

/-- The days of a month; months are counted from the start of the year 0. -/
def daysIn (month : ℕ) : ℕ :=
  let year := month / 12
  if month % 12 = 1 then if year % 4 = 0 ∧ (year % 100 ≠ 0 ∨ year % 400 = 0) then 29 else 28
  else if month % 12 ∈ [3, 5, 8, 10] then 30 else 31

def daysBefore : ℕ → ℕ
  | 0 => 0
  | month + 1 => daysBefore month + daysIn month

/-- The seconds up to the time that 14 digits write, if they write one. -/
def seconds (digits : ℕ) : Option ℕ :=
  let date := digits / 1000000
  let clock := digits % 1000000
  let month := 12 * (date / 100 / 100) + date / 100 % 100 - 1
  if 1 ≤ date / 100 % 100 ∧ date / 100 % 100 ≤ 12 ∧ 1 ≤ date % 100 ∧ date % 100 ≤ daysIn month ∧
      clock / 100 / 100 < 24 ∧ clock / 100 % 100 < 60 ∧ clock % 100 < 60 then
    some (86400 * (daysBefore month + date % 100) + 3600 * (clock / 100 / 100) +
      60 * (clock / 100 % 100) + clock % 100)
  else none

/-- `ParseTime`: the time that an id starts with, in the layout `20060102-150405`; none for the zero
time, which begins the year 1. -/
def parseTime (backupId : String) : Option ℕ :=
  match backupId.toList.splitAt 8 with
  | (date, '-' :: rest) =>
    let digits := date ++ rest.take 6
    if digits.length = 14 ∧ digits.all Char.isDigit then
      (seconds (Nat.ofDigitChars 10 digits 0)).filter (· ≠ 86400 * (daysBefore 12 + 1))
    else none
  | _ => none

theorem seconds_mono {n k t u : ℕ} (hn : seconds n = some t) (hk : seconds k = some u) (h : n ≤ k) :
    t ≤ u := by
  simp only [seconds, Option.ite_none_right_eq_some, Option.some.injEq] at hn hk
  have hdate : n / 1000000 < k / 1000000 ∨
      n / 1000000 = k / 1000000 ∧ n % 1000000 ≤ k % 1000000 := by omega
  generalize n / 1000000 = date, n % 1000000 = clock at hn hdate
  generalize k / 1000000 = date', k % 1000000 = clock' at hk hdate
  obtain ⟨⟨hm, hm', -, hd, hclock⟩, rfl⟩ := hn
  obtain ⟨⟨hk, hk', hd', -, hclock'⟩, rfl⟩ := hk
  rcases hdate with hlt | ⟨rfl, hle⟩
  · have hmono : Monotone daysBefore := monotone_nat_of_le_succ fun _ => Nat.le_add_right _ _
    set month := 12 * (date / 100 / 100) + date / 100 % 100 - 1
    set month' := 12 * (date' / 100 / 100) + date' / 100 % 100 - 1
    have hmonth : month < month' ∨ month = month' ∧ date % 100 < date' % 100 := by omega
    have hday : daysBefore month + date % 100 < daysBefore month' + date' % 100 := by
      rcases hmonth with hlt | ⟨heq, hlt⟩
      · have hnext : daysBefore month + daysIn month ≤ daysBefore month' := hmono hlt
        omega
      · rw [heq]
        omega
    omega
  · omega

theorem exists_of_parseTime {backupId : String} {t : ℕ} (h : parseTime backupId = some t) :
    ∃ date clock rest : List Char, backupId.toList = date ++ '-' :: (clock ++ rest) ∧
      date.length = 8 ∧ clock.length = 6 ∧ date.all Char.isDigit = true ∧
      clock.all Char.isDigit = true ∧
      seconds (Nat.ofDigitChars 10 clock (Nat.ofDigitChars 10 date 0)) = some t := by
  unfold parseTime at h
  split at h
  · next date rest hsplit =>
    rw [List.splitAt_eq, Prod.mk.injEq] at hsplit
    simp only [Option.ite_none_right_eq_some, Option.filter_eq_some_iff, List.all_append,
      List.length_append, Bool.and_eq_true, Nat.ofDigitChars_append] at h
    obtain ⟨⟨hlength, hdate, hclock⟩, hseconds, -⟩ := h
    have hle : date.length ≤ 8 := hsplit.1 ▸ List.length_take_le 8 _
    have hle' := List.length_take_le 6 rest
    refine ⟨date, rest.take 6, rest.drop 6, ?_, by omega, by omega, hdate, hclock, hseconds⟩
    rw [List.take_append_drop, ← hsplit.1, ← hsplit.2, List.take_append_drop]
  · cases h

/-- **Ids are in the order of their times.** -/
theorem parseTime_mono {a b : String} {t u : ℕ} (ha : parseTime a = some t) (hb : parseTime b = some u)
    (h : a ≤ b) : t ≤ u := by
  rcases h.eq_or_lt with rfl | hlt
  · exact (Option.some.inj (ha.symm.trans hb)).le
  obtain ⟨date, clock, rest, hid, hl, hl', hdate, hclock, ht⟩ := exists_of_parseTime ha
  obtain ⟨date', clock', rest', hid', hk, hk', hdate', hclock', hu⟩ := exists_of_parseTime hb
  refine seconds_mono ht hu ?_
  rw [String.lt_iff_toList_lt, hid, hid'] at hlt
  have hdays := Text.Behind.digits (n := 0) (k := 0) (hl.trans hk.symm) hdate hdate' (.inr ⟨rfl, hlt⟩)
  simp only [Text.Behind, List.cons_lt_cons_iff, lt_self_iff_false, true_and, false_or] at hdays
  have htimes := Text.Behind.digits (hl'.trans hk'.symm) hclock hclock' hdays
  exact htimes.elim le_of_lt fun h => h.1.le

/-! ## The verdict -/

/-- What the primary tells of a backup. -/
structure BackupMetadata where
  backupId : String
  type : String
  complete : Bool

structure Result where
  healthy : Bool
  lastBackupTime : Option ℕ := none
  lastBackupType : String := ""
  message : String

/-- How messages write a duration in hours and an id in quotes. -/
structure Format where
  hours : ℤ → String
  quote : String → String

/-- `BackupStaleThreshold`, in nanoseconds like the clock -/
def backupStaleThreshold : ℤ := 25 * 3600 * 10 ^ 9

/-- The age of a backup; a duration past the range of `time.Duration` is its nearest bound. -/
def age (now backupTime : ℕ) : ℤ := max (-2 ^ 63) (min (2 ^ 63 - 1) (now - 10 ^ 9 * backupTime))

variable (fmt : Format)

/-- `EvaluateBackups`: the latest backup is the first of the greatest id among the complete ones. -/
def evaluateBackups (now : ℕ) (backups : List BackupMetadata) : Result :=
  if backups.isEmpty then { healthy := false, message := "No backups found" }
  else match (backups.filter (·.complete)).argmax (·.backupId) with
  | none => { healthy := false, message := "No completed backups found" }
  | some latest =>
    match parseTime latest.backupId with
    | none =>
      { healthy := false
        message := "Failed to parse backup timestamp from ID " ++ fmt.quote latest.backupId }
    | some backupTime =>
      let age := age now backupTime
      if backupStaleThreshold < age then
        ⟨false, some backupTime, latest.type,
          "Last backup is " ++ fmt.hours age ++ "h old (threshold: 25h)"⟩
      else
        ⟨true, some backupTime, latest.type,
          "Last " ++ latest.type ++ " backup completed " ++ fmt.hours age ++ "h ago"⟩

structure Recent (now : ℕ) (backups : List BackupMetadata) (b : BackupMetadata) : Prop where
  mem : b ∈ backups
  complete : b.complete = true
  time : ∃ t, parseTime b.backupId = some t ∧ (now : ℤ) ≤ 10 ^ 9 * t + backupStaleThreshold

section

variable {fmt} {now : ℕ} {backups : List BackupMetadata}

theorem healthy_evaluateBackups : (evaluateBackups fmt now backups).healthy = true ↔
    ∃ latest ∈ (backups.filter (·.complete)).argmax (·.backupId), Recent now backups latest := by
  have hage {t : ℕ} : age now t ≤ backupStaleThreshold ↔
      (now : ℤ) ≤ 10 ^ 9 * t + backupStaleThreshold := by
    unfold age backupStaleThreshold
    omega
  unfold evaluateBackups
  split
  · next hempty => simp [List.isEmpty_iff.mp hempty]
  cases hlatest : (backups.filter (·.complete)).argmax (·.backupId) with
  | none => simp
  | some latest =>
    have hmem := List.mem_filter.mp (List.argmax_mem hlatest)
    have hrecent : Recent now backups latest ↔
        ∃ t, parseTime latest.backupId = some t ∧ age now t ≤ backupStaleThreshold := by
      simp only [hage]
      exact ⟨Recent.time, fun h => ⟨hmem.1, hmem.2, h⟩⟩
    simp only [Option.mem_def, Option.some.injEq, exists_eq_left', hrecent]
    cases htime : parseTime latest.backupId with
    | none => simp
    | some t =>
      simp only [Option.some.injEq, exists_eq_left']
      split
      · next hold => simpa using hold
      · next hnew => simpa using hnew

end

/-- **The verdict** is healthy exactly if some complete backup is recent and none whose id has no time
comes after it: of the others the greatest id is that of the latest backup. -/
theorem healthy_iff_recent (now : ℕ) (backups : List BackupMetadata) :
    (evaluateBackups fmt now backups).healthy = true ↔ ∃ b, Recent now backups b ∧
      ∀ other ∈ backups, other.complete = true → parseTime other.backupId = none →
        other.backupId ≤ b.backupId := by
  have hgreatest {latest b : BackupMetadata} (hb : b ∈ backups) (hcomplete : b.complete = true)
      (h : latest ∈ (backups.filter (·.complete)).argmax (·.backupId)) :
      b.backupId ≤ latest.backupId :=
    List.le_of_mem_argmax (List.mem_filter.mpr ⟨hb, hcomplete⟩) h
  rw [healthy_evaluateBackups]
  constructor
  · rintro ⟨latest, hlatest, hrecent⟩
    exact ⟨latest, hrecent, fun other hother hcomplete _ => hgreatest hother hcomplete hlatest⟩
  · rintro ⟨b, hb, hclear⟩
    obtain ⟨t, ht, hage⟩ := hb.time
    cases hlatest : (backups.filter (·.complete)).argmax (·.backupId) with
    | none =>
      have hmem := List.mem_filter.mpr ⟨hb.mem, hb.complete⟩
      rw [List.argmax_eq_none.mp hlatest] at hmem
      cases hmem
    | some latest =>
      have hmem := List.mem_filter.mp (List.argmax_mem hlatest)
      have hle := hgreatest hb.mem hb.complete hlatest
      refine ⟨latest, rfl, hmem.1, hmem.2, ?_⟩
      cases hu : parseTime latest.backupId with
      | none =>
        rw [le_antisymm hle (hclear latest hmem.1 hmem.2 hu), hu] at ht
        cases ht
      | some u =>
        have hlater := parseTime_mono ht hu hle
        exact ⟨u, rfl, by omega⟩

/-! ## The condition -/

/-- The part of a Shard's status that the check writes. -/
structure Status where
  conditions : List Condition
  lastBackupTime : Option ℕ := none
  lastBackupType : String := ""

def conditionHealthy : String := "BackupHealthy"

namespace Status

variable (s : Status)

def isHealthy : Bool := isConditionTrue s.conditions conditionHealthy

def isStale : Bool := isConditionFalse s.conditions conditionHealthy

end Status

/-- What a pass learns of the backups. -/
inductive Reading
  /-- It ends before the check, it has no client, or no primary is registered. -/
  | nothing
  /-- The client cannot be built. -/
  | clientUnavailable (err : String)
  /-- The outcome of the check. -/
  | evaluated (backups : Except String (List BackupMetadata))

/-- The part of a data-plane pass that concerns backups; `stored` tells whether its status update
went through. -/
structure Pass where
  generation : ℕ
  now : ℕ
  reading : Reading
  stored : Bool

namespace Pass

variable (p : Pass)

def set (value : ConditionStatus) (reason message : String) (s : Status) : Status :=
  { s with
    conditions := setCondition s.conditions
      { type := conditionHealthy
        status := value
        observedGeneration := p.generation
        lastTransitionTime := p.now / 10 ^ 9
        reason := reason
        message := message } }

def apply (result : Result) (s : Status) : Status :=
  let s := { s with
    lastBackupTime := result.lastBackupTime
    lastBackupType := result.lastBackupType }
  if result.healthy then p.set .conditionTrue "BackupRecent" result.message s
  else p.set .conditionFalse "BackupStale" result.message s

def setBackupUnknownUnlessFalse (message : String) (s : Status) : Status :=
  if s.isStale then s
  else p.set .conditionUnknown "BackupCheckUnavailable" message s

/-- What a pass makes of the stored status. -/
def run (s : Status) : Status :=
  if !p.stored then s
  else match p.reading with
  | .nothing => s
  | .clientUnavailable err =>
    p.setBackupUnknownUnlessFalse ("Failed to build multipooler RPC client: " ++ err) s
  | .evaluated (.error err) =>
    p.setBackupUnknownUnlessFalse ("Failed to check backup health: " ++ err) s
  | .evaluated (.ok backups) => p.apply (evaluateBackups fmt p.now backups) s

def verdict : Option Bool :=
  match p.stored, p.reading with
  | true, .evaluated (.ok backups) => some (evaluateBackups fmt p.now backups).healthy
  | _, _ => none

/-- Whether a pass vouches for the backups; one that fails to look at them does not. -/
def vouches : Option Bool :=
  match p.stored, p.reading with
  | false, _ | true, .nothing => none
  | true, .evaluated (.ok backups) => some (evaluateBackups fmt p.now backups).healthy
  | true, _ => some false

/-- **What a pass does to the condition**: a verdict decides it, and a check that fails only ends that
it is True. -/
theorem condition_run (s : Status) :
    (p.run fmt s).isHealthy = (p.vouches fmt).getD s.isHealthy ∧
      (p.run fmt s).isStale = ((p.verdict fmt).map (!·)).getD s.isStale := by
  have hset (value : ConditionStatus) (reason message : String) (s : Status) :
      conditionStatus (p.set value reason message s).conditions conditionHealthy = some value :=
    conditionStatus_setCondition s.conditions _
  have hfail (message : String) :
      (p.setBackupUnknownUnlessFalse message s).isHealthy = false ∧
        (p.setBackupUnknownUnlessFalse message s).isStale = s.isStale := by
    unfold setBackupUnknownUnlessFalse
    split <;> simp_all [Status.isHealthy, Status.isStale, isConditionTrue, isConditionFalse]
  unfold run vouches verdict
  cases p.stored with
  | false => exact ⟨rfl, rfl⟩
  | true =>
    cases p.reading with
    | nothing => exact ⟨rfl, rfl⟩
    | clientUnavailable err => exact hfail _
    | evaluated backups =>
      cases backups with
      | error err => exact hfail _
      | ok backups =>
        cases hresult : (evaluateBackups fmt p.now backups).healthy <;>
          simp [apply, hresult, Status.isHealthy, Status.isStale, isConditionTrue,
            isConditionFalse, hset]

variable {fmt p}

theorem exists_recent_of_vouches (h : p.vouches fmt = some true) :
    ∃ backups b, p.reading = .evaluated (.ok backups) ∧ Recent p.now backups b := by
  unfold vouches at h
  split at h
  · cases h
  · cases h
  · next backups _ hreading =>
    obtain ⟨b, -, hb⟩ := healthy_evaluateBackups.mp (Option.some.inj h)
    exact ⟨backups, b, hreading, hb⟩
  · cases h

end Pass

def after (s : Status) (passes : List Pass) : Status := passes.foldl (fun s p => p.run fmt s) s

theorem isHealthy_after (s : Status) (passes : List Pass) :
    (after fmt s passes).isHealthy = (Loop.latest (Pass.vouches fmt) passes).getD s.isHealthy :=
  Loop.foldl_latest_getD Status.isHealthy (fun s p => (p.condition_run fmt s).1) passes s

/-- **The condition over a run.** It is True if the latest pass that has tried to look at the backups
vouches for them, and False if the latest verdict is not healthy, whatever has failed since; without
such a pass it is as it was. -/
theorem backup_condition_run (s : Status) (passes : List Pass) :
    (after fmt s passes).isHealthy = (Loop.latest (Pass.vouches fmt) passes).getD s.isHealthy ∧
      (after fmt s passes).isStale =
        ((Loop.latest (Pass.verdict fmt) passes).map (!·)).getD s.isStale := by
  refine ⟨isHealthy_after fmt s passes, ?_⟩
  rw [← Loop.latest_map]
  exact Loop.foldl_latest_getD Status.isStale (fun s p => (p.condition_run fmt s).2) passes s

/-! ## Wipes -/

/-- Runs in which a pass reads the condition that the passes before it have left. A pass that wipes
ends there: one that tries to look at the backups has wiped nothing. -/
structure Run extends WipeRun where
  start : Status
  passes : ℕ → Pass
  reads : ∀ n, ∀ p ∈ rounds n,
    p.shard.backupHealthy = (after fmt start ((List.range n).map passes)).isHealthy
  looks : ∀ n, (passes n).reading ≠ .nothing →
    (rounds n).isSome = true ∧ ∀ pod, ¬ toWipeRun.Wipes n pod

variable {fmt}

/-- **What a wipe rests on**: an earlier pass, which has wiped nothing, has seen a complete backup that
was recent, and none since has found otherwise or failed to look; or it was so from the start. -/
theorem wipes_rest_on_backup (run : Run fmt) {n : ℕ} {pod : Pod} (h : run.Wipes n pod) :
    (∃ k < n, (∀ pod, ¬ run.Wipes k pod) ∧
      (∃ backups b, (run.passes k).reading = .evaluated (.ok backups) ∧
        Recent (run.passes k).now backups b) ∧
      ∀ j, k < j → j < n → (run.passes j).vouches fmt = none) ∨
    run.start.isHealthy = true ∧ ∀ j < n, (run.passes j).vouches fmt = none := by
  obtain ⟨p, hp, hwipes⟩ := h
  have hbackup := (Round.chosen hwipes).backup
  rw [run.reads n p hp, isHealthy_after] at hbackup
  cases hlatest : Loop.latest (Pass.vouches fmt) ((List.range n).map run.passes) with
  | none =>
    rw [hlatest] at hbackup
    exact .inr ⟨hbackup, fun j hj => Loop.latest_eq_none.mp hlatest _
      (List.mem_map_of_mem (List.mem_range.mpr hj))⟩
  | some vouched =>
    rw [hlatest, Option.getD_some] at hbackup
    subst hbackup
    obtain ⟨k, hk, hvouches, hsince⟩ := Loop.exists_of_latest_range hlatest
    obtain ⟨backups, b, hreading, hrecent⟩ := Pass.exists_recent_of_vouches hvouches
    have hlooks : (run.passes k).reading ≠ .nothing := by
      rw [hreading]
      nofun
    exact .inl ⟨k, hk, (run.looks k hlooks).2, ⟨backups, b, hreading, hrecent⟩, hsince⟩

namespace Sample

open MultigresOperator.Sample

/-- A pass on the third day of the year 1 that finds a backup of the day before. -/
def checkedPass : Pass :=
  ⟨1, 369 * 86400 * 10 ^ 9, .evaluated (.ok [⟨"00010102-000000F", "full", true⟩]), true⟩

/-- A pass before there is a healthy backup on record. -/
def coldRound : Round := { sickRound with shard := { sickRound.shard with backupHealthy := false } }

/-- A pass that looks at the backups, one that wipes a pod, and nothing more. -/
def checkedRounds : ℕ → Option Round
  | 0 => some coldRound
  | 1 => some sickRound
  | _ => none

def checkedStates : ℕ → Server
  | 0 => sickServer
  | n + 1 => (checkedRounds n).elim (checkedStates n) fun p => (p.outcome (checkedStates n)).state

def checkedRun : Run ⟨fun _ => "", id⟩ where
  states := checkedStates
  rounds := checkedRounds
  step n p h := by rw [checkedStates, h, Option.elim_some]
  start := { conditions := [] }
  passes n := if n = 0 then checkedPass else { checkedPass with reading := .nothing }
  reads n p h := by
    rw [isHealthy_after]
    rcases n with _ | _ | n
    · obtain rfl := Option.some.inj h
      rfl
    · obtain rfl := Option.some.inj h
      exact (by decide +kernel :
        true = (Loop.latest (Pass.vouches ⟨fun _ => "", id⟩) [checkedPass]).getD false)
    · cases h
  looks n h := by
    rcases n with _ | n
    · refine ⟨rfl, fun pod ⟨p, hround, hwipes⟩ => ?_⟩
      obtain rfl := Option.some.inj hround
      exact absurd (Round.chosen hwipes).backup Bool.false_ne_true
    · exact absurd rfl h

theorem wipes_checked : checkedRun.Wipes 1 (sickPod 0) := by
  refine ⟨sickRound, rfl, ?_⟩
  unfold Round.Wipes
  decide +kernel

end Sample

/-- The pass that wipes goes by the check before it. -/
theorem wipes_rest_on_backup_checked : ∃ k < 1, (∀ pod, ¬ Sample.checkedRun.Wipes k pod) ∧
    ∃ backups b, (Sample.checkedRun.passes k).reading = .evaluated (.ok backups) ∧
      Recent (Sample.checkedRun.passes k).now backups b := by
  rcases wipes_rest_on_backup Sample.checkedRun Sample.wipes_checked with
    ⟨k, hk, hspared, hchecked, -⟩ | ⟨-, hnone⟩
  · exact ⟨k, hk, hspared, hchecked⟩
  · cases hnone 0 one_pos

end MultigresOperator.BackupHealth

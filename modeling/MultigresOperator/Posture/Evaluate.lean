import MultigresOperator.Lib.Table
import MultigresOperator.Topo.Pooler

/-!
# Observing the postures of a shard

The comparison of what each pooler's PostgreSQL reports with the role the topology advertises for
it. An observation is partial when a cell, a pooler or a posture was out of reach, and inconsistent
when two pods report a primary or one reports a primary the topology does not route to.
-/

namespace MultigresOperator

/-- `Result`: an observation of a shard's postures. -/
structure PostureResult where
  postures : Table String String
  readiness : Table String Readiness
  multiplePrimaries : Bool
  mismatches : List String
  primaryCount : ℕ
  incomplete : Bool
  message : String

namespace PostureResult

/-- Two primaries, or a primary the topology does not route to. -/
def inconsistent (result : PostureResult) : Bool :=
  result.multiplePrimaries || !result.mismatches.isEmpty

/-- An observation that is inconsistent or partial; it has to be confirmed before it counts. -/
def unsettled (result : PostureResult) : Bool := result.inconsistent || result.incomplete

end PostureResult

/-- The readiness every managed pod starts from, `reasonAwaitingRegistration`. -/
def awaitingRegistration : Readiness where
  reason := "AwaitingRegistration"
  message := "pooler has not registered in the shard topology"

def mismatchMessage : List String → String
  | [mismatch] => "pod " ++ mismatch ++ " reports postgres primary but topology role is REPLICA"
  | mismatches =>
    "pods " ++ ", ".intercalate mismatches ++ " report postgres primary but topology role is REPLICA"

variable (C : Consensus)

/-- `observePooler`: a pooler that does not answer has posture UNKNOWN. -/
def observePooler (rpc : StatusRpc) (pooler : Multipooler) : String × Readiness :=
  match rpc pooler with
  | .error err =>
    ("UNKNOWN",
      { reason := "StatusUnavailable", message := "multipooler status RPC failed: " ++ err })
  | .ok resp => C.poolerReadiness (some resp) pooler.id

/-- What the loops of `Evaluate` have collected. -/
structure Scan where
  postures : Table String String := ∅
  readiness : Table String Readiness
  isTopoPrimary : Table String Bool := ∅
  incomplete : Bool := false

namespace Scan

/-- One record: a later record of the same pod overwrites an earlier one. -/
def record (rpc : StatusRpc) (managedPodNames : List String) (scan : Scan) (pooler : Multipooler) :
    Scan :=
  if pooler.isLifecycleShutdown then scan
  else
    let podName := matchPod pooler managedPodNames
    if podName = "" then { scan with incomplete := true }
    else
      let observed := observePooler C rpc pooler
      { postures := scan.postures.set podName observed.1
        readiness := scan.readiness.set podName observed.2
        isTopoPrimary := scan.isTopoPrimary.set podName pooler.isPrimaryPooler
        incomplete := scan.incomplete || observed.1 == "UNKNOWN" }

/-- The cells in order: one that is unavailable leaves the scan partial, any other failure ends
it. -/
def cells (store : TopoStore) (rpc : StatusRpc) (managedPodNames : List String) :
    List String → Scan → Except String Scan
  | [], scan => .ok scan
  | cell :: rest, scan =>
    match store cell with
    | .error err =>
      if err.unavailable then
        cells store rpc managedPodNames rest { scan with incomplete := true }
      else
        .error ("listing poolers in cell \"" ++ cell ++ "\" for posture check: " ++ err.text)
    | .ok poolers =>
      cells store rpc managedPodNames rest (poolers.foldl (record C rpc managedPodNames) scan)

/-- The pods that report a primary, sorted. -/
def primaries (scan : Scan) : List String :=
  ((scan.postures.items.filter fun e => e.2 == "PRIMARY").map Prod.fst).insertionSort (· ≤ ·)

/-- Those of them the topology does not route to. -/
def mismatches (scan : Scan) : List String :=
  scan.primaries.filter fun podName => !(scan.isTopoPrimary.get podName).getD false

/-- The observation a scan amounts to. -/
def conclude (scan : Scan) : PostureResult where
  postures := scan.postures
  readiness := scan.readiness
  multiplePrimaries := decide (1 < scan.primaries.length)
  mismatches := scan.mismatches
  primaryCount := scan.primaries.length
  incomplete := scan.incomplete
  message :=
    if 1 < scan.primaries.length then
      "observed " ++ toString scan.primaries.length ++ " write-capable primaries: [" ++
        " ".intercalate scan.primaries ++ "]"
    else if !scan.mismatches.isEmpty then mismatchMessage scan.mismatches
    else if scan.incomplete then "posture observation incomplete"
    else "postures consistent with topology roles"

end Scan

/-- `Evaluate`: the postures of a shard against its topology, or none when no live pooler is
registered. -/
def evaluate (store : TopoStore) (rpc : StatusRpc) (shard : Shard)
    (managedPodNames : List String) : Except String (Option PostureResult) :=
  let seeded := Table.ofList (managedPodNames.map fun podName => (podName, awaitingRegistration))
  (Scan.cells C store rpc managedPodNames (collectCells shard) { readiness := seeded }).map
    fun scan =>
      if scan.postures.items.isEmpty && !scan.incomplete then none else some scan.conclude

/-! ## What a settled observation has seen -/

/-- A live record that was reached: it belongs to a managed pod and its posture is known. -/
def Reached (rpc : StatusRpc) (managedPodNames : List String) (pooler : Multipooler) : Prop :=
  pooler.isLifecycleShutdown = false →
    matchPod pooler managedPodNames ≠ "" ∧ (observePooler C rpc pooler).1 ≠ "UNKNOWN"

/-- An observation that has read every cell, reached every live pooler, and seen at most one
primary. -/
structure SeesAll (store : TopoStore) (rpc : StatusRpc) (shard : Shard) (managedPodNames : List String)
    (result : PostureResult) : Prop where
  observed : evaluate C store rpc shard managedPodNames = .ok (some result)
  reached : ∀ cell ∈ collectCells shard, ∃ poolers, store cell = .ok poolers ∧
    ∀ pooler ∈ poolers, Reached C rpc managedPodNames pooler
  onePrimary : ∀ a b, result.postures.get a = some "PRIMARY" →
    result.postures.get b = some "PRIMARY" → a = b

section Settled

variable {C} {store : TopoStore} {rpc : StatusRpc} {managedPodNames : List String}

theorem Scan.record_complete {scan : Scan} {pooler : Multipooler}
    (h : (scan.record C rpc managedPodNames pooler).incomplete = false) :
    scan.incomplete = false ∧ Reached C rpc managedPodNames pooler := by
  unfold Scan.record at h
  split at h
  · next hdown => exact ⟨h, fun hlive => absurd hdown (by simp [hlive])⟩
  · dsimp only at h
    split at h
    · exact absurd h (by simp)
    · next hpod =>
      simp only [Bool.or_eq_false_iff, beq_eq_false_iff_ne] at h
      exact ⟨h.1, fun _ => ⟨hpod, h.2⟩⟩

theorem Scan.foldl_record_complete {poolers : List Multipooler} {scan : Scan}
    (h : (poolers.foldl (Scan.record C rpc managedPodNames) scan).incomplete = false) :
    scan.incomplete = false ∧ ∀ pooler ∈ poolers, Reached C rpc managedPodNames pooler := by
  induction poolers generalizing scan with
  | nil => exact ⟨h, by simp⟩
  | cons pooler poolers ih =>
    obtain ⟨hrecord, hrest⟩ := ih h
    obtain ⟨hscan, hpooler⟩ := Scan.record_complete hrecord
    exact ⟨hscan, List.forall_mem_cons.mpr ⟨hpooler, hrest⟩⟩

theorem Scan.cells_complete {cells : List String} {scan scan' : Scan}
    (h : Scan.cells C store rpc managedPodNames cells scan = .ok scan')
    (hcomplete : scan'.incomplete = false) :
    scan.incomplete = false ∧ ∀ cell ∈ cells, ∃ poolers, store cell = .ok poolers ∧
      ∀ pooler ∈ poolers, Reached C rpc managedPodNames pooler := by
  induction cells generalizing scan with
  | nil =>
    cases h
    exact ⟨hcomplete, by simp⟩
  | cons cell cells ih =>
    unfold Scan.cells at h
    split at h
    · split at h
      · exact absurd (ih h).1 (by simp)
      · cases h
    · next poolers hcell =>
      obtain ⟨hfold, hrest⟩ := ih h
      obtain ⟨hscan, hpoolers⟩ := Scan.foldl_record_complete hfold
      exact ⟨hscan, List.forall_mem_cons.mpr ⟨⟨poolers, hcell, hpoolers⟩, hrest⟩⟩

theorem Scan.mem_primaries {scan : Scan} {podName : String} :
    podName ∈ scan.primaries ↔ scan.postures.get podName = some "PRIMARY" := by
  rw [Scan.primaries, List.mem_insertionSort, Table.get_eq_some]
  simp

theorem evaluate_settled {shard : Shard} {result : PostureResult}
    (h : evaluate C store rpc shard managedPodNames = .ok (some result))
    (hsettled : result.unsettled = false) :
    SeesAll C store rpc shard managedPodNames result := by
  have hobserved := h
  unfold evaluate at h
  cases hscan : Scan.cells C store rpc managedPodNames (collectCells shard)
      { readiness := Table.ofList (managedPodNames.map fun podName =>
          (podName, awaitingRegistration)) } with
  | error e => simp [hscan, Except.map] at h
  | ok scan =>
    obtain rfl : scan.conclude = result := by
      simp only [hscan, Except.map, Except.ok.injEq] at h
      split at h
      · cases h
      · exact Option.some.inj h
    simp only [PostureResult.unsettled, PostureResult.inconsistent, Bool.or_eq_false_iff] at hsettled
    obtain ⟨⟨hone, -⟩, hcomplete⟩ := hsettled
    refine ⟨hobserved, (Scan.cells_complete hscan hcomplete).2, fun a b ha hb => ?_⟩
    have hlength : scan.primaries.length ≤ 1 := by simpa [Scan.conclude] using hone
    obtain ⟨i, hi, rfl⟩ := List.getElem_of_mem (Scan.mem_primaries.mpr ha)
    obtain ⟨j, hj, rfl⟩ := List.getElem_of_mem (Scan.mem_primaries.mpr hb)
    obtain rfl : i = j := by omega
    rfl

end Settled

end MultigresOperator

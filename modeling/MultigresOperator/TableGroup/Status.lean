import MultigresOperator.Cluster.Status

/-!
# The status of a table group

A pass of the TableGroup controller reads the Shards of the group once, applies those the spec names,
advances the cleanup of the others, and folds what it has read into a phase. A Shard counts once it
reports on the generation its apply returned. A name whose Shard is still on its way out is not
applied, and holds the phase back.

A group that is gated, being drained or being deleted itself does not get that far, and keeps the
phase it had.

## Main results

* `healthy_table_group`: what a pass that computes `Healthy` has seen and done
* `healthy_while_terminating`: a pass that deletes a drained Shard is `Healthy` while its finalizers run
-/

namespace MultigresOperator

namespace TableGroupStatus

/-- A Shard as its table group sees it. -/
structure ShardObject extends Child where
  name : String
  conditions : List Condition := []
  finalizers : List String := []
  deriving DecidableEq, Repr

/-- `TableGroupStatus` -/
structure Status where
  phase : Phase := .unset
  message : String := ""
  totalShards : ℕ := 0
  readyShards : ℕ := 0
  conditions : List Condition := []
  observedGeneration : ℕ := 0
  deriving DecidableEq, Repr

/-- A table group; of its Shards' specs only the names are read here. -/
structure TableGroup where
  generation : ℕ
  shards : List String
  pendingDeletion : String := ""
  deletionTimestamp : Option Time := none
  status : Status := {}

/-- What a pass asks of the API server: an apply returns a generation, and a Shard may be gone by the
time it is deleted. -/
inductive Request
  | apply (name : String) (generation : ℕ)
  | setPendingDeletion (name : String)
  | delete (name : String)
  | gone (name : String)
  deriving DecidableEq, Repr

/-- `stepError`: the error, and the event it is reported with. -/
structure StepError where
  err : String
  reason : String := ""
  msg : String := ""
  deriving DecidableEq, Repr

/-- What the API server answers a pass: whether the group is gated, the lists from the cache and from
the server, the outcome of building the Shard of a name, of each request, and of the status patch. -/
structure Api where
  gated : Except String Bool := .ok false
  cached : Except String (List ShardObject)
  direct : Except String (List ShardObject) := cached
  buildShard : String → Except String String
  apply : ℕ → String → Except String ℕ
  setPendingDeletion : String → Except String Unit := fun _ => .ok ()
  /-- The error of a deletion, and whether it says that the Shard is gone. -/
  delete : String → Except (String × Bool) Unit := fun _ => .ok ()
  applyStatus : Except String Unit := .ok ()
  now : Time
  /-- The current time as an annotation. -/
  timestamp : String

structure ReconcileContext where
  observedShards : List ShardObject
  activeShardNames : List String := []
  appliedGeneration : List (String × ℕ) := []
  pendingDeletion : Bool := false
  requests : List Request := []

variable (api : Api)

/-! ### The steps of a pass -/

def observedCleanupInProgress (shards : List ShardObject) (name : String) : Bool :=
  (shards.find? (·.name == name)).any (·.draining)

/-- One Shard of the spec. -/
def applyDesiredShard (rc : ReconcileContext) (shard : String × ℕ) :
    Except StepError ReconcileContext := do
  let name ← (api.buildShard shard.1).mapError fun err =>
    { err := "failed to build shard: " ++ err, reason := "FailedApply"
      msg := "Failed to build shard " ++ shard.1 ++ ": " ++ err }
  if observedCleanupInProgress rc.observedShards name then
    return { rc with pendingDeletion := true }
  let generation ← (api.apply shard.2 name).mapError fun err =>
    { err := "failed to apply shard: " ++ err, reason := "FailedApply"
      msg := "Failed to apply shard " ++ name ++ ": " ++ err }
  return { rc with
    activeShardNames := name :: rc.activeShardNames
    appliedGeneration := (name, generation) :: rc.appliedGeneration
    requests := rc.requests ++ [.apply name generation] }

def stepApplyDesiredShards (tg : TableGroup) (rc : ReconcileContext) :
    Except StepError ReconcileContext :=
  tg.shards.zipIdx.foldlM (applyDesiredShard api) rc

/-- One Shard that was read and not applied. -/
def reconcileUndesiredShard (rc : ReconcileContext) (s : ShardObject) :
    Except StepError ReconcileContext :=
  if rc.activeShardNames.contains s.name then .ok rc
  else if s.deletionTimestamp.isSome then .ok { rc with pendingDeletion := true }
  else if s.pendingDeletion = "" then do
    (api.setPendingDeletion s.name).mapError fun err =>
      { err := "failed to set PendingDeletion on shard '" ++ s.name ++ "': " ++ err
        reason := "CleanUpError"
        msg := "Failed to set PendingDeletion on shard " ++ s.name ++ ": " ++ err }
    return { rc with
      pendingDeletion := true
      requests := rc.requests ++ [.setPendingDeletion s.name] }
  else if !isConditionTrue s.conditions "ReadyForDeletion" then
    .ok { rc with pendingDeletion := true }
  else
    match api.delete s.name with
    | .ok () => .ok { rc with requests := rc.requests ++ [.delete s.name] }
    | .error (_, true) => .ok { rc with requests := rc.requests ++ [.gone s.name] }
    | .error (err, false) => .error
        { err := "failed to delete shard '" ++ s.name ++ "' after cleanup: " ++ err
          reason := "CleanUpError"
          msg := "Failed to delete shard " ++ s.name ++ " after cleanup: " ++ err }

def stepReconcileUndesired (rc : ReconcileContext) : Except StepError ReconcileContext :=
  rc.observedShards.foldlM (reconcileUndesiredShard api) rc

/-- The Shard was applied in this pass and reports on the generation the apply returned. -/
def caughtUp (rc : ReconcileContext) (s : ShardObject) : Bool :=
  rc.activeShardNames.contains s.name &&
    s.observedGeneration == (rc.appliedGeneration.lookup s.name).getD 0

/-- The phase and its message. -/
def phaseOf (rc : ReconcileContext) (total ready : ℕ) (anyDegraded : Bool) : Phase × String :=
  if anyDegraded then (.degraded, "At least one shard is degraded")
  else if rc.pendingDeletion then (.progressing, "Waiting for shard cleanup to finish")
  else if total = 0 then (.initializing, "No Shards")
  else if ready = total then (.healthy, "Ready")
  else (.progressing, toString ready ++ "/" ++ toString total ++ " shards ready")

/-- The Available condition. The later cases override the earlier ones. -/
def availableCondition (rc : ReconcileContext) (generation total ready : ℕ)
    (phase : Phase × String) : Condition :=
  let condition : Condition :=
    { type := "Available"
      status := if phase.1 = .healthy then .conditionTrue else .conditionFalse
      observedGeneration := generation
      reason := match phase.1 with
        | .healthy => "ShardsReady"
        | .degraded => "ShardDegraded"
        | _ => "ShardsNotReady"
      message := if phase.1 = .degraded then phase.2
        else toString ready ++ "/" ++ toString total ++ " shards ready" }
  if total = 0 && !rc.pendingDeletion then
    { condition with status := .conditionTrue, reason := "NoShards", message := phase.2 }
  else if rc.pendingDeletion && phase.1 == .progressing then
    { condition with reason := "CleanupPending", message := phase.2 }
  else condition

def stepComputeStatus (tg : TableGroup) (rc : ReconcileContext) : Status :=
  let counted := rc.observedShards.filter (caughtUp rc)
  let total := tg.shards.length
  let ready := counted.countP (·.phase == .healthy)
  let phase := phaseOf rc total ready (counted.any (·.phase == .degraded))
  { phase := phase.1
    message := phase.2
    totalShards := total
    readyShards := ready
    conditions := setStatusCondition api.now tg.status.conditions
      (availableCondition rc tg.generation total ready phase)
    observedGeneration := tg.generation }

/-- One Shard of a group that is being drained itself: is it ready to go? -/
def propagatePendingDeletion (allReady : Bool) (s : ShardObject) : Except StepError Bool :=
  if s.deletionTimestamp.isSome then .ok false
  else if s.pendingDeletion = "" then do
    (api.setPendingDeletion s.name).mapError fun err =>
      { err := "failed to set PendingDeletion on shard '" ++ s.name ++ "': " ++ err }
    return false
  else .ok (allReady && isConditionTrue s.conditions "ReadyForDeletion")

def handlePendingDeletion (tg : TableGroup) : Except StepError Status := do
  let shards ← api.direct.mapError fun err =>
    { err := "failed to list shards for pending deletion: " ++ err }
  let allReady ← shards.foldlM (propagatePendingDeletion api) true
  if !allReady then return tg.status
  api.applyStatus.mapError fun err =>
    { err := "failed to set ReadyForDeletion on TableGroup: " ++ err }
  return { tg.status with
    conditions := setStatusCondition api.now tg.status.conditions
      { type := "ReadyForDeletion"
        status := .conditionTrue
        observedGeneration := tg.generation
        reason := "AllShardsReady"
        message := "All child Shards are ready for deletion" } }

/-- The steps of a pass that computes the status. -/
def reconcileShards (tg : TableGroup) : Except StepError (Status × ReconcileContext) := do
  let observedShards ← api.cached.mapError fun err =>
    { err := "failed to list shards for pruning: " ++ err, reason := "CleanUpError"
      msg := "Failed to list shards for pruning: " ++ err }
  let rc ← stepApplyDesiredShards api tg { observedShards }
  let rc ← stepReconcileUndesired api rc
  api.applyStatus.mapError fun err =>
    { err := "failed to patch status: " ++ err, reason := "StatusError"
      msg := "Failed to patch status: " ++ err }
  return (stepComputeStatus api tg rc, rc)

/-- `Reconcile`: the status that is stored once the pass ends, and what the pass has computed it
from unless it ends early. -/
def reconcile (tg : TableGroup) : Except StepError (Status × Option ReconcileContext) := do
  let gated ← api.gated.mapError fun err => { err }
  if gated then return (tg.status, none)
  if tg.pendingDeletion ≠ "" then
    let status ← handlePendingDeletion api tg
    return (status, none)
  if tg.deletionTimestamp.isSome then return (tg.status, none)
  let (status, rc) ← reconcileShards api tg
  return (status, some rc)

/-! ### The Shards once the pass ends -/

def Request.name : Request → String
  | .apply name _ => name
  | .setPendingDeletion name => name
  | .delete name => name
  | .gone name => name

/-- What a request makes of the Shard it names. A Shard with finalizers stays until they have run. -/
def Request.on (s : ShardObject) (r : Request) : Option ShardObject :=
  if r.name ≠ s.name then some s
  else match r with
    | .apply _ generation => some { s with generation }
    | .setPendingDeletion _ => some { s with pendingDeletion := api.timestamp }
    | .delete _ =>
      if s.finalizers = [] then none else some { s with deletionTimestamp := some api.now }
    | .gone _ => none

def createdShard (observed : List ShardObject) : Request → Option ShardObject
  | .apply name generation =>
    if observed.any (·.name == name) then none
    else some { name, generation, observedGeneration := 0, phase := .unset }
  | _ => none

/-- The Shards that are stored once the requests of a pass are served. -/
def shardsLeft (requests : List Request) (observed : List ShardObject) : List ShardObject :=
  observed.filterMap (fun s => requests.foldlM (Request.on api) s) ++
    requests.filterMap (createdShard observed)

/-! ### What `Healthy` says -/

section Healthy

variable {api} {tg : TableGroup} {rc rc' : ReconcileContext}

/-- The Shard of a name of the spec was applied: the name it was built under and the generation the
apply returned. -/
structure AppliedAs (api : Api) (observed : List ShardObject) (shard entry : String × ℕ) : Prop where
  built : api.buildShard shard.1 = .ok entry.1
  applied : api.apply shard.2 entry.1 = .ok entry.2
  staying : observedCleanupInProgress observed entry.1 = false

/-- Every Shard of a list was applied, and nothing else. -/
structure AllApplied (api : Api) (observed : List ShardObject) (shards entries : List (String × ℕ)) :
    Prop where
  each : ∀ shard ∈ shards, ∃ entry ∈ entries, AppliedAs api observed shard entry
  only : ∀ entry ∈ entries, ∃ shard ∈ shards, AppliedAs api observed shard entry
  length_eq : entries.length = shards.length

variable {shard : String × ℕ} {shards : List (String × ℕ)} {status : Status}
  {observed : List ShardObject} {entries : List (String × ℕ)} {s : ShardObject}

theorem AllApplied.cons {entry : String × ℕ} (hrest : AllApplied api observed shards entries)
    (h : AppliedAs api observed shard entry) :
    AllApplied api observed (shard :: shards) (entry :: entries) where
  each := List.forall_mem_cons.mpr ⟨⟨entry, List.mem_cons_self, h⟩, fun other hother =>
    (hrest.each other hother).imp fun _ h => ⟨List.mem_cons_of_mem _ h.1, h.2⟩⟩
  only := List.forall_mem_cons.mpr ⟨⟨shard, List.mem_cons_self, h⟩, fun other hother =>
    (hrest.only other hother).imp fun _ h => ⟨List.mem_cons_of_mem _ h.1, h.2⟩⟩
  length_eq := congrArg Nat.succ hrest.length_eq

def ReconcileContext.applying (rc : ReconcileContext) (entries : List (String × ℕ)) :
    ReconcileContext :=
  { rc with
    activeShardNames := (entries.map Prod.fst).reverse ++ rc.activeShardNames
    appliedGeneration := entries.reverse ++ rc.appliedGeneration
    requests := rc.requests ++ entries.map fun entry => .apply entry.1 entry.2 }

/-- One round of the apply loop applies its Shard, or a cleanup is pending. -/
theorem applyDesiredShard_cases (h : applyDesiredShard api rc shard = .ok rc') :
    rc'.pendingDeletion = true ∨
      ∃ entry, AppliedAs api rc.observedShards shard entry ∧ rc' = rc.applying [entry] := by
  obtain ⟨name, hname, h⟩ := Checks.bind_eq_ok.mp h
  rw [Checks.mapError_eq_ok] at hname
  split at h
  · cases h
    exact .inl rfl
  · next hstay =>
    obtain ⟨generation, hgeneration, h⟩ := Checks.bind_eq_ok.mp h
    rw [Checks.mapError_eq_ok] at hgeneration
    cases h
    exact .inr ⟨(name, generation), ⟨hname, hgeneration, by simpa using hstay⟩, rfl⟩

theorem pendingDeletion_of_foldlM {α : Type} {f : ReconcileContext → α → Except StepError ReconcileContext}
    (hf : ∀ rc a rc', f rc a = .ok rc' → rc.pendingDeletion = true → rc'.pendingDeletion = true)
    {l : List α} (h : l.foldlM f rc = .ok rc') (hp : rc'.pendingDeletion = false) :
    rc.pendingDeletion = false := by
  induction l generalizing rc with
  | nil =>
    cases h
    exact hp
  | cons a l ih =>
    rw [List.foldlM_cons] at h
    obtain ⟨mid, hmid, h⟩ := Checks.bind_eq_ok.mp h
    by_contra hne
    have hmid' := hf rc a mid hmid (Bool.of_not_eq_false hne)
    rw [ih h] at hmid'
    cases hmid'

theorem pendingDeletion_applyDesiredShard (h : applyDesiredShard api rc shard = .ok rc')
    (hp : rc.pendingDeletion = true) : rc'.pendingDeletion = true := by
  rcases applyDesiredShard_cases h with hp' | ⟨entry, -, rfl⟩
  · exact hp'
  · exact hp

/-- **The apply loop**: unless a cleanup is pending, every Shard of the spec was applied. -/
theorem applied_of_foldlM (h : shards.foldlM (applyDesiredShard api) rc = .ok rc')
    (hp : rc'.pendingDeletion = false) :
    ∃ entries, AllApplied api rc.observedShards shards entries ∧
      rc' = rc.applying entries := by
  induction shards generalizing rc with
  | nil =>
    cases h
    exact ⟨[], ⟨by simp, by simp, rfl⟩, by simp [ReconcileContext.applying]⟩
  | cons shard shards ih =>
    rw [List.foldlM_cons] at h
    obtain ⟨mid, hmid, h⟩ := Checks.bind_eq_ok.mp h
    rcases applyDesiredShard_cases hmid with hpending | ⟨entry, happlied, rfl⟩
    · have hnone := pendingDeletion_of_foldlM (fun _ _ _ => pendingDeletion_applyDesiredShard) h hp
      rw [hnone] at hpending
      cases hpending
    · obtain ⟨entries, hentries, rfl⟩ := ih h
      exact ⟨entry :: entries, hentries.cons happlied, by simp [ReconcileContext.applying]⟩

/-- The Shard has finished its drain, and the pass deletes it or finds it gone. -/
structure Released (api : Api) (s : ShardObject) : Prop where
  pending : s.pendingDeletion ≠ ""
  notTerminating : s.deletionTimestamp = none
  ready : isConditionTrue s.conditions "ReadyForDeletion" = true

def releaseRequest (api : Api) (s : ShardObject) : Request :=
  match api.delete s.name with
  | .ok () => .delete s.name
  | .error _ => .gone s.name

theorem reconcileUndesiredShard_cases (h : reconcileUndesiredShard api rc s = .ok rc') :
    rc'.pendingDeletion = true ∨
      (s.name ∈ rc.activeShardNames ∧ rc' = rc) ∨
      (s.name ∉ rc.activeShardNames ∧ Released api s ∧
        rc' = { rc with requests := rc.requests ++ [releaseRequest api s] }) := by
  unfold reconcileUndesiredShard at h
  split at h
  · next hactive =>
    cases h
    exact .inr (.inl ⟨by simpa using hactive, rfl⟩)
  next hactive =>
  split at h
  · cases h
    exact .inl rfl
  next hterminating =>
  split at h
  · obtain ⟨_, -, h⟩ := Checks.bind_eq_ok.mp h
    cases h
    exact .inl rfl
  next hpending =>
  split at h
  · cases h
    exact .inl rfl
  next hready =>
  have hreleased : Released api s := ⟨hpending, by simpa using hterminating, by simpa using hready⟩
  have hactive' : s.name ∉ rc.activeShardNames := by simpa using hactive
  unfold releaseRequest
  split at h
  · next hdelete =>
    cases h
    exact .inr (.inr ⟨hactive', hreleased, by rw [hdelete]⟩)
  · next hdelete =>
    cases h
    exact .inr (.inr ⟨hactive', hreleased, by rw [hdelete]⟩)
  · cases h

theorem pendingDeletion_reconcileUndesiredShard (h : reconcileUndesiredShard api rc s = .ok rc')
    (hp : rc.pendingDeletion = true) : rc'.pendingDeletion = true := by
  rcases reconcileUndesiredShard_cases h with hp' | ⟨-, rfl⟩ | ⟨-, -, rfl⟩
  · exact hp'
  · exact hp
  · exact hp

/-- **The cleanup loop**: unless a cleanup is pending, every Shard it saw was applied or has been
released. -/
theorem released_of_foldlM {shards : List ShardObject}
    (h : shards.foldlM (reconcileUndesiredShard api) rc = .ok rc')
    (hp : rc'.pendingDeletion = false) :
    (∀ s ∈ shards, s.name ∉ rc.activeShardNames → Released api s) ∧
      rc' = { rc with requests := rc.requests ++
        (shards.filter (fun s => !rc.activeShardNames.contains s.name)).map (releaseRequest api) } := by
  induction shards generalizing rc with
  | nil =>
    cases h
    exact ⟨by simp, by simp⟩
  | cons s shards ih =>
    rw [List.foldlM_cons] at h
    obtain ⟨mid, hmid, hrun⟩ := Checks.bind_eq_ok.mp h
    rcases reconcileUndesiredShard_cases hmid with hpending | ⟨hactive, rfl⟩ | ⟨hactive, hreleased, rfl⟩
    · have hnone := pendingDeletion_of_foldlM
        (fun _ _ _ => pendingDeletion_reconcileUndesiredShard) hrun hp
      rw [hnone] at hpending
      cases hpending
    · obtain ⟨hrest, rfl⟩ := ih hrun
      exact ⟨List.forall_mem_cons.mpr ⟨fun hne => absurd hactive hne, hrest⟩, by simp [hactive]⟩
    · obtain ⟨hrest, rfl⟩ := ih hrun
      exact ⟨List.forall_mem_cons.mpr ⟨fun _ => hreleased, hrest⟩, by simp [hactive]⟩

/-! #### Every Shard of the spec counts -/

def readyShards (rc : ReconcileContext) : List ShardObject :=
  (rc.observedShards.filter (caughtUp rc)).filter (·.phase == .healthy)

theorem healthy_of_stepComputeStatus (h : (stepComputeStatus api tg rc).phase = .healthy) :
    rc.pendingDeletion = false ∧ (readyShards rc).length = tg.shards.length := by
  unfold stepComputeStatus phaseOf at h
  rw [readyShards, ← List.countP_eq_length_filter]
  dsimp only at h
  split at h
  · cases h
  split at h
  · cases h
  next hpending =>
  split at h
  · cases h
  split at h
  · next hready => exact ⟨by simpa using hpending, hready⟩
  · cases h

/-- **As many Shards count as the spec names**, so every one does, and no name is there twice. -/
theorem perm_readyShards (hnodup : (rc.observedShards.map (·.name)).Nodup)
    (hactive : rc.activeShardNames = (entries.map Prod.fst).reverse)
    (hentries : AllApplied api rc.observedShards shards entries)
    (hlength : (readyShards rc).length = shards.length) :
    ((readyShards rc).map (·.name)).Perm (entries.map Prod.fst) := by
  have hsublist : ((readyShards rc).map (·.name)).Sublist (rc.observedShards.map (·.name)) :=
    (List.filter_sublist.trans List.filter_sublist).map _
  have hsubset : (readyShards rc).map (·.name) ⊆ entries.map Prod.fst := by
    intro name hname
    obtain ⟨s, hs, rfl⟩ := List.mem_map.mp hname
    have hcaught := (List.mem_filter.mp (List.mem_filter.mp hs).1).2
    rw [caughtUp, hactive] at hcaught
    simpa using (Bool.and_eq_true_iff.mp hcaught).1
  refine (List.subperm_of_subset (hsublist.nodup hnodup) hsubset).perm_of_length_le ?_
  rw [List.length_map, List.length_map, hlength, hentries.length_eq]

/-! #### What the requests of a pass leave -/

variable {s s' : ShardObject} {requests : List Request}

/-- A request changes neither the name nor the status of a Shard. -/
structure SameReport (s s' : ShardObject) : Prop where
  name : s'.name = s.name
  phase : s'.phase = s.phase
  observedGeneration : s'.observedGeneration = s.observedGeneration
  conditions : s'.conditions = s.conditions

theorem SameReport.of_on {r : Request} (h : r.on api s = some s') : SameReport s s' := by
  unfold Request.on at h
  split at h
  · cases h
    exact ⟨rfl, rfl, rfl, rfl⟩
  · split at h
    · cases h
      exact ⟨rfl, rfl, rfl, rfl⟩
    · cases h
      exact ⟨rfl, rfl, rfl, rfl⟩
    · split at h
      · cases h
      · cases h
        exact ⟨rfl, rfl, rfl, rfl⟩
    · cases h

theorem SameReport.of_foldlM (h : requests.foldlM (Request.on api) s = some s') :
    SameReport s s' := by
  induction requests generalizing s with
  | nil =>
    cases h
    exact ⟨rfl, rfl, rfl, rfl⟩
  | cons r requests ih =>
    rw [List.foldlM_cons] at h
    obtain ⟨mid, hmid, hrun⟩ := Option.bind_eq_some_iff.mp h
    have hfirst := SameReport.of_on hmid
    have hrest := ih hrun
    exact ⟨hrest.name.trans hfirst.name, hrest.phase.trans hfirst.phase,
      hrest.observedGeneration.trans hfirst.observedGeneration,
      hrest.conditions.trans hfirst.conditions⟩

/-- A Shard that is applied with one generation, and asked nothing else, has that generation. -/
theorem foldlM_of_applies (generation : ℕ)
    (h : ∀ r ∈ requests, r.name = s.name → r = .apply s.name generation) :
    requests.foldlM (Request.on api) s =
      some (if .apply s.name generation ∈ requests then { s with generation } else s) := by
  induction requests generalizing s with
  | nil => rfl
  | cons r requests ih =>
    obtain ⟨hr, hrest⟩ := List.forall_mem_cons.mp h
    rw [List.foldlM_cons]
    by_cases hname : r.name = s.name
    · have hon : r.on api s = some { s with generation } := by
        rw [hr hname, Request.on, if_neg (by simp [Request.name])]
      rw [hon, Option.bind_eq_bind, Option.bind_some, ih (s := { s with generation }) hrest, hr hname]
      simp
    · have hon : r.on api s = some s := by
        unfold Request.on
        exact if_pos hname
      have hne : r ≠ .apply s.name generation := fun heq => hname (heq ▸ rfl)
      rw [hon, Option.bind_eq_bind, Option.bind_some, ih hrest]
      simp [hne.symm]

/-- A Shard that is left although the pass has released it was deleted, and waits for its
finalizers. -/
theorem delete_of_foldlM (hrelease : releaseRequest api s ∈ requests)
    (h : requests.foldlM (Request.on api) s = some s') : .delete s.name ∈ requests := by
  rw [releaseRequest] at hrelease
  split at hrelease
  · exact hrelease
  · -- a Shard that was found gone is not left
    exfalso
    obtain ⟨front, back, rfl⟩ := List.append_of_mem hrelease
    rw [List.foldlM_append, Option.bind_eq_bind] at h
    obtain ⟨mid, hmid, hrun⟩ := Option.bind_eq_some_iff.mp h
    rw [List.foldlM_cons, Option.bind_eq_bind] at hrun
    obtain ⟨after, hafter, -⟩ := Option.bind_eq_some_iff.mp hrun
    rw [Request.on, if_neg (by simp [Request.name, (SameReport.of_foldlM hmid).name])] at hafter
    cases hafter

theorem reconcileShards_eq_ok (h : reconcileShards api tg = .ok (status, rc)) :
    ∃ observed applied, api.cached = .ok observed ∧
      stepApplyDesiredShards api tg { observedShards := observed } = .ok applied ∧
        stepReconcileUndesired api applied = .ok rc ∧ status = stepComputeStatus api tg rc := by
  obtain ⟨observed, hobserved, h⟩ := Checks.bind_eq_ok.mp h
  obtain ⟨applied, happlied, h⟩ := Checks.bind_eq_ok.mp h
  obtain ⟨rc', hrc', h⟩ := Checks.bind_eq_ok.mp h
  obtain ⟨-, h⟩ := Checks.andThen_eq_ok.mp h
  cases h
  exact ⟨observed, applied, Checks.mapError_eq_ok.mp hobserved, happlied, hrc', rfl⟩

theorem reconcile_eq_some (h : reconcile api tg = .ok (status, some rc)) :
    reconcileShards api tg = .ok (status, rc) := by
  obtain ⟨gated, -, h⟩ := Checks.bind_eq_ok.mp h
  split at h
  · cases h
  split at h
  · obtain ⟨_, -, h⟩ := Checks.bind_eq_ok.mp h
    cases h
  split at h
  · cases h
  obtain ⟨result, hresult, h⟩ := Checks.bind_eq_ok.mp h
  cases h
  exact hresult

/-- What a pass has done that ends `Healthy`: every Shard of the spec applied, every other Shard
released. -/
structure Done (api : Api) (tg : TableGroup) (observed : List ShardObject) (rc : ReconcileContext)
    (entries : List (String × ℕ)) : Prop where
  applied : AllApplied api observed tg.shards.zipIdx entries
  released : ∀ s ∈ observed, s.name ∉ entries.map Prod.fst → Released api s
  requests : rc.requests = entries.map (fun entry => .apply entry.1 entry.2) ++
    (observed.filter (fun s => !(entries.map Prod.fst).contains s.name)).map (releaseRequest api)
  ready : ∀ name ∈ entries.map Prod.fst, ∃ s ∈ observed, s.name = name ∧ s.phase = .healthy ∧
    s.observedGeneration = (entries.reverse.lookup name).getD 0
  nodup : (entries.map Prod.fst).Nodup

theorem done_of_healthy (hcached : api.cached = .ok observed)
    (hnodup : (observed.map (·.name)).Nodup) (h : reconcile api tg = .ok (status, some rc))
    (hhealthy : status.phase = .healthy) : ∃ entries, Done api tg observed rc entries := by
  obtain ⟨observed', applied, hcached', happly, hundesired, rfl⟩ :=
    reconcileShards_eq_ok (reconcile_eq_some h)
  cases hcached.symm.trans hcached'
  obtain ⟨hpending, hlength⟩ := healthy_of_stepComputeStatus hhealthy
  have hpending' := pendingDeletion_of_foldlM
    (fun _ _ _ => pendingDeletion_reconcileUndesiredShard) hundesired hpending
  obtain ⟨entries, hentries, rfl⟩ := applied_of_foldlM happly hpending'
  obtain ⟨hreleased, hrc⟩ := released_of_foldlM hundesired hpending
  have hobserved : rc.observedShards = observed := by rw [hrc]; rfl
  have hactive : rc.activeShardNames = (entries.map Prod.fst).reverse := by
    rw [hrc]
    exact List.append_nil _
  have hgenerations : rc.appliedGeneration = entries.reverse := by
    rw [hrc]
    exact List.append_nil _
  have hperm : ((readyShards rc).map (·.name)).Perm (entries.map Prod.fst) :=
    perm_readyShards (hobserved ▸ hnodup) hactive (hobserved ▸ hentries) (by simpa using hlength)
  refine ⟨entries, hentries, fun s hs hne => hreleased s hs ?_, ?_, fun name hname => ?_, ?_⟩
  · simpa [ReconcileContext.applying] using hne
  · have hcontains (name : String) : ((entries.map Prod.fst).reverse ++ []).contains name =
        (entries.map Prod.fst).contains name := by simp
    rw [hrc]
    simp only [ReconcileContext.applying, hcontains]
    rfl
  · obtain ⟨s, hs, rfl⟩ := List.mem_map.mp (hperm.mem_iff.mpr hname)
    obtain ⟨hs, hphase⟩ := List.mem_filter.mp hs
    obtain ⟨hs, hcaught⟩ := List.mem_filter.mp hs
    have hgeneration := (Bool.and_eq_true_iff.mp hcaught).2
    rw [hgenerations] at hgeneration
    exact ⟨s, hobserved ▸ hs, rfl, by simpa using hphase, by simpa using hgeneration⟩
  · have hsublist : ((readyShards rc).map (·.name)).Sublist (rc.observedShards.map (·.name)) :=
      (List.filter_sublist.trans List.filter_sublist).map _
    exact hperm.nodup_iff.mp (hsublist.nodup (hobserved ▸ hnodup))

section Done

variable {observed : List ShardObject} {entries : List (String × ℕ)} {entry : String × ℕ}

theorem Done.lookup (h : Done api tg observed rc entries) (hentry : entry ∈ entries) :
    (entries.reverse.lookup entry.1).getD 0 = entry.2 := by
  have hnodup : (entries.reverse.map Prod.fst).Nodup := by
    rw [List.map_reverse]
    exact List.nodup_reverse.mpr h.nodup
  have hmem : entry ∈ entries.reverse := List.mem_reverse.mpr hentry
  rw [Assoc.lookup_of_mem hnodup hmem]
  rfl

theorem Done.mem_requests (h : Done api tg observed rc entries) {r : Request} :
    r ∈ rc.requests ↔ (∃ entry ∈ entries, r = .apply entry.1 entry.2) ∨
      ∃ s ∈ observed, s.name ∉ entries.map Prod.fst ∧ r = releaseRequest api s := by
  rw [h.requests, List.mem_append, List.mem_map, List.mem_map]
  have hfilter {s : ShardObject} :
      s ∈ observed.filter (fun s => !(entries.map Prod.fst).contains s.name) ↔
        s ∈ observed ∧ s.name ∉ entries.map Prod.fst := by
    simp [List.mem_filter]
  constructor
  · rintro (⟨entry, hentry, rfl⟩ | ⟨s, hs, rfl⟩)
    · exact .inl ⟨entry, hentry, rfl⟩
    · exact .inr ⟨s, (hfilter.mp hs).1, (hfilter.mp hs).2, rfl⟩
  · rintro (⟨entry, hentry, rfl⟩ | ⟨s, hs, hne, rfl⟩)
    · exact .inl ⟨entry, hentry, rfl⟩
    · exact .inr ⟨s, hfilter.mpr ⟨hs, hne⟩, rfl⟩

theorem name_releaseRequest (api : Api) (s : ShardObject) : (releaseRequest api s).name = s.name := by
  unfold releaseRequest
  split <;> rfl

theorem Done.requests_applied (h : Done api tg observed rc entries) (hentry : entry ∈ entries) :
    ∀ r ∈ rc.requests, r.name = entry.1 → r = .apply entry.1 entry.2 := by
  intro r hr hname
  rcases h.mem_requests.mp hr with ⟨other, hother, rfl⟩ | ⟨s, -, hne, rfl⟩
  · have hsame : other = entry := List.inj_on_of_nodup_map h.nodup hother hentry hname
    rw [hsame]
  · rw [name_releaseRequest] at hname
    exact absurd (hname ▸ List.mem_map_of_mem hentry) hne

/-- A Shard that is found under its name is the only one. -/
theorem staying_of_observed (hnodup : (observed.map (·.name)).Nodup) (hs : s ∈ observed)
    (h : observedCleanupInProgress observed s.name = false) : s.draining = false := by
  have hfind : observed.find? (·.name == s.name) = some s := by
    obtain ⟨found, hfound⟩ := Option.isSome_iff_exists.mp
      (List.find?_isSome (p := (·.name == s.name)).mpr ⟨s, hs, beq_self_eq_true s.name⟩)
    have hname : found.name = s.name := by simpa using List.find?_some hfound
    rw [hfound, List.inj_on_of_nodup_map hnodup (List.mem_of_find?_eq_some hfound) hs hname]
  simpa [observedCleanupInProgress, hfind] using h

/-- What is left of an applied Shard. -/
theorem Done.foldlM_applied (h : Done api tg observed rc entries) (hentry : entry ∈ entries)
    (hname : s.name = entry.1) :
    rc.requests.foldlM (Request.on api) s = some { s with generation := entry.2 } := by
  have hmem : Request.apply s.name entry.2 ∈ rc.requests :=
    h.mem_requests.mpr (.inl ⟨entry, hentry, by rw [hname]⟩)
  rw [foldlM_of_applies entry.2 fun r hr hr' => ?_, if_pos hmem]
  rw [hname] at hr' ⊢
  exact h.requests_applied hentry r hr hr'

/-- **What `Healthy` says.** If a pass computes the phase `Healthy`, every Shard the spec names was
applied in it and is stored, is not on its way out, reports on the generation the apply returned and
is healthy; and a Shard that is still on its way out has finished its drain and was deleted by the
pass. -/
theorem healthy_table_group (api : Api) (tg : TableGroup) {observed : List ShardObject}
    {status : Status} {rc : ReconcileContext} (hcached : api.cached = .ok observed)
    (hnodup : (observed.map (·.name)).Nodup) (h : reconcile api tg = .ok (status, some rc))
    (hhealthy : status.phase = .healthy) :
    (∀ shard ∈ tg.shards.zipIdx, ∃ name generation, api.buildShard shard.1 = .ok name ∧
      api.apply shard.2 name = .ok generation ∧ .apply name generation ∈ rc.requests ∧
        ∃ s ∈ shardsLeft api rc.requests observed, s.name = name ∧ s.generation = generation ∧
          s.observedGeneration = generation ∧ s.phase = .healthy ∧ s.draining = false) ∧
    ∀ s ∈ shardsLeft api rc.requests observed, s.draining = true →
      .delete s.name ∈ rc.requests ∧ isConditionTrue s.conditions "ReadyForDeletion" = true := by
  obtain ⟨entries, hdone⟩ := done_of_healthy hcached hnodup h hhealthy
  -- an applied Shard was not on its way out when it was read
  have hstaying {entry : String × ℕ} (hentry : entry ∈ entries) :
      observedCleanupInProgress observed entry.1 = false := by
    obtain ⟨shard, -, happlied⟩ := hdone.applied.only entry hentry
    exact happlied.staying
  constructor
  · intro shard hshard
    obtain ⟨entry, hentry, happlied⟩ := hdone.applied.each shard hshard
    obtain ⟨s, hs, hname, hphase, hgeneration⟩ :=
      hdone.ready entry.1 (List.mem_map_of_mem hentry)
    refine ⟨entry.1, entry.2, happlied.built, happlied.applied,
      hdone.mem_requests.mpr (.inl ⟨entry, hentry, rfl⟩), { s with generation := entry.2 }, ?_, hname,
      rfl, hgeneration.trans (hdone.lookup hentry), hphase, ?_⟩
    · exact List.mem_append_left _ (List.mem_filterMap.mpr ⟨s, hs, hdone.foldlM_applied hentry hname⟩)
    · have hstays : s.draining = false := staying_of_observed hnodup hs (hname ▸ hstaying hentry)
      exact hstays
  · intro s' hs' hdraining
    rcases List.mem_append.mp hs' with hs' | hs'
    · obtain ⟨s, hs, hfold⟩ := List.mem_filterMap.mp hs'
      have hreport := SameReport.of_foldlM hfold
      by_cases hactive : s.name ∈ entries.map Prod.fst
      · obtain ⟨entry, hentry, hname⟩ := List.mem_map.mp hactive
        rw [hdone.foldlM_applied hentry hname.symm] at hfold
        cases hfold
        have hstays := staying_of_observed hnodup hs (hname ▸ hstaying hentry)
        exact absurd (hdraining.symm.trans hstays) (by decide)
      · have hrelease : releaseRequest api s ∈ rc.requests :=
          hdone.mem_requests.mpr (.inr ⟨s, hs, hactive, rfl⟩)
        rw [hreport.name, hreport.conditions]
        exact ⟨delete_of_foldlM hrelease hfold, (hdone.released s hs hactive).ready⟩
    · -- a Shard that was created is not on its way out
      obtain ⟨r, -, hcreated⟩ := List.mem_filterMap.mp hs'
      unfold createdShard at hcreated
      split at hcreated
      · split at hcreated
        · cases hcreated
        · cases hcreated
          cases hdraining
      · cases hcreated

end Done

end Healthy

/-! ### A drained Shard with a finalizer -/

namespace Sample

def readyCondition : Condition where
  type := "ReadyForDeletion"
  status := .conditionTrue
  reason := "DrainComplete"

/-- The Shard the spec names. -/
def servingShard : ShardObject where
  name := "db-0"
  generation := 3
  observedGeneration := 3
  phase := .healthy

/-- A Shard of an earlier spec: its drain is done, and its finalizer has not run. -/
def drainedShard : ShardObject where
  name := "db-1"
  generation := 2
  observedGeneration := 2
  phase := .healthy
  pendingDeletion := "2026-01-01T00:00:00Z"
  conditions := [readyCondition]
  finalizers := ["multigres.com/shard-pvc-orphan"]

def group : TableGroup where
  generation := 5
  shards := ["0"]

/-- Every request is served. -/
def groupApi (observed : List ShardObject) : Api where
  cached := .ok observed
  buildShard := fun name => .ok ("db-" ++ name)
  apply := fun _ _ => .ok 3
  now := 7
  timestamp := "2026-01-01T00:10:00Z"

/-- The context a pass over these Shards ends with. -/
def groupContext (observed : List ShardObject) : ReconcileContext where
  observedShards := observed
  activeShardNames := ["db-0"]
  appliedGeneration := [("db-0", 3)]
  requests := .apply "db-0" 3 ::
    (observed.filter (fun s => !(["db-0"].contains s.name))).map (releaseRequest (groupApi observed))

/-- The group is drained itself, while its status is the one from before. -/
def goingGroup : TableGroup :=
  { group with
    pendingDeletion := "2026-01-01T00:00:00Z"
    status := { phase := .healthy, message := "Ready" } }

end Sample

section

open TableGroupStatus.Sample

/-- One Shard serves, and a drained leftover of an earlier spec is deleted. -/
theorem healthy_table_group_serving :
    let observed := [servingShard, drainedShard]
    let requests := (groupContext observed).requests
    (∃ status, reconcile (groupApi observed) group = .ok (status, some (groupContext observed)) ∧
      status.phase = .healthy) ∧
    (∃ s ∈ shardsLeft (groupApi observed) requests observed,
      s.name = "db-0" ∧ s.observedGeneration = 3 ∧ s.draining = false) ∧
    ∃ s ∈ shardsLeft (groupApi observed) requests observed, s.draining = true ∧
      .delete s.name ∈ requests ∧ isConditionTrue s.conditions "ReadyForDeletion" = true := by
  intro observed requests
  have hpass : reconcile (groupApi observed) group =
      .ok (stepComputeStatus (groupApi observed) group (groupContext observed),
        some (groupContext observed)) := rfl
  have hphase : (stepComputeStatus (groupApi observed) group (groupContext observed)).phase =
      .healthy := by decide +kernel
  obtain ⟨hserving, hleft⟩ :=
    healthy_table_group (groupApi observed) group rfl (by decide) hpass hphase
  obtain ⟨name, generation, hname, hgeneration, -, s, hs, hsname, -, hsgeneration, -, hstays⟩ :=
    hserving ("0", 0) (by decide)
  cases hname
  cases hgeneration
  have hgone : { drainedShard with deletionTimestamp := some 7 } ∈
      shardsLeft (groupApi observed) requests observed := by decide +kernel
  exact ⟨⟨_, hpass, hphase⟩, ⟨s, hs, hsname, hsgeneration, hstays⟩, _, hgone, rfl, hleft _ hgone rfl⟩

/-- **`Healthy` with a cleanup in progress.** A pass that deletes a drained Shard is `Healthy` while
the Shard is terminating. A group that is drained itself marks its Shards and keeps `Healthy`. -/
theorem healthy_while_terminating :
    (∃ status rc, reconcile (groupApi [servingShard, drainedShard]) group = .ok (status, some rc) ∧
      status.phase = .healthy ∧
        ∃ s ∈ shardsLeft (groupApi [servingShard, drainedShard]) rc.requests
          [servingShard, drainedShard], s.deletionTimestamp.isSome = true) ∧
    ∃ status, reconcile (groupApi [servingShard]) goingGroup = .ok (status, none) ∧
      status.phase = .healthy ∧
        propagatePendingDeletion (groupApi [servingShard]) true servingShard = .ok false := by
  refine ⟨⟨_, groupContext [servingShard, drainedShard], rfl, by decide +kernel, ?_⟩,
    ⟨_, rfl, rfl, rfl⟩⟩
  exact ⟨{ drainedShard with deletionTimestamp := some 7 }, by decide +kernel, rfl⟩

end

end TableGroupStatus

end MultigresOperator

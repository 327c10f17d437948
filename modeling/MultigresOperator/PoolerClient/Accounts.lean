import MultigresOperator.PoolerClient.Resolver
import Mathlib.Algebra.Order.BigOperators.Group.Finset

/-!
# The accounts of the resolver

Every client that the resolver creates is either held by one cluster state, as its current client or
as a retired one, or it has been closed once. The sections of the calls move clients between these
accounts and lose none. A state that is still open can be found from the registry, or some call is
about to close it; a retired client has a timer, or the call of its timer is under way.

## Main results

* `move_of_act`: the sections are moves
* `accounts_of_run`: the invariant holds in every interleaving
* `clients_closed_once`: every client is closed at most once, never while it is in use, and in the end
  exactly once
-/

namespace MultigresOperator.PoolerClient

open Interleave

/-! ### What a section can do -/

def ClusterState.clients (s : ClusterState) : List ℕ := s.tlsClient.toList ++ s.retiredClients

/-- The states that a call refers to. -/
def Call.refs : Call → List ℕ
  | .acquire _ st | .await _ st _ | .refresh _ st | .retire st | .timer st _ => [st]
  | .closing sts => sts
  | _ => []

/-- A call that is not about to close a state or a client. -/
def Call.Idle : Call → Prop
  | .retire _ | .closing _ | .timer _ _ => False
  | _ => True

def ClusterState.SameClients (s s' : ClusterState) : Prop :=
  s'.closed = s.closed ∧ s'.tlsClient = s.tlsClient ∧ s'.retiredClients = s.retiredClients

/-- A step that leaves the registry of states and all clients alone. -/
structure Quiet (m m' : Memory) : Prop where
  states : ∀ e, e ∈ m'.states ↔ e ∈ m.states
  closed : m'.closed = m.closed
  nextState : m'.nextState = m.nextState
  nextClient : m'.nextClient = m.nextClient
  closes : m'.closes = m.closes
  timers : m'.timers = m.timers
  heap : ∀ st, (m.heap st).SameClients (m'.heap st)

/-- What a section can do. -/
inductive Move (m : Memory) : Call → Memory → Call → Prop
  | quiet {c c' : Call} {m' : Memory} (quiet : Quiet m m') (idle : c.Idle) (idle' : c'.Idle)
      (refs : ∀ st ∈ c'.refs, st ∈ c.refs ∨ ∃ key, (key, st) ∈ m.states) : Move m c m' c'
  | create {key : Key} (live : m.closed = false) (fresh : m.states.get key = none) :
      Move m (.lookup key) (m.newState key) (.acquire key m.nextState)
  | replace {key : Key} {st : ℕ} {s : ClusterState} {rv : String} {now : ℤ} {done : Option ℕ}
      {r : Result} (live : (m.heap st).closed = false) (same : (m.heap st).SameClients s) :
      Move m (.refresh key st) (m.replaceClient st s rv now) (.signal done r)
  | forget {key : Key} {st : ℕ} (found : (key, st) ∈ m.states) :
      Move m (.forget key) (m.forget key) (.retire st)
  | retire {st : ℕ} : Move m (.retire st) (m.retireState st) (.returned .done)
  | close (live : m.closed = false) :
      Move m .close { m with closed := true, states := ∅, active := [] }
        (.closing (m.states.items.map Prod.snd))
  | closeNext {sts : List ℕ} {n st : ℕ} (picked : sts[n]? = some st) :
      Move m (.closing sts) (m.closeState st) (.closing (sts.eraseIdx n))
  | closed : Move m (.closing []) m (.returned .done)
  | expire {st client : ℕ} : Move m (.timer st client) (m.expire st client) (.returned .done)

section

variable {cfg : Config} {m m' : Memory} {i : Input} {c c' : Call}

theorem ClusterState.SameClients.refl (s : ClusterState) : s.SameClients s := ⟨rfl, rfl, rfl⟩

theorem quiet_refl (m : Memory) : Quiet m m where
  states _ := Iff.rfl
  closed := rfl
  nextState := rfl
  nextClient := rfl
  closes := rfl
  timers := rfl
  heap _ := .refl _

variable {st : ℕ} {s : ClusterState}

theorem quiet_write (h : (m.heap st).SameClients s) :
    Quiet m (m.write st s) where
  states _ := Iff.rfl
  closed := rfl
  nextState := rfl
  nextClient := rfl
  closes := rfl
  timers := rfl
  heap st' := by
    by_cases hst : st' = st
    · subst hst
      rw [m.heap_write_self]
      exact h
    · rw [m.heap_write_of_ne hst]
      exact .refl _

theorem quiet_beginRefresh (st : ℕ) : Quiet m (m.beginRefresh st) := by
  have hwrite : Quiet m (m.write st
      { m.heap st with refreshing := true, refreshDone := some m.nextChan }) :=
    quiet_write ⟨rfl, rfl, rfl⟩
  exact ⟨hwrite.states, hwrite.closed, hwrite.nextState, hwrite.nextClient, hwrite.closes,
    hwrite.timers, hwrite.heap⟩

theorem sameClients_keepExistingOrError (i : Input) (err : String) :
    s.SameClients (keepExistingOrError s i err).1 := by
  unfold keepExistingOrError
  dsimp only
  split
  · exact .refl s
  · exact ⟨rfl, rfl, rfl⟩

theorem move_of_call (idle : c.Idle) (idle' : c'.Idle)
    (refs : ∀ st ∈ c'.refs, st ∈ c.refs ∨ ∃ key, (key, st) ∈ m.states) : Move m c m c' :=
  .quiet (quiet_refl m) idle idle' refs

theorem move_enterClientFor (shard : ShardRef) :
    Move m (.clientFor shard) m (enterClientFor m shard) := by
  unfold enterClientFor
  refine move_of_call trivial ?_ ?_
  · split
    · trivial
    · split
      · trivial
      · split
        · trivial
        · split
          · trivial
          · trivial
  · intro st hst
    split at hst
    · cases hst
    · split at hst
      · cases hst
      · split at hst
        · cases hst
        · split at hst
          · cases hst
          · cases hst

theorem move_validate (key : Key) : Move m (.validate key) m (validate key i) := by
  unfold validate
  dsimp only
  split
  · exact move_of_call trivial trivial (by rintro _ ⟨⟩)
  · exact move_of_call trivial trivial (by rintro _ ⟨⟩)
  · exact move_of_call trivial trivial (by rintro _ ⟨⟩)

theorem move_publish (key : Key) : Move m (.publish key) (publish m key).1 (publish m key).2 := by
  unfold publish
  split
  · exact move_of_call trivial trivial (by rintro _ ⟨⟩)
  · exact .quiet ⟨fun _ => Iff.rfl, rfl, rfl, rfl, rfl, rfl, fun _ => .refl _⟩ trivial trivial
      (by rintro _ ⟨⟩)

theorem move_lookup (key : Key) : Move m (.lookup key) (lookup m key).1 (lookup m key).2 := by
  unfold lookup
  split
  · exact move_of_call trivial trivial (by rintro _ ⟨⟩)
  · next hopen =>
    split
    · next st hst =>
      refine move_of_call trivial trivial fun st' hst' => .inr ⟨key, ?_⟩
      obtain rfl := List.mem_singleton.mp hst'
      exact Table.get_eq_some.mp hst
    · next hfresh => exact .create (Bool.eq_false_of_not_eq_true hopen) hfresh

theorem move_acquire (key : Key) (st : ℕ) :
    Move m (.acquire key st) (acquire cfg m key st i).1 (acquire cfg m key st i).2 := by
  have hreturn (r : Result) : Move m (.acquire key st) m (.returned r) :=
    move_of_call trivial trivial (by rintro _ ⟨⟩)
  have hrefresh : Move m (.acquire key st) (m.beginRefresh st) (.refresh key st) :=
    .quiet (quiet_beginRefresh st) trivial trivial fun _ h => .inl h
  unfold acquire
  dsimp only
  split
  · exact hreturn _
  · split
    · split
      · exact hreturn _
      · exact hrefresh
    · split
      · exact move_of_call trivial trivial fun _ h => .inl h
      · split
        · split
          · exact hreturn _
          · exact hrefresh
        · exact hrefresh

theorem move_await {key : Key} {done : Option ℕ} (h : await m key st done i = some c') :
    Move m (.await key st done) m c' := by
  have hreturn (r : Result) : Move m (.await key st done) m (.returned r) :=
    move_of_call trivial trivial (by rintro _ ⟨⟩)
  unfold await at h
  dsimp only at h
  split at h
  · obtain rfl := Option.some.inj h
    exact hreturn _
  · split at h
    · cases h
    · split at h
      · obtain rfl := Option.some.inj h
        exact hreturn _
      · split at h
        · obtain rfl := Option.some.inj h
          exact hreturn _
        · obtain rfl := Option.some.inj h
          exact hreturn _
        · obtain rfl := Option.some.inj h
          exact move_of_call trivial trivial fun _ h => .inl h

theorem move_refresh (key : Key) (st : ℕ) :
    Move m (.refresh key st) (refresh m key st i).1 (refresh m key st i).2 := by
  have hwrite {s : ClusterState} (hs : (m.heap st).SameClients s) (done : Option ℕ) (r : Result) :
      Move m (.refresh key st) (m.write st s) (.signal done r) :=
    .quiet (quiet_write hs) trivial trivial (by rintro _ ⟨⟩)
  have hkeep (err : String) : (m.heap st).SameClients
      (keepExistingOrError { m.heap st with refreshing := false, refreshDone := none } i err).1 :=
    sameClients_keepExistingOrError i err
  unfold refresh
  dsimp only
  split
  · refine hwrite ?_ _ _
    exact ⟨rfl, rfl, rfl⟩
  · next hopen =>
    split
    · exact hwrite (hkeep _) _ _
    · split
      · refine hwrite ?_ _ _
        exact ⟨rfl, rfl, rfl⟩
      · exact hwrite (hkeep _) _ _
      · exact .replace (Bool.eq_false_of_not_eq_true hopen) ⟨rfl, rfl, rfl⟩

theorem move_forgetCluster (key : Key) :
    Move m (.forget key) (forgetCluster m key).1 (forgetCluster m key).2 := by
  unfold forgetCluster
  split
  · next st hst => exact .forget (Table.get_eq_some.mp hst)
  · next hnone =>
    refine .quiet ⟨fun e => ?_, rfl, rfl, rfl, rfl, rfl, fun _ => .refl _⟩ trivial trivial
      (by rintro _ ⟨⟩)
    refine Keyed.mem_erase.trans (and_iff_left_of_imp ?_)
    rintro he rfl
    exact Table.get_eq_none.mp hnone e.2 he

/-- **The sections are moves.** -/
theorem move_of_act (h : act cfg m i c = some (m', c')) : Move m c m' c' := by
  have hmove {x : Memory × Call} (hx : some x = some (m', c')) (hm : Move m c x.1 x.2) :
      Move m c m' c' := by
    obtain rfl := Option.some.inj hx
    exact hm
  cases c with
  | clientFor shard => exact hmove h (move_enterClientFor shard)
  | validate key => exact hmove h (move_validate key)
  | publish key => exact hmove h (move_publish key)
  | lookup key => exact hmove h (move_lookup key)
  | acquire key st => exact hmove h (move_acquire key st)
  | await key st done =>
    obtain ⟨c, hc, heq⟩ := Option.map_eq_some_iff.mp h
    obtain ⟨rfl, rfl⟩ := Prod.mk.inj heq
    exact move_await hc
  | refresh key st => exact hmove h (move_refresh key st)
  | signal done r =>
    exact hmove h (.quiet ⟨fun _ => Iff.rfl, rfl, rfl, rfl, rfl, rfl, fun _ => .refl _⟩ trivial trivial
      (by rintro _ ⟨⟩))
  | activate key =>
    refine hmove h (.quiet ?_ trivial trivial (by rintro _ ⟨⟩))
    dsimp only
    split
    · exact quiet_refl m
    · exact ⟨fun _ => Iff.rfl, rfl, rfl, rfl, rfl, rfl, fun _ => .refl _⟩
  | forget key => exact hmove h (move_forgetCluster key)
  | retire st => exact hmove h .retire
  | close =>
    refine hmove h ?_
    unfold closeResolver
    split
    · exact move_of_call trivial trivial (by rintro _ ⟨⟩)
    · next hopen => exact .close (Bool.eq_false_of_not_eq_true hopen)
  | closing sts =>
    change closeNext m sts i = _ at h
    unfold closeNext at h
    split at h
    · next hnil =>
      subst hnil
      exact hmove h .closed
    · obtain ⟨st, hst, heq⟩ := Option.map_eq_some_iff.mp h
      obtain ⟨rfl, rfl⟩ := Prod.mk.inj heq
      exact .closeNext hst
  | timer st client => exact hmove h .expire
  | returned r => cases h

end

/-! ### The clients of a state -/

section

variable {m : Memory} {st c : ℕ}

theorem retireCurrent_eq (s : ClusterState) :
    m.retireCurrent st s =
      ({ m with timers := m.timers ++ s.tlsClient.toList.map (st, ·) },
        { s with tlsClient := none, retiredClients := s.retiredClients ++ s.tlsClient.toList }) := by
  obtain ⟨closed, refreshing, refreshDone, tlsClient, retired, rv, fetchedAt, lastErr⟩ := s
  unfold Memory.retireCurrent
  cases tlsClient with
  | none => simp
  | some old => rfl

theorem replaceClient_eq (s : ClusterState) (rv : String) (now : ℤ) :
    m.replaceClient st s rv now =
      { m.write st
          { s with
            tlsClient := some m.nextClient
            retiredClients := s.retiredClients ++ s.tlsClient.toList
            resourceVersion := rv, fetchedAt := now, lastErr := none } with
        timers := m.timers ++ s.tlsClient.toList.map (st, ·)
        nextClient := m.nextClient + 1 } := by
  unfold Memory.replaceClient
  rw [retireCurrent_eq]
  rfl

theorem retireState_eq (h : (m.heap st).closed = false) :
    m.retireState st =
      { m.write st
          { m.heap st with
            closed := true, tlsClient := none
            retiredClients := (m.heap st).retiredClients ++ (m.heap st).tlsClient.toList } with
        timers := m.timers ++ (m.heap st).tlsClient.toList.map (st, ·) } := by
  unfold Memory.retireState
  rw [if_neg (by rw [h]; exact Bool.false_ne_true), retireCurrent_eq]
  rfl

theorem retireState_of_closed (h : (m.heap st).closed = true) : m.retireState st = m :=
  if_pos h

/-- How often a client is held by the states. -/
def Memory.held (m : Memory) (c : ℕ) : ℕ :=
  ∑ st ∈ Finset.range m.nextState, (m.heap st).clients.count c

theorem held_write (hst : st < m.nextState) (s : ClusterState) :
    (m.write st s).held c + (m.heap st).clients.count c = m.held c + s.clients.count c := by
  have hmem : st ∈ Finset.range m.nextState := Finset.mem_range.mpr hst
  have hrest : ∑ x ∈ (Finset.range m.nextState).erase st, ((m.write st s).heap x).clients.count c =
      ∑ x ∈ (Finset.range m.nextState).erase st, (m.heap x).clients.count c :=
    Finset.sum_congr rfl fun x hx => by rw [m.heap_write_of_ne (Finset.ne_of_mem_erase hx)]
  have hafter : (m.write st s).held c =
      ((m.write st s).heap st).clients.count c +
        ∑ x ∈ (Finset.range m.nextState).erase st, ((m.write st s).heap x).clients.count c :=
    (Finset.add_sum_erase _ _ hmem).symm
  have hbefore : m.held c = (m.heap st).clients.count c +
      ∑ x ∈ (Finset.range m.nextState).erase st, (m.heap x).clients.count c :=
    (Finset.add_sum_erase _ _ hmem).symm
  rw [hafter, hbefore, hrest, m.heap_write_self]
  omega

theorem held_newState (key : Key) : (m.newState key).held c = m.held c := by
  have hnew : ((m.newState key).heap m.nextState).clients = [] := by
    unfold Memory.newState
    dsimp only
    rw [Function.update_self]
    rfl
  change ∑ x ∈ Finset.range (m.nextState + 1), ((m.newState key).heap x).clients.count c = _
  rw [Finset.sum_range_succ, hnew, List.count_nil, Nat.add_zero, Memory.held]
  refine Finset.sum_congr rfl fun x hx => ?_
  have hne : x ≠ m.nextState := (Finset.mem_range.mp hx).ne
  unfold Memory.newState
  dsimp only
  rw [Function.update_of_ne hne]

theorem count_clients_le_held (hst : st < m.nextState) : (m.heap st).clients.count c ≤ m.held c :=
  Finset.single_le_sum (f := fun x => (m.heap x).clients.count c) (fun _ _ => Nat.zero_le _)
    (Finset.mem_range.mpr hst)

theorem count_clients (s : ClusterState) :
    s.clients.count c = s.tlsClient.toList.count c + s.retiredClients.count c :=
  List.count_append

/-! ### The invariant -/

/-- Every client that was created is held or closed, and once. -/
def Memory.Owned (m : Memory) : Prop :=
  ∀ c, m.held c + m.closes c = if c < m.nextClient then 1 else 0

end

/-- A state that is open can be found: it is in the registry, or a call is about to close it. -/
def Tracked (w : World Memory Call) (st : ℕ) : Prop :=
  (∃ key, (key, st) ∈ w.mem.states) ∨ .retire st ∈ w.calls ∨
    ∃ sts, .closing sts ∈ w.calls ∧ st ∈ sts

/-- The accounts of the resolver. -/
structure Accounts (w : World Memory Call) : Prop where
  states_lt : ∀ e ∈ w.mem.states, e.2 < w.mem.nextState
  timers_lt : ∀ t ∈ w.mem.timers, t.1 < w.mem.nextState
  refs_lt : ∀ c ∈ w.calls, ∀ st ∈ c.refs, st < w.mem.nextState
  registry : w.mem.closed = true → ∀ e, e ∉ w.mem.states
  closing : ∀ sts, .closing sts ∈ w.calls → w.mem.closed = true
  owned : w.mem.Owned
  closed : ∀ st, (w.mem.heap st).closed = true → (w.mem.heap st).tlsClient = none
  tracked : ∀ st < w.mem.nextState, (w.mem.heap st).closed = false → Tracked w st
  timed : ∀ st c, c ∈ (w.mem.heap st).retiredClients →
    (st, c) ∈ w.mem.timers ∨ .timer st c ∈ w.calls

section

variable {m m' : Memory} {calls : List Call} {n : ℕ} {c c' : Call}

/-- A step that leaves the registry alone. -/
structure SameRegistry (m m' : Memory) : Prop where
  states : m'.states = m.states
  closed : m'.closed = m.closed
  nextState : m'.nextState = m.nextState

variable {st client st' x : ℕ} {s : ClusterState} {rv : String} {now : ℤ} {cfg : Config}
  {w : World Memory Call}

theorem sameRegistry_replace : SameRegistry m (m.replaceClient st s rv now) := by
  rw [replaceClient_eq]
  exact ⟨rfl, rfl, rfl⟩

theorem sameRegistry_retire : SameRegistry m (m.retireState st) := by
  unfold Memory.retireState
  split
  · exact ⟨rfl, rfl, rfl⟩
  · rw [retireCurrent_eq]
    exact ⟨rfl, rfl, rfl⟩

theorem sameRegistry_closeState : SameRegistry m (m.closeState st) := ⟨rfl, rfl, rfl⟩

theorem sameRegistry_expire : SameRegistry m (m.expire st client) := by
  unfold Memory.expire
  split
  · exact ⟨rfl, rfl, rfl⟩
  · exact ⟨rfl, rfl, rfl⟩

theorem Move.nextState_le (h : Move m c m' c') : m.nextState ≤ m'.nextState := by
  cases h with
  | quiet quiet => exact quiet.nextState.ge
  | create => exact Nat.le_succ _
  | replace => exact sameRegistry_replace.nextState.ge
  | forget => rfl
  | retire => exact sameRegistry_retire.nextState.ge
  | close => rfl
  | closeNext => rfl
  | closed => rfl
  | expire => exact sameRegistry_expire.nextState.ge

/-- A state that a section writes is one that a call refers to. -/
theorem Accounts.lt_of_ref (h : Accounts ⟨m, calls⟩) (hn : calls[n]? = some c) (hst : st ∈ c.refs) :
    st < m.nextState :=
  h.refs_lt c (List.mem_of_getElem? hn) st hst

/-- The clients are conserved by the steps that leave them alone. -/
theorem owned_quiet (h : m.Owned) (quiet : Quiet m m') : m'.Owned := by
  intro x
  have hheld : m'.held x = m.held x := by
    unfold Memory.held
    rw [quiet.nextState]
    refine Finset.sum_congr rfl fun st _ => ?_
    obtain ⟨-, hclient, hretired⟩ := quiet.heap st
    rw [count_clients, count_clients, hclient, hretired]
  rw [hheld, quiet.closes, quiet.nextClient]
  exact h x

theorem owned_replace (h : m.Owned) (hst : st < m.nextState) (same : (m.heap st).SameClients s) :
    (m.replaceClient st s rv now).Owned := by
  intro x
  have hx : m.held x + m.closes x = if x < m.nextClient then 1 else 0 := h x
  obtain ⟨-, hclient, hretired⟩ := same
  rw [replaceClient_eq, hclient, hretired]
  change Memory.held (m.write st _) x + m.closes x = if x < m.nextClient + 1 then 1 else 0
  have hwrite := held_write (c := x) hst
    { s with
      tlsClient := some m.nextClient
      retiredClients := (m.heap st).retiredClients ++ (m.heap st).tlsClient.toList
      resourceVersion := rv, fetchedAt := now, lastErr := none }
  have hnew : (some m.nextClient).toList.count x = if x = m.nextClient then 1 else 0 := by
    rw [Option.toList_some, List.count_singleton]
    simp only [beq_iff_eq]
    exact if_congr eq_comm rfl rfl
  rw [count_clients, count_clients, List.count_append, hnew] at hwrite
  -- the new client is the only one whose count changes
  by_cases heq : x = m.nextClient
  · rw [if_pos heq] at hwrite
    rw [if_neg (by omega)] at hx
    rw [if_pos (by omega)]
    omega
  · rw [if_neg heq] at hwrite
    have hlt : x < m.nextClient + 1 ↔ x < m.nextClient := by omega
    simp only [hlt]
    omega

theorem owned_write {d : ℕ → ℕ} (h : m.Owned) (hst : st < m.nextState)
    (hcount : ∀ x, s.clients.count x + d x = (m.heap st).clients.count x) (x : ℕ) :
    (m.write st s).held x + (m.closes x + d x) = if x < m.nextClient then 1 else 0 := by
  have hx : m.held x + m.closes x = if x < m.nextClient then 1 else 0 := h x
  have hwrite := held_write (c := x) hst s
  have hdropped := hcount x
  omega

theorem owned_retireState (h : m.Owned) (hst : st < m.nextState) : (m.retireState st).Owned := by
  cases hclosed : (m.heap st).closed with
  | true => rwa [retireState_of_closed hclosed]
  | false =>
    rw [retireState_eq hclosed]
    refine owned_write (d := fun _ => 0) h hst fun x => ?_
    rw [count_clients, count_clients, List.count_append, Option.toList_none, List.count_nil]
    omega

theorem owned_closeState (h : m.Owned) (hst : st < m.nextState) : (m.closeState st).Owned :=
  owned_write (d := fun x => (m.heap st).clients.count x) h hst fun _ => Nat.zero_add _

theorem owned_expire (h : m.Owned) (hst : st < m.nextState) : (m.expire st client).Owned := by
  unfold Memory.expire
  split
  · next hmem =>
    refine owned_write (d := fun x => List.count x [client]) h hst fun x => ?_
    have hpos : 0 < (m.heap st).retiredClients.count client := List.count_pos_iff.mpr hmem
    rw [count_clients, count_clients, List.count_erase, List.count_singleton]
    dsimp only
    by_cases heq : client = x
    · subst heq
      rw [if_pos (beq_self_eq_true client)]
      omega
    · rw [if_neg (by simpa using heq)]
      omega
  · exact h

/-- **The clients are conserved.** -/
theorem owned_move (h : Accounts ⟨m, calls⟩) (hn : calls[n]? = some c) (hmove : Move m c m' c') :
    m'.Owned := by
  have howned : m.Owned := h.owned
  cases hmove with
  | quiet quiet => exact owned_quiet howned quiet
  | create => exact fun x => by rw [held_newState]; exact howned x
  | replace live same => exact owned_replace howned (h.lt_of_ref hn List.mem_cons_self) same
  | forget => exact howned
  | retire => exact owned_retireState howned (h.lt_of_ref hn List.mem_cons_self)
  | close => exact howned
  | closeNext picked =>
    exact owned_closeState howned (h.lt_of_ref hn (List.mem_of_getElem? picked))
  | closed => exact howned
  | expire => exact owned_expire howned (h.lt_of_ref hn List.mem_cons_self)

/-! ### The registry -/

theorem states_lt_move (h : Accounts ⟨m, calls⟩) (hmove : Move m c m' c') :
    ∀ e ∈ m'.states, e.2 < m'.nextState := by
  have hstates : ∀ e ∈ m.states, e.2 < m.nextState := h.states_lt
  have hsame (hr : SameRegistry m m') : ∀ e ∈ m'.states, e.2 < m'.nextState := by
    rw [hr.states, hr.nextState]
    exact hstates
  cases hmove with
  | quiet quiet =>
    intro e he
    rw [quiet.nextState]
    exact hstates e ((quiet.states e).mp he)
  | create =>
    intro e he
    rcases Table.mem_set.mp he with rfl | ⟨he, -⟩
    · exact Nat.lt_succ_self _
    · exact Nat.lt_succ_of_lt (hstates e he)
  | replace => exact hsame sameRegistry_replace
  | forget => exact fun e he => hstates e (Keyed.mem_erase.mp he).1
  | retire => exact hsame sameRegistry_retire
  | close => exact fun e he => absurd he List.not_mem_nil
  | closeNext => exact hsame sameRegistry_closeState
  | closed => exact hstates
  | expire => exact hsame sameRegistry_expire

theorem timers_lt_move (h : Accounts ⟨m, calls⟩) (hn : calls[n]? = some c) (hmove : Move m c m' c') :
    ∀ t ∈ m'.timers, t.1 < m'.nextState := by
  have htimers : ∀ t ∈ m.timers, t.1 < m.nextState := h.timers_lt
  have hadd {st : ℕ} (hst : st < m.nextState) {clients : List ℕ} :
      ∀ t ∈ m.timers ++ clients.map (st, ·), t.1 < m.nextState := by
    intro t ht
    rcases List.mem_append.mp ht with ht | ht
    · exact htimers t ht
    · obtain ⟨client, -, rfl⟩ := List.mem_map.mp ht
      exact hst
  cases hmove with
  | quiet quiet => rw [quiet.timers, quiet.nextState]; exact htimers
  | create => exact fun t ht => Nat.lt_succ_of_lt (htimers t ht)
  | replace =>
    rw [replaceClient_eq]
    exact hadd (h.lt_of_ref hn List.mem_cons_self)
  | forget => exact htimers
  | @retire st =>
    cases hclosed : (m.heap st).closed with
    | true => rw [retireState_of_closed hclosed]; exact htimers
    | false =>
      rw [retireState_eq hclosed]
      exact hadd (h.lt_of_ref hn List.mem_cons_self)
  | close => exact htimers
  | closeNext => exact fun t ht => htimers t (List.mem_filter.mp ht).1
  | closed => exact htimers
  | expire =>
    unfold Memory.expire
    split
    · exact htimers
    · exact htimers

theorem refs_lt_move (h : Accounts ⟨m, calls⟩) (hn : calls[n]? = some c) (hmove : Move m c m' c') :
    ∀ d ∈ calls.set n c', ∀ st ∈ d.refs, st < m'.nextState := by
  intro d hd st hst
  have hle := hmove.nextState_le
  rcases List.mem_or_eq_of_mem_set hd with hd | rfl
  · exact (h.refs_lt d hd st hst).trans_le hle
  · cases hmove with
    | quiet quiet idle idle' refs =>
      rcases refs st hst with hst | ⟨key, hkey⟩
      · exact (h.lt_of_ref hn hst).trans_le hle
      · exact (h.states_lt _ hkey).trans_le hle
    | create =>
      obtain rfl := List.mem_singleton.mp hst
      exact Nat.lt_succ_self _
    | replace => cases hst
    | forget found =>
      obtain rfl := List.mem_singleton.mp hst
      exact h.states_lt _ found
    | retire => cases hst
    | close =>
      obtain ⟨e, he, rfl⟩ := List.mem_map.mp hst
      exact h.states_lt e he
    | closeNext => exact (h.lt_of_ref hn (List.mem_of_mem_eraseIdx hst)).trans_le hle
    | closed => cases hst
    | expire => cases hst

theorem registry_move (h : Accounts ⟨m, calls⟩) (hmove : Move m c m' c') (hclosed : m'.closed = true)
    (e : Key × ℕ) : e ∉ m'.states := by
  have hold (hm : m.closed = true) : e ∉ m.states := h.registry hm e
  have hsame (hr : SameRegistry m m') : e ∉ m'.states := by
    rw [hr.states]
    exact hold (hr.closed ▸ hclosed)
  cases hmove with
  | quiet quiet => exact fun he => hold (quiet.closed ▸ hclosed) ((quiet.states e).mp he)
  | create live => exact absurd (live.symm.trans hclosed) Bool.false_ne_true
  | replace => exact hsame sameRegistry_replace
  | forget => exact fun he => hold hclosed (Keyed.mem_erase.mp he).1
  | retire => exact hsame sameRegistry_retire
  | close => exact List.not_mem_nil
  | closeNext => exact hsame sameRegistry_closeState
  | closed => exact hold hclosed
  | expire => exact hsame sameRegistry_expire

theorem closed_of_move (hmove : Move m c m' c') (hclosed : m.closed = true) : m'.closed = true := by
  cases hmove with
  | quiet quiet => rw [quiet.closed]; exact hclosed
  | create => exact hclosed
  | replace => rw [sameRegistry_replace.closed]; exact hclosed
  | forget => exact hclosed
  | retire => rw [sameRegistry_retire.closed]; exact hclosed
  | close => rfl
  | closeNext => exact hclosed
  | closed => exact hclosed
  | expire => rw [sameRegistry_expire.closed]; exact hclosed

theorem closing_move (h : Accounts ⟨m, calls⟩) (hn : calls[n]? = some c) (hmove : Move m c m' c')
    {sts : List ℕ} (hsts : .closing sts ∈ calls.set n c') : m'.closed = true := by
  rcases List.mem_or_eq_of_mem_set hsts with hold | rfl
  · exact closed_of_move hmove (h.closing sts hold)
  · cases hmove with
    | quiet quiet idle idle' => exact absurd idle' id
    | close => rfl
    | closeNext => exact h.closing _ (List.mem_of_getElem? hn)

/-! ### The states -/

theorem closed_move (h : Accounts ⟨m, calls⟩) (hmove : Move m c m' c') (st : ℕ)
    (hst : (m'.heap st).closed = true) : (m'.heap st).tlsClient = none := by
  have hold (hclosed : (m.heap st).closed = true) : (m.heap st).tlsClient = none := h.closed st hclosed
  have hwrite {st' : ℕ} {s : ClusterState} (hs : s.closed = true → s.tlsClient = none)
      (hclosed : ((m.write st' s).heap st).closed = true) :
      ((m.write st' s).heap st).tlsClient = none := by
    by_cases heq : st = st'
    · subst heq
      rw [m.heap_write_self] at hclosed ⊢
      exact hs hclosed
    · rw [m.heap_write_of_ne heq] at hclosed ⊢
      exact hold hclosed
  cases hmove with
  | quiet quiet =>
    obtain ⟨hclosed, hclient, -⟩ := quiet.heap st
    rw [hclient]
    exact hold (hclosed ▸ hst)
  | create =>
    unfold Memory.newState at hst ⊢
    dsimp only at hst ⊢
    by_cases heq : st = m.nextState
    · rw [heq, Function.update_self]
    · rw [Function.update_of_ne heq] at hst ⊢
      exact hold hst
  | replace live same =>
    rw [replaceClient_eq] at hst ⊢
    refine hwrite (fun hclosed => ?_) hst
    exact absurd (live.symm.trans (same.1.symm.trans hclosed)) Bool.false_ne_true
  | forget => exact hold hst
  | @retire st' =>
    cases hclosed : (m.heap st').closed with
    | true => rw [retireState_of_closed hclosed] at hst ⊢; exact hold hst
    | false =>
      rw [retireState_eq hclosed] at hst ⊢
      exact hwrite (fun _ => rfl) hst
  | close => exact hold hst
  | closeNext => exact hwrite (fun _ => rfl) hst
  | closed => exact hold hst
  | @expire st' client =>
    unfold Memory.expire at hst ⊢
    split
    · next hmem =>
      rw [if_pos hmem] at hst
      exact hwrite (fun hclosed => h.closed st' hclosed) hst
    · next hmem =>
      rw [if_neg hmem] at hst
      exact hold hst

theorem closed_write (hs : s.closed = true) (h : ((m.write st s).heap st').closed = false) :
    st' ≠ st ∧ (m.heap st').closed = false := by
  by_cases heq : st' = st
  · subst heq
    rw [m.heap_write_self, hs] at h
    cases h
  · rw [m.heap_write_of_ne heq] at h
    exact ⟨heq, h⟩

theorem closed_retireState (h : ((m.retireState st).heap st').closed = false) :
    st' ≠ st ∧ (m.heap st').closed = false := by
  cases hclosed : (m.heap st).closed with
  | true =>
    rw [retireState_of_closed hclosed] at h
    refine ⟨?_, h⟩
    rintro rfl
    exact Bool.false_ne_true (h.symm.trans hclosed)
  | false =>
    rw [retireState_eq hclosed] at h
    exact closed_write rfl h

theorem closed_closeState (h : ((m.closeState st).heap st').closed = false) :
    st' ≠ st ∧ (m.heap st').closed = false := closed_write rfl h

theorem closed_expire : ((m.expire st client).heap st').closed = (m.heap st').closed := by
  unfold Memory.expire
  split
  · change ((m.write st _).heap st').closed = _
    by_cases heq : st' = st
    · subst heq
      rw [m.heap_write_self]
    · rw [m.heap_write_of_ne heq]
  · rfl

theorem tracked_set (hn : calls[n]? = some c) (hretires : c ≠ .retire st)
    (hcloses : ∀ sts, c = .closing sts → st ∈ sts → Tracked ⟨m', calls.set n c'⟩ st)
    (hstates : ∀ key, (key, st) ∈ m.states → Tracked ⟨m', calls.set n c'⟩ st)
    (h : Tracked ⟨m, calls⟩ st) : Tracked ⟨m', calls.set n c'⟩ st := by
  rcases h with ⟨key, hkey⟩ | hretire | ⟨sts, hsts, hmem⟩
  · exact hstates key hkey
  · exact .inr (.inl (mem_set_of_mem hn hretire hretires.symm))
  · by_cases heq : c = .closing sts
    · exact hcloses sts heq hmem
    · exact .inr (.inr ⟨sts, mem_set_of_mem hn hsts (Ne.symm heq), hmem⟩)

theorem tracked_of_idle (hn : calls[n]? = some c) (hidle : c.Idle)
    (hstates : ∀ key, (key, st) ∈ m.states → Tracked ⟨m', calls.set n c'⟩ st)
    (h : Tracked ⟨m, calls⟩ st) : Tracked ⟨m', calls.set n c'⟩ st := by
  refine tracked_set hn ?_ ?_ hstates h
  · rintro rfl
    exact hidle
  · rintro sts rfl
    exact absurd hidle id

/-- **An open state can be found.** -/
theorem tracked_move (h : Accounts ⟨m, calls⟩) (hn : calls[n]? = some c) (hmove : Move m c m' c')
    (hst : st < m'.nextState) (hopen : (m'.heap st).closed = false) :
    Tracked ⟨m', calls.set n c'⟩ st := by
  have hold (hlt : st < m.nextState) (hclosed : (m.heap st).closed = false) :
      Tracked ⟨m, calls⟩ st := h.tracked st hlt hclosed
  cases hmove with
  | quiet quiet idle =>
    refine tracked_of_idle hn idle (fun key hkey => .inl ⟨key, (quiet.states _).mpr hkey⟩)
      (hold (quiet.nextState ▸ hst) ?_)
    rw [← (quiet.heap st).1]
    exact hopen
  | @create key live fresh =>
    by_cases heq : st = m.nextState
    · subst heq
      exact .inl ⟨key, Table.mem_set.mpr (.inl rfl)⟩
    · refine tracked_of_idle hn trivial (fun key' hkey' => ?_)
        (hold (Nat.lt_of_le_of_ne (Nat.le_of_lt_succ hst) heq) ?_)
      · refine .inl ⟨key', Table.mem_set.mpr (.inr ⟨hkey', ?_⟩)⟩
        rintro rfl
        exact Table.get_eq_none.mp fresh st hkey'
      · unfold Memory.newState at hopen
        dsimp only at hopen
        rwa [Function.update_of_ne heq] at hopen
  | @replace key st' s rv now done r live same =>
    have hregistry : SameRegistry m (m.replaceClient st' s rv now) := sameRegistry_replace
    refine tracked_of_idle hn trivial (fun key hkey => .inl ⟨key, ?_⟩)
      (hold (hregistry.nextState ▸ hst) ?_)
    · change _ ∈ (m.replaceClient st' s rv now).states
      rw [hregistry.states]
      exact hkey
    · rw [replaceClient_eq] at hopen
      change ((m.write st' _).heap st).closed = false at hopen
      by_cases heq : st = st'
      · rw [heq]
        exact live
      · rwa [m.heap_write_of_ne heq] at hopen
  | @forget key st' found =>
    refine tracked_of_idle hn trivial (fun key' hkey' => ?_) (hold hst hopen)
    by_cases heq : key' = key
    · -- the state that the registry has lost is the one that the call is about to close
      have hsame := m.states.eq_of_key_eq hkey' found heq
      obtain rfl : st = st' := congrArg Prod.snd hsame
      exact .inr (.inl (self_mem_set hn))
    · exact .inl ⟨key', Keyed.mem_erase.mpr ⟨hkey', heq⟩⟩
  | @retire st' =>
    have hregistry : SameRegistry m (m.retireState st') := sameRegistry_retire
    obtain ⟨hne, hclosed⟩ := closed_retireState hopen
    refine tracked_set hn (fun heq => hne (Call.retire.inj heq).symm) nofun
      (fun key hkey => .inl ⟨key, ?_⟩) (hold (hregistry.nextState ▸ hst) hclosed)
    change _ ∈ (m.retireState st').states
    rw [hregistry.states]
    exact hkey
  | close =>
    refine tracked_of_idle hn trivial (fun key hkey => ?_) (hold hst hopen)
    exact .inr (.inr ⟨_, self_mem_set hn, List.mem_map.mpr ⟨_, hkey, rfl⟩⟩)
  | @closeNext sts k st' picked =>
    obtain ⟨hne, hclosed⟩ := closed_closeState hopen
    refine tracked_set hn nofun (fun sts' hc hmem => ?_) (fun key hkey => .inl ⟨key, hkey⟩)
      (hold hst hclosed)
    -- the call has taken another state off its list
    obtain rfl := Call.closing.inj hc
    refine .inr (.inr ⟨_, self_mem_set hn, ?_⟩)
    obtain ⟨l, hl⟩ := List.mem_iff_getElem?.mp hmem
    refine List.mem_eraseIdx_iff_getElem?.mpr ⟨l, ?_, hl⟩
    rintro rfl
    exact hne (Option.some.inj (hl.symm.trans picked))
  | closed =>
    refine tracked_set hn nofun ?_ (fun key hkey => .inl ⟨key, hkey⟩) (hold hst hopen)
    rintro _ ⟨⟩ hmem
    cases hmem
  | @expire st' client =>
    have hregistry : SameRegistry m (m.expire st' client) := sameRegistry_expire
    refine tracked_set hn nofun nofun (fun key hkey => .inl ⟨key, ?_⟩)
      (hold (hregistry.nextState ▸ hst) (closed_expire ▸ hopen))
    change _ ∈ (m.expire st' client).states
    rw [hregistry.states]
    exact hkey

theorem Accounts.count_le_one (h : Accounts ⟨m, calls⟩) (hst : st < m.nextState) (x : ℕ) :
    (m.heap st).clients.count x ≤ 1 := by
  have hheld : (m.heap st).clients.count x ≤ m.held x := count_clients_le_held hst
  have howned : m.held x + m.closes x = if x < m.nextClient then 1 else 0 := h.owned x
  split at howned
  · omega
  · omega

/-- **A retired client has a timer.** -/
theorem timed_move (h : Accounts ⟨m, calls⟩) (hn : calls[n]? = some c) (hmove : Move m c m' c')
    (hx : x ∈ (m'.heap st).retiredClients) :
    (st, x) ∈ m'.timers ∨ .timer st x ∈ calls.set n c' := by
  have hold (hmem : x ∈ (m.heap st).retiredClients) : (st, x) ∈ m.timers ∨ .timer st x ∈ calls :=
    h.timed st x hmem
  have hcall (hne : Call.timer st x ≠ c) (hmem : .timer st x ∈ calls) : .timer st x ∈ calls.set n c' :=
    mem_set_of_mem hn hmem hne
  have hidle (hc : c.Idle) : Call.timer st x ≠ c := by
    rintro rfl
    exact hc
  -- the clients that a state has retired, after its current one is retired as well
  have hretired {st' : ℕ} {s : ClusterState} (hne : Call.timer st x ≠ c)
      (hs : s.retiredClients = (m.heap st').retiredClients ++ (m.heap st').tlsClient.toList)
      (hmem : x ∈ ((m.write st' s).heap st).retiredClients) :
      (st, x) ∈ m.timers ++ (m.heap st').tlsClient.toList.map (st', ·) ∨
        .timer st x ∈ calls.set n c' := by
    by_cases heq : st = st'
    · subst heq
      rw [m.heap_write_self, hs] at hmem
      rcases List.mem_append.mp hmem with hmem | hmem
      · exact (hold hmem).imp (List.mem_append_left _) (hcall hne)
      · exact .inl (List.mem_append_right _ (List.mem_map.mpr ⟨x, hmem, rfl⟩))
    · rw [m.heap_write_of_ne heq] at hmem
      exact (hold hmem).imp (List.mem_append_left _) (hcall hne)
  cases hmove with
  | quiet quiet idle =>
    rw [(quiet.heap st).2.2] at hx
    rw [quiet.timers]
    exact (hold hx).imp_right (hcall (hidle idle))
  | create =>
    unfold Memory.newState at hx
    dsimp only at hx
    by_cases heq : st = m.nextState
    · rw [heq, Function.update_self] at hx
      cases hx
    · rw [Function.update_of_ne heq] at hx
      exact (hold hx).imp_right (hcall (by rintro ⟨⟩))
  | replace live same =>
    rw [replaceClient_eq] at hx ⊢
    rw [same.2.1, same.2.2] at hx
    rw [same.2.1]
    exact hretired (by rintro ⟨⟩) rfl hx
  | forget => exact (hold hx).imp_right (hcall (by rintro ⟨⟩))
  | @retire st' =>
    cases hclosed : (m.heap st').closed with
    | true =>
      rw [retireState_of_closed hclosed] at hx ⊢
      exact (hold hx).imp_right (hcall (by rintro ⟨⟩))
    | false =>
      rw [retireState_eq hclosed] at hx ⊢
      exact hretired (by rintro ⟨⟩) rfl hx
  | close => exact (hold hx).imp_right (hcall (by rintro ⟨⟩))
  | @closeNext sts k st' picked =>
    change x ∈ ((m.write st' _).heap st).retiredClients at hx
    by_cases heq : st = st'
    · subst heq
      rw [m.heap_write_self] at hx
      cases hx
    · rw [m.heap_write_of_ne heq] at hx
      refine (hold hx).imp (fun ht => List.mem_filter.mpr ⟨ht, ?_⟩) (hcall (by rintro ⟨⟩))
      exact decide_eq_true fun hstopped => heq hstopped.1
  | closed => exact (hold hx).imp_right (hcall (by rintro ⟨⟩))
  | @expire st' client =>
    have hne (hmem : x ∈ (m.heap st).retiredClients) (hother : st ≠ st' ∨ x ≠ client) :
        (st, x) ∈ m.timers ∨ .timer st x ∈ calls.set n (.returned .done) := by
      refine (hold hmem).imp_right (hcall fun hc => ?_)
      obtain ⟨rfl, rfl⟩ := Call.timer.inj hc
      rcases hother with hst | hclient
      · exact hst rfl
      · exact hclient rfl
    unfold Memory.expire at hx ⊢
    split
    · next hmem =>
      rw [if_pos hmem] at hx
      change x ∈ ((m.write st' _).heap st).retiredClients at hx
      by_cases heq : st = st'
      · subst heq
        rw [m.heap_write_self] at hx
        refine hne (List.mem_of_mem_erase hx) (.inr ?_)
        -- the state has the client once, so it is gone
        rintro rfl
        have hcount : (m.heap st).retiredClients.count x ≤ 1 := by
          have hst : st < m.nextState := h.lt_of_ref hn List.mem_cons_self
          have hle := h.count_le_one hst x
          rw [count_clients] at hle
          omega
        have hpos : 0 < ((m.heap st).retiredClients.erase x).count x := List.count_pos_iff.mpr hx
        rw [List.count_erase_self] at hpos
        omega
      · rw [m.heap_write_of_ne heq] at hx
        exact hne hx (.inl heq)
    · next hmem =>
      rw [if_neg hmem] at hx
      refine hne hx ?_
      by_contra hsame
      push Not at hsame
      exact hmem (hsame.1 ▸ hsame.2 ▸ hx)

/-! ### Every interleaving -/

theorem accounts_idle : Accounts idle where
  states_lt := by rintro e ⟨⟩
  timers_lt := by rintro t ⟨⟩
  refs_lt := by rintro c ⟨⟩
  registry := by rintro ⟨⟩
  closing := by rintro sts ⟨⟩
  owned := fun _ => rfl
  closed := by rintro st ⟨⟩
  tracked := fun st hst => absurd hst (Nat.not_lt_zero st)
  timed := by rintro st x ⟨⟩

theorem Tracked.append {timers : List (ℕ × ℕ)} {more : List Call} (h : Tracked ⟨m, calls⟩ st) :
    Tracked ⟨{ m with timers }, calls ++ more⟩ st := by
  rcases h with hkey | hretire | ⟨sts, hsts, hmem⟩
  · exact .inl hkey
  · exact .inr (.inl (List.mem_append_left _ hretire))
  · exact .inr (.inr ⟨sts, List.mem_append_left _ hsts, hmem⟩)

theorem accounts_start (h : Accounts ⟨m, calls⟩) (hrefs : c.refs = []) (hidle : c.Idle) :
    Accounts ⟨m, calls ++ [c]⟩ where
  states_lt := h.states_lt
  timers_lt := h.timers_lt
  refs_lt := by
    intro d hd st hst
    rcases List.mem_append.mp hd with hd | hd
    · exact h.refs_lt d hd st hst
    · obtain rfl := List.mem_singleton.mp hd
      rw [hrefs] at hst
      cases hst
  registry := h.registry
  closing := by
    intro sts hsts
    rcases List.mem_append.mp hsts with hsts | hsts
    · exact h.closing sts hsts
    · obtain rfl := List.mem_singleton.mp hsts
      exact absurd hidle id
  owned := h.owned
  closed := h.closed
  tracked := fun st hst hopen => (h.tracked st hst hopen).append
  timed := fun st x hx => (h.timed st x hx).imp_right (List.mem_append_left _)

theorem accounts_expire (h : Accounts ⟨m, calls⟩) (ht : (st, client) ∈ m.timers) :
    Accounts ⟨{ m with timers := m.timers.erase (st, client) }, calls ++ [.timer st client]⟩ where
  states_lt := h.states_lt
  timers_lt := fun t ht => h.timers_lt t (List.mem_of_mem_erase ht)
  refs_lt := by
    intro d hd st' hst'
    rcases List.mem_append.mp hd with hd | hd
    · exact h.refs_lt d hd st' hst'
    · obtain rfl := List.mem_singleton.mp hd
      obtain rfl := List.mem_singleton.mp hst'
      exact h.timers_lt _ ht
  registry := h.registry
  closing := by
    intro sts hsts
    rcases List.mem_append.mp hsts with hsts | hsts
    · exact h.closing sts hsts
    · cases List.mem_singleton.mp hsts
  owned := h.owned
  closed := h.closed
  tracked := fun st' hst' hopen => (h.tracked st' hst' hopen).append
  timed := by
    intro st' x hx
    by_cases heq : (st', x) = (st, client)
    · obtain ⟨rfl, rfl⟩ := Prod.mk.inj heq
      exact .inr (List.mem_append_right _ List.mem_cons_self)
    · exact (h.timed st' x hx).imp (fun ht => (List.mem_erase_of_ne heq).mpr ht)
        (List.mem_append_left _)

theorem accounts_next {w' : World Memory Call} {e : Event Call Input} (h : Accounts w)
    (hnext : (resolver cfg).next w e = some w') : Accounts w' := by
  cases e with
  | start c =>
    obtain ⟨m, hm, rfl⟩ := next_start hnext
    change enter w.mem c = some m at hm
    cases c with
    | clientFor shard => cases hm; exact accounts_start h rfl trivial
    | activate key => cases hm; exact accounts_start h rfl trivial
    | forget key => cases hm; exact accounts_start h rfl trivial
    | close => cases hm; exact accounts_start h rfl trivial
    | timer st client =>
      unfold enter at hm
      dsimp only at hm
      split at hm
      · next ht => cases hm; exact accounts_expire h ht
      · cases hm
    | validate key => cases hm
    | publish key => cases hm
    | lookup key => cases hm
    | acquire key st => cases hm
    | await key st done => cases hm
    | refresh key st => cases hm
    | signal done r => cases hm
    | retire st => cases hm
    | closing sts => cases hm
    | returned r => cases hm
  | step n i =>
    obtain ⟨c, m, c', hn, hact, rfl⟩ := next_step hnext
    have hmove : Move w.mem c m c' := move_of_act hact
    exact
      { states_lt := states_lt_move h hmove
        timers_lt := timers_lt_move h hn hmove
        refs_lt := refs_lt_move h hn hmove
        registry := registry_move h hmove
        closing := fun _ hsts => closing_move h hn hmove hsts
        owned := owned_move h hn hmove
        closed := closed_move h hmove
        tracked := fun _ hst hopen => tracked_move h hn hmove hst hopen
        timed := fun _ _ hx => timed_move h hn hmove hx }

/-- **The accounts hold in every interleaving.** -/
theorem accounts_of_run {P : World Memory Call → Event Call Input → Prop}
    (h : Run (resolver cfg) P idle w) : Accounts w :=
  h.invariant (fun _ _ _ hv _ hnext => accounts_next hv hnext) accounts_idle

/-! ### When a client is closed -/

/-- A client is in use: it is the current one of a state that the open resolver has. -/
def Memory.Current (m : Memory) (x : ℕ) : Prop :=
  m.closed = false ∧ ∃ e ∈ m.states, (m.heap e.2).tlsClient = some x

theorem Accounts.not_retired_of_current (h : Accounts ⟨m, calls⟩) (hst : st < m.nextState)
    (hx : m.Current x) : x ∉ (m.heap st).retiredClients := by
  intro hretired
  obtain ⟨-, e, he, hclient⟩ := hx
  have hlt : e.2 < m.nextState := h.states_lt e he
  have hcurrent : 0 < (m.heap e.2).tlsClient.toList.count x := by
    rw [hclient, Option.toList_some, List.count_singleton_self]
    exact Nat.one_pos
  have hpos : 0 < (m.heap st).retiredClients.count x := List.count_pos_iff.mpr hretired
  by_cases heq : st = e.2
  · have hle := h.count_le_one hlt x
    rw [count_clients] at hle
    rw [heq] at hpos
    omega
  · -- two states would hold it
    have hpair : ∑ y ∈ {st, e.2}, (m.heap y).clients.count x ≤ m.held x := by
      refine Finset.sum_le_sum_of_subset fun y hy => Finset.mem_range.mpr ?_
      rcases Finset.mem_insert.mp hy with rfl | hy
      · exact hst
      · rw [Finset.mem_singleton.mp hy]
        exact hlt
    rw [Finset.sum_pair heq, count_clients, count_clients] at hpair
    have howned : m.held x + m.closes x = if x < m.nextClient then 1 else 0 := h.owned x
    split at howned
    · omega
    · omega

theorem not_current_of_closed (h : Accounts ⟨m, calls⟩) (hn : calls[n]? = some c)
    (hmove : Move m c m' c') (hx : m.closes x < m'.closes x) : ¬ m.Current x := by
  have hsame (heq : m'.closes = m.closes) : ¬ m.Current x := by
    rw [heq] at hx
    exact absurd hx (Nat.lt_irrefl _)
  cases hmove with
  | quiet quiet => exact hsame quiet.closes
  | create => exact hsame rfl
  | replace => exact hsame (by rw [replaceClient_eq]; rfl)
  | forget => exact hsame rfl
  | @retire st =>
    refine hsame ?_
    cases hclosed : (m.heap st).closed with
    | true => rw [retireState_of_closed hclosed]
    | false => rw [retireState_eq hclosed]; rfl
  | close => exact hsame rfl
  | closeNext =>
    -- the resolver is closed by then
    have hclosed : m.closed = true := h.closing _ (List.mem_of_getElem? hn)
    exact fun hcurrent => Bool.false_ne_true (hcurrent.1.symm.trans hclosed)
  | closed => exact hsame rfl
  | @expire st client =>
    unfold Memory.expire at hx
    split at hx
    · next hmem =>
      change m.closes x < m.closes x + List.count x [client] at hx
      have hcount : 0 < List.count x [client] := by omega
      obtain rfl : x = client := List.mem_singleton.mp (List.count_pos_iff.mp hcount)
      exact fun hcurrent =>
        h.not_retired_of_current (h.lt_of_ref hn List.mem_cons_self) hcurrent hmem
    · exact absurd hx (Nat.lt_irrefl _)

theorem held_eq_zero (h : Accounts ⟨m, calls⟩) (hclosed : m.closed = true)
    (hcalls : ∀ c ∈ calls, c.hasReturned = true) (htimers : m.timers = []) (x : ℕ) : m.held x = 0 := by
  refine Finset.sum_eq_zero fun st hst => ?_
  have hopen : (m.heap st).closed = true := by
    by_contra hopen
    rcases h.tracked st (Finset.mem_range.mp hst) (Bool.eq_false_of_not_eq_true hopen) with
      ⟨key, hkey⟩ | hretire | ⟨sts, hsts, -⟩
    · exact h.registry hclosed _ hkey
    · exact absurd (hcalls _ hretire) Bool.false_ne_true
    · exact absurd (hcalls _ hsts) Bool.false_ne_true
  have hclient : (m.heap st).tlsClient = none := h.closed st hopen
  have hretired : (m.heap st).retiredClients = [] := by
    refine List.eq_nil_iff_forall_not_mem.mpr fun y hy => ?_
    rcases h.timed st y hy with htimer | hcall
    · change (st, y) ∈ m.timers at htimer
      rw [htimers] at htimer
      cases htimer
    · exact absurd (hcalls _ hcall) Bool.false_ne_true
  rw [count_clients, hclient, hretired]
  rfl

end

/-- **Every client is closed exactly once.** In every interleaving: no client is closed twice; no turn
closes a client that is in use; and once the resolver is closed, all calls have returned and all timers
have expired, every client that was created has been closed. -/
theorem clients_closed_once {cfg : Config} {w : World Memory Call}
    (h : Run (resolver cfg) (fun _ _ => True) idle w) :
    (∀ x, w.mem.closes x ≤ 1) ∧
      (∀ e w' x, (resolver cfg).next w e = some w' → w.mem.closes x < w'.mem.closes x →
        ¬ w.mem.Current x) ∧
      (w.mem.closed = true → (∀ c ∈ w.calls, c.hasReturned = true) → w.mem.timers = [] →
        ∀ x < w.mem.nextClient, w.mem.closes x = 1) := by
  have haccounts := accounts_of_run h
  have howned (x : ℕ) : w.mem.held x + w.mem.closes x = if x < w.mem.nextClient then 1 else 0 :=
    haccounts.owned x
  refine ⟨fun x => ?_, fun e w' x hnext hx => ?_, fun hclosed hcalls htimers x hlt => ?_⟩
  · have hx := howned x
    split at hx
    · omega
    · omega
  · cases e with
    | start c =>
      obtain ⟨m, hm, rfl⟩ := next_start hnext
      have hsame : m.closes = w.mem.closes := by
        change enter w.mem c = some m at hm
        unfold enter at hm
        split at hm
        · obtain rfl := Option.some.inj hm; rfl
        · obtain rfl := Option.some.inj hm; rfl
        · obtain rfl := Option.some.inj hm; rfl
        · obtain rfl := Option.some.inj hm; rfl
        · split at hm
          · obtain rfl := Option.some.inj hm; rfl
          · cases hm
        · cases hm
      exact absurd (hsame ▸ hx) (Nat.lt_irrefl _)
    | step n i =>
      obtain ⟨c, m, c', hn, hact, rfl⟩ := next_step hnext
      exact not_current_of_closed haccounts hn (move_of_act hact) hx
  · have hx := howned x
    rw [held_eq_zero haccounts hclosed hcalls htimers, if_pos hlt] at hx
    omega

namespace Sample

def tlsShard : ShardRef where
  «namespace» := "prod"
  name := "db-0"
  clusterLabel := "db"
  internalTLS := true

def secretAt (resourceVersion : String) : Input where
  secret := .ok ⟨resourceVersion, .ok ()⟩
  now := 1000

/-- Two lookups with a rotation between them, the cluster is forgotten, the resolver is closed, and
the timers expire. -/
def rotation : List (Event Call Input) :=
  [.start (.clientFor tlsShard), .step 0 {}, .step 0 { cluster := .live }, .step 0 {}, .step 0 {},
    .step 0 { now := 10 }, .step 0 (secretAt "1"), .step 0 {},
    .start (.clientFor tlsShard), .step 1 {}, .step 1 {}, .step 1 { now := 2000 },
    .step 1 (secretAt "2"), .step 1 {},
    .start (.forget ("prod", "db")), .step 2 {}, .start .close, .step 3 {}, .step 3 {}, .step 2 {},
    .start (.timer 0 0), .step 4 {}, .start (.timer 0 1), .step 5 {}]

end Sample

section

open PoolerClient.Sample

/-- A rotation, a forgotten cluster and the end of the resolver: two clients were created, and both
have been closed. -/
theorem clients_closed_once_rotation :
    ∃ w, (resolver {}).exec idle rotation = some w ∧ w.mem.nextClient = 2 ∧
      w.mem.closes 0 = 1 ∧ w.mem.closes 1 = 1 := by
  have hfacts : ((resolver {}).exec idle rotation).map (fun w =>
      (w.mem.closed, w.calls.all Call.hasReturned, w.mem.timers, w.mem.nextClient)) =
        some (true, true, [], 2) := by decide +kernel
  obtain ⟨w, hw, hfacts⟩ := Option.map_eq_some_iff.mp hfacts
  simp only [Prod.mk.injEq, List.all_eq_true] at hfacts
  obtain ⟨hclosed, hcalls, htimers, hclients⟩ := hfacts
  have hrun : Run (resolver {}) (fun _ _ => True) idle w := run_of_exec (fun _ _ => trivial) hw
  have hclosedOnce := (clients_closed_once hrun).2.2 hclosed hcalls htimers
  rw [hclients] at hclosedOnce
  exact ⟨w, hw, hclients, hclosedOnce 0 (by decide), hclosedOnce 1 (by decide)⟩

end

end MultigresOperator.PoolerClient

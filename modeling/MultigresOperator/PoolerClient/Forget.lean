import MultigresOperator.PoolerClient.Accounts

/-!
# Forgetting a cluster

`ForgetCluster` removes a cluster from the registry and closes its state. A lookup checks that the
cluster is active in one section, and uses the registry in later ones; a cluster that is forgotten in
between is registered again. So is one that the API server still shows to a later lookup.

## Main results

* `forgotten_act`: what a section does to a forgotten cluster
* `forget_is_final`: a cluster that is forgotten while no lookup is entering stays forgotten
* `lookup_resurrects`: a lookup that was entering brings the cluster back
-/

namespace MultigresOperator.PoolerClient

open Interleave

/-- A lookup that has found its cluster to be active or live, and has yet to use the registry. -/
def Call.Entering (key : Key) : Call → Prop
  | .publish k | .lookup k => k = key
  | _ => False

/-- The registry has nothing of a cluster. -/
def Forgotten (key : Key) (m : Memory) : Prop := m.states.get key = none ∧ key ∉ m.active

/-- A turn does not activate the cluster, and does not find it live. -/
def Unseen (key : Key) (w : World Memory Call) (e : Event Call Input) : Prop :=
  ∀ n i, e = .step n i →
    w.calls[n]? ≠ some (.activate key) ∧ (w.calls[n]? = some (.validate key) → i.cluster ≠ .live)

section

variable {cfg : Config} {m m' : Memory} {i : Input} {c c' : Call} {key : Key} {st : ℕ}

theorem forgotten_activate {k : Key} (hk : k ≠ key) (h : Forgotten key m) :
    Forgotten key (m.activate k) := by
  refine ⟨h.1, ?_⟩
  unfold Memory.activate
  dsimp only
  split
  · exact h.2
  · exact fun hmem => (List.mem_cons.mp hmem).elim (fun heq => hk heq.symm) h.2

theorem forgotten_forget (k : Key) (h : Forgotten key m) : Forgotten key (m.forget k) := by
  refine ⟨?_, fun hmem => h.2 (List.mem_filter.mp hmem).1⟩
  change Table.get (m.states.erase k) key = none
  rw [Table.get_erase, h.1]
  split
  · rfl
  · rfl

theorem forgotten_self (key : Key) (m : Memory) : Forgotten key (m.forget key) := by
  refine ⟨?_, fun hmem => ?_⟩
  · change Table.get (m.states.erase key) key = none
    rw [Table.get_erase, if_pos rfl]
  · exact of_decide_eq_true (List.mem_filter.mp hmem).2 rfl

/-- What is known of a section and its successor. -/
def Stays (key : Key) (x : Memory × Call) : Prop := Forgotten key x.1 ∧ ¬ x.2.Entering key

theorem stays_lookup {k : Key} (hk : k ≠ key) (h : Forgotten key m) : Stays key (lookup m k) := by
  unfold lookup
  split
  · exact ⟨h, id⟩
  · split
    · exact ⟨h, id⟩
    · refine ⟨⟨?_, h.2⟩, id⟩
      change (m.states.set k m.nextState).get key = none
      rw [Table.get_set, if_neg (Ne.symm hk)]
      exact h.1

theorem stays_acquire {k : Key} (h : Forgotten key m) : Stays key (acquire cfg m k st i) := by
  unfold acquire
  dsimp only
  split
  · exact ⟨h, id⟩
  · split
    · split
      · exact ⟨h, id⟩
      · exact ⟨h, id⟩
    · split
      · exact ⟨h, id⟩
      · split
        · split
          · exact ⟨h, id⟩
          · exact ⟨h, id⟩
        · exact ⟨h, id⟩

theorem not_entering_await {k : Key} {done : Option ℕ} (h : await m k st done i = some c') :
    ¬ c'.Entering key := by
  unfold await at h
  dsimp only at h
  split at h
  · obtain rfl := Option.some.inj h; exact id
  · split at h
    · cases h
    · split at h
      · obtain rfl := Option.some.inj h; exact id
      · split at h
        · obtain rfl := Option.some.inj h; exact id
        · obtain rfl := Option.some.inj h; exact id
        · obtain rfl := Option.some.inj h; exact id

theorem stays_refresh {k : Key} (h : Forgotten key m) : Stays key (refresh m k st i) := by
  unfold refresh
  dsimp only
  split
  · exact ⟨h, id⟩
  · split
    · exact ⟨h, id⟩
    · split
      · exact ⟨h, id⟩
      · exact ⟨h, id⟩
      · rw [replaceClient_eq]
        exact ⟨h, id⟩

theorem forgotten_retireState (h : Forgotten key m) : Forgotten key (m.retireState st) := by
  unfold Memory.retireState
  split
  · exact h
  · rw [retireCurrent_eq]
    exact h

/-- **The sections leave a forgotten cluster forgotten**, unless a lookup is entering, it is
activated, or it is found to be live. -/
theorem forgotten_act (h : Forgotten key m) (hentering : ¬ c.Entering key) (hactivate : c ≠ .activate key)
    (hlive : c = .validate key → i.cluster ≠ .live) (hact : act cfg m i c = some (m', c')) :
    Stays key (m', c') := by
  have hstays {x : Memory × Call} (hx : some x = some (m', c')) (hs : Stays key x) :
      Stays key (m', c') := by
    obtain rfl := Option.some.inj hx
    exact hs
  cases c with
  | clientFor shard =>
    refine hstays hact ⟨h, ?_⟩
    dsimp only
    unfold enterClientFor
    split
    · exact id
    · split
      · exact id
      · split
        · exact id
        · split
          · -- the registry does not have the cluster
            next hmem => exact fun heq => h.2 (heq ▸ hmem)
          · exact id
  | validate k =>
    refine hstays hact ⟨h, ?_⟩
    dsimp only
    unfold validate
    dsimp only
    split
    · exact id
    · exact id
    · next hread => exact fun heq => hlive (congrArg Call.validate heq) hread
  | publish k =>
    refine hstays hact ?_
    unfold publish
    split
    · exact ⟨h, id⟩
    · exact ⟨forgotten_activate hentering h, hentering⟩
  | lookup k => exact hstays hact (stays_lookup hentering h)
  | acquire k st => exact hstays hact (stays_acquire h)
  | await k st done =>
    obtain ⟨c, hc, heq⟩ := Option.map_eq_some_iff.mp hact
    obtain ⟨rfl, rfl⟩ := Prod.mk.inj heq
    exact ⟨h, not_entering_await hc⟩
  | refresh k st => exact hstays hact (stays_refresh h)
  | signal done r => exact hstays hact ⟨h, id⟩
  | activate k =>
    refine hstays hact ⟨?_, id⟩
    dsimp only
    split
    · exact h
    · exact forgotten_activate (fun heq => hactivate (congrArg Call.activate heq)) h
  | forget k =>
    refine hstays hact ?_
    unfold forgetCluster
    split
    · exact ⟨forgotten_forget k h, id⟩
    · exact ⟨forgotten_forget k h, id⟩
  | retire st => exact hstays hact ⟨forgotten_retireState h, id⟩
  | close =>
    refine hstays hact ?_
    unfold closeResolver
    split
    · exact ⟨h, id⟩
    · exact ⟨⟨rfl, List.not_mem_nil⟩, id⟩
  | closing sts =>
    change closeNext m sts i = _ at hact
    unfold closeNext at hact
    split at hact
    · exact hstays hact ⟨h, id⟩
    · obtain ⟨st, -, heq⟩ := Option.map_eq_some_iff.mp hact
      obtain ⟨rfl, rfl⟩ := Prod.mk.inj heq
      exact ⟨h, id⟩
  | timer st client =>
    refine hstays hact ⟨?_, id⟩
    dsimp only
    unfold Memory.expire
    split
    · exact h
    · exact h
  | returned r => cases hact

theorem closed_stays (hmove : Move m c m' c') (hst : st < m.nextState)
    (h : (m.heap st).closed = true) : (m'.heap st).closed = true := by
  have hwrite {st' : ℕ} {s : ClusterState} (hs : (m.heap st').closed = true → s.closed = true) :
      ((m.write st' s).heap st).closed = true := by
    by_cases heq : st = st'
    · subst heq
      rw [m.heap_write_self]
      exact hs h
    · rw [m.heap_write_of_ne heq]
      exact h
  cases hmove with
  | quiet quiet => rw [(quiet.heap st).1]; exact h
  | create =>
    unfold Memory.newState
    dsimp only
    rwa [Function.update_of_ne hst.ne]
  | replace live same =>
    rw [replaceClient_eq]
    exact hwrite fun hclosed => same.1.trans hclosed
  | forget => exact h
  | @retire st' =>
    cases hclosed : (m.heap st').closed with
    | true => rw [retireState_of_closed hclosed]; exact h
    | false => rw [retireState_eq hclosed]; exact hwrite fun _ => rfl
  | close => exact h
  | closeNext => exact hwrite fun _ => rfl
  | closed => exact h
  | expire => rw [closed_expire]; exact h

end

/-! ### After a cluster is forgotten -/

/-- What holds from then on: the registry has nothing of the cluster, no lookup is entering, and the
state is closed or about to be closed by the call. -/
structure After (key : Key) (n : ℕ) (st : Option ℕ) (w : World Memory Call) : Prop where
  accounts : Accounts w
  forgotten : Forgotten key w.mem
  entering : ∀ c ∈ w.calls, ¬ c.Entering key
  length : n < w.calls.length
  state : ∀ s ∈ st, s < w.mem.nextState ∧
    ((w.mem.heap s).closed = true ∨ w.calls[n]? = some (.retire s))

section

variable {cfg : Config} {key : Key} {n : ℕ} {st : Option ℕ} {w w' : World Memory Call}

theorem after_start {c : Call} (h : After key n st w)
    (hnext : (resolver cfg).next w (.start c) = some w') : After key n st w' := by
  have haccounts := accounts_next h.accounts hnext
  obtain ⟨m, hm, rfl⟩ := next_start hnext
  change enter w.mem c = some m at hm
  -- a call that begins leaves the registry and the states alone, and is not entering
  have henter : m.states = w.mem.states ∧ m.active = w.mem.active ∧ m.heap = w.mem.heap ∧
      m.nextState = w.mem.nextState ∧ ¬ c.Entering key := by
    unfold enter at hm
    split at hm
    · obtain rfl := Option.some.inj hm; exact ⟨rfl, rfl, rfl, rfl, id⟩
    · obtain rfl := Option.some.inj hm; exact ⟨rfl, rfl, rfl, rfl, id⟩
    · obtain rfl := Option.some.inj hm; exact ⟨rfl, rfl, rfl, rfl, id⟩
    · obtain rfl := Option.some.inj hm; exact ⟨rfl, rfl, rfl, rfl, id⟩
    · split at hm
      · obtain rfl := Option.some.inj hm; exact ⟨rfl, rfl, rfl, rfl, id⟩
      · cases hm
    · cases hm
  obtain ⟨hstates, hactive, hheap, hnextState, hc⟩ := henter
  refine ⟨haccounts, ?_, ?_, ?_, ?_⟩
  · exact ⟨hstates ▸ h.forgotten.1, hactive ▸ h.forgotten.2⟩
  · intro d hd
    rcases List.mem_append.mp hd with hd | hd
    · exact h.entering d hd
    · rw [List.mem_singleton.mp hd]
      exact hc
  · rw [List.length_append]
    exact Nat.lt_add_right _ h.length
  · intro s hs
    obtain ⟨hlt, hstate⟩ := h.state s hs
    refine ⟨hnextState ▸ hlt, hstate.imp (fun hclosed => ?_) fun hcall => ?_⟩
    · change (m.heap s).closed = true
      rw [hheap]
      exact hclosed
    · change (w.calls ++ [c])[n]? = _
      rw [List.getElem?_append_left h.length]
      exact hcall

theorem after_step {k : ℕ} {i : Input} (h : After key n st w) (hunseen : Unseen key w (.step k i))
    (hnext : (resolver cfg).next w (.step k i) = some w') : After key n st w' := by
  have haccounts := accounts_next h.accounts hnext
  obtain ⟨c, m, c', hk, hact, rfl⟩ := next_step hnext
  change act cfg w.mem i c = some (m, c') at hact
  obtain ⟨hactivate, hlive⟩ := hunseen k i rfl
  rw [hk] at hactivate hlive
  have hmove := move_of_act hact
  obtain ⟨hforgotten, hentering⟩ := forgotten_act h.forgotten (h.entering c (List.mem_of_getElem? hk))
    (fun heq => hactivate (congrArg some heq)) (fun heq => hlive (congrArg some heq)) hact
  refine ⟨haccounts, hforgotten, ?_, ?_, ?_⟩
  · intro d hd
    rcases List.mem_or_eq_of_mem_set hd with hd | rfl
    · exact h.entering d hd
    · exact hentering
  · rw [List.length_set]
    exact h.length
  · intro s hs
    obtain ⟨hlt, hstate⟩ := h.state s hs
    refine ⟨hlt.trans_le hmove.nextState_le, ?_⟩
    rcases hstate with hclosed | hcall
    · exact .inl (closed_stays hmove hlt hclosed)
    · by_cases heq : k = n
      · -- it is the call's own turn, which closes the state
        subst heq
        obtain rfl : c = .retire s := Option.some.inj (hk.symm.trans hcall)
        obtain ⟨rfl, rfl⟩ := Prod.mk.inj (Option.some.inj hact)
        refine .inl ?_
        by_contra hopen
        exact (closed_retireState (Bool.eq_false_of_not_eq_true hopen)).1 rfl
      · refine .inr ?_
        change (w.calls.set k c')[n]? = _
        rw [List.getElem?_set_ne heq]
        exact hcall

/-- **A forgotten cluster stays forgotten.** The registry forgets a cluster while no lookup is between
its check of the registry and its use of it. From then on, as long as the cluster is not activated and
no lookup finds it live, the registry has nothing of it; and once the call has returned, the state that
was there is closed and has no client. -/
theorem forget_is_final {v : World Memory Call} {i : Input}
    (hrun : Run (resolver cfg) (fun _ _ => True) idle w) (hforget : w.calls[n]? = some (.forget key))
    (hnext : (resolver cfg).next w (.step n i) = some w') (hclear : ∀ c ∈ w.calls, ¬ c.Entering key)
    (hafter : Run (resolver cfg) (Unseen key) w' v) :
    Forgotten key v.mem ∧
      ∀ st, w.mem.states.get key = some st → (∀ c, v.calls[n]? = some c → c.hasReturned = true) →
        (v.mem.heap st).closed = true ∧ (v.mem.heap st).tlsClient = none := by
  have haccounts := accounts_of_run hrun
  have hfirst : After key n (w.mem.states.get key) w' := by
    have haccounts' := accounts_next haccounts hnext
    obtain ⟨c, m, c', hn, hact, rfl⟩ := next_step hnext
    obtain rfl := Option.some.inj (hforget.symm.trans hn)
    have hcall := Prod.mk.inj (Option.some.inj hact)
    have hlength : n < w.calls.length := (List.getElem?_eq_some_iff.mp hn).1
    cases hget : w.mem.states.get key with
    | none =>
      rw [hget] at hcall
      obtain ⟨rfl, rfl⟩ := hcall
      refine ⟨haccounts', forgotten_self key _, ?_, by rwa [List.length_set], by rintro s ⟨⟩⟩
      intro d hd
      rcases List.mem_or_eq_of_mem_set hd with hd | rfl
      · exact hclear d hd
      · exact id
    | some st =>
      rw [hget] at hcall
      obtain ⟨rfl, rfl⟩ := hcall
      refine ⟨haccounts', forgotten_self key _, ?_, by rwa [List.length_set], ?_⟩
      · intro d hd
        rcases List.mem_or_eq_of_mem_set hd with hd | rfl
        · exact hclear d hd
        · exact id
      · intro s hs
        obtain rfl := Option.mem_some_iff.mp hs
        refine ⟨haccounts.states_lt _ (Table.get_eq_some.mp hget), .inr ?_⟩
        exact List.getElem?_set_self hlength
  have hlast : After key n (w.mem.states.get key) v := by
    refine hafter.invariant (fun u e u' hu hunseen hstep => ?_) hfirst
    cases e with
    | start c => exact after_start hu hstep
    | step k i => exact after_step hu hunseen hstep
  refine ⟨hlast.forgotten, fun st hst hreturned => ?_⟩
  obtain ⟨-, hclosed | hcall⟩ := hlast.state st hst
  · exact ⟨hclosed, hlast.accounts.closed st hclosed⟩
  · exact absurd (hreturned _ hcall) Bool.false_ne_true

end

/-! ### A lookup that was entering -/

/-- Whether a turn begins an activation. -/
def activates : Event Call Input → Bool
  | .start (.activate _) => true
  | _ => false

namespace Sample

def liveLookup : List (Event Call Input) :=
  [.start (.clientFor tlsShard), .step 0 {}, .step 0 { cluster := .live }]

def restOfLookup : List (Event Call Input) :=
  [.step 0 {}, .step 0 {}, .step 0 { now := 10 }, .step 0 (secretAt "1"), .step 0 {}]

def forgetAfterLookup : List (Event Call Input) :=
  liveLookup ++ restOfLookup ++ [.start (.forget ("prod", "db"))]

end Sample

section

open PoolerClient.Sample

/-- A cluster is forgotten after its lookup: the registry has nothing of it, and its state is closed. -/
theorem forget_is_final_after_lookup :
    ∃ w w' v, (resolver {}).exec idle forgetAfterLookup = some w ∧
      (resolver {}).next w (.step 1 {}) = some w' ∧ (resolver {}).next w' (.step 1 {}) = some v ∧
      Forgotten ("prod", "db") v.mem ∧ (v.mem.heap 0).tlsClient = none := by
  have hfacts : ((resolver {}).exec idle forgetAfterLookup).map (fun w =>
      (w.mem.states.get ("prod", "db"),
        ((resolver {}).next w (.step 1 {})).bind fun w' =>
          ((resolver {}).next w' (.step 1 {})).map fun v => v.calls.all Call.hasReturned)) =
        some (some 0, some true) := by decide +kernel
  have hcalls : ∀ w, (resolver {}).exec idle forgetAfterLookup = some w →
      w.calls = [.returned (.client 0), .forget ("prod", "db")] := by
    intro w hw
    obtain rfl := Option.some.inj hw
    rfl
  obtain ⟨w, hw, hfacts⟩ := Option.map_eq_some_iff.mp hfacts
  obtain ⟨hstate, hreturned⟩ := Prod.mk.inj hfacts
  obtain ⟨w', hw', hreturned⟩ := Option.bind_eq_some_iff.mp hreturned
  obtain ⟨v, hv, hreturned⟩ := Option.map_eq_some_iff.mp hreturned
  have hrun : Run (resolver {}) (fun _ _ => True) idle w := run_of_exec (fun _ _ => trivial) hw
  have hforget : w.calls[1]? = some (.forget ("prod", "db")) := by
    rw [hcalls w hw]
    rfl
  have hclear : ∀ c ∈ w.calls, ¬ c.Entering ("prod", "db") := by
    rw [hcalls w hw]
    intro c hc
    rcases List.mem_pair.mp hc with rfl | rfl
    · exact id
    · exact id
  have hunseen : Unseen ("prod", "db") w' (.step 1 {}) := by
    intro n i heq
    obtain ⟨rfl, rfl⟩ := Event.step.inj heq
    refine ⟨fun hcall => ?_, fun _ => by rintro ⟨⟩⟩
    obtain ⟨c, m, c', hn, hact, rfl⟩ := next_step hw'
    obtain rfl := Option.some.inj (hforget.symm.trans hn)
    have hset := List.getElem?_set_self (a := c') (List.getElem?_eq_some_iff.mp hforget).1
    obtain rfl := Option.some.inj (hset.symm.trans hcall)
    have hcall' := (Prod.mk.inj (Option.some.inj hact)).2
    rw [hstate] at hcall'
    cases hcall'
  obtain ⟨hforgotten, hclosed⟩ :=
    forget_is_final hrun hforget hw' hclear (Run.refl.step hunseen hv)
  refine ⟨w, w', v, hw, hw', hv, hforgotten, (hclosed 0 hstate fun c hc => ?_).2⟩
  exact List.all_eq_true.mp hreturned c (List.mem_of_getElem? hc)

/-- **A lookup brings a forgotten cluster back**: it had found the cluster live before, and goes on
after the registry has forgotten it. All calls have returned, no cluster was ever activated, and the
registry has a state with a client for the cluster. -/
theorem lookup_resurrects :
    ∃ (before after : List (Event Call Input)) (n : ℕ) (w w' v : World Memory Call) (key : Key),
      (before ++ after).any activates = false ∧ (resolver {}).exec idle before = some w ∧
      w.calls[n]? = some (.forget key) ∧ (resolver {}).next w (.step n {}) = some w' ∧
      (resolver {}).exec w' after = some v ∧ v.calls.all Call.hasReturned = true ∧
      key ∈ v.mem.active ∧ ∃ st x, v.mem.states.get key = some st ∧
        (v.mem.heap st).tlsClient = some x :=
  ⟨liveLookup ++ [.start (.forget ("prod", "db"))], restOfLookup, 1, _, _, _, ("prod", "db"), rfl, rfl,
    rfl, rfl, rfl, rfl, by decide +kernel, 0, 0, by decide +kernel, by decide +kernel⟩

end

end MultigresOperator.PoolerClient

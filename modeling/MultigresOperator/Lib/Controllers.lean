import MultigresOperator.Lib.Parallel

/-!
# Controllers that crash

Threads share their store with an environment that changes it between any two requests, and a
thread may stop anywhere in its task and take up a new one. The arguments of `Lib.Parallel` carry
over: rely and guarantee, where the environment's changes are interference that every thread
tolerates, and logs, where every store a thread has read is one that was reached.

## Main results

* `Controllers.invariant`: **rely and guarantee**, for the store, the threads and their logs
* `Controllers.logged_of_reachable`: the log of a thread is a log of its task's program
* `Controllers.Reachable.advance`: a thread advances while nothing else happens
-/

namespace Effects

variable {τ κ ι σ ω ε : Type} [DecidableEq τ]

/-- The store a request was made in. -/
def Act.store : Act σ ω → σ
  | .read _ s => s
  | .call s _ => s

instance {α : Type} (p : Prog ι σ ω ε α) : Decidable p.Done :=
  match p with
  | .ret _ | .fail _ => .isTrue trivial
  | .ask _ | .read _ _ | .call _ _ => .isFalse id

/-- A program after some requests, one for each answer, and the store then. -/
def Prog.advance {α : Type} (M : Machine ι σ ω ε) :
    List ι → Prog ι σ ω ε α → σ → Prog ι σ ω ε α × σ
  | i :: is, .ask k, s => advance M is (k i) s
  | i :: is, .read r k, s => advance M is (k (M.look r i s)) s
  | i :: is, .call o k, s =>
    match M.attempt i s o with
    | .error e => advance M is (k (.error e)) s
    | .ok s' => advance M is (k (.ok ())) s'
  | _, p, s => (p, s)

/-- Threads, and the changes others make to their store. -/
structure Controllers (τ κ ι σ ω ε : Type) where
  threads : Threads τ κ ι σ ω ε
  env : σ → σ → Prop

namespace Controllers

variable (C : Controllers τ κ ι σ ω ε)

/-- One step: a request, labelled with the thread that makes it, a crash, or a change from
outside. -/
inductive Step (x : Config τ κ ι σ ω ε) : Option (τ × Act σ ω) → Config τ κ ι σ ω ε → Prop
  | thread {t act y} (step : C.threads.Step x t act y) : Step x (act.map (t, ·)) y
  | crash (t : τ) : Step x none ⟨x.store, Function.update x.thread t ⟨none, [], .ret ()⟩⟩
  | env {s} (change : C.env x.store s) : Step x none ⟨s, x.thread⟩

/-- The configurations the controllers can come to. -/
inductive Reachable (s : σ) : Config τ κ ι σ ω ε → Prop
  | idle : Reachable s (Threads.idle s)
  | step {x l y} : Reachable s x → C.Step x l y → Reachable s y

variable {C} {R : τ → σ → σ → Prop} {G : τ → σ → ω → Prop} {I : σ → Prop} {s : σ}
  {x y : Config τ κ ι σ ω ε}

theorem store_eq_of_step {t : τ} {act : Act σ ω} (h : C.threads.Step x t (some act) y) :
    act.store = x.store := by
  cases h with
  | move hm =>
    generalize (x.thread t).rest = p at hm
    cases hm <;> rfl

theorem mem_log_of_step {t u : τ} {act : Option (Act σ ω)} {a : Act σ ω}
    (h : C.threads.Step x t act y) (ha : a ∈ (y.thread u).log) :
    a ∈ (x.thread u).log ∨ act = some a := by
  by_cases hu : u = t
  · subst hu
    cases h with
    | move hm =>
      simp only [Function.update_self, List.mem_append, Option.mem_toList] at ha
      exact ha
    | take => simp at ha
  · rw [h.thread_eq hu] at ha
    exact .inl ha

/-- **Rely and guarantee**: the invariant holds, in the store and in every store a thread has read
or written for its task, and what is left of each task satisfies its precondition. -/
theorem invariant (rg : C.threads.RelyGuarantee R G I)
    (outside : ∀ s s', I s → C.env s s' → I s' ∧ ∀ t, R t s s') (hs : I s) (h : C.Reachable s x) :
    I x.store ∧ (∀ t, C.threads.Safe R G t (x.thread t).rest x.store) ∧
      ∀ t, ∀ a ∈ (x.thread t).log, I a.store := by
  induction h with
  | idle => exact ⟨hs, fun _ _ _ => trivial, fun t a ha => absurd ha (by simp [Threads.idle])⟩
  | @step x l y _ hstep ih =>
    obtain ⟨hI, hsafe, hlog⟩ := ih
    cases hstep with
    | @thread t act _ step =>
      have hnext := step.safe rg hI hsafe
      refine ⟨hnext.1, hnext.2, fun u a ha => ?_⟩
      rcases mem_log_of_step step ha with ha | rfl
      · exact hlog u a ha
      · rw [store_eq_of_step step]
        exact hI
    | crash t =>
      refine ⟨hI, fun u => ?_, fun u a ha => ?_⟩
      · by_cases hu : u = t
        · subst hu
          simp [Prog.wp]
        · simpa [hu] using hsafe u
      · by_cases hu : u = t
        · subst hu
          simp at ha
        · exact hlog u a (by simpa [hu] using ha)
    | env change =>
      have hout := outside _ _ hI change
      exact ⟨hout.1, fun u => Prog.wp_stable (R := R u) (rg.trans u) (hsafe u) (hout.2 u), hlog⟩

theorem Step.request {t : τ} {act : Act σ ω} (h : C.Step x (some (t, act)) y) :
    C.threads.Step x t (some act) y := by
  generalize hl : some (t, act) = l at h
  cases h with
  | crash => cases hl
  | env => cases hl
  | @thread t' act' _ step =>
    cases act' with
    | none => cases hl
    | some act' =>
      cases hl
      exact step

/-! ### Building runs -/

section Build

variable {t : τ} {k : κ} {r : Reader} {o : ω} {i : ι} {s' : σ}

theorem Reachable.take (h : C.Reachable s x) (done : (x.thread t).rest.Done)
    (takes : C.threads.takes t k) :
    C.Reachable s ⟨x.store, Function.update x.thread t ⟨some k, [], C.threads.code k⟩⟩ :=
  .step h (.thread (.take done takes))

theorem Reachable.read {next : Except ε σ → Prog ι σ ω ε Unit} (h : C.Reachable s x)
    (hrest : (x.thread t).rest = .read r next) (answer : C.threads.answers x.store i) :
    C.Reachable s ⟨x.store, Function.update x.thread t ⟨(x.thread t).task,
      (x.thread t).log ++ [.read r x.store],
      next (.ok (C.threads.machine.shown r i x.store))⟩⟩ := by
  have moves : (x.thread t).rest.Moves C.threads.machine C.threads.answers x.store
      (some (.read r x.store)) (next (.ok (C.threads.machine.shown r i x.store))) x.store := by
    rw [hrest]
    exact .read answer
  exact .step h (.thread (.move moves))

theorem Step.call {next : Except ε Unit → Prog ι σ ω ε Unit}
    (hrest : (x.thread t).rest = .call o next)
    (accepted : C.threads.machine.attempt i x.store o = .ok s') :
    C.Step x (some (t, .call x.store o)) ⟨s', Function.update x.thread t ⟨(x.thread t).task,
      (x.thread t).log ++ [.call x.store o], next (.ok ())⟩⟩ := by
  have moves : (x.thread t).rest.Moves C.threads.machine C.threads.answers x.store
      (some (.call x.store o)) (next (.ok ())) s' := by
    rw [hrest]
    exact .call accepted
  exact .thread (.move moves)

/-- **A thread advances** by some of its requests while nothing else happens. -/
theorem Reachable.advance (h : C.Reachable s x) (t : τ) (is : List ι)
    (answers : ∀ i ∈ is, ∀ s, C.threads.answers s i) :
    ∃ y, C.Reachable s y ∧
      ((y.thread t).rest, y.store) = (x.thread t).rest.advance C.threads.machine is x.store ∧
      ∀ u, u ≠ t → y.thread u = x.thread u := by
  induction is generalizing x with
  | nil => exact ⟨x, h, by rw [Prog.advance] <;> simp, fun _ _ => rfl⟩
  | cons i is ih =>
    -- one move, and then the rest of the answers
    have hmove {p q : Prog ι σ ω ε Unit} {act : Option (Act σ ω)} {s' : σ}
        (hp : (x.thread t).rest = p)
        (hm : p.Moves C.threads.machine C.threads.answers x.store act q s')
        (hnext : p.advance C.threads.machine (i :: is) x.store =
          q.advance C.threads.machine is s') :
        ∃ z, C.Reachable s z ∧ ((z.thread t).rest, z.store) =
          p.advance C.threads.machine (i :: is) x.store ∧
          ∀ u, u ≠ t → z.thread u = x.thread u := by
      subst hp
      obtain ⟨z, hz, heq, hsame⟩ := ih (h.step (.thread (.move hm))) fun j hj =>
        answers j (List.mem_cons_of_mem _ hj)
      simp only [Function.update_self] at heq
      exact ⟨z, hz, heq.trans hnext.symm, fun u hu =>
        (hsame u hu).trans (Function.update_of_ne hu ..)⟩
    have hi := answers i List.mem_cons_self x.store
    cases hp : (x.thread t).rest with
    | ret a => exact ⟨x, h, by rw [hp, Prog.advance] <;> simp, fun _ _ => rfl⟩
    | fail e => exact ⟨x, h, by rw [hp, Prog.advance] <;> simp, fun _ _ => rfl⟩
    | ask k => exact hmove hp (.ask hi) (by simp only [Prog.advance])
    | read r k =>
      cases hf : C.threads.machine.fault i with
      | some e => exact hmove hp (.unread hf) (by simp only [Prog.advance, Machine.look, hf])
      | none => exact hmove hp (.read hi) (by simp only [Prog.advance, Machine.look, hf])
    | call o k =>
      cases ha : C.threads.machine.attempt i x.store o with
      | error e => exact hmove hp (.refused ha) (by simp only [Prog.advance, ha])
      | ok s' => exact hmove hp (.call ha) (by simp only [Prog.advance, ha])

theorem Reachable.takeAdvance (h : C.Reachable s x) (done : (x.thread t).rest.Done)
    (takes : C.threads.takes t k) (is : List ι)
    (answers : ∀ i ∈ is, ∀ s, C.threads.answers s i) :
    ∃ y, C.Reachable s y ∧
      ((y.thread t).rest, y.store) = (C.threads.code k).advance C.threads.machine is x.store ∧
      ∀ u, u ≠ t → y.thread u = x.thread u := by
  obtain ⟨y, hy, heq, hothers⟩ := (h.take done takes).advance t is answers
  simp only [Function.update_self] at heq
  exact ⟨y, hy, heq, fun u hu => (hothers u hu).trans (Function.update_of_ne hu ..)⟩

end Build

/-- **The log of a thread** is a log of its task's program; a thread without a task has nothing to
do. -/
theorem logged_of_reachable (h : C.Reachable s x) (t : τ) :
    match (x.thread t).task with
    | none => (x.thread t).rest.Done
    | some k => C.threads.takes t k ∧ Prog.Logged C.threads.machine C.threads.answers
        (C.threads.code k) (x.thread t).log (x.thread t).rest := by
  induction h with
  | idle => trivial
  | @step x l y _ hstep ih =>
    cases hstep with
    | env => exact ih
    | crash u =>
      by_cases hu : t = u
      · subst hu
        simp [Prog.Done]
      · simpa [hu] using ih
    | @thread u act _ step =>
      by_cases hu : t = u
      · subst hu
        cases step with
        | move hm =>
          simp only [Function.update_self]
          cases htask : (x.thread t).task with
          | none =>
            rw [htask] at ih
            -- a thread that has ended makes no request
            generalize hrest : (x.thread t).rest = p at hm ih
            cases hm <;> exact absurd ih (by simp [Prog.Done])
          | some k =>
            rw [htask] at ih
            exact ih.imp_right fun hl => hl.snoc hm
        | take done takes =>
          simp only [Function.update_self]
          exact ⟨takes, .refl⟩
      · cases step with
        | move => simpa [hu] using ih
        | take => simpa [hu] using ih

/-- What a thread has read and written by the time it performs an operation. -/
theorem logged_of_step (h : C.Reachable s x) {t : τ} {u : σ} {o : ω}
    (hstep : C.Step x (some (t, .call u o)) y) :
    ∃ k next, C.threads.takes t k ∧ Prog.Logged C.threads.machine C.threads.answers
      (C.threads.code k) (x.thread t).log (.call o next) := by
  obtain ⟨next, hrest⟩ := hstep.request.call_eq
  have hlog := logged_of_reachable h t
  rw [hrest] at hlog
  split at hlog
  · exact absurd hlog (by simp [Prog.Done])
  · next k _ => exact ⟨k, next, hlog⟩

end Controllers

end Effects

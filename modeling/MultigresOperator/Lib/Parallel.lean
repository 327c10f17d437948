import Mathlib.Data.List.Forall2
import MultigresOperator.Lib.Prog

/-!
# Programs side by side

Threads work on one store. Each takes up one task after the other and makes the requests of the
task's program one at a time; between two of its requests the other threads may make any number of
theirs. A thread keeps a log of what it has read and written since it took up its task.

Two arguments about such threads are provided. Rely and guarantee: when every thread's tasks satisfy
their preconditions under the interference the others' guards allow, every request of a reachable
configuration satisfies its guard. And logs: what a program may have read and written by the time it
makes a request, whatever happened in between, is a property of the program alone.

## Main definitions

* `Prog.Moves`, `Prog.next`: one request of a program, as a relation and as a function
* `Threads`, `Threads.Step`, `Threads.Reachable`: threads and their interleavings
* `Prog.Logged`: what a program has read and written when it has come to a point
* `Prog.within`: a program that works on a part of the store

## Main results

* `Threads.guard_of_step`: **rely and guarantee**
* `Threads.logged_of_reachable`: the log of a thread is a log of its task's program
* `Prog.wp_within`: preconditions of a program that works on a part of the store
-/

namespace Effects

/-- What a request reads or writes, with the store it is made in. -/
inductive Act (σ ω : Type)
  | read (r : Reader) (s : σ)
  | call (s : σ) (o : ω)

variable {ι σ ω ε α β : Type}

/-- The stores that were read, in order. -/
def readStores (l : List (Act σ ω)) : List σ :=
  l.filterMap fun
    | .read _ s => some s
    | .call _ _ => none

@[simp] theorem readStores_append (l l' : List (Act σ ω)) :
    readStores (l ++ l') = readStores l ++ readStores l' := List.filterMap_append

namespace Prog

/-- One request. Refused requests and requests for an answer leave no trace. -/
inductive Moves (M : Machine ι σ ω ε) (A : σ → ι → Prop) (s : σ) :
    Prog ι σ ω ε α → Option (Act σ ω) → Prog ι σ ω ε α → σ → Prop
  | ask {k i} (answer : A s i) : Moves M A s (.ask k) none (k i) s
  | read {r k i} (answer : A s i) :
      Moves M A s (.read r k) (some (.read r s)) (k (.ok (M.shown r i s))) s
  | unread {r k i e} (fault : M.fault i = some e) : Moves M A s (.read r k) none (k (.error e)) s
  | call {o k i s'} (accepted : M.attempt i s o = .ok s') :
      Moves M A s (.call o k) (some (.call s o)) (k (.ok ())) s'
  | refused {o k i e} (refused : M.attempt i s o = .error e) :
      Moves M A s (.call o k) none (k (.error e)) s

/-- The request of a program under a given answer. -/
def next (M : Machine ι σ ω ε) (i : ι) : Prog ι σ ω ε α → σ → Option (Prog ι σ ω ε α × σ)
  | .ret _, _ => none
  | .fail _, _ => none
  | .ask k, s => some (k i, s)
  | .read r k, s => some (k (M.look r i s), s)
  | .call o k, s =>
    match M.attempt i s o with
    | .error e => some (k (.error e), s)
    | .ok s' => some (k (.ok ()), s')

theorem moves_of_next {M : Machine ι σ ω ε} {A : σ → ι → Prop} {i : ι} {s s' : σ}
    {p p' : Prog ι σ ω ε α} (answer : A s i) (h : p.next M i s = some (p', s')) :
    ∃ act, p.Moves M A s act p' s' := by
  cases p with
  | ret a => cases h
  | fail e => cases h
  | ask k =>
    cases h
    exact ⟨_, .ask answer⟩
  | read r k =>
    cases h
    unfold Machine.look
    cases hfault : M.fault i with
    | none => exact ⟨_, .read answer⟩
    | some e => exact ⟨_, .unread hfault⟩
  | call o k =>
    simp only [next] at h
    cases hattempt : M.attempt i s o with
    | error e =>
      rw [hattempt] at h
      cases h
      exact ⟨_, .refused hattempt⟩
    | ok t =>
      rw [hattempt] at h
      cases h
      exact ⟨_, .call hattempt⟩

def Done : Prog ι σ ω ε α → Prop
  | .ret _ => True
  | .fail _ => True
  | _ => False

end Prog

/-! ## Threads -/

/-- Threads `τ` that take up tasks `κ`. -/
structure Threads (τ κ ι σ ω ε : Type) where
  machine : Machine ι σ ω ε
  answers : σ → ι → Prop
  takes : τ → κ → Prop
  code : κ → Prog ι σ ω ε Unit

/-- A thread: its task, what it has read and written for it, and what is left of the program. -/
structure Thread (κ ι σ ω ε : Type) where
  task : Option κ
  log : List (Act σ ω)
  rest : Prog ι σ ω ε Unit

structure Config (τ κ ι σ ω ε : Type) where
  store : σ
  thread : τ → Thread κ ι σ ω ε

namespace Threads

variable {τ κ : Type} [DecidableEq τ] (T : Threads τ κ ι σ ω ε)

/-- No thread has taken up a task. -/
def idle (s : σ) : Config τ κ ι σ ω ε := ⟨s, fun _ => ⟨none, [], .ret ()⟩⟩

inductive Step (x : Config τ κ ι σ ω ε) : τ → Option (Act σ ω) → Config τ κ ι σ ω ε → Prop
  | move {t act p s} (moves : (x.thread t).rest.Moves T.machine T.answers x.store act p s) :
      Step x t act ⟨s, Function.update x.thread t
        ⟨(x.thread t).task, (x.thread t).log ++ act.toList, p⟩⟩
  | take {t k} (done : (x.thread t).rest.Done) (takes : T.takes t k) :
      Step x t none ⟨x.store, Function.update x.thread t ⟨some k, [], T.code k⟩⟩

/-- The configurations the threads can come to. -/
inductive Reachable (s : σ) : Config τ κ ι σ ω ε → Prop
  | idle : Reachable s (idle s)
  | step {x t act y} : Reachable s x → T.Step x t act y → Reachable s y

end Threads

/-! ## Rely and guarantee -/

namespace Prog

variable {M : Machine ι σ ω ε} {R : σ → σ → Prop} {A : σ → ι → Prop} {G : σ → ω → Prop}
  {Q : α → σ → Prop} {E : ε → σ → Prop} {s s' : σ} {p p' : Prog ι σ ω ε α}

theorem wp_of_moves (hR : ∀ a, R a a) {act : Option (Act σ ω)} (h : p.wp M R A G Q E s)
    (hm : p.Moves M A s act p' s') : p'.wp M R A G Q E s' := by
  cases hm with
  | ask answer => exact h s (hR s) _ answer
  | read answer => exact (h s (hR s)).2 _ answer
  | unread fault => exact (h s (hR s)).1 _ _ fault
  | call accepted => exact ((h s (hR s)).2 _ (M.exec_of_attempt accepted)).2
  | refused refused => exact (h s (hR s)).1 _ _ refused

theorem guard_of_moves (hR : ∀ a, R a a) {t : σ} {o : ω} (h : p.wp M R A G Q E s)
    (hm : p.Moves M A s (some (.call t o)) p' s') : t = s ∧ G s o ∧ M.exec s o = .ok s' := by
  cases hm with
  | call accepted =>
    have hexec := M.exec_of_attempt accepted
    exact ⟨rfl, ((h s (hR s)).2 _ hexec).1, hexec⟩

theorem store_of_moves {act : Option (Act σ ω)} (hm : p.Moves M A s act p' s')
    (h : ∀ t o, act ≠ some (.call t o)) : s' = s := by
  cases hm with
  | ask => rfl
  | read => rfl
  | unread => rfl
  | call => exact absurd rfl (h _ _)
  | refused => rfl

end Prog

namespace Threads

variable {τ κ : Type} [DecidableEq τ] {T : Threads τ κ ι σ ω ε} {R : τ → σ → σ → Prop}
  {G : τ → σ → ω → Prop} {I : σ → Prop} {s : σ} {x y : Config τ κ ι σ ω ε}

/-- The precondition of what is left of a thread's task. -/
abbrev Safe (T : Threads τ κ ι σ ω ε) (R : τ → σ → σ → Prop) (G : τ → σ → ω → Prop) (t : τ)
    (p : Prog ι σ ω ε Unit) (s : σ) : Prop :=
  p.wp T.machine (R t) T.answers (G t) (fun _ _ => True) (fun _ _ => True) s

/-- Every task satisfies its precondition under the interference that the guards of the other threads
allow, and the guards keep an invariant. -/
structure RelyGuarantee (T : Threads τ κ ι σ ω ε) (R : τ → σ → σ → Prop) (G : τ → σ → ω → Prop)
    (I : σ → Prop) : Prop where
  refl : ∀ t a, R t a a
  trans : ∀ t {a b c}, R t a b → R t b c → R t a c
  spec : ∀ t k, T.takes t k → ∀ s, I s → T.Safe R G t (T.code k) s
  keep : ∀ t s o s', I s → G t s o → T.machine.exec s o = .ok s' → I s'
  compatible : ∀ t u, t ≠ u → ∀ s o s', I s → G t s o → T.machine.exec s o = .ok s' → R u s s'

/-- One step keeps the invariant and every thread safe: the one that moves by its precondition, the
others because they tolerate what its guard allows. -/
theorem Step.safe (rg : T.RelyGuarantee R G I) {t : τ} {act : Option (Act σ ω)}
    (h : T.Step x t act y) (hI : I x.store) (hx : ∀ u, T.Safe R G u (x.thread u).rest x.store) :
    I y.store ∧ ∀ u, T.Safe R G u (y.thread u).rest y.store := by
  cases h with
  | move hm =>
    rename_i p s
    have hstore : I s ∧ ∀ u, u ≠ t → R u x.store s := by
      cases act with
      | none => rw [Prog.store_of_moves hm (by simp)]; exact ⟨hI, fun u _ => rg.refl u _⟩
      | some act =>
        cases act with
        | read => rw [Prog.store_of_moves hm (by simp)]; exact ⟨hI, fun u _ => rg.refl u _⟩
        | call s o =>
          obtain ⟨rfl, hG, hexec⟩ := Prog.guard_of_moves (rg.refl t) (hx t) hm
          exact ⟨rg.keep t _ o _ hI hG hexec,
            fun u hu => rg.compatible t u (Ne.symm hu) _ o _ hI hG hexec⟩
    refine ⟨hstore.1, fun u => ?_⟩
    by_cases hu : u = t
    · subst hu
      simpa using Prog.wp_of_moves (rg.refl u) (hx u) hm
    · have hstable : T.Safe R G u (x.thread u).rest s :=
        Prog.wp_stable (R := R u) (rg.trans u) (hx u) (hstore.2 u hu)
      simpa [hu] using hstable
  | @take k done takes =>
    refine ⟨hI, fun u => ?_⟩
    by_cases hu : u = t
    · subst hu
      simpa using rg.spec u k takes x.store hI
    · simpa [hu] using hx u

/-- **Rely and guarantee**: every request of an interleaving satisfies its guard. -/
theorem guard_of_step (rg : T.RelyGuarantee R G I) (hs : I s) (h : T.Reachable s x) {t : τ} {u : σ}
    {o : ω} (hstep : T.Step x t (some (.call u o)) y) :
    u = x.store ∧ G t u o ∧ T.machine.exec u o = .ok y.store := by
  have safe : I x.store ∧ ∀ t, T.Safe R G t (x.thread t).rest x.store := by
    clear hstep
    induction h with
    | idle => exact ⟨hs, fun _ _ _ => trivial⟩
    | step _ hstep ih => exact hstep.safe rg ih.1 ih.2
  cases hstep with
  | move hm =>
    obtain ⟨rfl, hG, hexec⟩ := Prog.guard_of_moves (rg.refl t) (safe.2 t) hm
    exact ⟨rfl, hG, hexec⟩

end Threads

/-! ## Logs -/

namespace Prog

variable (M : Machine ι σ ω ε) (A : σ → ι → Prop)

/-- Having read and written `l`, the program `p` has come to the point `q`. Nothing is said of the
store between two requests. -/
inductive Logged : Prog ι σ ω ε α → List (Act σ ω) → Prog ι σ ω ε α → Prop
  | refl {p} : Logged p [] p
  | move {p p' q s s' act l} : p.Moves M A s act p' s' → Logged p' l q → Logged p (act.toList ++ l) q

variable {M A} {p q : Prog ι σ ω ε α} {l : List (Act σ ω)} {act : Option (Act σ ω)} {s s' : σ}
  {f : α → Prog ι σ ω ε β} {a : α}

theorem Logged.snoc {p' : Prog ι σ ω ε α} (h : Logged M A p l p') (hm : p'.Moves M A s act q s') :
    Logged M A p (l ++ act.toList) q := by
  induction h with
  | refl => simpa using Logged.move hm .refl
  | move hm' _ ih => simpa [List.append_assoc] using Logged.move hm' (ih hm)

theorem Logged.only {P : ω → Prop} (h : Logged M A p l q) (hp : p.Only P) : q.Only P := by
  induction h with
  | refl => exact hp
  | move hm _ ih =>
    refine ih ?_
    cases hm with
    | ask => exact hp _
    | read => exact hp _
    | unread => exact hp _
    | call => exact hp.2 _
    | refused => exact hp.2 _

theorem Moves.bind {q : Prog ι σ ω ε β} (h : (p.bind f).Moves M A s act q s') :
    (∃ a, p = .ret a) ∨ ∃ p', p.Moves M A s act p' s' ∧ q = p'.bind f := by
  cases p with
  | ret a => exact .inl ⟨a, rfl⟩
  | fail e => cases h
  | ask k => cases h with | ask answer => exact .inr ⟨_, .ask answer, rfl⟩
  | read r k =>
    cases h with
    | read answer => exact .inr ⟨_, .read answer, rfl⟩
    | unread fault => exact .inr ⟨_, .unread fault, rfl⟩
  | call o k =>
    cases h with
    | call accepted => exact .inr ⟨_, .call accepted, rfl⟩
    | refused refused => exact .inr ⟨_, .refused refused, rfl⟩

/-- **Logs of a sequence**: the program is still in its first part, or the log splits. -/
theorem Logged.bind {q : Prog ι σ ω ε β} (h : Logged M A (p >>= f) l q) :
    (∃ p', Logged M A p l p' ∧ q = p'.bind f) ∨
      ∃ a l₁ l₂, Logged M A p l₁ (.ret a) ∧ Logged M A (f a) l₂ q ∧ l = l₁ ++ l₂ := by
  change Logged M A (p.bind f) l q at h
  generalize hb : p.bind f = b at h
  induction h generalizing p with
  | refl => exact .inl ⟨p, .refl, hb.symm⟩
  | move hm hrest ih =>
    subst hb
    rcases hm.bind with ⟨a, rfl⟩ | ⟨p', hm', rfl⟩
    · exact .inr ⟨a, [], _, .refl, .move hm hrest, rfl⟩
    · rcases ih rfl with ⟨p'', hl, rfl⟩ | ⟨a, l₁, l₂, h₁, h₂, rfl⟩
      · exact .inl ⟨p'', .move hm' hl, rfl⟩
      · exact .inr ⟨a, _, l₂, .move hm' h₁, h₂, by rw [List.append_assoc]⟩

/-- The log of a sequence that has come to an operation its first part never requests. -/
theorem Logged.bind_call {P : ω → Prop} {o : ω} {k : Except ε Unit → Prog ι σ ω ε β}
    (h : Logged M A (p >>= f) l (.call o k)) (hp : p.Only P) (ho : ¬ P o) :
    ∃ a l₁ l₂, Logged M A p l₁ (.ret a) ∧ Logged M A (f a) l₂ (.call o k) ∧ l = l₁ ++ l₂ := by
  rcases h.bind with ⟨p', hl, hq⟩ | h
  · cases p' with
    | ret a => exact ⟨a, l, [], hl, hq ▸ .refl, (List.append_nil l).symm⟩
    | call o' k' =>
      have ho' : P o' := (hl.only hp).1
      cases hq
      exact absurd ho' ho
    | fail e => cases hq
    | ask k' => cases hq
    | read r k' => cases hq
  · exact h

theorem Logged.bind_ret {b : β} (h : Logged M A (p >>= f) l (.ret b)) :
    ∃ a l₁ l₂, Logged M A p l₁ (.ret a) ∧ Logged M A (f a) l₂ (.ret b) ∧ l = l₁ ++ l₂ := by
  rcases h.bind with ⟨p', hl, hq⟩ | h
  · cases p' with
    | ret a => exact ⟨a, l, [], hl, hq ▸ .refl, (List.append_nil l).symm⟩
    | fail e => cases hq
    | ask k => cases hq
    | read r k => cases hq
    | call o k => cases hq
  · exact h

theorem Logged.of_ret {b : α} (h : Logged M A (.ret a : Prog ι σ ω ε α) l (.ret b)) :
    l = [] ∧ b = a := by
  cases h with
  | refl => exact ⟨rfl, rfl⟩
  | move hm => cases hm

theorem Moves.mapError {f : ε → ε} (h : (p.mapError f).Moves M A s act q s') :
    ∃ p', p.Moves M A s act p' s' ∧ q = p'.mapError f := by
  cases p with
  | ret a => cases h
  | fail e => cases h
  | ask k => cases h with | ask answer => exact ⟨_, .ask answer, rfl⟩
  | read r k =>
    cases h with
    | read answer => exact ⟨_, .read answer, rfl⟩
    | unread fault => exact ⟨_, .unread fault, rfl⟩
  | call o k =>
    cases h with
    | call accepted => exact ⟨_, .call accepted, rfl⟩
    | refused refused => exact ⟨_, .refused refused, rfl⟩

theorem Logged.mapError_ret {f : ε → ε} (h : Logged M A (p.mapError f) l (.ret a)) :
    Logged M A p l (.ret a) := by
  generalize hb : p.mapError f = b at h
  generalize hq : (.ret a : Prog ι σ ω ε α) = q at h
  induction h generalizing p with
  | refl =>
    subst hq
    cases p with
    | ret a' => cases hb; exact .refl
    | fail e => cases hb
    | ask k => cases hb
    | read r k => cases hb
    | call o k => cases hb
  | move hm _ ih =>
    subst hb
    obtain ⟨p', hm', rfl⟩ := hm.mapError
    exact .move hm' (ih rfl hq)

theorem Logged.of_fetch {r : Reader} {f : σ → α}
    (h : Logged M A (fetch r f : Prog ι σ ω ε α) l (.ret a)) :
    ∃ s i, A s i ∧ l = [.read r s] ∧ a = f (M.shown r i s) := by
  cases h with
  | move hm hrest =>
    cases hm with
    | read answer =>
      obtain ⟨rfl, rfl⟩ := hrest.of_ret
      exact ⟨_, _, answer, rfl, rfl⟩
    | unread fault => cases hrest with | move hm => cases hm

theorem Logged.of_perform {o : ω} (h : Logged M A (perform o : Prog ι σ ω ε Unit) l (.ret ())) :
    ∃ s, l = [.call s o] := by
  cases h with
  | move hm hrest =>
    cases hm with
    | call accepted =>
      obtain ⟨rfl, -⟩ := hrest.of_ret
      exact ⟨_, rfl⟩
    | refused refused => cases hrest with | move hm => cases hm

end Prog

variable {s : σ} {τ κ : Type} [DecidableEq τ] {T : Threads τ κ ι σ ω ε} {x y : Config τ κ ι σ ω ε}

theorem Threads.Step.thread_eq {t u : τ} {act : Option (Act σ ω)} (h : T.Step x u act y)
    (hu : t ≠ u) : y.thread t = x.thread t := by
  cases h with
  | move => exact Function.update_of_ne hu ..
  | take => exact Function.update_of_ne hu ..

/-- **The log of a thread** is a log of its task's program. -/
theorem Threads.logged_of_reachable (h : T.Reachable s x) (t : τ) {k : κ}
    (hk : (x.thread t).task = some k) : T.takes t k ∧
      Prog.Logged T.machine T.answers (T.code k) (x.thread t).log (x.thread t).rest := by
  induction h with
  | idle => cases hk
  | @step x u act y _ hstep ih =>
    by_cases hu : t = u
    · subst hu
      cases hstep with
      | move hm =>
        simp only [Function.update_self] at hk ⊢
        exact (ih hk).imp_right fun hl => hl.snoc hm
      | take done takes =>
        simp only [Function.update_self] at hk ⊢
        cases hk
        exact ⟨takes, .refl⟩
    · rw [hstep.thread_eq hu] at hk ⊢
      exact ih hk

theorem Threads.done_of_reachable (h : T.Reachable s x) (t : τ) (hk : (x.thread t).task = none) :
    (x.thread t).rest.Done := by
  induction h with
  | idle => trivial
  | @step x u act y _ hstep ih =>
    by_cases hu : t = u
    · subst hu
      cases hstep with
      | move hm =>
        simp only [Function.update_self] at hk
        have := ih hk
        cases hrest : (x.thread t).rest with
        | ret a => rw [hrest] at hm; cases hm
        | fail e => rw [hrest] at hm; cases hm
        | ask k => simp [hrest, Prog.Done] at this
        | read r k => simp [hrest, Prog.Done] at this
        | call o k => simp [hrest, Prog.Done] at this
      | take => simp at hk
    · rw [hstep.thread_eq hu] at hk ⊢
      exact ih hk

theorem Threads.Step.call_eq {t : τ} {o : ω} (h : T.Step x t (some (.call s o)) y) :
    ∃ k, (x.thread t).rest = .call o k := by
  cases h with
  | move hm =>
    cases hrest : (x.thread t).rest <;> rw [hrest] at hm <;> cases hm
    exact ⟨_, rfl⟩

/-! ## Programs on a part of the store -/

namespace Prog

variable {σ' ω' : Type}

/-- The program with its reads of a part of a larger store, and its operations among more. -/
def within (get : σ' → σ) (op : ω → ω') : Prog ι σ ω ε α → Prog ι σ' ω' ε α
  | .ret a => .ret a
  | .fail e => .fail e
  | .ask k => .ask fun i => (k i).within get op
  | .read r k => .read r fun v => (k (v.map get)).within get op
  | .call o k => .call (op o) fun v => (k v).within get op

/-- The machine of a larger store acts on a part of it as the machine of that part does. -/
structure Within (M' : Machine ι σ' ω' ε) (M : Machine ι σ ω ε) (get : σ' → σ) (op : ω → ω') :
    Prop where
  fault : ∀ i, M'.fault i = M.fault i
  shown : ∀ r i s, get (M'.shown r i s) = M.shown r i (get s)
  exec : ∀ s o s', M'.exec s (op o) = .ok s' → M.exec (get s) o = .ok (get s')
  error : ∀ s o e, M'.exec s (op o) = .error e → M.exec (get s) o = .error e

variable {M' : Machine ι σ' ω' ε} {M : Machine ι σ ω ε} {get : σ' → σ} {op : ω → ω'} {s : σ'}
  {l' : List (Act σ' ω')}

theorem Within.attempt_error (h : Within M' M get op) {i : ι} {o : ω} {e : ε}
    (he : M'.attempt i s (op o) = .error e) : M.attempt i (get s) o = .error e := by
  unfold Machine.attempt at he ⊢
  rw [← h.fault]
  split at he
  · exact congrArg Except.error (Except.error.inj he)
  · exact h.error s o e he

theorem Within.attempt_ok (h : Within M' M get op) {i : ι} {s' : σ'} {o : ω}
    (he : M'.attempt i s (op o) = .ok s') : M.attempt i (get s) o = .ok (get s') := by
  unfold Machine.attempt at he ⊢
  rw [← h.fault]
  split at he
  · cases he
  · exact h.exec s o s' he

/-- **Preconditions on a part of the store**: the program needs of the larger store what it needs
of its part. -/
theorem wp_within (h : Within M' M get op) {R : σ → σ → Prop} {R' : σ' → σ' → Prop}
    {A : σ → ι → Prop} {A' : σ' → ι → Prop} {G : σ → ω → Prop} {G' : σ' → ω' → Prop}
    (hR : ∀ s t, R' s t → R (get s) (get t)) (hA : ∀ s i, A' s i → A (get s) i)
    (hG : ∀ s o, G (get s) o → G' s (op o)) {p : Prog ι σ ω ε α} {Q : α → σ → Prop}
    {E : ε → σ → Prop} (hp : p.wp M R A G Q E (get s)) :
    (p.within get op).wp M' R' A' G' (fun a t => Q a (get t)) (fun e t => E e (get t)) s := by
  induction p generalizing s with
  | ret a => exact fun t ht => hp _ (hR _ _ ht)
  | fail e => exact fun t ht => hp _ (hR _ _ ht)
  | ask k ih => exact fun t ht i hi => ih i (hp _ (hR _ _ ht) i (hA _ _ hi))
  | read r k ih =>
    refine fun t ht => ⟨fun i e he => ih _ ((hp _ (hR _ _ ht)).1 i e (h.fault i ▸ he)), fun i hi => ?_⟩
    refine ih _ ?_
    simpa only [Except.map, h.shown] using (hp _ (hR _ _ ht)).2 i (hA _ _ hi)
  | call o k ih =>
    refine fun t ht => ⟨fun i e he => ih _ ((hp _ (hR _ _ ht)).1 i e (h.attempt_error he)),
      fun t' ht' => ?_⟩
    have ⟨hGo, hk⟩ := (hp _ (hR _ _ ht)).2 _ (h.exec _ _ _ ht')
    exact ⟨hG _ _ hGo, ih _ hk⟩

/-- An act on the larger store is, for the program within it, an act on its part. -/
inductive ActWithin (get : σ' → σ) (op : ω → ω') : Act σ' ω' → Act σ ω → Prop
  | read {r s} : ActWithin get op (.read r s) (.read r (get s))
  | call {s o} : ActWithin get op (.call s (op o)) (.call (get s) o)

theorem Logged.within (h : Within M' M get op) {A : σ → ι → Prop} {A' : σ' → ι → Prop}
    (hA : ∀ s i, A' s i → A (get s) i) {p : Prog ι σ ω ε α} {q' : Prog ι σ' ω' ε α}
    (hl : Logged M' A' (p.within get op) l' q') :
    ∃ l q, Logged M A p l q ∧ q' = q.within get op ∧ List.Forall₂ (ActWithin get op) l' l := by
  generalize hp : p.within get op = p' at hl
  induction hl generalizing p with
  | refl => exact ⟨[], p, .refl, hp.symm, .nil⟩
  | @move _ _ _ s _ _ _ hm _ ih =>
    cases hm with
    | ask answer =>
      cases p <;> cases hp
      obtain ⟨l, q, hl, hq, hacts⟩ := ih rfl
      exact ⟨l, q, .move (.ask (hA _ _ answer)) hl, hq, hacts⟩
    | @read r k' i answer =>
      cases p <;> cases hp
      obtain ⟨l, q, hl, hq, hacts⟩ := ih rfl
      rw [Except.map, h.shown] at hl
      exact ⟨_, q, .move (.read (hA _ _ answer)) hl, hq, .cons .read hacts⟩
    | unread fault =>
      cases p <;> cases hp
      obtain ⟨l, q, hl, hq, hacts⟩ := ih rfl
      exact ⟨l, q, .move (s := get s) (.unread (h.fault _ ▸ fault)) hl, hq, hacts⟩
    | call accepted =>
      cases p <;> cases hp
      obtain ⟨l, q, hl, hq, hacts⟩ := ih rfl
      exact ⟨_, q, .move (.call (h.attempt_ok accepted)) hl, hq, .cons .call hacts⟩
    | refused refused =>
      cases p <;> cases hp
      obtain ⟨l, q, hl, hq, hacts⟩ := ih rfl
      exact ⟨l, q, .move (.refused (h.attempt_error refused)) hl, hq, hacts⟩

theorem exists_mem_within {l : List (Act σ ω)} {act : Act σ ω}
    (h : List.Forall₂ (ActWithin get op) l' l) (hact : act ∈ l) :
    ∃ act' ∈ l', ActWithin get op act' act := by
  induction h with
  | nil => cases hact
  | @cons a b _ _ hab _ ih =>
    rcases List.mem_cons.mp hact with rfl | hact
    · exact ⟨a, List.mem_cons_self, hab⟩
    · obtain ⟨act', hmem, h⟩ := ih hact
      exact ⟨act', List.mem_cons_of_mem _ hmem, h⟩

theorem readStores_within {l : List (Act σ ω)} (h : List.Forall₂ (ActWithin get op) l' l) :
    readStores l = (readStores l').map get := by
  induction h with
  | nil => rfl
  | cons hact _ ih => cases hact <;> simpa [readStores] using ih

end Prog

end Effects

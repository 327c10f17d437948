import Mathlib.Data.Nat.Notation
import Mathlib.Logic.Basic

/-!
# Programs over a shared store

A program is a tree of requests: it asks its environment, reads a shared store, or requests an
operation on the store, and continues with the answer. A read goes to the store itself or to a
cache of it. Every read and every operation may be refused by a fault, and then leaves the store
as it was. The tree serves two semantics: a program run alone from a store, which produces a
trace, and a family of programs whose requests are interleaved (`Lib.Parallel`).

`wp` is a precondition for both. It is relative to a relation `R` that bounds what happens to the
store between two requests of the program and to a predicate `A` on the answers the environment
may give, and asks every operation the program performs to satisfy `G` in the store it acts on.
With `R` the equality, it speaks of the program run alone.

## Main definitions

* `Prog ι σ ω ε α`: programs with environment answers `ι`, store `σ`, operations `ω`, errors `ε`
  and results `α`
* `Machine`: which answers are faults, what a cache shows, and what an operation does to the store
* `Prog.run`: the outcome of a program run alone
* `Prog.Only`, `Prog.Yields`: what a program may request and return, whatever it is answered
* `Prog.wp M R A G p Q E`: under interference `R` and answers `A` every operation of `p` satisfies
  `G`, and `p` ends in `Q` or fails in `E`

## Main results

* `Prog.wp_bind`, `Prog.wp_forEach`, `Prog.wp_firstM`: the rules for sequencing and for loops
* `Prog.run_of_wp`: a program run alone keeps its guard and ends in its postcondition
* `Prog.wpAlone_of_only`: what a program does that requests operations of one kind only
* `Prog.run_linked`: the trace of a run is a chain of operations from its first to its last store
-/

namespace Effects

/-- Where a read goes: to a cache of the store, or to the store itself. -/
inductive Reader
  | cached
  | direct
  deriving DecidableEq, Repr

/-- A program that asks its environment, reads the store and requests operations on it. -/
inductive Prog (ι σ ω ε α : Type) : Type
  | ret (a : α)
  | fail (e : ε)
  | ask (k : ι → Prog ι σ ω ε α)
  | read (r : Reader) (k : Except ε σ → Prog ι σ ω ε α)
  | call (o : ω) (k : Except ε Unit → Prog ι σ ω ε α)

variable {ι σ ω ε α β : Type}

namespace Prog

/-- Sequencing: `f` continues each result of `p`. -/
def bind : Prog ι σ ω ε α → (α → Prog ι σ ω ε β) → Prog ι σ ω ε β
  | .ret a, f => f a
  | .fail e, _ => .fail e
  | .ask k, f => .ask fun i => (k i).bind f
  | .read r k, f => .read r fun v => (k v).bind f
  | .call o k, f => .call o fun v => (k v).bind f

instance : Monad (Prog ι σ ω ε) where
  pure := .ret
  bind := .bind

instance : LawfulMonad (Prog ι σ ω ε) := by
  have bind_ret {α : Type} (p : Prog ι σ ω ε α) : p.bind .ret = p := by
    induction p with
    | ret a => rfl
    | fail e => rfl
    | ask k ih => simp only [bind, ih]
    | read r k ih => simp only [bind, ih]
    | call o k ih => simp only [bind, ih]
  have assoc {α β γ : Type} (p : Prog ι σ ω ε α) (f : α → Prog ι σ ω ε β) (g : β → Prog ι σ ω ε γ) :
      (p.bind f).bind g = p.bind fun a => (f a).bind g := by
    induction p with
    | ret a => rfl
    | fail e => rfl
    | ask k ih => simp only [bind, ih]
    | read r k ih => simp only [bind, ih]
    | call o k ih => simp only [bind, ih]
  exact LawfulMonad.mk' _ bind_ret (fun _ _ => rfl) assoc

/-- A program whose errors are results: `f` continues the result or the error of `p`. -/
def bindResult : Prog ι σ ω ε α → (Except ε α → Prog ι σ ω ε β) → Prog ι σ ω ε β
  | .ret a, f => f (.ok a)
  | .fail e, f => f (.error e)
  | .ask k, f => .ask fun i => (k i).bindResult f
  | .read r k, f => .read r fun v => (k v).bindResult f
  | .call o k, f => .call o fun v => (k v).bindResult f

def mapError (f : ε → ε) (p : Prog ι σ ω ε α) : Prog ι σ ω ε α :=
  p.bindResult fun
    | .ok a => .ret a
    | .error e => .fail (f e)

theorem map_mapError (φ : α → β) (f : ε → ε) (p : Prog ι σ ω ε α) :
    φ <$> p.mapError f = (φ <$> p).mapError f := by
  induction p with
  | ret a => rfl
  | fail e => rfl
  | ask k ih => exact congrArg Prog.ask (funext ih)
  | read r k ih => exact congrArg (Prog.read r) (funext ih)
  | call o k ih => exact congrArg (Prog.call o) (funext ih)

def answer : Prog ι σ ω ε ι := .ask .ret

/-- A read of the store through the view `f`; a fault stops the program. -/
def fetch (r : Reader) (f : σ → α) : Prog ι σ ω ε α :=
  .read r fun
    | .ok s => .ret (f s)
    | .error e => .fail e

/-- An operation; its error stops the program unless it is one the caller tolerates. -/
def performUnless (tolerated : ε → Bool) (o : ω) : Prog ι σ ω ε Unit :=
  .call o fun
    | .ok () => .ret ()
    | .error e => if tolerated e then .ret () else .fail e

/-- An operation whose error stops the program. -/
def perform (o : ω) : Prog ι σ ω ε Unit := performUnless (fun _ => false) o

/-- A loop over a list that carries an accumulator. -/
def forEach : List β → α → (α → β → Prog ι σ ω ε α) → Prog ι σ ω ε α
  | [], a, _ => .ret a
  | b :: bs, a, f => (f a b).bind fun a' => forEach bs a' f

theorem forEach_append (bs cs : List β) (a : α) (f : α → β → Prog ι σ ω ε α) :
    forEach (bs ++ cs) a f = forEach bs a f >>= fun a => forEach cs a f := by
  induction bs generalizing a with
  | nil => rfl
  | cons b bs ih =>
    change (f a b >>= fun a => forEach (bs ++ cs) a f) = (f a b >>= fun a => forEach bs a f) >>= _
    rw [bind_assoc]
    exact bind_congr fun a => ih a

/-- A loop that keeps more than another, seen without what it keeps. -/
theorem map_forEach {γ : Type} {f : α → β → Prog ι σ ω ε α} {g : γ → β → Prog ι σ ω ε γ} {φ : γ → α}
    (h : ∀ c b, φ <$> g c b = f (φ c) b) (bs : List β) (c : γ) :
    φ <$> forEach bs c g = forEach bs (φ c) f := by
  induction bs generalizing c with
  | nil => rfl
  | cons b bs ih =>
    change φ <$> (g c b >>= fun c => forEach bs c g) = f (φ c) b >>= fun a => forEach bs a f
    rw [← h, map_bind, bind_map_left]
    exact bind_congr fun c => ih c

/-- A loop over a list that stops at the first result. -/
def firstM : List β → (β → Prog ι σ ω ε (Option α)) → Prog ι σ ω ε (Option α)
  | [], _ => .ret none
  | b :: bs, f => (f b).bind fun
    | some a => .ret (some a)
    | none => firstM bs f

end Prog

/-! ## Running a program alone -/

/-- Which environment answers refuse a request, what a cache shows, and what an accepted operation
does. -/
structure Machine (ι σ ω ε : Type) where
  fault : ι → Option ε
  view : ι → σ → σ
  exec : σ → ω → Except ε σ

namespace Machine

variable (M : Machine ι σ ω ε)

def shown : Reader → ι → σ → σ
  | .cached, i, s => M.view i s
  | .direct, _, s => s

def look (r : Reader) (i : ι) (s : σ) : Except ε σ :=
  match M.fault i with
  | some e => .error e
  | none => .ok (M.shown r i s)

/-- The store after an operation, or the error that refused it. -/
def attempt (i : ι) (s : σ) (o : ω) : Except ε σ :=
  match M.fault i with
  | some e => .error e
  | none => M.exec s o

end Machine

/-- What a run leaves: the operations it performed, each with the store it acted on, the last
store, the answers not yet consumed, and its result. -/
structure Outcome (ι σ ω ε α : Type) where
  trace : List (σ × ω)
  state : σ
  rest : ℕ → ι
  result : Except ε α

/-- The outcome with one earlier operation. -/
def Outcome.cons (e : σ × ω) (r : Outcome ι σ ω ε α) : Outcome ι σ ω ε α :=
  { r with trace := e :: r.trace }

/-- The run ended in `Q`, or failed in `E`. -/
def Outcome.Ends (Q : α → σ → Prop) (E : ε → σ → Prop) (r : Outcome ι σ ω ε α) : Prop :=
  match r.result with
  | .ok a => Q a r.state
  | .error e => E e r.state

variable {Q : α → σ → Prop} {E : ε → σ → Prop} {r : Outcome ι σ ω ε α} {exec : σ → ω → Except ε σ}
  {G : σ → ω → Prop} {t : σ} {tr : List (σ × ω)}

theorem Outcome.Ends.ok {a : α} (h : r.Ends Q E) (hr : r.result = .ok a) : Q a r.state := by
  simpa only [Ends, hr] using h

theorem Outcome.Ends.error {e : ε} (h : r.Ends Q E) (hr : r.result = .error e) : E e r.state := by
  simpa only [Ends, hr] using h

/-- The outcome of a program goes on with the outcome of its continuation. -/
def Outcome.andThen (r : Outcome ι σ ω ε α) (f : α → (ℕ → ι) → σ → Outcome ι σ ω ε β) :
    Outcome ι σ ω ε β :=
  match r.result with
  | .ok a => { f a r.rest r.state with trace := r.trace ++ (f a r.rest r.state).trace }
  | .error e => { r with result := .error e }

namespace Prog

variable (M : Machine ι σ ω ε)

/-- The outcome of a program run alone, consuming the answers `orc` in order. -/
def run : Prog ι σ ω ε α → (ℕ → ι) → σ → Outcome ι σ ω ε α
  | .ret a, orc, s => ⟨[], s, orc, .ok a⟩
  | .fail e, orc, s => ⟨[], s, orc, .error e⟩
  | .ask k, orc, s => (k (orc 0)).run (fun n => orc (n + 1)) s
  | .read r k, orc, s => (k (M.look r (orc 0) s)).run (fun n => orc (n + 1)) s
  | .call o k, orc, s =>
    match M.attempt (orc 0) s o with
    | .error e => (k (.error e)).run (fun n => orc (n + 1)) s
    | .ok s' => ((k (.ok ())).run (fun n => orc (n + 1)) s').cons (s, o)

/-- Every answer the run consumes satisfies `A` in the store it is given in. -/
def Admits (A : σ → ι → Prop) : Prog ι σ ω ε α → (ℕ → ι) → σ → Prop
  | .ret _, _, _ => True
  | .fail _, _, _ => True
  | .ask k, orc, s => A s (orc 0) ∧ (k (orc 0)).Admits A (fun n => orc (n + 1)) s
  | .read r k, orc, s =>
    A s (orc 0) ∧ (k (M.look r (orc 0) s)).Admits A (fun n => orc (n + 1)) s
  | .call o k, orc, s =>
    match M.attempt (orc 0) s o with
    | .error e => (k (.error e)).Admits A (fun n => orc (n + 1)) s
    | .ok s' => (k (.ok ())).Admits A (fun n => orc (n + 1)) s'

variable {M} {p : Prog ι σ ω ε α} {orc : ℕ → ι} {s : σ}

theorem admits_of_forall {A : σ → ι → Prop} (h : ∀ n s, A s (orc n)) : p.Admits M A orc s := by
  induction p generalizing orc s with
  | ret a => trivial
  | fail e => trivial
  | ask k ih => exact ⟨h 0 s, ih _ fun n => h (n + 1)⟩
  | read r k ih => exact ⟨h 0 s, ih _ fun n => h (n + 1)⟩
  | call o k ih =>
    unfold Admits
    split <;> exact ih _ fun n => h (n + 1)

/-- Whether a run's answers are admitted can be found out by running it. -/
instance decidableAdmits {A : σ → ι → Prop} [∀ s i, Decidable (A s i)] :
    (p : Prog ι σ ω ε α) → (orc : ℕ → ι) → (s : σ) → Decidable (p.Admits M A orc s)
  | .ret _, _, _ => .isTrue trivial
  | .fail _, _, _ => .isTrue trivial
  | .ask k, orc, s =>
    have : Decidable ((k (orc 0)).Admits M A (fun n => orc (n + 1)) s) := decidableAdmits _ _ _
    inferInstanceAs (Decidable (A s (orc 0) ∧ _))
  | .read r k, orc, s =>
    have : Decidable ((k (M.look r (orc 0) s)).Admits M A (fun n => orc (n + 1)) s) :=
      decidableAdmits _ _ _
    inferInstanceAs (Decidable (A s (orc 0) ∧ _))
  | .call o k, orc, s =>
    match h : M.attempt (orc 0) s o with
    | .error e =>
      have : Decidable ((k (.error e)).Admits M A (fun n => orc (n + 1)) s) := decidableAdmits _ _ _
      decidable_of_iff ((k (.error e)).Admits M A (fun n => orc (n + 1)) s) (by simp [Admits, h])
    | .ok s' =>
      have : Decidable ((k (.ok ())).Admits M A (fun n => orc (n + 1)) s') := decidableAdmits _ _ _
      decidable_of_iff ((k (.ok ())).Admits M A (fun n => orc (n + 1)) s') (by simp [Admits, h])

theorem run_bind (p : Prog ι σ ω ε α) (f : α → Prog ι σ ω ε β) (orc : ℕ → ι) (s : σ) :
    (p >>= f).run M orc s = (p.run M orc s).andThen fun a orc s => (f a).run M orc s := by
  change (p.bind f).run M orc s = _
  induction p generalizing orc s with
  | ret a => rfl
  | fail e => rfl
  | ask k ih => exact ih _ _ _
  | read r k ih => exact ih _ _ _
  | call o k ih =>
    simp only [Prog.bind, run]
    split
    · exact ih _ _ _
    · next s' _ =>
      rw [ih]
      cases h : ((k (.ok ())).run M (fun n => orc (n + 1)) s').result <;>
        simp [Outcome.andThen, Outcome.cons, h]

/-- An operation of a composed program is one of its first part, or of the second part where the
first one ended. -/
theorem mem_trace_bind {f : α → Prog ι σ ω ε β} {e : σ × ω} (h : e ∈ ((p >>= f).run M orc s).trace) :
    e ∈ (p.run M orc s).trace ∨ ∃ a, (p.run M orc s).result = .ok a ∧
      e ∈ ((f a).run M (p.run M orc s).rest (p.run M orc s).state).trace := by
  rw [run_bind, Outcome.andThen] at h
  split at h
  · next a ha => exact (List.mem_append.mp h).imp_right fun h => ⟨a, ha, h⟩
  · exact .inl h

/-- A composed program that ends has ended its first part, and its second where that one ended. -/
theorem run_bind_of_ok {f : α → Prog ι σ ω ε β} {b : β} (h : ((p >>= f).run M orc s).result = .ok b) :
    ∃ a, (p.run M orc s).result = .ok a ∧
      ((f a).run M (p.run M orc s).rest (p.run M orc s).state).result = .ok b ∧
      ((p >>= f).run M orc s).state = ((f a).run M (p.run M orc s).rest (p.run M orc s).state).state := by
  rw [run_bind, Outcome.andThen] at h ⊢
  split at h
  · next a ha => exact ⟨a, ha, h, rfl⟩
  · cases h

end Prog

/-- The operations of `tr` lead from `s` to `t`, each from the store recorded with it. -/
def Linked (exec : σ → ω → Except ε σ) : σ → List (σ × ω) → σ → Prop
  | s, [], t => s = t
  | s, (u, o) :: tr, t => u = s ∧ ∃ s', exec s o = .ok s' ∧ Linked exec s' tr t

variable {s : σ}

/-- **Invariants of a trace**: what every guarded operation preserves holds in every store of the
trace, the last one included. -/
theorem Linked.invariant {I : σ → Prop} (step : ∀ s o s', I s → G s o → exec s o = .ok s' → I s')
    (h : Linked exec s tr t) (hG : ∀ e ∈ tr, G e.1 e.2) (hs : I s) : (∀ e ∈ tr, I e.1) ∧ I t := by
  induction tr generalizing s with
  | nil => exact ⟨by simp, h ▸ hs⟩
  | cons e tr ih =>
    obtain ⟨u, o⟩ := e
    obtain ⟨rfl, s', hs', h⟩ := h
    have ⟨htr, ht⟩ := ih h (fun e he => hG e (by simp [he]))
      (step _ o s' hs (hG (u, o) (by simp)) hs')
    exact ⟨List.forall_mem_cons.mpr ⟨hs, htr⟩, ht⟩

/-- **Operations that happen once**: when an operation of a kind leads to stores in which no more of
that kind happen, the trace holds at most one of them. -/
theorem Linked.atMostOnce {D : σ → ω → Prop} {J K : σ → Prop}
    (keep : ∀ s o s', J s → G s o → exec s o = .ok s' → J s')
    (block : ∀ s o s', J s → K s → G s o → exec s o = .ok s' → ¬ D s o ∧ K s')
    (first : ∀ s o s', J s → G s o → D s o → exec s o = .ok s' → K s') (h : Linked exec s tr t)
    (hG : ∀ e ∈ tr, G e.1 e.2) (hs : J s) :
    J t ∧ (K s → (∀ e ∈ tr, ¬ D e.1 e.2) ∧ K t) ∧ ((∃ e ∈ tr, D e.1 e.2) → K t) ∧
      tr.Pairwise fun e e' => ¬ (D e.1 e.2 ∧ D e'.1 e'.2) := by
  induction tr generalizing s with
  | nil => exact ⟨h ▸ hs, fun hK => ⟨by simp, h ▸ hK⟩, by simp, .nil⟩
  | cons e tr ih =>
    obtain ⟨u, o⟩ := e
    obtain ⟨rfl, s', hs', h⟩ := h
    have hGo := hG (u, o) (by simp)
    have ⟨hJ, hblocked, hafter, hpairs⟩ := ih h (fun e he => hG e (by simp [he]))
      (keep u o s' hs hGo hs')
    refine ⟨hJ, fun hK => ?_, ?_, List.pairwise_cons.mpr ⟨fun e he ⟨hD, hD'⟩ => ?_, hpairs⟩⟩
    · have ⟨hD, hK'⟩ := block u o s' hs hK hGo hs'
      have ⟨hrest, ht⟩ := hblocked hK'
      exact ⟨List.forall_mem_cons.mpr ⟨hD, hrest⟩, ht⟩
    · rintro ⟨e, he, hD⟩
      rcases List.mem_cons.mp he with rfl | he
      · exact (hblocked (first u o s' hs hGo hD hs')).2
      · exact hafter ⟨e, he, hD⟩
    · exact (hblocked (first u o s' hs hGo hD hs')).1 e he hD'

theorem Machine.exec_of_attempt {M : Machine ι σ ω ε} {i : ι} {s' : σ} {o : ω}
    (h : M.attempt i s o = .ok s') : M.exec s o = .ok s' := by
  unfold Machine.attempt at h
  split at h
  · cases h
  · exact h

/-- **The trace of a run** leads from the store it starts in to the store it ends in. -/
theorem Prog.run_linked (M : Machine ι σ ω ε) (p : Prog ι σ ω ε α) (orc : ℕ → ι) (s : σ) :
    Linked M.exec s (p.run M orc s).trace (p.run M orc s).state := by
  induction p generalizing orc s with
  | ret a => rfl
  | fail e => rfl
  | ask k ih => exact ih _ _ _
  | read r k ih => exact ih _ _ _
  | call o k ih =>
    simp only [run]
    split
    · exact ih _ _ _
    · next s' h => exact ⟨rfl, s', M.exec_of_attempt h, ih _ _ _⟩

/-! ## Preconditions -/

namespace Prog

/-- Under interference `R` and answers `A`, every operation of the program satisfies `G` in the
store it acts on, and the program ends in `Q` or fails in `E`. -/
def wp (M : Machine ι σ ω ε) (R : σ → σ → Prop) (A : σ → ι → Prop) (G : σ → ω → Prop) :
    Prog ι σ ω ε α → (α → σ → Prop) → (ε → σ → Prop) → σ → Prop
  | .ret a, Q, _, s => ∀ t, R s t → Q a t
  | .fail e, _, E, s => ∀ t, R s t → E e t
  | .ask k, Q, E, s => ∀ t, R s t → ∀ i, A t i → (k i).wp M R A G Q E t
  | .read r k, Q, E, s => ∀ t, R s t →
    (∀ i e, M.fault i = some e → (k (.error e)).wp M R A G Q E t) ∧
      ∀ i, A t i → (k (.ok (M.shown r i t))).wp M R A G Q E t
  | .call o k, Q, E, s => ∀ t, R s t →
    (∀ i e, M.attempt i t o = .error e → (k (.error e)).wp M R A G Q E t) ∧
      ∀ t', M.exec t o = .ok t' → G t o ∧ (k (.ok ())).wp M R A G Q E t'

section Rules

variable {M : Machine ι σ ω ε} {R : σ → σ → Prop} {A : σ → ι → Prop} {G : σ → ω → Prop}
  {Q : α → σ → Prop} {E : ε → σ → Prop} {s : σ} {p : Prog ι σ ω ε α}

theorem wp_conseq {Q' : α → σ → Prop} {E' : ε → σ → Prop} (h : p.wp M R A G Q E s)
    (hQ : ∀ a t, Q a t → Q' a t) (hE : ∀ e t, E e t → E' e t) : p.wp M R A G Q' E' s := by
  induction p generalizing s with
  | ret a => exact fun t ht => hQ a t (h t ht)
  | fail e => exact fun t ht => hE e t (h t ht)
  | ask k ih => exact fun t ht i hi => ih i (h t ht i hi)
  | read r k ih =>
    exact fun t ht => ⟨fun i e he => ih _ ((h t ht).1 i e he), fun i hi => ih _ ((h t ht).2 i hi)⟩
  | call o k ih =>
    exact fun t ht => ⟨fun i e he => ih _ ((h t ht).1 i e he), fun t' ht' =>
      ⟨((h t ht).2 t' ht').1, ih _ ((h t ht).2 t' ht').2⟩⟩

/-- Interference before the program starts is interference before its first request. -/
theorem wp_stable (hR : ∀ {a b c}, R a b → R b c → R a c) {t : σ} (h : p.wp M R A G Q E s)
    (hst : R s t) : p.wp M R A G Q E t := by
  cases p with
  | ret a => exact fun u hu => h u (hR hst hu)
  | fail e => exact fun u hu => h u (hR hst hu)
  | ask k => exact fun u hu => h u (hR hst hu)
  | read r k => exact fun u hu => h u (hR hst hu)
  | call o k => exact fun u hu => h u (hR hst hu)

/-- **Sequencing**: the postcondition of the first program is the precondition of the second. -/
theorem wp_bind (hR : ∀ a, R a a) {f : α → Prog ι σ ω ε β} {Q : β → σ → Prop}
    (h : p.wp M R A G (fun a => (f a).wp M R A G Q E) E s) : (p.bind f).wp M R A G Q E s := by
  induction p generalizing s with
  | ret a => exact h s (hR s)
  | fail e => exact h
  | ask k ih => exact fun t ht i hi => ih i (h t ht i hi)
  | read r k ih =>
    exact fun t ht => ⟨fun i e he => ih _ ((h t ht).1 i e he), fun i hi => ih _ ((h t ht).2 i hi)⟩
  | call o k ih =>
    exact fun t ht => ⟨fun i e he => ih _ ((h t ht).1 i e he), fun t' ht' =>
      ⟨((h t ht).2 t' ht').1, ih _ ((h t ht).2 t' ht').2⟩⟩

theorem wp_bindResult (hR : ∀ a, R a a) {f : Except ε α → Prog ι σ ω ε β} {Q : β → σ → Prop}
    (h : p.wp M R A G (fun a => (f (.ok a)).wp M R A G Q E)
      (fun e => (f (.error e)).wp M R A G Q E) s) : (p.bindResult f).wp M R A G Q E s := by
  induction p generalizing s with
  | ret a => exact h s (hR s)
  | fail e => exact h s (hR s)
  | ask k ih => exact fun t ht i hi => ih i (h t ht i hi)
  | read r k ih =>
    exact fun t ht => ⟨fun i e he => ih _ ((h t ht).1 i e he), fun i hi => ih _ ((h t ht).2 i hi)⟩
  | call o k ih =>
    exact fun t ht => ⟨fun i e he => ih _ ((h t ht).1 i e he), fun t' ht' =>
      ⟨((h t ht).2 t' ht').1, ih _ ((h t ht).2 t' ht').2⟩⟩

variable {bs : List β} {k : β → Prog ι σ ω ε α} {o : ω}

/-- **Loops**: an invariant of the accumulator and of the items still to come, stable under
interference, holds at the end when every iteration keeps it. -/
theorem wp_forEach (hR : ∀ a, R a a) {f : α → β → Prog ι σ ω ε α} {I : List β → α → σ → Prop}
    (stable : ∀ bs a s t, I bs a s → R s t → I bs a t)
    (step : ∀ b bs a s, I (b :: bs) a s → (f a b).wp M R A G (I bs) E s) {a : α} (h : I bs a s) :
    (forEach bs a f).wp M R A G (I []) E s := by
  induction bs generalizing a s with
  | nil => exact fun t ht => stable [] a s t h ht
  | cons b bs ih =>
    exact wp_bind hR (wp_conseq (step b bs a s h) (fun _ _ ha' => ih ha') fun _ _ he => he)

/-- Loops that stop at the first result: an invariant of the items still to come holds while there
is none. -/
theorem wp_firstM (hR : ∀ a, R a a) {f : β → Prog ι σ ω ε (Option α)} {I : List β → σ → Prop}
    {Q : Option α → σ → Prop} (stable : ∀ o s t, Q o s → R s t → Q o t)
    (step : ∀ b bs s, I (b :: bs) s →
      (f b).wp M R A G (fun o t => o.casesOn (I bs t) fun a => Q (some a) t) E s)
    (done : ∀ s, I [] s → Q none s) (h : I bs s) : (firstM bs f).wp M R A G Q E s := by
  induction bs generalizing s with
  | nil => exact fun t ht => stable none s t (done s h) ht
  | cons b bs ih =>
    refine wp_bind hR (wp_conseq (step b bs s h) (fun o t ho => ?_) fun _ _ he => he)
    cases o with
    | none => exact ih ho
    | some a => exact fun u hu => stable _ t u ho hu

theorem wp_fetch_bind (hE : ∀ e t, E e t) {r : Reader} {f : σ → β}
    (h : ∀ t, R s t → ∀ i, A t i → (k (f (M.shown r i t))).wp M R A G Q E t) :
    (fetch r f >>= k).wp M R A G Q E s :=
  fun t ht => ⟨fun _ e _ u _ => hE e u, fun i hi => h t ht i hi⟩

theorem wp_answer_bind {k : ι → Prog ι σ ω ε α}
    (h : ∀ t, R s t → ∀ i, A t i → (k i).wp M R A G Q E t) : (answer >>= k).wp M R A G Q E s :=
  fun t ht i hi => h t ht i hi

theorem wp_performUnless_bind (hE : ∀ e t, E e t) {tolerated : ε → Bool} {k : Unit → Prog ι σ ω ε α}
    (refused : ∀ t, R s t → (k ()).wp M R A G Q E t)
    (accepted : ∀ t, R s t → ∀ t', M.exec t o = .ok t' → G t o ∧ (k ()).wp M R A G Q E t') :
    (performUnless tolerated o >>= k).wp M R A G Q E s := by
  refine fun t ht => ⟨fun i e _ => ?_, accepted t ht⟩
  dsimp only
  by_cases he : tolerated e
  · rw [if_pos he]
    exact refused t ht
  · rw [if_neg he]
    exact fun u _ => hE e u

theorem wp_perform_bind (hE : ∀ e t, E e t) {k : Unit → Prog ι σ ω ε α}
    (accepted : ∀ t, R s t → ∀ t', M.exec t o = .ok t' → G t o ∧ (k ()).wp M R A G Q E t') :
    (perform o >>= k).wp M R A G Q E s :=
  fun t ht => ⟨fun _ e _ u _ => hE e u, accepted t ht⟩

theorem wp_mapError_bind (hE : ∀ e t, E e t) {p : Prog ι σ ω ε β} {f : ε → ε}
    (h : (p >>= k).wp M R A G Q E s) : (p.mapError f >>= k).wp M R A G Q E s := by
  induction p generalizing s with
  | ret a => exact h
  | fail e => exact fun t _ => hE _ t
  | ask k ih => exact fun t ht i hi => ih i (h t ht i hi)
  | read r k ih =>
    exact fun t ht => ⟨fun i e he => ih _ ((h t ht).1 i e he), fun i hi => ih _ ((h t ht).2 i hi)⟩
  | call o k ih =>
    exact fun t ht => ⟨fun i e he => ih _ ((h t ht).1 i e he), fun t' ht' =>
      ⟨((h t ht).2 t' ht').1, ih _ ((h t ht).2 t' ht').2⟩⟩

end Rules

/-! ## Preconditions of a program run alone -/

section Alone

variable {M : Machine ι σ ω ε} {A : σ → ι → Prop} {G : σ → ω → Prop} {Q : α → σ → Prop}
  {E : ε → σ → Prop} {s : σ}

/-- The precondition of a program that nothing interferes with. -/
def wpAlone (M : Machine ι σ ω ε) (A : σ → ι → Prop) (G : σ → ω → Prop) (p : Prog ι σ ω ε α)
    (Q : α → σ → Prop) (E : ε → σ → Prop) (s : σ) : Prop :=
  p.wp M Eq A G Q E s

variable {p : Prog ι σ ω ε α}

theorem wpAlone_conseq {Q' : α → σ → Prop} {E' : ε → σ → Prop} (h : wpAlone M A G p Q E s)
    (hQ : ∀ a t, Q a t → Q' a t) (hE : ∀ e t, E e t → E' e t) : wpAlone M A G p Q' E' s :=
  wp_conseq h hQ hE

variable {a : α} {o : ω} {bs : List β}

@[simp] theorem wpAlone_pure :
    wpAlone M A G (pure a : Prog ι σ ω ε α) Q E s ↔ Q a s := by simp [wpAlone, wp, pure]

@[simp] theorem wpAlone_fail {e : ε} :
    wpAlone M A G (.fail e : Prog ι σ ω ε α) Q E s ↔ E e s := by simp [wpAlone, wp]

theorem wpAlone_bind {f : α → Prog ι σ ω ε β} {Q : β → σ → Prop}
    (h : wpAlone M A G p (fun a => wpAlone M A G (f a) Q E) E s) : wpAlone M A G (p >>= f) Q E s :=
  wp_bind (fun _ => rfl) h

theorem wpAlone_bindResult {f : Except ε α → Prog ι σ ω ε β} {Q : β → σ → Prop}
    (h : wpAlone M A G p (fun a => wpAlone M A G (f (.ok a)) Q E)
      (fun e => wpAlone M A G (f (.error e)) Q E) s) : wpAlone M A G (p.bindResult f) Q E s :=
  wp_bindResult (fun _ => rfl) h

theorem wpAlone_mapError {f : ε → ε} (h : wpAlone M A G p Q (fun e => E (f e)) s) :
    wpAlone M A G (p.mapError f) Q E s :=
  wpAlone_bindResult (wpAlone_conseq h (fun _ _ hQ => wpAlone_pure.mpr hQ)
    fun _ _ hE => wpAlone_fail.mpr hE)

@[simp] theorem wpAlone_answer {Q : ι → σ → Prop} :
    wpAlone M A G (answer : Prog ι σ ω ε ι) Q E s ↔ ∀ i, A s i → Q i s := by
  simp [wpAlone, answer, wp]

@[simp] theorem wpAlone_fetch {r : Reader} {f : σ → α} :
    wpAlone M A G (fetch r f : Prog ι σ ω ε α) Q E s ↔
      (∀ i e, M.fault i = some e → E e s) ∧ ∀ i, A s i → Q (f (M.shown r i s)) s := by
  simp [wpAlone, fetch, wp]

theorem wpAlone_performUnless {tolerated : ε → Bool} {Q : Unit → σ → Prop}
    (refused : ∀ i e, M.attempt i s o = .error e → if tolerated e then Q () s else E e s)
    (accepted : ∀ s', M.exec s o = .ok s' → G s o ∧ Q () s') :
    wpAlone M A G (performUnless tolerated o : Prog ι σ ω ε Unit) Q E s := by
  rintro t rfl
  refine ⟨fun i e he => ?_, fun t' ht' => ?_⟩
  · have := refused i e he
    by_cases h : tolerated e <;> simp only [h] at this ⊢ <;> rintro u rfl <;> exact this
  · have ⟨hG, hQ⟩ := accepted t' ht'
    exact ⟨hG, fun u hu => hu ▸ hQ⟩

theorem wpAlone_perform {Q : Unit → σ → Prop} (refused : ∀ i e, M.attempt i s o = .error e → E e s)
    (accepted : ∀ s', M.exec s o = .ok s' → G s o ∧ Q () s') :
    wpAlone M A G (perform o : Prog ι σ ω ε Unit) Q E s :=
  wpAlone_performUnless refused accepted

theorem wpAlone_forEach {f : α → β → Prog ι σ ω ε α} {I : List β → α → σ → Prop}
    (step : ∀ b bs a s, I (b :: bs) a s → wpAlone M A G (f a b) (I bs) E s) (h : I bs a s) :
    wpAlone M A G (forEach bs a f) (I []) E s :=
  wp_forEach (fun _ => rfl) (fun _ _ _ _ hI ht => ht ▸ hI) step h

theorem wpAlone_firstM {f : β → Prog ι σ ω ε (Option α)} {I : List β → σ → Prop}
    {Q : Option α → σ → Prop} (step : ∀ b bs s, I (b :: bs) s →
      wpAlone M A G (f b) (fun o t => o.casesOn (I bs t) fun a => Q (some a) t) E s)
    (done : ∀ s, I [] s → Q none s) (h : I bs s) : wpAlone M A G (firstM bs f) Q E s :=
  wp_firstM (fun _ => rfl) (fun _ _ _ hQ ht => ht ▸ hQ) step done h

/-- **Soundness**: a program run alone performs only operations that satisfy its guard, and ends in
its postcondition. -/
theorem run_of_wp {orc : ℕ → ι} (h : wpAlone M A G p Q E s) (hA : p.Admits M A orc s) :
    (∀ e ∈ (p.run M orc s).trace, G e.1 e.2) ∧ (p.run M orc s).Ends Q E := by
  induction p generalizing orc s with
  | ret a => exact ⟨by simp [run], h s rfl⟩
  | fail e => exact ⟨by simp [run], h s rfl⟩
  | ask k ih => exact ih _ (h s rfl _ hA.1) hA.2
  | read r k ih =>
    obtain ⟨hi, hA⟩ := hA
    rcases hf : M.fault (orc 0) with _ | e
    · have hlook : M.look r (orc 0) s = .ok (M.shown r (orc 0) s) := by simp [Machine.look, hf]
      simp only [run, hlook] at hA ⊢
      exact ih _ ((h s rfl).2 _ hi) hA
    · have hlook : M.look r (orc 0) s = .error e := by simp [Machine.look, hf]
      simp only [run, hlook] at hA ⊢
      exact ih _ ((h s rfl).1 _ _ hf) hA
  | call o k ih =>
    simp only [run, Admits] at hA ⊢
    split
    · next e he => exact ih _ ((h s rfl).1 _ _ he) (by simpa [he] using hA)
    · next s' hs' =>
      have ⟨hG, hk⟩ := (h s rfl).2 s' (M.exec_of_attempt hs')
      have hA' : (k (.ok ())).Admits M A (fun n => orc (n + 1)) s' := by simpa [hs'] using hA
      have ⟨htrace, hends⟩ := ih _ hk hA'
      exact ⟨List.forall_mem_cons.mpr ⟨hG, htrace⟩, hends⟩

end Alone

/-! ## Programs of one kind of operation -/

/-- Every operation the program may request satisfies `P`. -/
def Only (P : ω → Prop) : Prog ι σ ω ε α → Prop
  | .ret _ => True
  | .fail _ => True
  | .ask k => ∀ i, (k i).Only P
  | .read _ k => ∀ v, (k v).Only P
  | .call o k => P o ∧ ∀ v, (k v).Only P

section Only

variable {P : ω → Prop} {a : α} {o : ω} {bs : List β} {M : Machine ι σ ω ε}

@[simp] theorem only_pure : (pure a : Prog ι σ ω ε α).Only P := trivial

@[simp] theorem only_fail {e : ε} : (.fail e : Prog ι σ ω ε α).Only P := trivial

variable {p : Prog ι σ ω ε α}

theorem only_bind {f : α → Prog ι σ ω ε β} (hp : p.Only P) (hf : ∀ a, (f a).Only P) :
    (p >>= f).Only P := by
  induction p with
  | ret a => exact hf a
  | fail e => trivial
  | ask k ih => exact fun i => ih i (hp i)
  | read r k ih => exact fun v => ih v (hp v)
  | call o k ih => exact ⟨hp.1, fun v => ih v (hp.2 v)⟩

theorem only_bindResult {f : Except ε α → Prog ι σ ω ε β} (hp : p.Only P) (hf : ∀ a, (f a).Only P) :
    (p.bindResult f).Only P := by
  induction p with
  | ret a => exact hf _
  | fail e => exact hf _
  | ask k ih => exact fun i => ih i (hp i)
  | read r k ih => exact fun v => ih v (hp v)
  | call o k ih => exact ⟨hp.1, fun v => ih v (hp.2 v)⟩

theorem only_mapError {f : ε → ε} (hp : p.Only P) : (p.mapError f).Only P :=
  only_bindResult hp fun
    | .ok _ => trivial
    | .error _ => trivial

@[simp] theorem only_answer : (answer : Prog ι σ ω ε ι).Only P := fun _ => trivial

@[simp] theorem only_fetch {r : Reader} {f : σ → α} : (fetch r f : Prog ι σ ω ε α).Only P
  | .ok _ => trivial
  | .error _ => trivial

theorem only_performUnless {tolerated : ε → Bool} (h : P o) :
    (performUnless tolerated o : Prog ι σ ω ε Unit).Only P := by
  refine ⟨h, fun v => ?_⟩
  cases v with
  | ok u => trivial
  | error e => by_cases he : tolerated e <;> simp [he, Only]

theorem only_perform (h : P o) : (perform o : Prog ι σ ω ε Unit).Only P :=
  only_performUnless h

theorem only_forEach {f : α → β → Prog ι σ ω ε α} (h : ∀ a, ∀ b ∈ bs, (f a b).Only P) :
    (forEach bs a f).Only P := by
  induction bs generalizing a with
  | nil => trivial
  | cons b bs ih =>
    exact only_bind (h a b (by simp)) fun a' => ih fun a b hb => h a b (by simp [hb])

theorem only_firstM {f : β → Prog ι σ ω ε (Option α)} (h : ∀ b ∈ bs, (f b).Only P) :
    (firstM bs f).Only P := by
  induction bs with
  | nil => trivial
  | cons b bs ih =>
    refine only_bind (h b (by simp)) fun o => ?_
    cases o with
    | none => exact ih fun b hb => h b (by simp [hb])
    | some a => trivial

theorem only_true (p : Prog ι σ ω ε α) : p.Only fun _ => True := by
  induction p with
  | ret a => trivial
  | fail e => trivial
  | ask k ih => exact ih
  | read r k ih => exact ih
  | call o k ih => exact ⟨trivial, ih⟩

theorem only_mono {P' : ω → Prop} (h : p.Only P) (hP : ∀ o, P o → P' o) : p.Only P' := by
  induction p with
  | ret a => trivial
  | fail e => trivial
  | ask k ih => exact fun i => ih i (h i)
  | read r k ih => exact fun v => ih v (h v)
  | call o k ih => exact ⟨hP o h.1, fun v => ih v (h.2 v)⟩

theorem wp_of_only {R : σ → σ → Prop} {A : σ → ι → Prop} {G : σ → ω → Prop} (h : p.Only P)
    (hG : ∀ s o, P o → G s o) (s : σ) : p.wp M R A G (fun _ _ => True) (fun _ _ => True) s := by
  induction p generalizing s with
  | ret a => exact fun _ _ => trivial
  | fail e => exact fun _ _ => trivial
  | ask k ih => exact fun t _ i _ => ih i (h i) t
  | read r k ih => exact fun t _ => ⟨fun _ _ _ => ih _ (h _) t, fun _ _ => ih _ (h _) t⟩
  | call o k ih =>
    exact fun t _ => ⟨fun _ _ _ => ih _ (h.2 _) t, fun t' _ => ⟨hG t o h.1, ih _ (h.2 _) t'⟩⟩

theorem only_run (h : p.Only P) (orc : ℕ → ι) (s : σ) : ∀ e ∈ (p.run M orc s).trace, P e.2 := by
  induction p generalizing orc s with
  | ret a => simp [run]
  | fail e => simp [run]
  | ask k ih => exact ih _ (h _) _ _
  | read r k ih => exact ih _ (h _) _ _
  | call o k ih =>
    simp only [run]
    split
    · exact ih _ (h.2 _) _ _
    · exact List.forall_mem_cons.mpr ⟨h.1, ih _ (h.2 _) _ _⟩

end Only

/-! ## What a program may request and return -/

/-- Every operation the program may request satisfies `P`, and every value it may return `Q`,
whatever the machine answers. -/
def Yields (P : ω → Prop) (Q : α → Prop) : Prog ι σ ω ε α → Prop
  | .ret a => Q a
  | .fail _ => True
  | .ask k => ∀ i, (k i).Yields P Q
  | .read _ k => ∀ v, (k v).Yields P Q
  | .call o k => P o ∧ ∀ v, (k v).Yields P Q

section Yields

variable {P : ω → Prop} {Q : α → Prop} {a : α} {p : Prog ι σ ω ε α} {M : Machine ι σ ω ε}
  {A : σ → ι → Prop} {G : σ → ω → Prop}

theorem yields_pure (h : Q a) : (pure a : Prog ι σ ω ε α).Yields P Q := h

theorem yields_fail {e : ε} : (.fail e : Prog ι σ ω ε α).Yields P Q := trivial

theorem yields_of_only (h : p.Only P) : p.Yields P fun _ => True := by
  induction p with
  | ret a => trivial
  | fail e => trivial
  | ask k ih => exact fun i => ih i (h i)
  | read r k ih => exact fun v => ih v (h v)
  | call o k ih => exact ⟨h.1, fun v => ih v (h.2 v)⟩

theorem only_of_yields (h : p.Yields P Q) : p.Only P := by
  induction p with
  | ret a => trivial
  | fail e => trivial
  | ask k ih => exact fun i => ih i (h i)
  | read r k ih => exact fun v => ih v (h v)
  | call o k ih => exact ⟨h.1, fun v => ih v (h.2 v)⟩

variable {f : β → Prog ι σ ω ε α} {bs : List β} {I : σ → Prop}

theorem yields_bind {p : Prog ι σ ω ε β} {Q' : β → Prop} (hp : p.Yields P Q')
    (hf : ∀ b, Q' b → (f b).Yields P Q) : (p >>= f).Yields P Q := by
  induction p with
  | ret a => exact hf a hp
  | fail e => trivial
  | ask k ih => exact fun i => ih i (hp i)
  | read r k ih => exact fun v => ih v (hp v)
  | call o k ih => exact ⟨hp.1, fun v => ih v (hp.2 v)⟩

theorem yields_bind_of_only {p : Prog ι σ ω ε β} (hp : p.Only P) (hf : ∀ b, (f b).Yields P Q) :
    (p >>= f).Yields P Q :=
  yields_bind (yields_of_only hp) fun b _ => hf b

/-- Loops with an invariant of the items still to come and of the accumulator. -/
theorem yields_forEach_rest {f : α → β → Prog ι σ ω ε α} {I : List β → α → Prop}
    (step : ∀ a b bs, I (b :: bs) a → (f a b).Yields P (I bs)) (h : I bs a) :
    (forEach bs a f).Yields P (I []) := by
  induction bs generalizing a with
  | nil => exact h
  | cons b bs ih => exact yields_bind (step a b bs h) fun _ ha' => ih ha'

theorem yields_forEach {f : α → β → Prog ι σ ω ε α} (step : ∀ a, ∀ b ∈ bs, Q a → (f a b).Yields P Q)
    (h : Q a) : (forEach bs a f).Yields P Q := by
  induction bs generalizing a with
  | nil => exact h
  | cons b bs ih =>
    refine yields_bind (step a b List.mem_cons_self h) fun a' ha' => ih (fun a b hb => ?_) ha'
    exact step a b (List.mem_cons_of_mem _ hb)

theorem yields_mapError {f : ε → ε} (hp : p.Yields P Q) : (p.mapError f).Yields P Q := by
  induction p with
  | ret a => exact hp
  | fail e => trivial
  | ask k ih => exact fun i => ih i (hp i)
  | read r k ih => exact fun v => ih v (hp v)
  | call o k ih => exact ⟨hp.1, fun v => ih v (hp.2 v)⟩

theorem yields_mono {P' : ω → Prop} {Q' : α → Prop} (h : p.Yields P Q) (hP : ∀ o, P o → P' o)
    (hQ : ∀ a, Q a → Q' a) : p.Yields P' Q' := by
  induction p with
  | ret a => exact hQ a h
  | fail e => trivial
  | ask k ih => exact fun i => ih i (h i)
  | read r k ih => exact fun v => ih v (h v)
  | call o k ih => exact ⟨hP o h.1, fun v => ih v (h.2 v)⟩

/-- **One kind of operation**: what every operation of the kind preserves, the whole program does. -/
theorem wpAlone_of_yields (step : ∀ s o s', P o → I s → M.exec s o = .ok s' → G s o ∧ I s')
    (h : p.Yields P Q) {s : σ} (hs : I s) :
    wpAlone M A G p (fun a t => Q a ∧ I t) (fun _ => I) s := by
  induction p generalizing s with
  | ret a => exact fun t ht => ht ▸ ⟨h, hs⟩
  | fail e => exact fun t ht => ht ▸ hs
  | ask k ih => exact fun t ht i _ => ht ▸ ih i (h i) hs
  | read r k ih =>
    rintro t rfl
    exact ⟨fun i e _ => ih _ (h _) hs, fun i _ => ih _ (h _) hs⟩
  | call o k ih =>
    rintro t rfl
    refine ⟨fun i e _ => ih _ (h.2 _) hs, fun t' ht' => ?_⟩
    have ⟨hG, ht⟩ := step s o t' h.1 hs ht'
    exact ⟨hG, ih _ (h.2 _) ht⟩

/-- What every operation of a kind preserves, a program that requests no other does. -/
theorem wpAlone_of_only_invariant (step : ∀ s o s', P o → I s → M.exec s o = .ok s' → G s o ∧ I s')
    (h : p.Only P) {s : σ} (hs : I s) : wpAlone M A G p (fun _ => I) (fun _ => I) s :=
  wpAlone_conseq (wpAlone_of_yields step (yields_of_only h) hs) (fun _ _ ht => ht.2) fun _ _ => id

/-- What every operation of a kind relates, a program of that kind does. -/
theorem wpAlone_of_only {R : σ → σ → Prop} (refl : ∀ s, R s s)
    (trans : ∀ {a b c}, R a b → R b c → R a c)
    (step : ∀ s o s', P o → M.exec s o = .ok s' → G s o ∧ R s s') (h : p.Only P) (s : σ) :
    wpAlone M A G p (fun _ t => R s t) (fun _ t => R s t) s :=
  wpAlone_of_only_invariant (I := R s)
    (fun t o t' ho hst ht' => (step t o t' ho ht').imp_right (trans hst)) h (refl s)

end Yields

end Prog

end Effects

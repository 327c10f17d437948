import Mathlib.Data.List.Basic

/-!
# Patches of an array by position

A patch is a list of operations on the elements of an array: a test of the element at a position, and
the removal of the element at a position, which moves the later ones up. A patch that goes from the
last position to the first is not disturbed by its own removals: each operation meets the element that
the array had at the position before the patch.
-/

namespace ArrayPatch

variable {α τ : Type} {holds : τ → α → Bool}

inductive Op (τ : Type) where
  | test (i : ℕ) (t : τ)
  | remove (i : ℕ)

/-- The array after an operation. -/
def Op.apply (holds : τ → α → Bool) (l : List α) : Op τ → Option (List α)
  | test i t => (l[i]?).bind fun a => if holds t a then some l else none
  | remove i => if i < l.length then some (l.eraseIdx i) else none

/-- The array after all operations. -/
def run (holds : τ → α → Bool) : List (Op τ) → List α → Option (List α)
  | [], l => some l
  | op :: ops, l => (op.apply holds l).bind (run holds ops)

/-- What to do at a position: tests first, then a removal. -/
structure Step (τ : Type) where
  tests : List τ := []
  drops : Bool := false

def Step.ops (i : ℕ) (s : Step τ) : List (Op τ) :=
  s.tests.map (.test i) ++ if s.drops then [.remove i] else []

/-- The steps for the first `n` positions, from the last to the first. -/
def script (plan : ℕ → Step τ) : ℕ → List (Op τ)
  | 0 => []
  | n + 1 => (plan n).ops n ++ script plan n

/-- The array without some positions; the first one has the number `i`. -/
def keepFrom (drops : ℕ → Bool) : ℕ → List α → List α
  | _, [] => []
  | i, a :: l => if drops i then keepFrom drops (i + 1) l else a :: keepFrom drops (i + 1) l

def keep (drops : ℕ → Bool) (l : List α) : List α := keepFrom drops 0 l

/-! ### The array without some positions -/

variable {d : ℕ → Bool} {l r : List α} {i : ℕ}

theorem keepFrom_eq_self (h : ∀ j, i ≤ j → d j = false) : keepFrom d i l = l := by
  induction l generalizing i with
  | nil => rfl
  | cons a l ih =>
    rw [keepFrom, h i (Nat.le_refl i), ih fun j hj => h j (Nat.le_of_succ_le hj)]
    rfl

theorem mem_keepFrom {j : ℕ} {a : α} (ha : l[j]? = some a) (hd : d (i + j) = false) :
    a ∈ keepFrom d i l := by
  induction l generalizing i j with
  | nil => cases ha
  | cons b l ih =>
    unfold keepFrom
    cases j with
    | zero =>
      obtain rfl : b = a := Option.some.inj ha
      rw [if_neg (by rw [show d i = false from hd]; exact Bool.false_ne_true)]
      exact List.mem_cons_self
    | succ j =>
      have hmem : a ∈ keepFrom d (i + 1) l := ih ha (by rwa [Nat.add_right_comm])
      split
      · exact hmem
      · exact List.mem_cons_of_mem _ hmem

theorem mem_keep {a : α} (ha : l[i]? = some a) (hd : d i = false) : a ∈ keep d l :=
  mem_keepFrom ha (by rwa [Nat.zero_add])

/-- The last of the positions is taken out first. -/
theorem keepFrom_erase {n : ℕ} :
    keepFrom (fun j => decide (j < i + n + 1) && d j) i l =
      keepFrom (fun j => decide (j < i + n) && d j) i (if d (i + n) then l.eraseIdx n else l) := by
  induction n generalizing i l with
  | zero =>
    rw [keepFrom_eq_self (d := fun j => decide (j < i + 0) && d j)
      fun j hj => by simp [Nat.not_lt.mpr hj]]
    cases l with
    | nil => split <;> rfl
    | cons a l =>
      rw [keepFrom, keepFrom_eq_self fun j hj => by simp [Nat.not_lt.mpr hj]]
      simp
  | succ n ih =>
    cases l with
    | nil => split <;> rfl
    | cons a l =>
      have hstep := ih (i := i + 1) (l := l)
      rw [show i + 1 + n = i + (n + 1) by omega] at hstep
      have hcons : (if d (i + (n + 1)) then (a :: l).eraseIdx (n + 1) else a :: l) =
          a :: if d (i + (n + 1)) then l.eraseIdx n else l := by
        split <;> rfl
      rw [hcons]
      simp only [keepFrom, hstep, show i < i + (n + 1) + 1 by omega, show i < i + (n + 1) by omega]

/-! ### The runs of a patch -/

theorem run_append {ops ops' : List (Op τ)} :
    run holds (ops ++ ops') l = (run holds ops l).bind (run holds ops') := by
  induction ops generalizing l with
  | nil => rfl
  | cons op ops ih =>
    simp only [List.cons_append, run, Option.bind_assoc]
    exact congrArg _ (funext fun _ => ih)

theorem run_tests {tests : List τ} (h : run holds (tests.map (.test i)) l = some r) :
    r = l ∧ ∀ t ∈ tests, ∃ a, l[i]? = some a ∧ holds t a = true := by
  induction tests with
  | nil => exact ⟨(Option.some.inj h).symm, fun t ht => absurd ht List.not_mem_nil⟩
  | cons t tests ih =>
    obtain ⟨l', hop, hrest⟩ := Option.bind_eq_some_iff.mp h
    obtain ⟨a, ha, hholds⟩ := Option.bind_eq_some_iff.mp hop
    split at hholds
    · next htest =>
      obtain rfl := Option.some.inj hholds
      obtain ⟨rfl, htests⟩ := ih hrest
      refine ⟨rfl, fun t' ht' => ?_⟩
      rcases List.mem_cons.mp ht' with rfl | ht'
      · exact ⟨a, ha, htest⟩
      · exact htests t' ht'
    · cases hholds

theorem run_step {s : Step τ} (h : run holds (s.ops i) l = some r) :
    r = (if s.drops then l.eraseIdx i else l) ∧
      ∀ t ∈ s.tests, ∃ a, l[i]? = some a ∧ holds t a = true := by
  unfold Step.ops at h
  rw [run_append] at h
  obtain ⟨l', htests, hrest⟩ := Option.bind_eq_some_iff.mp h
  obtain ⟨rfl, hpass⟩ := run_tests htests
  refine ⟨?_, hpass⟩
  cases hdrops : s.drops with
  | false =>
    rw [hdrops] at hrest
    exact (Option.some.inj hrest).symm
  | true =>
    rw [hdrops] at hrest
    obtain ⟨l'', hop, hnil⟩ := Option.bind_eq_some_iff.mp hrest
    unfold Op.apply at hop
    dsimp only at hop
    split at hop
    · exact (Option.some.inj hnil).symm.trans (Option.some.inj hop).symm
    · cases hop

/-- **A patch from the last position to the first** that applies has tested the elements that the
array has, and leaves the array without the positions it drops. -/
theorem run_script {plan : ℕ → Step τ} {n : ℕ} (h : run holds (script plan n) l = some r) :
    r = keep (fun i => decide (i < n) && (plan i).drops) l ∧
      ∀ i < n, ∀ t ∈ (plan i).tests, ∃ a, l[i]? = some a ∧ holds t a = true := by
  induction n generalizing l with
  | zero =>
    refine ⟨?_, fun i hi => absurd hi (Nat.not_lt_zero i)⟩
    rw [keep, keepFrom_eq_self fun j _ => by simp]
    exact (Option.some.inj h).symm
  | succ n ih =>
    unfold script at h
    rw [run_append] at h
    obtain ⟨l', hstep, hrest⟩ := Option.bind_eq_some_iff.mp h
    obtain ⟨rfl, hpass⟩ := run_step hstep
    obtain ⟨rfl, hpasses⟩ := ih hrest
    constructor
    · have herase := keepFrom_erase (d := fun i => (plan i).drops) (n := n) (l := l) (i := 0)
      rw [Nat.zero_add] at herase
      exact herase.symm
    · intro i hi t ht
      rcases Nat.lt_succ_iff_lt_or_eq.mp hi with hlt | rfl
      · -- a removal behind the position leaves the element alone
        obtain ⟨a, ha, hholds⟩ := hpasses i hlt t ht
        refine ⟨a, ?_, hholds⟩
        split at ha
        · rwa [List.getElem?_eraseIdx_of_lt hlt] at ha
        · exact ha
      · exact hpass t ht

end ArrayPatch

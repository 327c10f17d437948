import Mathlib.Data.List.Basic

/-!
# Calls over a shared memory

Calls run side by side and take turns; a turn of a call is one atomic section of it. A call begins at
any time, and its first section runs at any later time. What holds of every interleaving is what every
beginning and every section preserve.

## Main results

* `Run.invariant`: the rule for invariants
* `mem_set_of_mem`: the other calls are not touched
-/

namespace Interleave

variable {σ κ ι : Type}

/-- The memory and the calls that have begun, each at its next section. -/
structure World (σ κ : Type) where
  mem : σ
  calls : List κ

inductive Event (κ ι : Type)
  | start (c : κ)
  | step (n : ℕ) (i : ι)

/-- Calls over a memory. A section consumes an input, and may not be able to run yet. -/
structure System (σ κ ι : Type) where
  enter : σ → κ → Option σ
  act : σ → κ → ι → Option (σ × κ)

/-- One turn. -/
def System.next (S : System σ κ ι) (w : World σ κ) : Event κ ι → Option (World σ κ)
  | .start c => (S.enter w.mem c).map fun m => ⟨m, w.calls ++ [c]⟩
  | .step n i => (w.calls[n]?).bind fun c =>
    (S.act w.mem c i).map fun x => ⟨x.1, w.calls.set n x.2⟩

def System.exec (S : System σ κ ι) : World σ κ → List (Event κ ι) → Option (World σ κ)
  | w, [] => some w
  | w, e :: es => (S.next w e).bind fun v => S.exec v es

/-- The interleavings whose turns satisfy `P`. -/
inductive Run (S : System σ κ ι) (P : World σ κ → Event κ ι → Prop) (w : World σ κ) :
    World σ κ → Prop
  | refl : Run S P w w
  | step {v v' : World σ κ} {e : Event κ ι} (run : Run S P w v) (good : P v e)
      (next : S.next v e = some v') : Run S P w v'

variable {S : System σ κ ι} {P : World σ κ → Event κ ι → Prop} {u v w : World σ κ}

/-- **Invariants** of the interleavings. -/
theorem Run.invariant {I : World σ κ → Prop}
    (step : ∀ v e v', I v → P v e → S.next v e = some v' → I v') (h : Run S P w v) (hw : I w) : I v := by
  induction h with
  | refl => exact hw
  | step run good next ih => exact step _ _ _ ih good next

theorem Run.trans (h : Run S P u v) (h' : Run S P v w) : Run S P u w := by
  induction h' with
  | refl => exact h
  | step run good next ih => exact ih.step good next

theorem run_of_exec {es : List (Event κ ι)} (hP : ∀ v e, P v e) (h : S.exec w es = some v) :
    Run S P w v := by
  induction es generalizing w with
  | nil =>
    obtain rfl := Option.some.inj h
    exact .refl
  | cons e es ih =>
    obtain ⟨w', hnext, hrest⟩ := Option.bind_eq_some_iff.mp h
    exact (Run.refl.step (hP w e) hnext).trans (ih hrest)

theorem next_start {c : κ} (h : S.next w (.start c) = some v) :
    ∃ m, S.enter w.mem c = some m ∧ v = ⟨m, w.calls ++ [c]⟩ := by
  obtain ⟨m, hm, rfl⟩ := Option.map_eq_some_iff.mp h
  exact ⟨m, hm, rfl⟩

theorem next_step {n : ℕ} {i : ι} (h : S.next w (.step n i) = some v) :
    ∃ c m c', w.calls[n]? = some c ∧ S.act w.mem c i = some (m, c') ∧ v = ⟨m, w.calls.set n c'⟩ := by
  obtain ⟨c, hc, hact⟩ := Option.bind_eq_some_iff.mp h
  obtain ⟨⟨m, c'⟩, hm, rfl⟩ := Option.map_eq_some_iff.mp hact
  exact ⟨c, m, c', hc, hm, rfl⟩

theorem mem_set_of_mem {l : List κ} {n : ℕ} {c c' d : κ} (hc : l[n]? = some c) (hd : d ∈ l)
    (hne : d ≠ c) : d ∈ l.set n c' := by
  obtain ⟨m, hm⟩ := List.mem_iff_getElem?.mp hd
  refine List.mem_iff_getElem?.mpr ⟨m, ?_⟩
  rw [List.getElem?_set_ne]
  · exact hm
  · rintro rfl
    exact hne (Option.some.inj (hm.symm.trans hc))

theorem self_mem_set {l : List κ} {n : ℕ} {c c' : κ} (hc : l[n]? = some c) : c' ∈ l.set n c' := by
  refine List.mem_iff_getElem?.mpr ⟨n, ?_⟩
  rw [List.getElem?_set_self (List.getElem?_eq_some_iff.mp hc).1]

end Interleave

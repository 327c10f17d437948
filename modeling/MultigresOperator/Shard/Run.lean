import MultigresOperator.Shard.Pass

/-!
# Runs

A run of a Shard interleaves complete reconcile passes with changes made by others. It is
parametrised by the changes the others may make and by what is known of the answers of the data
plane, and it records every request with the state it was made in.

## Main results

* `Pass.guarded`: every request of an admissible pass satisfies its guard
* `Run.guarded`: so does every request of a run
* `Run.atMostOnce`: requests that happen at most once in a run
* `Run.invariant`: what the guarded requests and the changes preserve holds at every point of a run
-/

namespace MultigresOperator

open Effects

/-- A Shard and the objects of its namespace. -/
structure System where
  shard : Shard
  server : Server

namespace System

def poolPods (x : System) : List Pod := x.server.poolPods x.shard

theorem mem_poolPods {x : System} {pod : Pod} :
    pod ∈ x.poolPods ↔ pod ∈ x.server.pods ∧
      (disruptionSelector x.shard).Matches pod.labels = true :=
  Server.mem_listPods

/-- The system after a change of the API server. -/
def on (x : System) (s : Server) : System := ⟨x.shard, s⟩

end System

/-- The order in which a pass visits the pools, and what it is answered. -/
structure Pass where
  pools : List (String × PoolSpec)
  answers : ℕ → Answer

namespace Pass

def outcome (p : Pass) (r : Reconciler) (x : System) : Outcome Answer Server Op Failure Unit :=
  (reconcileShard r x.shard p.pools).run machine p.answers x.server

/-- The pass visits every pool once, its cached reads are current, and its data-plane answers are
in `B`. -/
structure Admissible (B : Shard → Server → Answer → Prop) (p : Pass) (r : Reconciler) (x : System) :
    Prop where
  pools : p.pools.Perm x.shard.spec.pools
  answers : (reconcileShard r x.shard p.pools).Admits machine
    (fun s i => i.Current ∧ B x.shard s i) p.answers x.server

variable {B : Shard → Server → Answer → Prop} {p : Pass} {r : Reconciler} {x : System}

/-- **Every request of a pass** satisfies its guard. -/
theorem guarded (h : p.Admissible B r x) :
    ∀ e ∈ (p.outcome r x).trace, Guard (B x.shard) x.shard e.1 e.2 :=
  (Prog.run_of_wp (guard_reconcileShard (fun _ hmem => h.pools.mem_iff.mp hmem) x.server) h.answers).1

end Pass

/-- Runs, with the requests made in them. `E` are the changes others may make. -/
inductive Run (r : Reconciler) (B : Shard → Server → Answer → Prop) (E : System → System → Prop)
    (x : System) : List (System × Op) → System → Prop
  | refl : Run r B E x [] x
  | change {tr y z} : Run r B E x tr y → E y z → Run r B E x tr z
  | pass {tr y} (p : Pass) : Run r B E x tr y → p.Admissible B r y →
      Run r B E x (tr ++ (p.outcome r y).trace.map fun e => (y.on e.1, e.2))
        (y.on (p.outcome r y).state)

section Invariant

variable {r : Reconciler} {B : Shard → Server → Answer → Prop} {E : System → System → Prop}
  {x y : System} {tr : List (System × Op)} {I : System → Prop}

/-- What the guarded requests preserve holds throughout a pass. -/
theorem Pass.invariant {p : Pass} (hp : p.Admissible B r y)
    (step : ∀ y o t, I y → Guard (B y.shard) y.shard y.server o → y.server.exec o = .ok t → I (y.on t))
    (hy : I y) :
    (∀ e ∈ (p.outcome r y).trace, I (y.on e.1)) ∧ I (y.on (p.outcome r y).state) :=
  Linked.invariant (I := fun s => I (y.on s)) (fun s o t hs hG ht => step (y.on s) o t hs hG ht)
    (Prog.run_linked machine _ p.answers y.server) (Pass.guarded hp) hy

/-- **Invariants of runs**: what the guarded requests and the changes preserve holds whenever a
request is made, and in the end. -/
theorem Run.invariant (h : Run r B E x tr y) (change : ∀ y z, I y → E y z → I z)
    (step : ∀ y o t, I y → Guard (B y.shard) y.shard y.server o → y.server.exec o = .ok t → I (y.on t))
    (hx : I x) : (∀ e ∈ tr, I e.1) ∧ I y := by
  induction h with
  | refl => exact ⟨by simp, hx⟩
  | change _ hE ih => exact ⟨ih.1, change _ _ ih.2 hE⟩
  | pass p _ hp ih =>
    have ⟨htrace, hstate⟩ := Pass.invariant hp step ih.2
    refine ⟨fun e he => ?_, hstate⟩
    rcases List.mem_append.mp he with he | he
    · exact ih.1 e he
    · obtain ⟨e', he', rfl⟩ := List.mem_map.mp he
      exact htrace e' he'

/-- **Requests that happen once** in a run: a request of a kind leads to states in which no more of
that kind are made, while the conditions `H` hold. -/
theorem Run.atMostOnce {J K : System → Prop} {D H : System → Op → Prop} (h : Run r B E x tr y)
    (hH : ∀ e ∈ tr, H e.1 e.2)
    (change : ∀ y z, J y → E y z → J z ∧ (K y → K z))
    (keep : ∀ y o t, J y → Guard (B y.shard) y.shard y.server o → H y o →
      y.server.exec o = .ok t → J (y.on t))
    (block : ∀ y o t, J y → K y → Guard (B y.shard) y.shard y.server o → H y o →
      y.server.exec o = .ok t → ¬ D y o ∧ K (y.on t))
    (first : ∀ y o t, J y → H y o → D y o → y.server.exec o = .ok t → K (y.on t)) (hx : J x) :
    tr.Pairwise fun e e' => ¬ (D e.1 e.2 ∧ D e'.1 e'.2) := by
  suffices J y ∧ ((∃ e ∈ tr, D e.1 e.2) → K y) ∧
      tr.Pairwise fun e e' => ¬ (D e.1 e.2 ∧ D e'.1 e'.2) from this.2.2
  induction h with
  | refl => exact ⟨hx, by simp, .nil⟩
  | change _ hE ih =>
    have ⟨hJ, hafter, hpairs⟩ := ih hH
    have ⟨hJ', hK⟩ := change _ _ hJ hE
    exact ⟨hJ', fun hD => hK (hafter hD), hpairs⟩
  | @pass tr y p _ hp ih =>
    have ⟨hJ, hafter, hpairs⟩ := ih fun e he => hH e (List.mem_append_left _ he)
    have hpass := Linked.atMostOnce (J := fun s => J (y.on s)) (K := fun s => K (y.on s))
      (G := fun s o => Guard (B y.shard) y.shard s o ∧ H (y.on s) o) (D := fun s o => D (y.on s) o)
      (fun s o t hs hG ht => keep (y.on s) o t hs hG.1 hG.2 ht)
      (fun s o t hs hK hG ht => block (y.on s) o t hs hK hG.1 hG.2 ht)
      (fun s o t hs hG hD ht => first (y.on s) o t hs hG.2 hD ht)
      (Prog.run_linked machine _ p.answers y.server)
      (fun e he => ⟨Pass.guarded hp e he,
        hH (y.on e.1, e.2) (List.mem_append_right _ (List.mem_map.mpr ⟨e, he, rfl⟩))⟩) hJ
    obtain ⟨hJ', hblocked, hafter', hpairs'⟩ := hpass
    refine ⟨hJ', ?_, ?_⟩
    · rintro ⟨e, he, hD⟩
      rcases List.mem_append.mp he with he | he
      · exact (hblocked (hafter ⟨e, he, hD⟩)).2
      · obtain ⟨e', he', rfl⟩ := List.mem_map.mp he
        exact hafter' ⟨e', he', hD⟩
    · refine List.pairwise_append.mpr ⟨hpairs, List.pairwise_map.mpr hpairs', ?_⟩
      rintro e he e' he' ⟨hD, hD'⟩
      obtain ⟨e'', he'', rfl⟩ := List.mem_map.mp he'
      exact (hblocked (hafter ⟨e, he, hD⟩)).1 e'' he'' hD'

/-- **Every request of a run** satisfies its guard. -/
theorem Run.guarded (h : Run r B E x tr y) :
    ∀ e ∈ tr, Guard (B e.1.shard) e.1.shard e.1.server e.2 := by
  induction h with
  | refl => simp
  | change _ _ ih => exact ih
  | pass p _ hp ih =>
    intro e he
    rcases List.mem_append.mp he with he | he
    · exact ih e he
    · obtain ⟨e', he', rfl⟩ := List.mem_map.mp he
      exact Pass.guarded hp e' he'

theorem Run.lite (h : Run r B E x tr y) (hx : x.shard.spec.mode = .lite)
    (hE : ∀ y z, E y z → z.shard.spec = y.shard.spec) : ∀ e ∈ tr, e.2.NoPodPatch := by
  suffices y.shard.spec.mode = .lite ∧ ∀ e ∈ tr, e.2.NoPodPatch from this.2
  induction h with
  | refl => exact ⟨hx, by simp⟩
  | change _ hstep ih => exact ⟨hE _ _ hstep ▸ ih.1, ih.2⟩
  | pass p _ hp ih =>
    refine ⟨ih.1, fun e he => ?_⟩
    rcases List.mem_append.mp he with he | he
    · exact ih.2 e he
    · obtain ⟨e', he', rfl⟩ := List.mem_map.mp he
      exact Prog.only_run (noPodPatch_reconcileShard ih.1) _ _ e' he'

end Invariant

end MultigresOperator

import MultigresOperator.Lib.Select
import MultigresOperator.Lib.Text
import MultigresOperator.Shard.Surges

/-!
# The choice of a scale-down

A visit with extra pods ranks them together with the unmarked extras of the whole shard, and drains
the choice only if it is one of its own pods; otherwise it leaves the drain to the visit of the pool
and cell the choice is in. So two visits rank different sets of pods by one score. The choice is the
first by role, readiness, index and name, and the visit it is left to has extra pods and chooses one
of its own.

## Main results

* `drainsBefore_of_beats`: the score orders the candidates, for indices below 500
* `visitExtras_ne_nil`: the visit a choice is left to has extra pods
* `scaleDown_progress`: **the choice is the first, and the visit it is left to takes it over**
-/

namespace MultigresOperator

open Effects MultigresOperator.Action

def IsPrimary (shard : Shard) (pod : Pod) : Prop := resolvePodRole shard pod.name = some .primary

def podIndex (pod : Pod) : ℕ := (resolvePodIndex pod.name).getD 0

def scaleDownChoice (shard : Shard) (s : Server) (poolName cellName : String) (pool : PoolSpec) :
    Option Pod :=
  selectPodToDrain shard (sortByName (scaleDownCandidates shard (s.poolPods shard)
    (visitExtras (effectiveReplicas shard s poolName cellName pool)
      (visitPods shard s poolName cellName))))

/-- **The choice is the visit's.** -/
theorem Ensures.scaleDownChoice {B : Server → Answer → Prop} {shard : Shard} {s : Server}
    {poolName cellName : String} {pool : PoolSpec} :
    Ensures B (fun _ _ => True)
      (selectShardScaleDownPod shard (visitExtras (effectiveReplicas shard s poolName cellName pool)
        (visitPods shard s poolName cellName)))
      (fun choice _ => choice = MultigresOperator.scaleDownChoice shard s poolName cellName pool) s :=
  .bind (.context (.fetch (.ret rfl)))

/-- A pod is drained before another: replicas before the primary, then pods that are not Ready, then
the highest index, then the lowest name. -/
def DrainsBefore (shard : Shard) (a b : Pod) : Prop :=
  (¬ IsPrimary shard a ∧ IsPrimary shard b) ∨
    (IsPrimary shard a ↔ IsPrimary shard b) ∧
      ((a.ready = false ∧ b.ready = true) ∨
        a.ready = b.ready ∧
          (podIndex b < podIndex a ∨ podIndex a = podIndex b ∧ a.name ≤ b.name))

/-! ### The score -/

section Score

variable {shard : Shard} {a b : Pod} {pods : List Pod}

/-- The order of `sortByName`. -/
def NameLE (a b : Pod) : Prop := a.name ≤ b.name

theorem pairwise_sortByName (pods : List Pod) : (sortByName pods).Pairwise NameLE := by
  have : Std.Total fun a b : Pod => a.name ≤ b.name := ⟨fun a b => String.le_total a.name b.name⟩
  have : IsTrans Pod fun a b => a.name ≤ b.name := ⟨fun _ _ _ => String.le_trans⟩
  exact List.pairwise_insertionSort (fun a b : Pod => a.name ≤ b.name) pods

theorem selectPodToDrain_eq :
    selectPodToDrain shard pods = Select.firstBest (drainScore shard) pods := by
  unfold selectPodToDrain Select.firstBest
  congr 1
  funext best pod
  cases best <;> rfl

theorem drainScore_lt_of_primary (hindex : podIndex a < 500) (ha : IsPrimary shard a)
    (hb : ¬ IsPrimary shard b) : drainScore shard a < drainScore shard b := by
  unfold IsPrimary at ha hb
  unfold podIndex at hindex
  unfold drainScore
  rw [if_pos ha, if_neg hb]
  split <;> split <;> omega

theorem drainScore_lt_of_ready (hindex : podIndex a < 500)
    (hrole : IsPrimary shard a ↔ IsPrimary shard b) (ha : a.ready = true) (hb : b.ready = false) :
    drainScore shard a < drainScore shard b := by
  unfold IsPrimary at hrole
  unfold podIndex at hindex
  unfold drainScore isPodReady
  rw [ha, hb, if_pos rfl, if_neg Bool.false_ne_true]
  simp only [hrole]
  omega

/-- Between pods of the same role and readiness the indices decide. -/
theorem drainScore_sub (hrole : IsPrimary shard a ↔ IsPrimary shard b) (hready : a.ready = b.ready) :
    drainScore shard a - drainScore shard b = (podIndex a : ℤ) - podIndex b := by
  unfold IsPrimary at hrole
  unfold drainScore isPodReady podIndex
  simp only [hrole, hready]
  omega

theorem drainsBefore_of_sameRole (ha : podIndex a < 500)
    (hrole : IsPrimary shard a ↔ IsPrimary shard b)
    (h : Select.Beats (drainScore shard) NameLE a b) : DrainsBefore shard a b := by
  refine .inr ⟨hrole, ?_⟩
  by_cases hready : a.ready = b.ready
  · refine .inr ⟨hready, ?_⟩
    have hsub := drainScore_sub hrole hready
    rcases h with hlt | ⟨heq, hname⟩
    · exact .inl (by omega)
    · exact .inr ⟨by omega, hname⟩
  · cases hra : a.ready with
    | false => exact .inl ⟨rfl, by simpa [hra] using Ne.symm hready⟩
    | true =>
      have hrb : b.ready = false := by simpa [hra] using Ne.symm hready
      have hlt := drainScore_lt_of_ready ha hrole hra hrb
      rcases h with h | ⟨h, -⟩ <;> omega

/-- **The score orders the candidates**: below 500 an index never outweighs readiness, and neither
outweighs the role. -/
theorem drainsBefore_of_beats (ha : podIndex a < 500)
    (h : Select.Beats (drainScore shard) NameLE a b) : DrainsBefore shard a b := by
  by_cases hpa : IsPrimary shard a
  · by_cases hpb : IsPrimary shard b
    · exact drainsBefore_of_sameRole ha (iff_of_true hpa hpb) h
    · have hlt := drainScore_lt_of_primary ha hpa hpb
      rcases h with h | ⟨h, -⟩ <;> omega
  · by_cases hpb : IsPrimary shard b
    · exact .inl ⟨hpa, hpb⟩
    · exact drainsBefore_of_sameRole ha (iff_of_false hpa hpb) h

end Score

/-! ### Whose the choice is -/

section Choice

variable {shard : Shard} {s : Server} {poolName cellName : String} {pool : PoolSpec} {x y : Pod}

theorem beats_of_scaleDownChoice (h : scaleDownChoice shard s poolName cellName pool = some x) :
    x ∈ scaleDownCandidates shard (s.poolPods shard)
        (visitExtras (effectiveReplicas shard s poolName cellName pool)
          (visitPods shard s poolName cellName)) ∧
      ∀ y ∈ scaleDownCandidates shard (s.poolPods shard)
          (visitExtras (effectiveReplicas shard s poolName cellName pool)
            (visitPods shard s poolName cellName)),
        Select.Beats (drainScore shard) NameLE x y := by
  rw [scaleDownChoice, selectPodToDrain_eq] at h
  refine ⟨(List.mem_insertionSort _).mp (Select.mem_of_firstBest h), fun y hy => ?_⟩
  exact Select.beats_firstBest (fun a => String.le_refl a.name) (pairwise_sortByName _) h
    ((List.mem_insertionSort _).mpr hy)

theorem scaleDownChoice_eq_none : scaleDownChoice shard s poolName cellName pool = none ↔
    scaleDownCandidates shard (s.poolPods shard)
      (visitExtras (effectiveReplicas shard s poolName cellName pool)
        (visitPods shard s poolName cellName)) = [] := by
  rw [scaleDownChoice, selectPodToDrain_eq, Select.firstBest_eq_none, sortByName,
    ← List.length_eq_zero_iff, List.length_insertionSort, List.length_eq_zero_iff]

theorem mem_visitExtras {bound : ℕ} {pods : List Pod} :
    x ∈ visitExtras bound pods ↔
      x ∈ pods ∧ x.drainState ≠ some .readyForDeletion ∧ isExtraPod bound x = true := by
  simp only [visitExtras, sortByName, List.mem_filter, List.mem_insertionSort, bne_iff_ne, and_assoc]

theorem poolCellKey_inj {p c p' c' : String} (hp : '/' ∉ p.toList) (hc : '/' ∉ c.toList)
    (h : poolCellKey p c = poolCellKey p' c') : p = p' ∧ c = c' := by
  have hlist : p.toList ++ '/' :: c.toList = p'.toList ++ '/' :: c'.toList := by
    simpa [poolCellKey] using congrArg String.toList h
  have hcut := Text.cut_append hp c.toList
  rw [hlist] at hcut
  by_cases hp' : '/' ∈ p'.toList
  · -- the first slash would leave another in the cell
    obtain ⟨u, v, huv, hu⟩ := List.eq_append_cons_of_mem hp'
    rw [huv, List.append_assoc, List.cons_append, Text.cut_append hu] at hcut
    have hcell := (Prod.mk.inj (Option.some.inj hcut)).2
    exact absurd (hcell ▸ by simp) hc
  · rw [Text.cut_append hp'] at hcut
    obtain ⟨hpool, hcell⟩ := Prod.mk.inj (Option.some.inj hcut)
    exact ⟨(String.toList_injective hpool).symm, (String.toList_injective hcell).symm⟩

theorem mem_shardExtras (hnamed : OperatorPods shard s) :
    x ∈ shardExtras shard (s.poolPods shard) ↔
      x ∈ s.poolPods shard ∧ isMaintenanceSurge x = false ∧ ∃ pool index,
        (x.pool, pool) ∈ shard.spec.pools ∧ x.cell ∈ pool.cells ∧
          x.name = buildPoolPodName shard x.pool x.cell index ∧ poolReplicas pool ≤ index := by
  simp only [shardExtras, List.mem_flatMap, List.mem_filter, Bool.and_eq_true, Bool.not_eq_true',
    poolCellPods, beq_iff_eq, Option.any_eq_true, decide_eq_true_eq, Prod.exists]
  constructor
  · rintro ⟨poolName, pool, hpool, cell, hcell, ⟨hmem, hkey⟩, ⟨index, hresolve, hle⟩, hmark⟩
    have hx := hnamed x hmem
    obtain ⟨rfl, rfl⟩ := poolCellKey_inj hx.pool_slash hx.cell_slash hkey
    obtain ⟨i, hi, hname⟩ := hx.named
    rw [hname, resolvePodIndex_buildPoolPodName _ _ _ hi, Option.some.injEq] at hresolve
    exact ⟨hmem, hmark, pool, i, hpool, hcell, hname, hresolve ▸ hle⟩
  · rintro ⟨hmem, hmark, pool, index, hpool, hcell, hname, hle⟩
    obtain ⟨i, hi, hname'⟩ := (hnamed x hmem).named
    obtain rfl : i = index := index_eq_of_buildPoolPodName_eq (hname'.symm.trans hname)
    refine ⟨x.pool, pool, hpool, x.cell, hcell, ⟨hmem, rfl⟩, ⟨i, ?_, hle⟩, hmark⟩
    rw [hname, resolvePodIndex_buildPoolPodName _ _ _ hi]

theorem localSurges_le (hnamed : OperatorPods shard s) :
    localSurges shard s poolName cellName pool ≤
      (visitSurges shard s poolName cellName).length := by
  unfold localSurges
  split
  · exact (countSurges_eq hnamed).le
  · exact Nat.zero_le _

/-- **The visit a choice is left to has extra pods**: an unmarked extra and the surges of its pool and
cell are more pods past the desired replicas than there are indices below the bound. -/
theorem visitExtras_ne_nil (hnamed : OperatorPods shard s)
    (hdrained : ∀ pod ∈ s.poolPods shard, pod.drainState ≠ some .readyForDeletion)
    (hx : x ∈ shardExtras shard (s.poolPods shard)) (hpool : (x.pool, pool) ∈ shard.spec.pools)
    (hcell : x.cell ∈ pool.cells) :
    visitExtras (effectiveReplicas shard s x.pool x.cell pool) (visitPods shard s x.pool x.cell) ≠
      [] := by
  intro hempty
  obtain ⟨hmem, hmark, pool', index, hpool', -, hname, hle⟩ := (mem_shardExtras hnamed).mp hx
  obtain rfl : pool' = pool := by
    have hlookup := Assoc.lookup_of_mem shard.spec.pools_nodup hpool'
    rw [Assoc.lookup_of_mem shard.spec.pools_nodup hpool] at hlookup
    exact (Option.some.inj hlookup).symm
  set surges := visitSurges shard s x.pool x.cell with hsurges
  set bound := effectiveReplicas shard s x.pool x.cell pool' with hbound
  have hvisit : x ∈ visitPods shard s x.pool x.cell := (mem_visitPods hnamed).mpr ⟨hmem, rfl, rfl⟩
  -- without extras every visited pod has an index below the bound
  have hbelow : ∀ pod ∈ visitPods shard s x.pool x.cell, ∀ i,
      pod.name = buildPoolPodName shard x.pool x.cell i → i < bound := by
    intro pod hpod i hi
    by_contra hge
    obtain ⟨j, hj, hname'⟩ := exists_index hnamed hpod
    obtain rfl : j = i := index_eq_of_buildPoolPodName_eq (hname'.symm.trans hi)
    have hextra : pod ∈ visitExtras bound (visitPods shard s x.pool x.cell) :=
      mem_visitExtras.mpr ⟨hpod, hdrained pod ((mem_visitPods hnamed).mp hpod).1,
        (isExtraPod_iff hj hi).mpr (not_lt.mp hge)⟩
    rw [hempty] at hextra
    exact List.not_mem_nil hextra
  let names := (List.range' (poolReplicas pool') (bound - poolReplicas pool')).map
    (buildPoolPodName shard x.pool x.cell)
  have hplace : ∀ pod ∈ visitPods shard s x.pool x.cell, ∀ i, poolReplicas pool' ≤ i →
      pod.name = buildPoolPodName shard x.pool x.cell i → pod.name ∈ names := by
    intro pod hpod i hi hi'
    have := hbelow pod hpod i hi'
    rw [hi']
    exact List.mem_map_of_mem (List.mem_range'_1.mpr ⟨hi, by omega⟩)
  have hsub : (x :: surges).map Pod.name ⊆ names := by
    intro name hn
    obtain ⟨pod, hpod, rfl⟩ := List.mem_map.mp hn
    rcases List.mem_cons.mp hpod with rfl | hpod
    · exact hplace pod hvisit index hle hname
    · obtain ⟨hv, hactive⟩ := List.mem_filter.mp hpod
      obtain ⟨i, hi, -, hi'⟩ := exists_index_of_surge hnamed hpool hcell hv hactive
      exact hplace pod hv i hi hi'
  have hnodup : ((x :: surges).map Pod.name).Nodup := by
    rw [List.map_cons, List.nodup_cons]
    refine ⟨fun hn => ?_, (names_nodup _).sublist (List.filter_sublist.map Pod.name)⟩
    obtain ⟨pod, hpod, hpodname⟩ := List.mem_map.mp hn
    obtain ⟨hv, hactive⟩ := List.mem_filter.mp hpod
    have hstored := (Server.mem_listPods.mp ((mem_visitPods hnamed).mp hv).1).1
    rw [s.pods.eq_of_key_eq hstored (Server.mem_listPods.mp hmem).1 hpodname] at hactive
    simp [isActiveMaintenanceSurge, hmark] at hactive
  have hlen := (List.subperm_of_subset hnodup hsub).length_le
  rw [List.length_map, List.length_map, List.length_range', List.length_cons] at hlen
  have hcount : localSurges shard s x.pool x.cell pool' ≤ surges.length := localSurges_le hnamed
  rw [hbound, effectiveReplicas] at hlen
  omega

theorem mem_candidates_of_shardExtras {localExtras : List Pod}
    (h : x ∈ shardExtras shard (s.poolPods shard)) :
    x ∈ scaleDownCandidates shard (s.poolPods shard) localExtras :=
  List.mem_append_right _ h

theorem mem_candidates {bound : ℕ} (h : x ∈ scaleDownCandidates shard (s.poolPods shard)
    (visitExtras bound (visitPods shard s poolName cellName))) :
    x ∈ visitPods shard s poolName cellName ∨ x ∈ shardExtras shard (s.poolPods shard) := by
  rcases List.mem_append.mp h with hlocal | hextra
  · exact .inl (mem_visitExtras.mp (List.mem_filter.mp hlocal).1).1
  · exact .inr hextra

theorem name_eq_of_beats (hxy : Select.Beats (drainScore shard) NameLE x y)
    (hyx : Select.Beats (drainScore shard) NameLE y x) : x.name = y.name := by
  rcases hxy with hlt | ⟨heq, hle⟩
  · rcases hyx with hgt | ⟨heq', -⟩ <;> omega
  · rcases hyx with hgt | ⟨-, hge⟩
    · omega
    · exact String.le_antisymm hle hge

/-- The visit a choice is left to chooses one of its own pods: the choice of the first visit is the
best of the shard's extras, so what is better is an extra of the second visit. -/
theorem choice_taken_over (hnamed : OperatorPods shard s)
    (hchoice : scaleDownChoice shard s poolName cellName pool = some x)
    (hextra : x ∈ shardExtras shard (s.poolPods shard)) (pool' : PoolSpec) :
    ∃ y ∈ visitPods shard s x.pool x.cell,
      scaleDownChoice shard s x.pool x.cell pool' = some y := by
  have hx : x ∈ scaleDownCandidates shard (s.poolPods shard)
      (visitExtras (effectiveReplicas shard s x.pool x.cell pool')
        (visitPods shard s x.pool x.cell)) :=
    mem_candidates_of_shardExtras hextra
  obtain ⟨y, hy⟩ : ∃ y, scaleDownChoice shard s x.pool x.cell pool' = some y := by
    refine Option.ne_none_iff_exists'.mp fun hnone => ?_
    rw [scaleDownChoice_eq_none.mp hnone] at hx
    exact List.not_mem_nil hx
  refine ⟨y, ?_, hy⟩
  obtain ⟨hmem, hbest⟩ := beats_of_scaleDownChoice hy
  rcases mem_candidates hmem with hown | hyextra
  · exact hown
  · have hxy := (beats_of_scaleDownChoice hchoice).2 y (mem_candidates_of_shardExtras hyextra)
    have hname := name_eq_of_beats hxy (hbest x hx)
    have hxmem := ((mem_shardExtras hnamed).mp hextra).1
    have hymem := ((mem_shardExtras hnamed).mp hyextra).1
    obtain rfl := s.pods.eq_of_key_eq (Server.mem_listPods.mp hxmem).1
      (Server.mem_listPods.mp hymem).1 hname
    exact (mem_visitPods hnamed).mpr ⟨hxmem, rfl, rfl⟩

/-- The health gate before a choice has seen no pod that is ready for deletion. -/
theorem not_drained_of_shardHealthy (h : shardHealthy shard (s.poolPods shard) = true) :
    ∀ pod ∈ s.poolPods shard, pod.drainState ≠ some .readyForDeletion := by
  intro pod hpod hstate
  have hcalm := (shardHealthy_iff.mp h).calm pod hpod
  simp [Pod.disrupted, Pod.draining, hstate] at hcalm

/-- **The choice is the first, and the visit it is left to takes it over**, unless a pod is ready for
deletion, which the health gate before the choice excludes. -/
theorem scaleDown_progress (hnamed : ∀ pod ∈ s.poolPods shard, OperatorPod shard pod)
    (hindex : ∀ pod ∈ s.poolPods shard, podIndex pod < 500)
    (poolName cellName : String) (pool : PoolSpec) :
    let candidates := scaleDownCandidates shard (s.poolPods shard)
      (visitExtras (effectiveReplicas shard s poolName cellName pool)
        (visitPods shard s poolName cellName))
    let noneDrained := ∀ pod ∈ s.poolPods shard, pod.drainState ≠ some .readyForDeletion
    (scaleDownChoice shard s poolName cellName pool = none ↔ candidates = []) ∧
      (shardHealthy shard (s.poolPods shard) = true → noneDrained) ∧
      ∀ x, scaleDownChoice shard s poolName cellName pool = some x →
        (x ∈ candidates ∧ (∀ y ∈ candidates, DrainsBefore shard x y) ∧
          (IsPrimary shard x → ∀ y ∈ candidates, IsPrimary shard y)) ∧
        (noneDrained → x ∉ visitPods shard s poolName cellName →
          ∃ pool', (x.pool, pool') ∈ shard.spec.pools ∧ x.cell ∈ pool'.cells ∧
            visitExtras (effectiveReplicas shard s x.pool x.cell pool')
              (visitPods shard s x.pool x.cell) ≠ [] ∧
            ∃ y ∈ visitPods shard s x.pool x.cell,
              scaleDownChoice shard s x.pool x.cell pool' = some y) := by
  intro candidates noneDrained
  refine ⟨scaleDownChoice_eq_none, not_drained_of_shardHealthy, fun x hchoice => ?_⟩
  obtain ⟨hmem, hbest⟩ := beats_of_scaleDownChoice hchoice
  have hfirst : ∀ y ∈ candidates, DrainsBefore shard x y := by
    intro y hy
    refine drainsBefore_of_beats (hindex x ?_) (hbest y hy)
    rcases mem_candidates hmem with hown | hextra
    · exact ((mem_visitPods hnamed).mp hown).1
    · exact ((mem_shardExtras hnamed).mp hextra).1
  refine ⟨⟨hmem, hfirst, fun hprimary y hy => ?_⟩, fun hdrained hother => ?_⟩
  · rcases hfirst y hy with ⟨hnot, -⟩ | ⟨hsame, -⟩
    · exact absurd hprimary hnot
    · exact hsame.mp hprimary
  · have hextra := (mem_candidates hmem).resolve_left hother
    obtain ⟨-, -, pool', -, hpool, hcell, -, -⟩ := (mem_shardExtras hnamed).mp hextra
    exact ⟨pool', hpool, hcell, visitExtras_ne_nil hnamed hdrained hextra hpool hcell,
      choice_taken_over hnamed hchoice hextra pool'⟩

end Choice

namespace Sample

/-- An extra in each cell, with a higher index in the second. -/
def extraPods : List Pod :=
  [surgePod "z1" 0 false, surgePod "z1" 1 false, surgePod "z2" 0 false, surgePod "z2" 2 false]

theorem extraPods_nodup : (extraPods.map Pod.name).Nodup := by decide +kernel

def bothExtra : Server := surgeServer ⟨extraPods, extraPods_nodup⟩

theorem operatorPod_extraPods {pod : Pod} (h : pod ∈ extraPods) : OperatorPod surgeShard pod := by
  simp only [extraPods, List.mem_cons, List.not_mem_nil, or_false] at h
  rcases h with rfl | rfl | rfl | rfl
  · exact operatorPod_surgePod (by decide) (.inl rfl)
  · exact operatorPod_surgePod (by decide) (.inl rfl)
  · exact operatorPod_surgePod (by decide) (.inr rfl)
  · exact operatorPod_surgePod (by decide) (.inr rfl)

end Sample

section

open Sample

/-- The visit of the first cell chooses the pod of the second, and leaves it to the visit there. -/
theorem scaleDown_progress_bothExtra :
    shardHealthy surgeShard (bothExtra.poolPods surgeShard) = true ∧
    scaleDownChoice surgeShard bothExtra "main" "z1" { cells := ["z1", "z2"] } =
        some (surgePod "z2" 2 false) ∧
      ∃ pool', ("main", pool') ∈ surgeShard.spec.pools ∧
        ∃ y ∈ visitPods surgeShard bothExtra "main" "z2",
          scaleDownChoice surgeShard bothExtra "main" "z2" pool' = some y := by
  have hchoice : scaleDownChoice surgeShard bothExtra "main" "z1" { cells := ["z1", "z2"] } =
      some (surgePod "z2" 2 false) := by decide +kernel
  have hnamed : ∀ pod ∈ bothExtra.poolPods surgeShard, OperatorPod surgeShard pod :=
    fun pod hpod => operatorPod_extraPods (Server.mem_listPods.mp hpod).1
  have hother : surgePod "z2" 2 false ∉ visitPods surgeShard bothExtra "main" "z1" := by
    decide +kernel
  have hhealthy : shardHealthy surgeShard (bothExtra.poolPods surgeShard) = true := by decide +kernel
  obtain ⟨-, hgate, hprogress⟩ := scaleDown_progress hnamed (by decide +kernel) "main" "z1"
    { cells := ["z1", "z2"] }
  obtain ⟨pool', hpool, -, -, htaken⟩ := (hprogress _ hchoice).2 (hgate hhealthy) hother
  exact ⟨hhealthy, hchoice, pool', hpool, htaken⟩

end

end MultigresOperator

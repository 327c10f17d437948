import MultigresOperator.Lib.Assoc
import MultigresOperator.Lib.Keyed

/-!
# Maps

Finite maps as lists of entries with distinct keys, in the order the keys were first assigned.

## Main definitions

* `Table`: a map, with `Table.get` and `Table.set`
* `Table.ofList`: the map that a list of assignments leaves
* `Table.update`: a map with another laid over it
* `Table.select`, `Table.mapValues`: the entries of some keys, and all with their values rewritten
* `Table.mapKeys`: a map with its keys renamed
* `Table.same`: whether two maps have the same entries, up to a comparison of values

## Main results

* `Table.get_set`, `Table.get_erase`: reading after an assignment or a removal
* `Table.get_ofList`, `Table.get_ofList_append`: the last assignment of a key counts
* `Table.get_fold`: assignments that depend on what is there
* `Table.items_eq_singleton`: a map with one entry, by its values
* `Table.same_iff`: maps are compared key by key
-/

/-- A map from keys to values. -/
abbrev Table (κ α : Type) := Keyed (Prod.fst : κ × α → κ)

namespace Table

variable {κ α : Type} [DecidableEq κ]

instance : EmptyCollection (Table κ α) := ⟨⟨[], by simp⟩⟩

/-- The value of a key. -/
def get (t : Table κ α) (k : κ) : Option α := (t.find k).map Prod.snd

variable {t : Table κ α} {k : κ} {a : α}

theorem get_eq_some : t.get k = some a ↔ (k, a) ∈ t := by
  unfold get
  constructor
  · intro h
    obtain ⟨e, he, rfl⟩ := Option.map_eq_some_iff.mp h
    obtain ⟨hmem, rfl⟩ := Keyed.find_eq_some.mp he
    exact hmem
  · exact fun h => by rw [Keyed.find_eq_some.mpr ⟨h, rfl⟩, Option.map_some]

theorem get_eq_none : t.get k = none ↔ ∀ a, (k, a) ∉ t := by
  rw [← not_iff_not, ← ne_eq, Option.ne_none_iff_exists', not_forall]
  exact exists_congr fun a => by rw [not_not, get_eq_some]

@[simp] theorem get_empty (k : κ) : (∅ : Table κ α).get k = none := rfl

/-- The map after an assignment. -/
def set (t : Table κ α) (k : κ) (a : α) : Table κ α :=
  if h : t.find k = none then t.insert (k, a) h else t.modify k (fun e => (e.1, a)) fun _ => rfl

theorem mem_set {e : κ × α} : e ∈ t.set k a ↔ e = (k, a) ∨ e ∈ t ∧ e.1 ≠ k := by
  unfold set
  split
  · next h =>
    have hnew := Keyed.find_eq_none.mp h
    rw [Keyed.mem_insert]
    exact or_congr_right ⟨fun he => ⟨he, hnew e he⟩, And.left⟩
  · next h =>
    obtain ⟨old, hold⟩ := Option.ne_none_iff_exists'.mp h
    obtain ⟨hmem, rfl⟩ := Keyed.find_eq_some.mp hold
    rw [Keyed.mem_modify]
    constructor
    · rintro ⟨q, hq, rfl⟩
      by_cases hk : q.1 = old.1
      · exact .inl (by simp [hk])
      · exact .inr (by simpa [hk] using hq)
    · rintro (rfl | ⟨he, hk⟩)
      · exact ⟨old, hmem, by simp⟩
      · exact ⟨e, he, by simp [hk]⟩

/-- **Reading after an assignment.** -/
theorem get_set (t : Table κ α) (k : κ) (a : α) (k' : κ) :
    (t.set k a).get k' = if k' = k then some a else t.get k' := by
  split
  · next h => exact get_eq_some.mpr (mem_set.mpr (.inl (by rw [h])))
  · next h =>
    refine Option.ext fun b => ?_
    rw [get_eq_some, get_eq_some, mem_set]
    simp [h]

theorem get_erase (t : Table κ α) (k k' : κ) :
    Table.get (t.erase k) k' = if k' = k then none else t.get k' := by
  refine Option.ext fun a => ?_
  rw [get_eq_some, Keyed.mem_erase]
  split
  · next h => simp [h]
  · next h => simp [h, get_eq_some]

/-- The map that assignments leave, made in the order of the list. -/
def ofList (l : List (κ × α)) : Table κ α := l.foldl (fun t e => t.set e.1 e.2) ∅

/-- **The last assignment** of a key counts. -/
theorem get_ofList (l : List (κ × α)) (k : κ) : (ofList l).get k = l.reverse.lookup k := by
  have step (t : Table κ α) : (l.foldl (fun t e => t.set e.1 e.2) t).get k =
      (l.reverse.lookup k).or (t.get k) := by
    induction l generalizing t with
    | nil => simp
    | cons e l ih =>
      rw [List.foldl_cons, ih, List.reverse_cons, List.lookup_append, get_set]
      cases l.reverse.lookup k with
      | some _ => rfl
      | none =>
        obtain ⟨k', b⟩ := e
        by_cases h : k = k'
        · simp [h]
        · simp [List.lookup_cons, h, beq_false_of_ne h]
  rw [ofList, step ∅, get_empty, Option.or_none]

/-- Later assignments win over earlier ones. -/
theorem get_ofList_append (l l' : List (κ × α)) (k : κ) :
    (ofList (l ++ l')).get k = ((ofList l').get k).or ((ofList l).get k) := by
  simp only [get_ofList, List.reverse_append, List.lookup_append]

/-- The last part of a list of assignments that assigns a key counts. -/
theorem get_ofList_flatMap {ι : Type} (f : ι → List (κ × α)) (l : List ι) (k : κ) :
    (ofList (l.flatMap f)).get k = l.reverse.findSome? fun i => (ofList (f i)).get k := by
  induction l with
  | nil => rfl
  | cons i l ih =>
    rw [List.flatMap_cons, get_ofList_append, ih, List.reverse_cons, List.findSome?_append,
      List.findSome?_cons, List.findSome?_nil]
    cases (ofList (f i)).get k <;> rfl

theorem isSome_get_ofList {l : List (κ × α)} :
    ((ofList l).get k).isSome = true ↔ ∃ a, (k, a) ∈ l := by
  rw [get_ofList, List.lookup_isSome_iff]
  constructor
  · rintro ⟨⟨k', a⟩, hmem, hk⟩
    obtain rfl : k = k' := by simpa using hk
    exact ⟨a, List.mem_reverse.mp hmem⟩
  · rintro ⟨a, hmem⟩
    exact ⟨(k, a), List.mem_reverse.mpr hmem, by simp⟩

theorem mem_of_mem_ofList {l : List (κ × α)} {e : κ × α} (h : e ∈ ofList l) : e ∈ l := by
  have hget : (ofList l).get e.1 = some e.2 := get_eq_some.mpr h
  rw [get_ofList] at hget
  exact List.mem_reverse.mp (Assoc.mem_of_lookup hget)

theorem ofList_concat (l : List (κ × α)) (e : κ × α) :
    ofList (l ++ [e]) = (ofList l).set e.1 e.2 := by
  simp [ofList]

/-! ## Maps laid over each other -/

section Fold

variable {β : Type} (f : Option α → β → α)

/-- The map after one assignment per entry of another map, each of which may depend on what is
there. -/
def fold (t : Table κ α) (upper : Table κ β) : Table κ α :=
  upper.items.foldl (fun t e => t.set e.1 (f (t.get e.1) e.2)) t

/-- **Reading a map laid over another.** -/
theorem get_fold (t : Table κ α) (upper : Table κ β) (k : κ) :
    (t.fold f upper).get k = ((upper.get k).map (f (t.get k))).or (t.get k) := by
  obtain ⟨items, hnodup⟩ := upper
  unfold fold get Keyed.find
  dsimp only
  induction items generalizing t with
  | nil => simp
  | cons e items ih =>
    rw [List.map_cons, List.nodup_cons] at hnodup
    have hset := get_set t e.1 (f (t.get e.1) e.2) k
    rw [List.foldl_cons, ih _ hnodup.2]
    change (Option.map (f ((t.set e.1 (f (t.get e.1) e.2)).get k)) _).or
      ((t.set e.1 (f (t.get e.1) e.2)).get k) = (Option.map (f (t.get k)) _).or (t.get k)
    by_cases hk : e.1 = k
    · -- the key is assigned here and not again
      subst hk
      have hlater : items.find? (fun a => a.1 = e.1) = none := by
        rw [List.find?_eq_none]
        intro a ha hkey
        exact hnodup.1 (List.mem_map.mpr ⟨a, ha, by simpa using hkey⟩)
      rw [if_pos rfl] at hset
      simp [hset, hlater]
    · rw [if_neg (Ne.symm hk)] at hset
      simp [hset, hk]

end Fold

/-- The map with another laid over it. -/
def update (t upper : Table κ α) : Table κ α := t.fold (fun _ a => a) upper

theorem get_update (t upper : Table κ α) (k : κ) :
    (t.update upper).get k = (upper.get k).or (t.get k) := by
  rw [update, get_fold, Option.map_id']

/-! ## A part of a map -/

section Select

variable {β : Type}

/-- The entries of some keys, with their values rewritten. -/
def select (p : κ → Bool) (f : α → β) (t : Table κ α) : Table κ β where
  items := (t.items.filter fun e => p e.1).map fun e => (e.1, f e.2)
  nodup := by
    rw [List.map_map]
    exact t.nodup.sublist (List.filter_sublist.map Prod.fst)

omit [DecidableEq κ] in
theorem mem_select {p : κ → Bool} {f : α → β} {t : Table κ α} {k : κ} {b : β} :
    (k, b) ∈ t.select p f ↔ ∃ a, (k, a) ∈ t ∧ p k = true ∧ f a = b := by
  constructor
  · intro h
    obtain ⟨⟨k', a⟩, hmem, heq⟩ := List.mem_map.mp h
    obtain ⟨hitem, hp⟩ := List.mem_filter.mp hmem
    obtain ⟨rfl, rfl⟩ := Prod.mk.inj heq
    exact ⟨a, hitem, hp, rfl⟩
  · rintro ⟨a, hmem, hp, rfl⟩
    exact List.mem_map.mpr ⟨(k, a), List.mem_filter.mpr ⟨hmem, hp⟩, rfl⟩

theorem get_select (p : κ → Bool) (f : α → β) (t : Table κ α) (k : κ) :
    (t.select p f).get k = if p k then (t.get k).map f else none := by
  refine Option.ext fun b => ?_
  rw [get_eq_some, mem_select]
  split
  · next hp => simp [hp, get_eq_some]
  · next hp => simp [hp]

theorem select_set (p : κ → Bool) (f : α → β) (t : Table κ α) {k : κ} (a : α)
    (hk : p k = false) : (t.set k a).select p f = t.select p f := by
  have hitems : ((t.set k a).items.filter fun e => p e.1) = t.items.filter fun e => p e.1 := by
    unfold set
    split
    · exact List.filter_cons_of_neg (by simp [hk])
    · simp only [Keyed.modify]
      induction t.items with
      | nil => rfl
      | cons e l ih =>
        by_cases he : e.1 = k
        · simp [he, hk, ih]
        · simp [he, List.filter_cons, ih]
  apply Keyed.ext
  change ((t.set k a).items.filter _).map _ = (t.items.filter _).map _
  rw [hitems]

def mapValues (f : α → β) (t : Table κ α) : Table κ β := t.select (fun _ => true) f

theorem get_mapValues (f : α → β) (t : Table κ α) (k : κ) :
    (t.mapValues f).get k = (t.get k).map f := by
  rw [mapValues, get_select, if_pos rfl]

end Select

/-! ## Maps with few entries -/

theorem items_eq_nil : t.items = [] ↔ ∀ k, t.get k = none := by
  rw [List.eq_nil_iff_forall_not_mem]
  constructor
  · exact fun h k => get_eq_none.mpr fun a => h (k, a)
  · exact fun h e => get_eq_none.mp (h e.1) e.2

/-- **A map with one entry**, by its values. -/
theorem items_eq_singleton :
    t.items = [(k, a)] ↔ t.get k = some a ∧ ∀ k', k' ≠ k → t.get k' = none := by
  constructor
  · intro h
    have hmem (e : κ × α) : e ∈ t ↔ e = (k, a) := by
      rw [← Keyed.mem_items, h, List.mem_singleton]
    refine ⟨get_eq_some.mpr ((hmem _).mpr rfl), fun k' hk' => get_eq_none.mpr fun b hb => ?_⟩
    exact hk' (congrArg Prod.fst ((hmem _).mp hb))
  · rintro ⟨hk, hothers⟩
    have hmem : ∀ e ∈ t.items, e = (k, a) := by
      intro e he
      have hget : t.get e.1 = some e.2 := get_eq_some.mpr he
      by_cases hkey : e.1 = k
      · rw [hkey, hk] at hget
        exact Prod.ext hkey (Option.some.inj hget).symm
      · rw [hothers _ hkey] at hget
        cases hget
    -- all items are the same, and keys occur once
    have hnodup : t.items.Nodup := t.nodup.of_map
    refine List.perm_singleton.mp ((List.perm_ext_iff_of_nodup hnodup (List.nodup_singleton _)).mpr ?_)
    intro e
    rw [List.mem_singleton]
    refine ⟨hmem e, ?_⟩
    rintro rfl
    exact get_eq_some.mp hk

/-! ## Renamed keys -/

def mapKeys {ι : Type} (f : κ → ι) (hf : Function.Injective f) (t : Table κ α) : Table ι α where
  items := t.items.map fun e => (f e.1, e.2)
  nodup := by
    have hkeys : (t.items.map fun e => (f e.1, e.2)).map Prod.fst = (t.items.map Prod.fst).map f := by
      simp
    rw [hkeys]
    exact t.nodup.map hf

theorem get_mapKeys {ι : Type} [DecidableEq ι] {f : κ → ι} (hf : Function.Injective f)
    (t : Table κ α) (k : κ) : (t.mapKeys f hf).get (f k) = t.get k := by
  refine Option.ext fun a => ?_
  rw [get_eq_some, get_eq_some]
  constructor
  · intro h
    obtain ⟨⟨k', a'⟩, hmem, heq⟩ := List.mem_map.mp h
    obtain ⟨hkey, rfl⟩ := Prod.mk.inj heq
    rwa [← hf hkey]
  · exact fun h => List.mem_map.mpr ⟨(k, a), h, rfl⟩

/-! ## Comparison -/

section Same

variable (eq : α → α → Bool)

/-- The values are both missing, or equal by a comparison. -/
def sameValue : Option α → Option α → Bool
  | none, none => true
  | some a, some b => eq a b
  | _, _ => false

/-- The maps have the same keys, with values that are equal by a comparison. -/
def same (s t : Table κ α) : Bool :=
  (s.items ++ t.items).all fun e => sameValue eq (s.get e.1) (t.get e.1)

/-- **Maps are compared key by key**, whatever the order of their entries. -/
theorem same_iff {s t : Table κ α} :
    s.same eq t = true ↔ ∀ k, sameValue eq (s.get k) (t.get k) = true := by
  unfold same
  rw [List.all_eq_true]
  constructor
  · intro h k
    cases hs : s.get k with
    | some a =>
      have := h (k, a) (List.mem_append_left _ (get_eq_some.mp hs))
      rwa [← hs]
    | none =>
      cases ht : t.get k with
      | some b =>
        have := h (k, b) (List.mem_append_right _ (get_eq_some.mp ht))
        rwa [← hs, ← ht]
      | none => rfl
  · exact fun h e _ => h e.1

end Same

end Table

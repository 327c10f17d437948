import Mathlib.Data.List.Infix

/-!
# Sets of paths as trees

A node has the elements at which a path may end, and a subtree for each element at which a path may go
on. A path is covered if it, or one that extends it, is in the set.
-/

mutual

/-- A set of nonempty paths. -/
inductive Trie (κ : Type) where
  | node (members : List κ) (children : TrieMap κ)

/-- The subtrees by their elements. -/
inductive TrieMap (κ : Type) where
  | nil
  | cons (k : κ) (t : Trie κ) (rest : TrieMap κ)

end

variable {κ : Type}

mutual

/-- The paths: those that end here, then those that go on. -/
def Trie.iterate : Trie κ → List (List κ)
  | .node members children => members.map (fun k => [k]) ++ children.iterate

def TrieMap.iterate : TrieMap κ → List (List κ)
  | .nil => []
  | .cons k t rest => t.iterate.map (k :: ·) ++ rest.iterate

end

mutual

/-- Whether there is no path. -/
def Trie.empty : Trie κ → Bool
  | .node members children => members.isEmpty && children.empty

def TrieMap.empty : TrieMap κ → Bool
  | .nil => true
  | .cons _ t rest => t.empty && rest.empty

end

mutual

theorem Trie.exists_of_not_empty : ∀ t : Trie κ, t.empty = false → ∃ q, q ∈ t.iterate
  | .node [] children, h => by
    obtain ⟨q, hq⟩ := TrieMap.exists_of_not_empty children h
    exact ⟨q, hq⟩
  | .node (k :: members) children, _ => ⟨[k], List.mem_cons_self⟩

theorem TrieMap.exists_of_not_empty : ∀ m : TrieMap κ, m.empty = false → ∃ q, q ∈ m.iterate
  | .nil, h => by cases h
  | .cons k t rest, h => by
    simp only [TrieMap.empty, Bool.and_eq_false_iff] at h
    rcases h with h | h
    · obtain ⟨q, hq⟩ := Trie.exists_of_not_empty t h
      exact ⟨k :: q, List.mem_append_left _ (List.mem_map.mpr ⟨q, hq, rfl⟩)⟩
    · obtain ⟨q, hq⟩ := TrieMap.exists_of_not_empty rest h
      exact ⟨q, List.mem_append_right _ hq⟩

end

namespace TrieMap

variable [DecidableEq κ]

/-- The subtree of an element. -/
def get (k : κ) : TrieMap κ → Option (Trie κ)
  | nil => none
  | cons k' t rest => if k' = k then some t else rest.get k

theorem mem_iterate_of_get {k : κ} {t : Trie κ} {q : List κ} {m : TrieMap κ} (h : m.get k = some t)
    (hq : q ∈ t.iterate) : k :: q ∈ m.iterate := by
  match m, h with
  | cons k' t' rest, h =>
    unfold get at h
    split at h
    · next heq =>
      obtain rfl := Option.some.inj h
      exact List.mem_append_left _ (List.mem_map.mpr ⟨q, hq, by rw [heq]⟩)
    · exact List.mem_append_right _ (mem_iterate_of_get h hq)

end TrieMap

namespace Trie

variable [DecidableEq κ]

/-- The elements at which a path may end. -/
def members : Trie κ → List κ
  | node members _ => members

def child (k : κ) : Trie κ → Option (Trie κ)
  | node _ children => children.get k

/-- Whether a path is in the set. The empty path never is. -/
def has (t : Trie κ) : List κ → Bool
  | [] => false
  | [k] => t.members.contains k
  | k :: p => match t.child k with
    | none => false
    | some t' => t'.has p

/-- The subtree at a path. -/
def descend (t : Trie κ) : List κ → Option (Trie κ)
  | [] => some t
  | k :: p => match t.child k with
    | none => none
    | some t' => t'.descend p

/-- Whether a path or one below it is in the set. -/
def covers (t : Trie κ) (p : List κ) : Bool :=
  t.has p || match t.descend p with
    | none => false
    | some t' => !t'.empty

variable {t t' : Trie κ} {q p : List κ}

theorem mem_iterate_of_child {k : κ} (h : t.child k = some t') (hq : q ∈ t'.iterate) :
    k :: q ∈ t.iterate := by
  cases t with
  | node members children => exact List.mem_append_right _ (TrieMap.mem_iterate_of_get h hq)

theorem mem_iterate_of_has (h : t.has p = true) : p ∈ t.iterate := by
  induction p generalizing t with
  | nil => cases h
  | cons k p ih =>
    cases p with
    | nil =>
      cases t with
      | node members children =>
        exact List.mem_append_left _ (List.mem_map.mpr ⟨k, List.contains_iff_mem.mp h, rfl⟩)
    | cons k' p =>
      unfold has at h
      split at h
      · cases h
      · next t' hchild => exact mem_iterate_of_child hchild (ih h)

theorem mem_iterate_of_descend (h : t.descend p = some t') (hq : q ∈ t'.iterate) :
    p ++ q ∈ t.iterate := by
  induction p generalizing t with
  | nil =>
    obtain rfl := Option.some.inj h
    exact hq
  | cons k p ih =>
    unfold descend at h
    split at h
    · cases h
    · next t'' hchild => exact mem_iterate_of_child hchild (ih h)

/-- **A covered path has an extension in the set.** -/
theorem exists_of_covers (h : t.covers p = true) : ∃ q ∈ t.iterate, p <+: q := by
  rcases Bool.or_eq_true_iff.mp h with h | h
  · exact ⟨p, mem_iterate_of_has h, List.prefix_rfl⟩
  · split at h
    · cases h
    · next t' hdescend =>
      obtain ⟨q, hq⟩ := exists_of_not_empty t' (Bool.not_eq_true' _ ▸ h)
      exact ⟨p ++ q, mem_iterate_of_descend hdescend hq, List.prefix_append p q⟩

end Trie

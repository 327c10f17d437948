import Mathlib.Data.List.Basic

/-!
# Paths

A path is a list of segments, written out with a separator in front and after every segment. When
no segment contains the separator, one written path begins with another exactly if its segments
do, so that nesting of key ranges is a question about segments.
-/

namespace Path

variable {α : Type} {sep : α} {s t x y : List α} {p q : List (List α)}

/-- A path, with a separator in front and after every segment. -/
def render (sep : α) (p : List (List α)) : List α := sep :: p.flatMap (· ++ [sep])

/-- A path of segments without the separator. -/
def Separated (sep : α) (p : List (List α)) : Prop := ∀ s ∈ p, sep ∉ s

theorem separated_cons : Separated sep (s :: p) ↔ sep ∉ s ∧ Separated sep p := List.forall_mem_cons

theorem segment_prefix_segment (hs : sep ∉ s) (ht : sep ∉ t) :
    s ++ sep :: x <+: t ++ sep :: y ↔ s = t ∧ x <+: y := by
  induction s generalizing t with
  | nil =>
    cases t with
    | nil => simp
    | cons b t =>
      have hb : sep ≠ b := fun h => ht (h ▸ List.mem_cons_self)
      simp [List.cons_prefix_cons, hb]
  | cons a s ih =>
    have ha : a ≠ sep := fun h => hs (h ▸ List.mem_cons_self)
    cases t with
    | nil => simp [List.cons_prefix_cons, ha]
    | cons b t =>
      have hs' : sep ∉ s := fun h => hs (List.mem_cons_of_mem _ h)
      have ht' : sep ∉ t := fun h => ht (List.mem_cons_of_mem _ h)
      rw [List.cons_append, List.cons_append, List.cons_prefix_cons, ih hs' ht', List.cons.injEq,
        and_assoc]

/-- **Nesting of written paths** is nesting of their segments. -/
theorem render_prefix_render (hp : Separated sep p) (hq : Separated sep q) :
    render sep p <+: render sep q ↔ p <+: q := by
  unfold render
  rw [List.cons_prefix_cons, and_iff_right rfl]
  induction p generalizing q with
  | nil => simp
  | cons s p ih =>
    rw [separated_cons] at hp
    cases q with
    | nil => simp
    | cons t q =>
      rw [separated_cons] at hq
      simp only [List.flatMap_cons, List.append_assoc, List.singleton_append]
      rw [segment_prefix_segment hp.1 hq.1, ih hp.2 hq.2, List.cons_prefix_cons]

end Path

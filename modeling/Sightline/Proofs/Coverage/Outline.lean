import Mathlib.Data.List.Rotate
import Sightline.Coverage.BuildingKey

/-!
# Presentations of a ring

One ring can be written down from any vertex, in either direction, with or without its closing
vertex, and with vertices said twice. All of these leave the same outline, up to where it starts
and which way it runs.
-/

namespace Sightline

/-- Two lists of vertices that write down one ring. -/
inductive SameRing {α : Type} : List α → List α → Prop
  | refl (vs : List α) : SameRing vs vs
  | symm {vs ws : List α} : SameRing vs ws → SameRing ws vs
  | trans {us vs ws : List α} : SameRing us vs → SameRing vs ws → SameRing us ws
  | rotate (vs : List α) (n : Nat) : SameRing vs (vs.rotate n)
  | reverse (vs : List α) : SameRing vs vs.reverse
  | close (v : α) (rest : List α) : SameRing (v :: rest) (v :: rest ++ [v])
  | again (before : List α) (v : α) (after : List α) :
    SameRing (before ++ v :: after) (before ++ v :: v :: after)

/-- Two lists that are the same up to where they start and which way they run. -/
def SameOutline {α : Type} (vs ws : List α) : Prop := vs ~r ws ∨ vs ~r ws.reverse

theorem SameRing.map {α β : Type} (f : α → β) {vs ws : List α} (h : SameRing vs ws) :
    SameRing (vs.map f) (ws.map f) := by
  induction h with
  | refl vs => exact .refl _
  | symm _ ih => exact ih.symm
  | trans _ _ ih ih' => exact ih.trans ih'
  | rotate vs n => rw [List.map_rotate]; exact .rotate _ n
  | reverse vs => rw [List.map_reverse]; exact .reverse _
  | close v rest => simpa using SameRing.close (f v) (rest.map f)
  | again before v after => simpa using SameRing.again (before.map f) (f v) (after.map f)

namespace SameOutline

variable {α : Type} {us vs ws : List α}

theorem refl (vs : List α) : SameOutline vs vs := .inl (.refl vs)

theorem symm (h : SameOutline vs ws) : SameOutline ws vs := by
  rcases h with h | h
  · exact .inl h.symm
  · exact .inr (List.isRotated_reverse_comm_iff.1 h.symm)

theorem trans (h : SameOutline us vs) (h' : SameOutline vs ws) : SameOutline us ws := by
  rcases h with h | h <;> rcases h' with h' | h'
  · exact .inl (h.trans h')
  · exact .inr (h.trans h')
  · exact .inr (h.trans h'.reverse)
  · exact .inl (h.trans (List.isRotated_reverse_comm_iff.2 h'))

theorem mem_iff (h : SameOutline vs ws) {v : α} : v ∈ vs ↔ v ∈ ws := by
  rcases h with h | h
  · exact h.mem_iff
  · rw [h.mem_iff, List.mem_reverse]

theorem length_eq (h : SameOutline vs ws) : vs.length = ws.length := by
  rcases h with h | h
  · exact h.perm.length_eq
  · rw [h.perm.length_eq, List.length_reverse]

end SameOutline

/-! ### Repeats -/

theorem dropRepeats_cons (v : Vertex) (vs : List Vertex) :
    dropRepeats (v :: vs) = if vs.head? = some v then dropRepeats vs else v :: dropRepeats vs := by
  cases vs with
  | nil => rfl
  | cons w rest => simp [dropRepeats, eq_comm]

theorem dropRepeats_sublist (vs : List Vertex) : (dropRepeats vs).Sublist vs := by
  induction vs with
  | nil => exact .slnil
  | cons v vs ih =>
    rw [dropRepeats_cons]
    split
    · exact ih.cons v
    · exact ih.cons_cons v

@[simp]
theorem head?_dropRepeats (vs : List Vertex) : (dropRepeats vs).head? = vs.head? := by
  induction vs with
  | nil => rfl
  | cons v vs ih =>
    rw [dropRepeats_cons]
    split
    · rename_i h
      rw [ih, h, List.head?_cons]
    · rfl

theorem dropRepeats_concat (vs : List Vertex) (v : Vertex) :
    dropRepeats (vs ++ [v]) =
      if vs.getLast? = some v then dropRepeats vs else dropRepeats vs ++ [v] := by
  induction vs with
  | nil => rfl
  | cons w vs ih =>
    cases vs with
    | nil => by_cases h : v = w <;> simp [dropRepeats, h, eq_comm]
    | cons u rest =>
      rw [List.cons_append, dropRepeats_cons, ih, dropRepeats_cons w (u :: rest),
        List.getLast?_cons_cons, List.cons_append, List.head?_cons, List.head?_cons]
      by_cases hhead : some u = some w <;> by_cases hlast : (u :: rest).getLast? = some v
      all_goals simp [hhead, hlast]

@[simp]
theorem dropRepeats_reverse (vs : List Vertex) :
    dropRepeats vs.reverse = (dropRepeats vs).reverse := by
  induction vs with
  | nil => rfl
  | cons v vs ih =>
    rw [List.reverse_cons, dropRepeats_concat, dropRepeats_cons, List.getLast?_reverse, ih]
    split
    · rfl
    · rw [List.reverse_cons]

@[simp]
theorem getLast?_dropRepeats (vs : List Vertex) : (dropRepeats vs).getLast? = vs.getLast? := by
  rw [← List.head?_reverse, ← dropRepeats_reverse, head?_dropRepeats, List.head?_reverse]

theorem dropRepeats_again (before after : List Vertex) (v : Vertex) :
    dropRepeats (before ++ v :: v :: after) = dropRepeats (before ++ v :: after) := by
  induction before with
  | nil => rw [List.nil_append, dropRepeats_cons, List.head?_cons, if_pos rfl, List.nil_append]
  | cons u before ih =>
    have hhead : (before ++ v :: v :: after).head? = (before ++ v :: after).head? := by
      cases before <;> rfl
    rw [List.cons_append, List.cons_append, dropRepeats_cons, dropRepeats_cons, hhead, ih]

/-! ### Closing vertices -/

theorem dropClosing_of_ne {vs : List Vertex} (h : vs.head? ≠ vs.getLast?) : dropClosing vs = vs :=
  if_neg fun closed => h closed.2

theorem dropClosing_cons (v : Vertex) (vs : List Vertex) :
    dropClosing (v :: vs) = v :: if vs.getLast? = some v then vs.dropLast else vs := by
  cases vs with
  | nil => rfl
  | cons w rest =>
    simp only [dropClosing, List.length_cons, List.head?_cons, List.getLast?_cons_cons,
      List.dropLast_cons_cons, eq_comm]
    split <;> simp_all

theorem dropClosing_concat (vs : List Vertex) (v : Vertex) :
    dropClosing (vs ++ [v]) = if vs.head? = some v then vs else vs ++ [v] := by
  cases vs with
  | nil => rfl
  | cons w rest =>
    rw [List.cons_append, dropClosing_cons, List.getLast?_concat, List.dropLast_concat,
      List.head?_cons]
    by_cases h : v = w <;> simp [h, eq_comm]

theorem dropClosing_reverse (vs : List Vertex) :
    dropClosing vs.reverse ~r (dropClosing vs).reverse := by
  cases vs with
  | nil => exact .refl _
  | cons v vs =>
    rw [List.reverse_cons, dropClosing_concat, dropClosing_cons, List.head?_reverse]
    split
    · -- a closed ring loses its other end, the same vertex
      rename_i closed
      obtain ⟨inner, rfl⟩ := List.getLast?_eq_some_iff.1 closed
      rw [List.dropLast_concat, List.reverse_concat, List.reverse_cons]
      exact List.IsRotated.cons_append_singleton
    · rw [List.reverse_cons]

/-! ### Outlines -/

theorem outline_sublist (vs : List Vertex) : (outline vs).Sublist vs := by
  refine List.Sublist.trans ?_ (dropRepeats_sublist vs)
  unfold outline dropClosing
  split
  · exact List.dropLast_sublist _
  · exact .refl _

theorem outline_reverse (vs : List Vertex) : outline vs.reverse ~r (outline vs).reverse := by
  unfold outline
  rw [dropRepeats_reverse]
  exact dropClosing_reverse _

theorem outline_close (v : Vertex) (rest : List Vertex) :
    outline (v :: rest ++ [v]) = outline (v :: rest) := by
  unfold outline
  rw [dropRepeats_concat]
  split
  · rfl
  · rename_i h
    have hne : (dropRepeats (v :: rest)).head? ≠ (dropRepeats (v :: rest)).getLast? := by
      rw [head?_dropRepeats, getLast?_dropRepeats]
      exact fun closed => h closed.symm
    rw [dropClosing_concat, head?_dropRepeats, List.head?_cons, if_pos rfl, dropClosing_of_ne hne]

/-- A first vertex that is repeated makes no difference at either end. -/
theorem outline_concat_of_head?_eq {vs : List Vertex} {v : Vertex} (hhead : vs.head? = some v) :
    outline (vs ++ [v]) = outline (v :: vs) := by
  unfold outline
  rw [dropRepeats_concat, dropRepeats_cons, if_pos hhead]
  by_cases hlast : vs.getLast? = some v
  · rw [if_pos hlast]
  · have hne : (dropRepeats vs).head? ≠ (dropRepeats vs).getLast? := by
      rw [head?_dropRepeats, getLast?_dropRepeats, hhead]
      exact fun closed => hlast closed.symm
    rw [if_neg hlast, dropClosing_concat, head?_dropRepeats, if_pos hhead, dropClosing_of_ne hne]

/-- The first vertex of a ring may as well be its last: it is repeated at one end if and only if
it is a closing vertex at the other. -/
theorem outline_concat_of_head?_ne {vs : List Vertex} {v : Vertex} (hhead : vs.head? ≠ some v) :
    outline (vs ++ [v]) = (outline (v :: vs)).rotate 1 := by
  unfold outline
  rw [dropRepeats_concat, dropRepeats_cons, if_neg hhead]
  by_cases hlast : vs.getLast? = some v
  · have hne : (dropRepeats vs).head? ≠ (dropRepeats vs).getLast? := by
      rw [head?_dropRepeats, getLast?_dropRepeats, hlast]
      exact hhead
    have hclosed : (dropRepeats vs).getLast? = some v := by rw [getLast?_dropRepeats, hlast]
    rw [if_pos hlast, dropClosing_of_ne hne, dropClosing_cons, if_pos hclosed]
    obtain ⟨inner, hinner⟩ := List.getLast?_eq_some_iff.1 hclosed
    rw [hinner, List.dropLast_concat, List.rotate_cons_succ, List.rotate_zero]
  · rw [if_neg hlast, dropClosing_concat, dropClosing_cons, head?_dropRepeats,
      getLast?_dropRepeats, if_neg hhead, if_neg hlast, List.rotate_cons_succ, List.rotate_zero]

theorem outline_concat (vs : List Vertex) (v : Vertex) :
    outline (vs ++ [v]) ~r outline (v :: vs) := by
  by_cases hhead : vs.head? = some v
  · rw [outline_concat_of_head?_eq hhead]
  · rw [outline_concat_of_head?_ne hhead]
    exact List.IsRotated.symm ⟨1, rfl⟩

theorem outline_rotate (vs : List Vertex) (n : Nat) : outline (vs.rotate n) ~r outline vs := by
  induction n generalizing vs with
  | zero => rw [List.rotate_zero]
  | succ n ih =>
    cases vs with
    | nil => rw [List.rotate_nil]
    | cons v vs =>
      rw [List.rotate_cons_succ]
      exact (ih _).trans (outline_concat vs v)

/-- However a ring is written down, its outline is the same. -/
theorem SameRing.outline {vs ws : List Vertex} (h : SameRing vs ws) :
    SameOutline (outline vs) (outline ws) := by
  induction h with
  | refl vs => exact .refl _
  | symm _ ih => exact ih.symm
  | trans _ _ ih ih' => exact ih.trans ih'
  | rotate vs n => exact .inl (outline_rotate vs n).symm
  | reverse vs =>
    right
    have h := (outline_reverse vs).reverse
    rw [List.reverse_reverse] at h
    exact h.symm
  | close v rest => rw [outline_close]; exact .refl _
  | again before v after =>
    unfold Sightline.outline
    rw [dropRepeats_again]
    exact .refl _

end Sightline

/-!
# Sorted association lists

A finite map is kept as the list of its entries in ascending order of keys, each key once. Two
maps with the same entries are therefore the same list.
-/

namespace Sightline.Assoc

variable {κ α β : Type} [Ord κ]

/-- The keys ascend strictly. -/
def Sorted (entries : List (κ × α)) : Prop :=
  entries.Pairwise fun x y => compare x.1 y.1 = .lt

/-- Adds an entry, or replaces the value of its key. -/
def insert (k : κ) (v : α) : List (κ × α) → List (κ × α)
  | [] => [(k, v)]
  | (k', v') :: rest =>
    match compare k k' with
    | .lt => (k, v) :: (k', v') :: rest
    | .eq => (k, v) :: rest
    | .gt => (k', v') :: insert k v rest

/-- The value of a key. -/
def find? (k : κ) : List (κ × α) → Option α
  | [] => none
  | (k', v') :: rest => if compare k k' = .eq then some v' else find? k rest

/-- The map of a list of entries; of several with one key the last counts. -/
def ofList (entries : List (κ × α)) : List (κ × α) :=
  entries.foldl (fun map entry => insert entry.1 entry.2 map) []

theorem mem_insert {k : κ} {v : α} {entries : List (κ × α)} {x : κ × α}
    (h : x ∈ insert k v entries) : x = (k, v) ∨ x ∈ entries := by
  induction entries with
  | nil => simpa [insert] using h
  | cons e rest ih =>
    obtain ⟨k', v'⟩ := e
    unfold insert at h
    split at h
    · simpa using h
    · rcases List.mem_cons.1 h with h | h
      · exact .inl h
      · exact .inr (List.mem_cons_of_mem _ h)
    · rcases List.mem_cons.1 h with h | h
      · exact .inr (h ▸ List.mem_cons_self)
      · exact (ih h).imp_right (List.mem_cons_of_mem _)

theorem sorted_nil : Sorted ([] : List (κ × α)) := List.Pairwise.nil

theorem Sorted.insert [Std.TransOrd κ] [Std.LawfulEqOrd κ] {entries : List (κ × α)}
    (h : Sorted entries) (k : κ) (v : α) : Sorted (insert k v entries) := by
  induction entries with
  | nil => exact List.pairwise_singleton _ _
  | cons e rest ih =>
    obtain ⟨k', v'⟩ := e
    obtain ⟨above, tail⟩ := List.pairwise_cons.1 h
    unfold Assoc.insert
    split
    · rename_i lt
      refine List.pairwise_cons.2 ⟨fun x hx => ?_, h⟩
      rcases List.mem_cons.1 hx with rfl | hx
      · exact lt
      · exact Std.TransCmp.lt_trans lt (above x hx)
    · rename_i eq
      obtain rfl := Std.LawfulEqCmp.eq_of_compare eq
      exact List.pairwise_cons.2 ⟨above, tail⟩
    · rename_i gt
      refine List.pairwise_cons.2 ⟨fun x hx => ?_, ih tail⟩
      rcases mem_insert hx with rfl | hx
      · exact Std.OrientedCmp.lt_of_gt gt
      · exact above x hx

theorem find?_insert_self [Std.LawfulEqOrd κ] (k : κ) (v : α) (entries : List (κ × α)) :
    find? k (insert k v entries) = some v := by
  induction entries with
  | nil => simp [insert, find?]
  | cons e rest ih =>
    obtain ⟨k', v'⟩ := e
    unfold insert
    split
    · simp [find?]
    · simp [find?]
    · rename_i gt
      simp [find?, gt, ih]

theorem find?_insert_of_ne [Std.LawfulEqOrd κ] {k k' : κ} (h : k' ≠ k) (v : α)
    (entries : List (κ × α)) : find? k' (insert k v entries) = find? k' entries := by
  have ne : compare k' k ≠ .eq := fun eq => h (Std.LawfulEqCmp.eq_of_compare eq)
  induction entries with
  | nil => simp [insert, find?, ne]
  | cons e rest ih =>
    obtain ⟨j, w⟩ := e
    unfold insert
    split
    · simp [find?, ne]
    · rename_i eq
      obtain rfl := Std.LawfulEqCmp.eq_of_compare eq
      simp [find?, ne]
    · simp only [find?, ih]

theorem find?_map (f : α → β) (k : κ) (entries : List (κ × α)) :
    find? k (entries.map fun e => (e.1, f e.2)) = (find? k entries).map f := by
  induction entries with
  | nil => rfl
  | cons e rest ih =>
    obtain ⟨k', v'⟩ := e
    simp only [List.map_cons, find?, ih]
    split <;> rfl

/-! ### Sorted entries -/

theorem compare_self_ne_lt [Std.ReflOrd κ] (k : κ) : compare k k ≠ .lt := by simp

theorem Sorted.notMem_rest [Std.ReflOrd κ] {k : κ} {v : α} {rest : List (κ × α)}
    (h : Sorted ((k, v) :: rest)) (w : α) : (k, w) ∉ rest := by
  intro hmem
  obtain ⟨above, -⟩ := List.pairwise_cons.1 h
  exact compare_self_ne_lt k (above _ hmem)

theorem Sorted.find?_eq_some_iff [Std.LawfulEqOrd κ] {entries : List (κ × α)}
    (h : Sorted entries) {k : κ} {v : α} : find? k entries = some v ↔ (k, v) ∈ entries := by
  induction entries with
  | nil => simp [find?]
  | cons e rest ih =>
    obtain ⟨k', v'⟩ := e
    by_cases hk : k = k'
    · subst hk
      simp [find?, h.notMem_rest v, eq_comm]
    · have ne : compare k k' ≠ .eq := fun eq => hk (Std.LawfulEqCmp.eq_of_compare eq)
      simp only [find?, if_neg ne, ih (List.pairwise_cons.1 h).2, List.mem_cons, Prod.mk.injEq,
        hk, false_and, false_or]

theorem Sorted.nodup [Std.ReflOrd κ] {entries : List (κ × α)} (h : Sorted entries) :
    entries.Nodup := by
  refine h.imp ?_
  rintro x y hlt rfl
  exact compare_self_ne_lt x.1 hlt

theorem Sorted.find?_rest [Std.LawfulEqOrd κ] {k : κ} {v : α}
    {rest : List (κ × α)} (h : Sorted ((k, v) :: rest)) : find? k rest = none := by
  rw [Option.eq_none_iff_forall_ne_some]
  intro w hw
  exact h.notMem_rest w ((Sorted.find?_eq_some_iff (List.pairwise_cons.1 h).2).1 hw)

/-- Two maps with the same values are the same list. -/
theorem Sorted.ext [Std.TransOrd κ] [Std.LawfulEqOrd κ] {xs ys : List (κ × α)} (hx : Sorted xs)
    (hy : Sorted ys) (h : ∀ k, find? k xs = find? k ys) : xs = ys := by
  have hmem : ∀ e, e ∈ xs ↔ e ∈ ys := by
    rintro ⟨k, v⟩
    rw [← hx.find?_eq_some_iff, h, hy.find?_eq_some_iff]
  have hperm : xs.Perm ys := (List.perm_ext_iff_of_nodup hx.nodup hy.nodup).2 hmem
  refine hperm.eq_of_pairwise ?_ hx hy
  intro x y _ _ hlt hgt
  exact absurd (Std.TransCmp.lt_trans hlt hgt) (compare_self_ne_lt x.1)

/-! ### Maps of lists -/

/-- Whether entries are sorted depends on their keys alone. -/
theorem Sorted.of_map_fst {entries : List (κ × α)} {others : List (κ × β)} (h : Sorted entries)
    (hkeys : others.map (·.1) = entries.map (·.1)) : Sorted others := by
  have hpairwise : (entries.map (·.1)).Pairwise fun k k' => compare k k' = .lt :=
    List.pairwise_map.2 h
  rw [← hkeys] at hpairwise
  exact List.pairwise_map.1 hpairwise

theorem sorted_ofList [Std.TransOrd κ] [Std.LawfulEqOrd κ] (entries : List (κ × α)) :
    Sorted (ofList entries) := by
  have hfold : ∀ map : List (κ × α), Sorted map →
      Sorted (entries.foldl (fun map entry => insert entry.1 entry.2 map) map) := by
    induction entries with
    | nil => exact fun map h => h
    | cons e entries ih => exact fun map h => ih _ (h.insert e.1 e.2)
  exact hfold [] sorted_nil

theorem insert_of_forall_gt {k : κ} {v : α} {entries : List (κ × α)}
    (h : ∀ e ∈ entries, compare k e.1 = .gt) : insert k v entries = entries ++ [(k, v)] := by
  induction entries with
  | nil => rfl
  | cons e entries ih =>
    have hhead := h e List.mem_cons_self
    have htail := ih fun x hx => h x (List.mem_cons_of_mem e hx)
    simp only [insert, hhead, htail, List.cons_append]

/-- Sorted entries are their own map. -/
theorem Sorted.ofList_eq [Std.OrientedOrd κ] {entries : List (κ × α)} (h : Sorted entries) :
    ofList entries = entries := by
  have hfold : ∀ map rest : List (κ × α), Sorted (map ++ rest) →
      rest.foldl (fun map entry => Assoc.insert entry.1 entry.2 map) map = map ++ rest := by
    intro map rest
    induction rest generalizing map with
    | nil => simp
    | cons e rest ih =>
      intro hsorted
      have hlast : ∀ x ∈ map, compare e.1 x.1 = .gt := fun x hx =>
        Std.OrientedCmp.gt_of_lt
          ((List.pairwise_append.1 hsorted).2.2 x hx e List.mem_cons_self)
      rw [List.foldl_cons, insert_of_forall_gt hlast, ih, List.append_assoc,
        List.singleton_append]
      rwa [List.append_assoc, List.singleton_append]
  exact hfold [] entries h

end Sightline.Assoc

import Sightline.Coverage.Registry
import Sightline.Proofs.Coverage.Union
import Sightline.Proofs.Lists

/-!
# Histories of the registry

What a registry holds can be read off the edits that were made to it, from the oldest to the latest:
which transmitters are listed and where, what coverage each has, and which of them are selected.
One edit keeps the registry and this reading in step (`Refines.apply`), so every history does
(`refines_replay`). What is shown is the union of the coverage read off (`Refines.view_eq`).
-/

namespace Sightline.Registry

/-- A change of the coverage that is known or shown. -/
inductive Edit
  | set (transmitter : String) (coverage : CoverageSet)
  | remove (transmitter : String)
  | select (transmitters : List String)
  deriving DecidableEq

/-- The registry after an edit. -/
def apply (r : Registry) : Edit → Registry
  | .set transmitter coverage => r.set transmitter coverage
  | .remove transmitter => r.remove transmitter
  | .select transmitters => r.select transmitters

/-! ### Readings of a history -/

/-- The transmitters that were set and not removed since, once for every time they were set. -/
def supplies : List Edit → List String
  | [] => []
  | .set transmitter _ :: later =>
    if .remove transmitter ∈ later then supplies later else transmitter :: supplies later
  | .remove _ :: later | .select _ :: later => supplies later

/-- Each of these transmitters once, at the place where it was first set since its last removal. -/
def listing (history : List Edit) : List String := (supplies history).eraseDups

/-- What an edit does to the coverage of a transmitter, if anything: it is replaced, or dropped. -/
def Edit.coverage? (transmitter : String) : Edit → Option (Option CoverageSet)
  | .set t coverage => if t = transmitter then some (some coverage) else none
  | .remove t => if t = transmitter then some none else none
  | .select _ => none

/-- The coverage that a transmitter was given last, unless it was removed since. -/
def latest? (history : List Edit) (transmitter : String) : Option CoverageSet :=
  (history.filterMap (Edit.coverage? transmitter)).getLast?.join

def Edit.isSelect : Edit → Bool
  | .select _ => true
  | _ => false

/-- The transmitters of the last selection that were not removed since. -/
def chosen : List Edit → List String
  | [] => []
  | .select transmitters :: later =>
    if later.any Edit.isSelect then chosen later
    else transmitters.filter fun transmitter => .remove transmitter ∉ later
  | .set _ _ :: later | .remove _ :: later => chosen later

/-- Whether the coverage of a transmitter counts: it is chosen, or none is. -/
def counts (history : List Edit) (transmitter : String) : Bool :=
  (chosen history).isEmpty || (chosen history).contains transmitter

/-- A registry holds what its history says. -/
structure Refines (r : Registry) (history : List Edit) : Prop where
  transmitters : r.transmitters = listing history
  coverage : ∀ transmitter, r.find? transmitter = latest? history transmitter
  selected : r.selected = chosen history

variable {r : Registry} {history : List Edit} {transmitter : String} {coverage : CoverageSet}
  {names : List String}

/-! ### One more edit -/

theorem supplies_set (history : List Edit) (transmitter : String) (coverage : CoverageSet) :
    supplies (history ++ [.set transmitter coverage]) = supplies history ++ [transmitter] := by
  induction history with
  | nil => rfl
  | cons e later ih => cases e <;> simp [supplies, ih, apply_ite (· ++ [transmitter])]

theorem supplies_remove (history : List Edit) (transmitter : String) :
    supplies (history ++ [.remove transmitter]) =
      (supplies history).filter (· != transmitter) := by
  induction history with
  | nil => rfl
  | cons e later ih =>
    cases e with
    | set t coverage =>
      by_cases ht : t = transmitter
      · subst ht
        by_cases hlater : .remove t ∈ later <;> simp [supplies, ih, hlater]
      · by_cases hlater : .remove t ∈ later <;> simp [supplies, ih, hlater, ht]
    | _ => simpa [supplies] using ih

theorem supplies_select (history : List Edit) (names : List String) :
    supplies (history ++ [.select names]) = supplies history := by
  induction history with
  | nil => rfl
  | cons e later ih => cases e <;> simp [supplies, ih]

theorem latest?_concat (history : List Edit) (edit : Edit) (transmitter : String) :
    latest? (history ++ [edit]) transmitter =
      (edit.coverage? transmitter).getD (latest? history transmitter) := by
  unfold latest?
  rw [getLast?_filterMap_concat]
  cases edit.coverage? transmitter <;> rfl

theorem chosen_set (history : List Edit) (transmitter : String) (coverage : CoverageSet) :
    chosen (history ++ [.set transmitter coverage]) = chosen history := by
  induction history with
  | nil => rfl
  | cons e later ih => cases e <;> simp [chosen, ih, Edit.isSelect]

theorem chosen_remove (history : List Edit) (transmitter : String) :
    chosen (history ++ [.remove transmitter]) = (chosen history).filter (· != transmitter) := by
  induction history with
  | nil => rfl
  | cons e later ih =>
    cases e with
    | select names =>
      simp only [chosen, List.cons_append, ih, List.any_append, List.any_cons, List.any_nil,
        Edit.isSelect, Bool.or_false, apply_ite (List.filter (· != transmitter)),
        List.filter_filter]
      congr 1
      apply List.filter_congr
      intro t _
      by_cases ht : t = transmitter
      · simp [ht]
      · simp [ht, Ne.symm]
    | _ => simpa [chosen] using ih

theorem chosen_select (history : List Edit) (names : List String) :
    chosen (history ++ [.select names]) = names := by
  induction history with
  | nil => simp [chosen]
  | cons e later ih => cases e <;> simp [chosen, ih, Edit.isSelect]

/-! ### Listings -/

theorem nodup_listing (history : List Edit) : (listing history).Nodup := nodup_eraseDups _

theorem listing_set (history : List Edit) (transmitter : String) (coverage : CoverageSet) :
    listing (history ++ [.set transmitter coverage]) =
      if transmitter ∈ listing history then listing history
      else listing history ++ [transmitter] := by
  simp only [listing, supplies_set, eraseDups_concat, List.mem_eraseDups]

theorem listing_remove (history : List Edit) (transmitter : String) :
    listing (history ++ [.remove transmitter]) = (listing history).filter (· != transmitter) := by
  rw [listing, supplies_remove, eraseDups_filter, listing]

/-! ### Entries -/

theorem transmitters_set (r : Registry) (transmitter : String) (coverage : CoverageSet) :
    (r.set transmitter coverage).transmitters =
      if transmitter ∈ r.transmitters then r.transmitters
      else r.transmitters ++ [transmitter] := by
  unfold transmitters set
  induction r.entries with
  | nil => rfl
  | cons entry rest ih =>
    obtain ⟨t, old⟩ := entry
    by_cases ht : t = transmitter
    · simp [put, ht]
    · simp only [put, ht, if_false, List.map_cons, ih, List.mem_cons, Ne.symm ht, false_or]
      split <;> simp

theorem transmitters_remove (r : Registry) (transmitter : String) :
    (r.remove transmitter).transmitters = r.transmitters.filter (· != transmitter) := by
  rw [transmitters, transmitters, List.filter_map]
  rfl

theorem find?_set (r : Registry) (transmitter : String) (coverage : CoverageSet) (other : String) :
    (r.set transmitter coverage).find? other =
      if transmitter = other then some coverage else r.find? other := by
  unfold find? set
  induction r.entries with
  | nil => simp [put, List.find?_singleton]
  | cons entry rest ih =>
    obtain ⟨t, old⟩ := entry
    by_cases ht : t = transmitter
    · subst ht
      by_cases hother : t = other <;> simp [put, hother]
    · by_cases hother : t = other
      · subst hother
        simp [put, ht, Ne.symm ht]
      · simpa [put, ht, hother] using ih

theorem find?_remove (r : Registry) (transmitter other : String) :
    (r.remove transmitter).find? other =
      if transmitter = other then none else r.find? other := by
  unfold find? remove
  rw [List.find?_filter]
  split
  · rename_i h
    simp [h]
  · rename_i h
    congr 2
    funext entry
    by_cases hentry : entry.1 = other
    · simp [hentry, Ne.symm h]
    · simp [hentry]

theorem contains_eq_decide (r : Registry) (transmitter : String) :
    r.contains transmitter = decide (transmitter ∈ r.transmitters) := by
  rw [Bool.eq_iff_iff, decide_eq_true_iff]
  simp [contains, transmitters]

theorem mem_transmitters_iff :
    transmitter ∈ r.transmitters ↔ (r.find? transmitter).isSome := by
  simp [find?, transmitters, List.find?_isSome]

/-! ### Refinement -/

theorem refines_empty : Refines .empty [] := ⟨rfl, fun _ => rfl, rfl⟩

theorem Refines.apply (h : Refines r history) (edit : Edit) :
    Refines (r.apply edit) (history ++ [edit]) := by
  cases edit with
  | set transmitter coverage =>
    constructor
    · show (r.set transmitter coverage).transmitters = _
      rw [transmitters_set, listing_set, h.transmitters]
    · intro other
      show (r.set transmitter coverage).find? other = _
      rw [find?_set, latest?_concat, h.coverage, Edit.coverage?]
      split <;> rfl
    · rw [chosen_set]
      exact h.selected
  | remove transmitter =>
    constructor
    · show (r.remove transmitter).transmitters = _
      rw [transmitters_remove, listing_remove, h.transmitters]
    · intro other
      show (r.remove transmitter).find? other = _
      rw [find?_remove, latest?_concat, h.coverage, Edit.coverage?]
      split <;> rfl
    · rw [chosen_remove, ← h.selected]
      rfl
  | select names =>
    constructor
    · rw [listing, supplies_select]
      exact h.transmitters
    · intro other
      rw [latest?_concat]
      exact h.coverage other
    · rw [chosen_select]
      rfl

theorem refines_replay (history : List Edit) :
    Refines (history.foldl Registry.apply .empty) history := by
  induction history using List.reverseRecOn with
  | nil => exact refines_empty
  | append_singleton history edit ih =>
    rw [List.foldl_append]
    exact ih.apply edit

/-- A transmitter that was removed is listed again at the end. -/
example : listing [.set "a" .empty, .set "b" .empty, .remove "a", .set "a" .empty,
    .set "b" .empty] = ["b", "a"] := by decide +kernel

/-! ### What is shown -/

theorem find?_of_mem_entries (h : r.transmitters.Nodup) {entry : String × CoverageSet}
    (hentry : entry ∈ r.entries) : r.find? entry.1 = some entry.2 := by
  obtain ⟨entries, selected⟩ := r
  simp only [find?, transmitters] at h hentry ⊢
  induction entries with
  | nil => cases hentry
  | cons first rest ih =>
    rw [List.map_cons, List.nodup_cons] at h
    rcases List.mem_cons.1 hentry with rfl | hrest
    · simp
    · have hne : first.1 ≠ entry.1 := fun heq => h.1 (heq ▸ List.mem_map_of_mem hrest)
      rw [List.find?_cons_of_neg (by simpa using hne)]
      exact ih h.2 hrest

/-- The view is the union of the coverage of the transmitters that are shown, as they are listed. -/
theorem view_eq_union_find? (h : r.transmitters.Nodup) :
    r.view = .union ((r.transmitters.filter r.shows).filterMap r.find?) := by
  have hfound : ∀ entry ∈ r.entries.filter fun e => r.shows e.1,
      r.find? entry.1 = some entry.2 := by
    intro entry hentry
    exact find?_of_mem_entries h (List.mem_of_mem_filter hentry)
  rw [view, transmitters, List.filter_map, List.filterMap_map]
  congr 1
  rw [← List.filterMap_eq_map]
  exact (List.filterMap_congr hfound).symm

theorem Refines.shows_eq (h : Refines r history) : r.shows = counts history := by
  funext transmitter
  rw [shows, counts, h.selected]

theorem Refines.view_eq (h : Refines r history) :
    r.view = .union (((listing history).filter (counts history)).filterMap (latest? history)) := by
  have hnodup : r.transmitters.Nodup := h.transmitters ▸ nodup_listing history
  rw [view_eq_union_find? hnodup, h.transmitters, h.shows_eq, funext h.coverage]

theorem Refines.status_view_iff (h : Refines r history) {building : BuildingKey} :
    r.view.status building = .serviceable ↔
      ∃ transmitter ∈ listing history, counts history transmitter = true ∧
        ∃ set, latest? history transmitter = some set ∧ set.status building = .serviceable := by
  rw [h.view_eq, CoverageSet.status_union_eq_serviceable_iff]
  constructor
  · rintro ⟨set, hset, hstatus⟩
    obtain ⟨transmitter, hmem, hlatest⟩ := List.mem_filterMap.1 hset
    obtain ⟨hlisted, hcounts⟩ := List.mem_filter.1 hmem
    exact ⟨transmitter, hlisted, hcounts, set, hlatest, hstatus⟩
  · rintro ⟨transmitter, hlisted, hcounts, set, hlatest, hstatus⟩
    have hmem := List.mem_filter.2 ⟨hlisted, hcounts⟩
    exact ⟨set, List.mem_filterMap.2 ⟨transmitter, hmem, hlatest⟩, hstatus⟩

end Sightline.Registry

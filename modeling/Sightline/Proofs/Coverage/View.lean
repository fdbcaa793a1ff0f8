import Sightline.Coverage.Registry
import Sightline.Proofs.Coverage.Union

/-!
# The coverage that is shown

A union is empty only if all its sets are. A registry is blanked by a transmitter without coverage
if that transmitter alone is selected: nothing is shown although there is coverage. Forgetting it
leaves the selection empty, and then everything is shown; forgetting any other transmitter without
coverage makes no difference (`view_remove_of_not_blankedBy`).
-/

namespace Sightline

namespace CoverageSet

variable {s : CoverageSet}

theorem eq_empty_iff : s = empty ↔ s.rows = [] := by
  constructor
  · rintro rfl
    rfl
  · obtain ⟨rows, sorted⟩ := s
    rintro rfl
    rfl

theorem eq_empty_iff_forall_find? : s = empty ↔ ∀ key, s.find? key = none := by
  constructor
  · rintro rfl key
    rfl
  · intro h
    exact ext h

theorem union_eq_empty_iff {sets : List CoverageSet} :
    union sets = empty ↔ ∀ t ∈ sets, t = empty := by
  simp only [eq_empty_iff_forall_find?, find?_union, joined?_eq_none_iff,
    List.filterMap_eq_nil_iff]
  exact ⟨fun h t ht key => h key t ht, fun h key t ht => h t ht key⟩

end CoverageSet

namespace Registry

variable {r : Registry} {transmitter : String}

/-- Only one transmitter is selected, and it has no coverage while there is some to be shown. -/
def BlankedBy (r : Registry) (transmitter : String) : Prop :=
  r.contains transmitter = false ∧ r.selected ≠ [] ∧ (∀ t ∈ r.selected, t = transmitter) ∧
    ∃ entry ∈ r.entries, entry.2 ≠ .empty

theorem contains_eq_false_iff :
    r.contains transmitter = false ↔ ∀ entry ∈ r.entries, entry.1 ≠ transmitter := by
  simp [contains]

theorem view_eq_empty_iff :
    r.view = .empty ↔ ∀ entry ∈ r.entries, r.shows entry.1 = true → entry.2 = .empty := by
  simp only [view, CoverageSet.union_eq_empty_iff, List.forall_mem_map, List.mem_filter, and_imp]

theorem shows_of_selected_eq_nil (h : r.selected = []) (t : String) : r.shows t = true := by
  simp [shows, h]

theorem entries_remove_of_contains_eq_false (h : r.contains transmitter = false) :
    (r.remove transmitter).entries = r.entries := by
  rw [contains_eq_false_iff] at h
  exact List.filter_eq_self.2 fun entry he => by simpa using h entry he

theorem BlankedBy.selected_remove (h : r.BlankedBy transmitter) :
    (r.remove transmitter).selected = [] := by
  obtain ⟨-, -, hall, -⟩ := h
  exact List.filter_eq_nil_iff.2 fun t ht => by simp [hall t ht]

theorem BlankedBy.view_eq (h : r.BlankedBy transmitter) : r.view = .empty := by
  obtain ⟨habsent, hselected, hall, -⟩ := h
  rw [view_eq_empty_iff]
  intro entry he hshown
  have hmem : entry.1 ∈ r.selected := by simpa [shows, hselected] using hshown
  exact absurd (hall _ hmem) (contains_eq_false_iff.1 habsent entry he)

/-- Without a selection everything is shown. -/
theorem view_ne_empty_of_selected_eq_nil (h : r.selected = [])
    (hentry : ∃ entry ∈ r.entries, entry.2 ≠ .empty) : r.view ≠ .empty := by
  obtain ⟨entry, he, hne⟩ := hentry
  intro hview
  exact hne (view_eq_empty_iff.1 hview entry he (shows_of_selected_eq_nil h _))

/-- Another transmitter stays selected, so the same coverage is shown. -/
theorem view_remove_of_mem_selected {other : String} (h : r.contains transmitter = false)
    (hmem : other ∈ r.selected) (hother : other ≠ transmitter) :
    (r.remove transmitter).view = r.view := by
  have hkept : other ∈ (r.remove transmitter).selected := by simp [remove, hmem, hother]
  have hshows : ∀ entry ∈ r.entries,
      (r.remove transmitter).shows entry.1 = r.shows entry.1 := by
    intro entry he
    have hne := contains_eq_false_iff.1 h entry he
    simp only [shows, List.isEmpty_eq_false_iff.2 (List.ne_nil_of_mem hmem),
      List.isEmpty_eq_false_iff.2 (List.ne_nil_of_mem hkept), Bool.false_or]
    simp [remove, hne]
  rw [view, view, entries_remove_of_contains_eq_false h, List.filter_congr hshows]

theorem view_remove_of_not_blankedBy (h : r.contains transmitter = false)
    (hnot : ¬ r.BlankedBy transmitter) : (r.remove transmitter).view = r.view := by
  by_cases hselected : r.selected = []
  · have hsame : r.remove transmitter = r := by
      have hentries := entries_remove_of_contains_eq_false h
      obtain ⟨entries, selected⟩ := r
      obtain rfl : selected = [] := hselected
      exact congrArg (Registry.mk · []) hentries
    rw [hsame]
  by_cases hall : ∀ t ∈ r.selected, t = transmitter
  · -- all coverage is empty, so whatever is selected shows nothing
    have hempty : ∀ entry ∈ r.entries, entry.2 = .empty := by
      intro entry he
      by_contra hne
      exact hnot ⟨h, hselected, hall, entry, he, hne⟩
    have hremoved := hempty
    rw [← entries_remove_of_contains_eq_false h] at hremoved
    rw [view_eq_empty_iff.2 fun entry he _ => hempty entry he,
      view_eq_empty_iff.2 fun entry he _ => hremoved entry he]
  · push Not at hall
    obtain ⟨other, hmem, hother⟩ := hall
    exact view_remove_of_mem_selected h hmem hother

end Registry

end Sightline

import Sightline.Proofs.Coverage.Features
import Sightline.Proofs.Session.Recall

/-!
# Keys and footprints

A building without a number is kept under the key of its footprint. A union keeps the key and takes
the footprint of a later set, but that set has it under the same key. So whatever a set is built
from, its rows without a number get their own key again from their footprint (`keyed_of_built`).
-/

namespace Sightline

namespace CoverageSet

variable {s t : CoverageSet} {sets : List CoverageSet} {key : BuildingKey}
  {row : BuildingKey × CoverageRecord} {record incoming : CoverageRecord}

/-! ### Rows -/

/-- A row without a number has the key of its footprint; an unknown footprint counts as the empty
ring. -/
def Keyed (row : BuildingKey × CoverageRecord) : Prop :=
  ∀ vertices, row.1 = .ring vertices →
    BuildingKey.ofBuilding none (row.2.footprint.getD []) = some row.1

theorem keyed_of_ofBuilding {number : Option Nat} {footprint : Option Footprint}
    (h : BuildingKey.ofBuilding number (footprint.getD []) = some key)
    (status : CoverageStatus) : Keyed (key, ⟨footprint, status⟩) := by
  intro vertices hkey
  cases number with
  | none => exact h
  | some n =>
    obtain rfl : .id n = key := Option.some.inj h
    cases hkey

theorem footprint_joinRecord (present : Option CoverageRecord) (incoming : CoverageRecord) :
    (joinRecord present incoming).footprint = incoming.footprint := by
  cases present <;> rfl

/-- The footprint comes with a row of the same key. -/
theorem Keyed.joinRecord (h : Keyed (key, incoming)) (present : Option CoverageRecord) :
    Keyed (key, joinRecord present incoming) := by
  intro vertices hkey
  rw [footprint_joinRecord]
  exact h vertices hkey

/-! ### Sets -/

/-- All rows without a number have the key of their footprint. -/
def AllKeyed (s : CoverageSet) : Prop := ∀ row ∈ s.rows, Keyed row

theorem allKeyed_empty : AllKeyed empty := by simp [AllKeyed, empty]

theorem AllKeyed.put (h : AllKeyed s) (hnew : Keyed (key, record)) :
    AllKeyed (s.put key record) := by
  intro row hrow
  rcases Assoc.mem_insert hrow with rfl | hrow
  · exact hnew
  · exact h row hrow

theorem AllKeyed.insert {number : Option Nat} {footprint : Option Footprint}
    {status : CoverageStatus} (h : AllKeyed s) (ht : s.insert number footprint status = some t) :
    AllKeyed t := by
  obtain ⟨key, hkey, rfl⟩ := Option.map_eq_some_iff.1 ht
  exact h.put (keyed_of_ofBuilding hkey status)

theorem AllKeyed.addFeature {raw : Json} (h : AllKeyed s) (ht : s.addFeature raw = some t) :
    AllKeyed t := by
  unfold CoverageSet.addFeature at ht
  split at ht
  · cases ht
    exact h
  · split at ht
    · exact h.insert ht
    · cases ht
      exact h

theorem allKeyed_ofFeatures {features : List Json} (ht : ofFeatures features = some t) :
    AllKeyed t := by
  induction features using List.reverseRecOn generalizing t with
  | nil =>
    cases ht
    exact allKeyed_empty
  | append_singleton features raw ih =>
    rw [ofFeatures_concat] at ht
    obtain ⟨s, hs, ht⟩ := Option.bind_eq_some_iff.1 ht
    exact (ih hs).addFeature ht

theorem AllKeyed.addRow (h : AllKeyed s) (hrow : Keyed row) : AllKeyed (s.addRow row) :=
  h.put (hrow.joinRecord _)

theorem AllKeyed.merge (h : AllKeyed s) (ht : AllKeyed t) : AllKeyed (s.merge t) :=
  List.foldlRecOn t.rows _ h fun _ h row hrow => h.addRow (ht row hrow)

theorem allKeyed_union (h : ∀ t ∈ sets, AllKeyed t) : AllKeyed (union sets) :=
  List.foldlRecOn sets _ allKeyed_empty fun _ hs t ht => hs.merge (h t ht)

end CoverageSet

/-! ### Registries -/

namespace Registry

variable {history : List Edit} {transmitter : String} {coverage : CoverageSet}

theorem coverage?_eq_some_iff {edit : Edit} :
    edit.coverage? transmitter = some (some coverage) ↔ edit = .set transmitter coverage := by
  cases edit with
  | set t set => simp [Edit.coverage?]
  | remove t => simp [Edit.coverage?]
  | select names => simp [Edit.coverage?]

/-- A transmitter has no coverage but what it was given. -/
theorem set_mem_of_latest? (h : latest? history transmitter = some coverage) :
    .set transmitter coverage ∈ history := by
  have hlast := List.mem_of_getLast? (Option.join_eq_some_iff.1 h)
  obtain ⟨edit, hedit, hcoverage⟩ := List.mem_filterMap.1 hlast
  exact coverage?_eq_some_iff.1 hcoverage ▸ hedit

/-- A registry shows the union of sets that it was given. -/
theorem exists_view_eq_union (history : List Edit) :
    ∃ sets, (history.foldl Registry.apply .empty).view = .union sets ∧
      ∀ set ∈ sets, ∃ transmitter, .set transmitter set ∈ history := by
  refine ⟨_, (refines_replay history).view_eq, ?_⟩
  intro set hset
  obtain ⟨transmitter, -, hlatest⟩ := List.mem_filterMap.1 hset
  exact ⟨transmitter, set_mem_of_latest? hlatest⟩

end Registry

/-! ### Sets that can be built -/

namespace CoverageSet

open Registry (Edit)

variable {s : CoverageSet}

/-- The sets that are built from buildings, features, unions and what registries of such sets
show. -/
inductive Built : CoverageSet → Prop
  | empty : Built empty
  | insert {s t : CoverageSet} {number : Option Nat} {footprint : Option Footprint}
    {status : CoverageStatus} (h : Built s) (ht : s.insert number footprint status = some t) :
    Built t
  | ofFeatures {features : List Json} {t : CoverageSet} (ht : ofFeatures features = some t) :
    Built t
  | union {sets : List CoverageSet} (h : ∀ s ∈ sets, Built s) : Built (union sets)
  | view {history : List Edit}
    (h : ∀ transmitter coverage, .set transmitter coverage ∈ history → Built coverage) :
    Built (history.foldl Registry.apply .empty).view

theorem Built.allKeyed (h : Built s) : AllKeyed s := by
  induction h with
  | empty => exact allKeyed_empty
  | insert _ ht ih => exact ih.insert ht
  | ofFeatures ht => exact allKeyed_ofFeatures ht
  | union _ ih => exact allKeyed_union ih
  | @view history _ ih =>
    obtain ⟨sets, hview, hsets⟩ := Registry.exists_view_eq_union history
    rw [hview]
    apply allKeyed_union
    intro set hset
    obtain ⟨transmitter, hmem⟩ := hsets set hset
    exact ih transmitter set hmem

end CoverageSet

namespace Session

variable {s : Session} {action : Action} {actions : List Action} {transmitter : String}
  {coverage : CoverageSet}

/-- Coverage comes from the caller, or is read off features. -/
theorem source_of_edit? (h : s.edit? action = some (.set transmitter coverage)) :
    action = .setCoverage transmitter coverage ∨
      ∃ features, CoverageSet.ofFeatures features = some coverage := by
  cases action with
  | setCoverage t set =>
    obtain ⟨rfl, rfl⟩ := Registry.Edit.set.inj (Option.some.inj h)
    exact .inl rfl
  | processNext =>
    obtain ⟨event, -, h⟩ := Option.bind_eq_some_iff.1 h
    obtain ⟨⟨t, set⟩, hcoverage, h⟩ := Option.bind_eq_some_iff.1 h
    obtain ⟨rfl, rfl⟩ := Registry.Edit.set.inj (Option.some.inj h)
    exact .inr (ChannelEvent.exists_features_of_coverage? hcoverage)
  | removeTransmitter t => cases Option.some.inj h
  | selectTransmitters names => cases Option.some.inj h
  | _ => cases h

theorem map_snd_turns (s : Session) (actions : List Action) :
    (s.turns actions).map (·.2) = actions := by
  induction actions generalizing s with
  | nil => rfl
  | cons action rest ih => rw [turns, List.map_cons, ih]

/-- Sessions that are given sets of this kind show such a set. -/
theorem built_view (config : SessionConfig) (channel : Channel)
    (h : ∀ transmitter set, .setCoverage transmitter set ∈ actions → CoverageSet.Built set) :
    CoverageSet.Built ((start config channel).run actions).1.coverage.view := by
  rw [coverage_eq_replay]
  apply CoverageSet.Built.view
  intro transmitter set hset
  obtain ⟨turn, hturn, hedit⟩ := List.mem_filterMap.1 hset
  rcases source_of_edit? hedit with hgiven | ⟨features, hread⟩
  · have haction := List.mem_map_of_mem (f := (·.2)) hturn
    rw [map_snd_turns, hgiven] at haction
    exact h transmitter set haction
  · exact .ofFeatures hread

end Session

namespace CoverageSet

/-- In every set that is built from buildings, features and unions, and in what registries and
sessions show of such sets, a row without a number has the key of its own footprint. -/
theorem keyed_of_built :
    (∀ s, Built s → ∀ row ∈ s.rows, Keyed row) ∧
      ∀ (config : SessionConfig) (channel : Channel) (actions : List Session.Action),
        (∀ transmitter set, .setCoverage transmitter set ∈ actions → Built set) →
        Built ((Session.start config channel).run actions).1.coverage.view :=
  ⟨fun _ h => h.allKeyed, fun config channel _ h => Session.built_view config channel h⟩

/-- A building with the square for its footprint. -/
def surveyed : CoverageSet :=
  empty.put (.rounded quantizeVertex BuildingKey.square) ⟨some BuildingKey.square, .serviceable⟩

/-- A feature of the same building, whose ring is written down in another way. -/
def squareFeature : Json :=
  .obj [("geometry", .obj [("coordinates", .arr [.arr (BuildingKey.squareAgain.map fun p =>
    .arr [.float p.1, .float p.2])])])]

/-- The set of this feature. -/
def reported : CoverageSet :=
  empty.put (.rounded quantizeVertex BuildingKey.squareAgain)
    ⟨some BuildingKey.squareAgain, .unknown⟩

/-- The union keeps the key of the square and takes the ring of the feature. -/
theorem keyed_of_built_square :
    empty.insert none (some BuildingKey.square) .serviceable = some surveyed ∧
      ofFeatures [squareFeature] = some reported ∧
      (union [surveyed, reported]).rows =
        [(BuildingKey.rounded quantizeVertex BuildingKey.square,
          ⟨some BuildingKey.squareAgain, .serviceable⟩)] ∧
      BuildingKey.ofFootprint BuildingKey.squareAgain =
        some (.rounded quantizeVertex BuildingKey.square) ∧
      Built (Session.sample.run [.setCoverage "a" surveyed]).1.coverage.view := by
  have hinsert : empty.insert none (some BuildingKey.square) .serviceable = some surveyed := by
    decide +kernel
  have hread : ofFeatures [squareFeature] = some reported := by decide +kernel
  have hsurveyed : Built surveyed := .insert .empty hinsert
  have hunion : Built (union [surveyed, reported]) := by
    apply Built.union
    simp only [List.forall_mem_cons, List.not_mem_nil, false_imp_iff, implies_true, and_true]
    exact ⟨hsurveyed, .ofFeatures hread⟩
  have hrows : (union [surveyed, reported]).rows =
      [(BuildingKey.rounded quantizeVertex BuildingKey.square,
        ⟨some BuildingKey.squareAgain, .serviceable⟩)] := by
    decide +kernel
  obtain ⟨hkeyed, hsession⟩ := keyed_of_built
  refine ⟨hinsert, hread, hrows, ?_, ?_⟩
  · have hrow : Keyed (BuildingKey.rounded quantizeVertex BuildingKey.square,
        ⟨some BuildingKey.squareAgain, .serviceable⟩) := by
      apply hkeyed _ hunion
      rw [hrows]
      exact List.mem_singleton_self _
    exact hrow _ rfl
  · apply hsession
    intro transmitter set hmem
    obtain ⟨-, rfl⟩ := Session.Action.setCoverage.inj (List.mem_singleton.1 hmem)
    exact hsurveyed

end CoverageSet

end Sightline

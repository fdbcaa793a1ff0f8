import Sightline.Coverage.Feature
import Sightline.Proofs.Coverage.Footprint
import Sightline.Proofs.Coverage.Union
import Sightline.Proofs.Lists

/-!
# Reading features

`Feature.Describes` says which values describe a building, and of what: fields may be absent or
`null`, and of the rings only the first one counts. The set of a list of features holds for each
building what the last feature of this building says (`find?_ofFeatures`). Features that describe
no building, or one without a number and a ring, make no difference wherever they stand, and no
building is kept under the key of the empty ring. One feature without a number whose ring is too
wide for its area takes the whole set away (`ofFeatures_keeps_last`).
-/

namespace Sightline

/-! ### Fields -/

/-- A field with an optional value, which may be absent or `null`. -/
inductive Json.Gives {α : Type} (read : Json → Option α) : Option Json → Option α → Prop
  | absent : Gives read none none
  | null : Gives read (some .null) none
  | value {v : Json} {a : α} (h : read v = some a) : Gives read (some v) (some a)

theorem Json.withDefault?_nullable?_eq_some_iff {α : Type} {read : Json → Option α}
    (hnull : read .null = none) {field : Option Json} {value : Option α} :
    withDefault? none (nullable? read) field = some value ↔ Gives read field value := by
  constructor
  · intro h
    cases field with
    | none =>
      obtain rfl := Option.some.inj h
      exact .absent
    | some v =>
      cases v with
      | null =>
        obtain rfl := Option.some.inj h
        exact .null
      | _ =>
        obtain ⟨a, ha, rfl⟩ := Option.map_eq_some_iff.1 h
        exact .value ha
  · intro h
    cases h with
    | absent | null => rfl
    | @value v a ha =>
      cases v with
      | null =>
        rw [hnull] at ha
        cases ha
      | _ => exact Option.map_eq_some_iff.2 ⟨a, ha, rfl⟩

/-! ### Features -/

namespace Feature

variable {raw : Json} {f : Feature} {key : BuildingKey} {record : CoverageRecord}

/-- A geometry and the footprint that it gives. An empty first ring is none. -/
inductive GivesFootprint : Option Json → Option Footprint → Prop
  | absent : GivesFootprint none none
  | null : GivesFootprint (some .null) none
  | noRing {v : Json} (h : rings? v = some []) : GivesFootprint (some v) none
  | emptyRing {v : Json} {more : List Footprint} (h : rings? v = some ([] :: more)) :
    GivesFootprint (some v) none
  | ring {v : Json} {vertex : Float × Float} {rest : Footprint} {more : List Footprint}
    (h : rings? v = some ((vertex :: rest) :: more)) :
    GivesFootprint (some v) (some (vertex :: rest))

/-- Properties, with the number and the status word that they give. -/
inductive GivesProperties : Option Json → Option Nat → Option String → Prop
  | absent : GivesProperties none none none
  | record {v : Json} {numberField wordField : Option Json} {number : Option Nat}
    {word : Option String}
    (hfields : v.fields? ["msftid", "serviceable"] = some [numberField, wordField])
    (hnumber : Json.Gives (Json.natUpTo? numberBound) numberField number)
    (hword : Json.Gives Json.str? wordField word) : GivesProperties (some v) number word

/-- A value that describes a building, and what it says of it. -/
inductive Describes (raw : Json) (f : Feature) : Prop
  | record {geometry properties : Option Json}
    (hfields : raw.fields? ["geometry", "properties"] = some [geometry, properties])
    (hgeometry : GivesFootprint geometry f.footprint)
    (hproperties : GivesProperties properties f.number f.word)

theorem givesFootprint_iff {geometry : Option Json} {footprint : Option Footprint} :
    GivesFootprint geometry footprint ↔
      ∃ rings, Json.Gives rings? geometry rings ∧ rings.bind footprintOf = footprint := by
  constructor
  · intro h
    cases h with
    | absent => exact ⟨none, .absent, rfl⟩
    | null => exact ⟨none, .null, rfl⟩
    | noRing h | emptyRing h | ring h => exact ⟨_, .value h, rfl⟩
  · rintro ⟨rings, hrings, rfl⟩
    cases hrings with
    | absent => exact .absent
    | null => exact .null
    | @value v rings h =>
      match rings with
      | [] => exact .noRing h
      | [] :: more => exact .emptyRing h
      | (vertex :: rest) :: more => exact .ring h

theorem givesProperties_iff {properties : Option Json} {number : Option Nat}
    {word : Option String} :
    GivesProperties properties number word ↔
      Json.withDefault? (none, none) properties? properties = some (number, word) := by
  constructor
  · intro h
    cases h with
    | absent => rfl
    | record hfields hnumber hword =>
      rw [← Json.withDefault?_nullable?_eq_some_iff rfl] at hnumber hword
      rw [Json.withDefault?, properties?, hfields, Option.bind_eq_bind, Option.bind_some]
      simp only [hnumber, hword, Option.bind_eq_bind, Option.bind_some]
      rfl
  · intro h
    cases properties with
    | none =>
      cases h
      exact .absent
    | some v =>
      obtain ⟨fields, hfields, h⟩ := Option.bind_eq_some_iff.1 h
      split at h
      · obtain ⟨number, hnumber, h⟩ := Option.bind_eq_some_iff.1 h
        obtain ⟨word, hword, h⟩ := Option.bind_eq_some_iff.1 h
        cases h
        rw [Json.withDefault?_nullable?_eq_some_iff rfl] at hnumber hword
        exact .record hfields hnumber hword
      · cases h

/-- A value can be read exactly if it describes a building. -/
theorem ofJson?_eq_some_iff : ofJson? raw = some f ↔ Describes raw f := by
  constructor
  · intro h
    obtain ⟨fields, hfields, h⟩ := Option.bind_eq_some_iff.1 h
    split at h
    · obtain ⟨rings, hrings, h⟩ := Option.bind_eq_some_iff.1 h
      obtain ⟨⟨number, word⟩, hproperties, h⟩ := Option.bind_eq_some_iff.1 h
      cases h
      rw [Json.withDefault?_nullable?_eq_some_iff rfl] at hrings
      exact .record hfields (givesFootprint_iff.2 ⟨rings, hrings, rfl⟩)
        (givesProperties_iff.2 hproperties)
    · cases h
  · rintro ⟨hfields, hgeometry, hproperties⟩
    obtain ⟨rings, hrings, hfootprint⟩ := givesFootprint_iff.1 hgeometry
    rw [← Json.withDefault?_nullable?_eq_some_iff rfl] at hrings
    rw [givesProperties_iff] at hproperties
    rw [ofJson?, hfields, Option.bind_eq_bind, Option.bind_some]
    simp only [hrings, hproperties, hfootprint, Option.bind_eq_bind, Option.bind_some]
    rfl

/-- The building of a feature and its record: that of its number, otherwise that of its ring with an
exact area. -/
inductive Brings (raw : Json) : BuildingKey → CoverageRecord → Prop
  | numbered {f : Feature} {number : Nat} (h : Describes raw f) (hnumber : f.number = some number) :
    Brings raw (.id number) ⟨f.footprint, .ofWord f.word⟩
  | outlined {f : Feature} {ring : Footprint} (h : Describes raw f) (hnumber : f.number = none)
    (hring : f.footprint = some ring) :
    Brings raw (.rounded quantizeVertex ring) ⟨some ring, .ofWord f.word⟩

/-- A feature that describes no building, or one with neither a number nor a ring. -/
def Idle (raw : Json) : Prop :=
  ∀ f, Describes raw f → f.number = none ∧ f.footprint = none

/-- A feature that describes a building without a number, and with a ring whose sums overflow. -/
inductive Stops (raw : Json) : Prop
  | overflow {f : Feature} {ring : Footprint} (h : Describes raw f) (hnumber : f.number = none)
    (hring : f.footprint = some ring) (hsums : ¬ SumsFit (crossTerms (BuildingKey.corners ring)))

theorem idle_iff : Idle raw ↔ ∀ f ∈ ofJson? raw, f.number = none ∧ f.footprint = none := by
  simp only [Idle, Option.mem_def, ofJson?_eq_some_iff]

theorem Describes.footprint_ne_nil (h : Describes raw f) : f.footprint ≠ some [] := by
  obtain ⟨-, hgeometry, -⟩ := h
  intro hempty
  rw [hempty] at hgeometry
  cases hgeometry

/-- The key that a feature with a number or a ring is for, with an exact area. -/
def exactKey (f : Feature) : BuildingKey :=
  match f.number with
  | some number => .id number
  | none => .rounded quantizeVertex (f.footprint.getD [])

/-- The record that a feature brings for a building, if it is a feature of this building. -/
def recordFor? (key : BuildingKey) (raw : Json) : Option CoverageRecord :=
  (ofJson? raw).bind fun f =>
    if f.hasKey ∧ key = f.exactKey then some ⟨f.footprint, .ofWord f.word⟩ else none

theorem recordFor?_eq_some_iff : recordFor? key raw = some record ↔ Brings raw key record := by
  constructor
  · intro h
    obtain ⟨⟨number, footprint, word⟩, hread, hrecord⟩ := Option.bind_eq_some_iff.1 h
    rw [ofJson?_eq_some_iff] at hread
    split at hrecord
    · next hkey =>
      obtain ⟨hkeyed, rfl⟩ := hkey
      cases hrecord
      cases number with
      | some n => exact .numbered hread rfl
      | none =>
        cases footprint with
        | some ring => exact .outlined hread rfl rfl
        | none => cases hkeyed
    · cases hrecord
  · intro h
    cases h with
    | @numbered f n hf hnumber =>
      rw [← ofJson?_eq_some_iff] at hf
      simp [recordFor?, hf, hasKey, hnumber, exactKey]
    | @outlined f ring hf hnumber hring =>
      rw [← ofJson?_eq_some_iff] at hf
      simp [recordFor?, hf, hasKey, hnumber, hring, exactKey]

theorem exactKey_of_ofBuilding (f : Feature)
    (h : BuildingKey.ofBuilding f.number (f.footprint.getD []) = some key) : key = f.exactKey := by
  rw [exactKey]
  cases hnumber : f.number with
  | some number =>
    rw [hnumber] at h
    exact (Option.some.inj h).symm
  | none =>
    rw [hnumber] at h
    exact BuildingKey.eq_rounded_of_ofFootprint h

theorem recordFor?_eq_none_iff : recordFor? key raw = none ↔ ∀ record, ¬ Brings raw key record := by
  simp only [Option.eq_none_iff_forall_ne_some, ne_eq, recordFor?_eq_some_iff]

end Feature

/-! ### Rings that are not empty -/

theorem outline_ne_nil {vs : List Vertex} (h : vs ≠ []) : outline vs ≠ [] := by
  obtain ⟨v, rest, rfl⟩ := List.exists_cons_of_ne_nil h
  have hhead : (dropRepeats (v :: rest)).head? = some v := head?_dropRepeats _
  obtain ⟨kept, hkept⟩ := List.head?_eq_some_iff.1 hhead
  rw [outline, hkept, dropClosing_cons]
  exact List.cons_ne_nil _ _

theorem canonical_ne_nil (area : List Vertex → Int) {vs : List Vertex} (h : vs ≠ []) :
    canonical area vs ≠ [] := by
  intro hcanonical
  have hsame := sameOutline_canonical area vs
  rw [hcanonical] at hsame
  rcases hsame with hnil | hnil
  · exact outline_ne_nil h (List.isRotated_nil_iff.1 hnil)
  · exact outline_ne_nil h (List.isRotated_nil_iff.1 hnil)

theorem BuildingKey.rounded_ne_ring_nil (round : Float × Float → Vertex) {ring : Footprint}
    (h : ring ≠ []) : rounded round ring ≠ .ring [] := by
  intro hkey
  refine canonical_ne_nil signedArea ?_ (BuildingKey.ring.inj hkey)
  exact mt List.map_eq_nil_iff.1 h

theorem Feature.Brings.key_ne_ring_nil {raw : Json} {key : BuildingKey} {record : CoverageRecord}
    (h : Brings raw key record) : key ≠ .ring [] := by
  cases h with
  | numbered => intro h; cases h
  | outlined hf _ hring =>
    apply BuildingKey.rounded_ne_ring_nil
    rintro rfl
    exact hf.footprint_ne_nil hring

namespace CoverageSet

variable {features : List Json} {raw : Json} {key : BuildingKey} {record : CoverageRecord}
  {s t : CoverageSet}

/-! ### One feature -/

/-- Nothing but an overflow stops a feature. -/
theorem addFeature_eq_none_iff : s.addFeature raw = none ↔ Feature.Stops raw := by
  constructor
  · intro h
    rw [addFeature] at h
    split at h
    · cases h
    · next f hread =>
      rw [Feature.ofJson?_eq_some_iff] at hread
      obtain ⟨number, footprint, word⟩ := f
      split at h
      · next hkeyed =>
        rw [insert, Option.map_eq_none_iff] at h
        cases number with
        | some n => cases h
        | none =>
          cases footprint with
          | none => cases hkeyed
          | some ring => exact .overflow hread rfl rfl (BuildingKey.ofFootprint_eq_none_iff.1 h)
      · cases h
  · rintro ⟨hf, hnumber, hring, hsums⟩
    rw [← Feature.ofJson?_eq_some_iff] at hf
    rw [← BuildingKey.ofFootprint_eq_none_iff] at hsums
    simp [addFeature, hf, Feature.hasKey, insert, BuildingKey.ofBuilding, hnumber, hring, hsums]

/-- A feature replaces the record of its own building only. -/
theorem find?_addFeature (h : s.addFeature raw = some t) (key : BuildingKey) :
    t.find? key = (Feature.recordFor? key raw).or (s.find? key) := by
  rw [addFeature] at h
  rw [Feature.recordFor?]
  split at h
  · next hread =>
    cases h
    rw [hread]
    rfl
  · next f hread =>
    rw [hread, Option.bind_some]
    split at h
    · next hkeyed =>
      obtain ⟨k, hk, rfl⟩ := Option.map_eq_some_iff.1 h
      obtain rfl : k = f.exactKey := f.exactKey_of_ofBuilding hk
      simp only [hkeyed, true_and, find?_put]
      split <;> rfl
    · next hkeyed =>
      cases h
      simp [hkeyed]

theorem addFeature_of_idle (h : Feature.Idle raw) : s.addFeature raw = some s := by
  rw [Feature.idle_iff] at h
  rw [addFeature]
  split
  · rfl
  · next f hread =>
    obtain ⟨hnumber, hring⟩ := h f hread
    simp [Feature.hasKey, hnumber, hring]

/-! ### Sets of features -/

theorem ofFeatures_concat (features : List Json) (raw : Json) :
    ofFeatures (features ++ [raw]) = (ofFeatures features).bind (addFeature · raw) := by
  simp [ofFeatures, List.foldlM_append]

/-- The set is there unless a feature stops it. -/
theorem isSome_ofFeatures_iff (features : List Json) :
    (ofFeatures features).isSome ↔ ∀ raw ∈ features, ¬ Feature.Stops raw := by
  induction features using List.reverseRecOn with
  | nil => simp [ofFeatures]
  | append_singleton features raw ih =>
    rw [ofFeatures_concat, List.forall_mem_append, ← ih, List.forall_mem_singleton]
    cases ofFeatures features with
    | none => simp
    | some s =>
      rw [Option.bind_some, ← addFeature_eq_none_iff (s := s), Option.isSome_iff_ne_none]
      simp

/-- Of the features of one building the last counts. -/
theorem find?_ofFeatures (h : ofFeatures features = some s) (key : BuildingKey) :
    s.find? key = (features.filterMap (Feature.recordFor? key)).getLast? := by
  induction features using List.reverseRecOn generalizing s with
  | nil =>
    cases h
    rfl
  | append_singleton features raw ih =>
    rw [ofFeatures_concat] at h
    obtain ⟨t, ht, hs⟩ := Option.bind_eq_some_iff.1 h
    rw [getLast?_filterMap_concat, ← ih ht, find?_addFeature hs]

theorem foldlM_addFeature_of_idle {idle : List Json} (hidle : ∀ raw ∈ idle, Feature.Idle raw)
    (s : CoverageSet) : idle.foldlM addFeature s = some s := by
  induction idle with
  | nil => rfl
  | cons raw idle ih =>
    rw [List.foldlM_cons, addFeature_of_idle (hidle raw List.mem_cons_self)]
    exact ih fun raw hraw => hidle raw (List.mem_cons_of_mem _ hraw)

/-- Features that bring nothing make no difference, wherever they stand. -/
theorem ofFeatures_of_idle {before idle after : List Json}
    (hidle : ∀ raw ∈ idle, Feature.Idle raw) :
    ofFeatures (before ++ idle ++ after) = ofFeatures (before ++ after) := by
  simp [ofFeatures, List.foldlM_append, foldlM_addFeature_of_idle hidle]

/-- A list of features has a set exactly if none of them stops it. The set holds exactly the
buildings that the features bring, each once and with the record of its last feature, and none under
the key of the empty ring. Features without a building, put in or left out at any place, make no
difference. -/
theorem ofFeatures_keeps_last (features : List Json) :
    ((ofFeatures features).isSome ↔ ∀ raw ∈ features, ¬ Feature.Stops raw) ∧
    (∀ set ∈ ofFeatures features,
      (∀ key record, (key, record) ∈ set.rows ↔
        ∃ before raw after, features = before ++ raw :: after ∧ Feature.Brings raw key record ∧
          ∀ later ∈ after, ∀ other, ¬ Feature.Brings later key other) ∧
      set.keys.Pairwise (fun k k' => compare k k' = .lt) ∧ .ring [] ∉ set.keys) ∧
    ∀ before idle after, features = before ++ idle ++ after →
      (∀ raw ∈ idle, Feature.Idle raw) → ofFeatures features = ofFeatures (before ++ after) := by
  refine ⟨isSome_ofFeatures_iff features, fun set hset => ?_, ?_⟩
  · have hrows : ∀ key record, (key, record) ∈ set.rows ↔
        ∃ before raw after, features = before ++ raw :: after ∧ Feature.Brings raw key record ∧
          ∀ later ∈ after, ∀ other, ¬ Feature.Brings later key other := by
      intro key record
      rw [mem_rows_iff, find?_ofFeatures hset, getLast?_filterMap_eq_some_iff]
      simp only [Feature.recordFor?_eq_some_iff, Feature.recordFor?_eq_none_iff]
    refine ⟨hrows, keys_pairwise _, ?_⟩
    intro hmem
    obtain ⟨⟨key, record⟩, hrow, hkey⟩ := List.mem_map.1 hmem
    obtain ⟨before, raw, after, -, hbrings, -⟩ := (hrows key record).1 hrow
    exact hbrings.key_ne_ring_nil hkey
  · rintro before idle after rfl hidle
    exact ofFeatures_of_idle hidle

/-- A feature of a ring with a status word. -/
def ringFeature (ring : Footprint) (word : String) : Json :=
  .obj [("geometry", .obj [("coordinates", .arr [.arr (ring.map fun p =>
      .arr [.float p.1, .float p.2])])]),
    ("properties", .obj [("msftid", .null), ("serviceable", .str word)])]

/-- The square and the same square written down in another way. A text, and a feature without a
number and with an empty ring, stand between them. -/
theorem ofFeatures_keeps_last_square :
    let first := ringFeature BuildingKey.square "serviceable"
    let idle := [.str "not a feature", ringFeature [] "serviceable"]
    let last := ringFeature BuildingKey.squareAgain "unserviceable"
    (∀ raw ∈ idle, Feature.Idle raw) ∧
      ofFeatures ([first] ++ idle ++ [last]) = ofFeatures [first, last] ∧
      ∃ set, ofFeatures [first, last] = some set ∧
        (BuildingKey.rounded quantizeVertex BuildingKey.square,
          ⟨some BuildingKey.squareAgain, .unserviceable⟩) ∈ set.rows ∧
        .ring [] ∉ set.keys := by
  intro first idle last
  have hidle : ∀ raw ∈ idle, Feature.Idle raw := by
    simp only [Feature.idle_iff]
    decide +kernel
  obtain ⟨-, -, hsame⟩ := ofFeatures_keeps_last ([first] ++ idle ++ [last])
  refine ⟨hidle, hsame [first] idle [last] rfl hidle, ?_⟩
  obtain ⟨-, hsets, -⟩ := ofFeatures_keeps_last [first, last]
  have hsome : (ofFeatures [first, last]).isSome := by decide +kernel
  obtain ⟨set, hset⟩ := Option.isSome_iff_exists.1 hsome
  obtain ⟨hrows, -, hring⟩ := hsets set hset
  have hlast : Feature.Describes last ⟨none, some BuildingKey.squareAgain, "unserviceable"⟩ :=
    Feature.ofJson?_eq_some_iff.1 (by decide +kernel)
  have hkey : BuildingKey.rounded quantizeVertex BuildingKey.square =
      BuildingKey.rounded quantizeVertex BuildingKey.squareAgain := by
    decide +kernel
  refine ⟨set, hset, ?_, hring⟩
  rw [hkey]
  exact (hrows _ _).2 ⟨[first], last, [], rfl, .outlined hlast rfl rfl, by simp⟩

/-- A feature with a number and a verdict. -/
def numberedFeature : Json :=
  .obj [("properties", .obj [("msftid", .int 1), ("serviceable", .str "serviceable")])]

/-- Two features that describe buildings, one with a number and one with a wide ring. Alone the
first has its set, and the second takes it away. -/
theorem ofFeatures_not_isolated :
    Feature.Brings numberedFeature (.id 1) ⟨none, .serviceable⟩ ∧
      Feature.Brings BuildingKey.wideFeature (.rounded quantizeVertex BuildingKey.wide)
        ⟨some BuildingKey.wide, .unknown⟩ ∧
      (ofFeatures [numberedFeature]).isSome ∧
      ofFeatures [numberedFeature, BuildingKey.wideFeature] = none := by
  simp only [← Feature.recordFor?_eq_some_iff]
  decide +kernel

end CoverageSet

end Sightline

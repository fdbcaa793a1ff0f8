import Sightline.Proofs.Message.Fields

/-!
# Tokens of messages

An answer carries the token of its request: a profile under `hash`, the others under `uuid`. An
object whose other members have the shapes of its family is a message whatever its token is, and
the message has that token (`IsAnswer.exists_message`).
-/

namespace Sightline

/-! ### Shapes -/

namespace Json

inductive IsText : Json → Prop
  | str (s : String) : IsText (.str s)

inductive IsFlag : Json → Prop
  | bool (b : Bool) : IsFlag (.bool b)

inductive IsNumber : Json → Prop
  | int (n : Int) : IsNumber (.int n)
  | float (x : Float) : IsNumber (.float x)

/-- A whole number that fits a byte. -/
inductive IsByte : Json → Prop
  | int (n : Nat) (h : n ≤ 255) : IsByte (.int n)

/-- An array of two numbers. -/
inductive IsPair : Json → Prop
  | arr {x y : Json} (hx : IsNumber x) (hy : IsNumber y) : IsPair (.arr [x, y])

inductive IsArrayOf (P : Json → Prop) : Json → Prop
  | arr {items : List Json} (h : ∀ v ∈ items, P v) : IsArrayOf P (.arr items)

/-- A value of a shape, or `null`. -/
inductive IsNullable (P : Json → Prop) : Json → Prop
  | null : IsNullable P .null
  | value {v : Json} (h : P v) : IsNullable P v

/-- A member is absent or has a shape. -/
def MayHold (v : Json) (name : String) (P : Json → Prop) : Prop :=
  ∀ w, v.member? name = some w → P w

theorem mayHold_of_absent {v : Json} {name : String} {P : Json → Prop}
    (h : v.member? name = none) : v.MayHold name P := by
  intro w hw
  rw [h] at hw
  cases hw

theorem mayHold_of_present {v w : Json} {name : String} {P : Json → Prop}
    (h : v.member? name = some w) (hw : P w) : v.MayHold name P := by
  intro w' hw'
  rw [h] at hw'
  cases hw'
  exact hw

/-- Every value of a shape can be read. -/
def Reads {α : Type} (read : Json → Option α) (P : Json → Prop) : Prop :=
  ∀ v, P v → ∃ a, read v = some a

variable {α : Type} {read : Json → Option α} {P : Json → Prop} {v : Json} {name : String}

theorem reads_str? : Reads str? IsText := by
  rintro _ ⟨s⟩
  exact ⟨s, rfl⟩

theorem reads_bool? : Reads bool? IsFlag := by
  rintro _ ⟨b⟩
  exact ⟨b, rfl⟩

theorem reads_float? : Reads float? IsNumber := by
  rintro _ (n | x)
  · exact ⟨_, rfl⟩
  · exact ⟨x, rfl⟩

theorem reads_natUpTo? : Reads (natUpTo? 255) IsByte := by
  rintro _ ⟨n, h⟩
  exact ⟨n, by simp [natUpTo?]; omega⟩

theorem reads_pair? : Reads pair? IsPair := by
  rintro _ ⟨hx, hy⟩
  obtain ⟨x, hx⟩ := reads_float? _ hx
  obtain ⟨y, hy⟩ := reads_float? _ hy
  exact ⟨(x, y), by simp [pair?, hx, hy]⟩

theorem reads_list? (h : Reads read P) : Reads (list? read) (IsArrayOf P) := by
  rintro _ @⟨items, hitems⟩
  induction items with
  | nil => exact ⟨[], rfl⟩
  | cons v items ih =>
    obtain ⟨a, ha⟩ := h v (hitems v List.mem_cons_self)
    obtain ⟨as, has⟩ := ih fun w hw => hitems w (List.mem_cons_of_mem v hw)
    have hitems : items.mapM read = some as := has
    exact ⟨a :: as, by simp [list?, arr?, ha, hitems]⟩

theorem reads_nullable? (h : Reads read P) : Reads (nullable? read) (IsNullable P) := by
  rintro v (_ | hv)
  · exact ⟨none, rfl⟩
  · obtain ⟨a, ha⟩ := h v hv
    cases v with
    | null => exact ⟨none, rfl⟩
    | _ => exact ⟨some a, by simp [nullable?, ha]⟩

theorem exists_field? (h : Reads read P) (hv : v.MayHold name P) (initial : α) :
    ∃ a, v.field? name initial read = some a := by
  rw [field?]
  cases hmember : v.member? name with
  | none => exact ⟨initial, rfl⟩
  | some w => exact h w (hv w hmember)

theorem exists_optional? (h : Reads read P) (hv : v.MayHold name (IsNullable P)) :
    ∃ a, v.optional? name read = some a :=
  exists_field? (reads_nullable? h) hv none

/-! A member that is taken as it is may have any shape. -/

theorem exists_field?_some (v : Json) (name : String) (initial : Json) :
    ∃ a, v.field? name initial some = some a :=
  exists_field? (P := fun _ => True) (fun w _ => ⟨w, rfl⟩) (fun _ _ => trivial) initial

theorem exists_optional?_some (v : Json) (name : String) : ∃ a, v.optional? name some = some a :=
  exists_optional? (P := fun _ => True) (fun w _ => ⟨w, rfl⟩) fun _ _ => .value trivial

end Json

variable {v : Json} {token : String}

/-! ### Profiles -/

/-- A terrain sample: an object, or the array of its fields. -/
inductive TerrainPoint.IsPoint : Json → Prop
  | obj {v x y z : Json} (members : List (String × Json)) (hv : v = .obj members)
      (helevation : v.member? "elevation" = some x) (hlat : v.member? "lat" = some y)
      (hlng : v.member? "lng" = some z) (hx : x.IsNumber) (hy : y.IsNumber) (hz : z.IsNumber) :
      IsPoint v
  | arr {x y z : Json} (hx : x.IsNumber) (hy : y.IsNumber) (hz : z.IsNumber) :
      IsPoint (.arr [x, y, z])

/-- The members of a surface other than its token have their shapes. -/
structure LidarAnswer.WellFormed (v : Json) : Prop where
  error : v.MayHold "error" (Json.IsNullable Json.IsText)
  aoi : v.MayHold "aoi" Json.IsPair
  samples : v.MayHold "lidar_profile" (Json.IsArrayOf Json.IsPair)
  distance : v.MayHold "dist" (Json.IsNullable Json.IsNumber)
  resolution : v.MayHold "res" (Json.IsNullable Json.IsText)
  bounds : v.MayHold "bb" (Json.IsArrayOf Json.IsNumber)
  tx : v.MayHold "tx" (Json.IsNullable Json.IsPair)
  rx : v.MayHold "rx" (Json.IsNullable Json.IsPair)
  stillLoading : v.MayHold "still_loading" Json.IsFlag

structure TerrainAnswer.WellFormed (v : Json) : Prop where
  error : v.MayHold "error" (Json.IsNullable Json.IsText)
  aoi : v.MayHold "aoi" Json.IsPair
  points : v.MayHold "terrain_profile" (Json.IsArrayOf TerrainPoint.IsPoint)
  distance : v.MayHold "dist" (Json.IsNullable Json.IsNumber)

structure LinkAnswer.WellFormed (v : Json) : Prop where
  error : v.MayHold "error" (Json.IsNullable Json.IsText)
  distance : v.MayHold "dist" (Json.IsNullable Json.IsNumber)

theorem TerrainPoint.reads_ofJson? : Json.Reads TerrainPoint.ofJson? IsPoint := by
  have hread : ∀ {v x y z : Json}, v.fields? ["elevation", "lat", "lng"] =
      some [some x, some y, some z] → x.IsNumber → y.IsNumber → z.IsNumber →
      ∃ point, TerrainPoint.ofJson? v = some point := by
    intro v x y z hfields hx hy hz
    obtain ⟨elevation, helevation⟩ := Json.reads_float? x hx
    obtain ⟨lat, hlat⟩ := Json.reads_float? y hy
    obtain ⟨lng, hlng⟩ := Json.reads_float? z hz
    exact ⟨⟨elevation, lat, lng⟩, by simp [TerrainPoint.ofJson?, hfields, helevation, hlat, hlng]⟩
  intro v hv
  cases hv with
  | obj members hv helevation hlat hlng hx hy hz =>
    subst hv
    simp only [Json.member?] at helevation hlat hlng
    exact hread (by simp [Json.fields?, helevation, hlat, hlng]) hx hy hz
  | arr hx hy hz => exact hread rfl hx hy hz

theorem LidarAnswer.WellFormed.exists_ofJson? (h : WellFormed v)
    (hhash : v.member? "hash" = some (.str token)) :
    ∃ answer, ofJson? v = some answer ∧ answer.hash = token := by
  obtain ⟨error, herror⟩ := Json.exists_optional? Json.reads_str? h.error
  obtain ⟨aoi, haoi⟩ := Json.exists_field? Json.reads_pair? h.aoi fullRange
  obtain ⟨samples, hsamples⟩ := Json.exists_field? (Json.reads_list? Json.reads_pair?) h.samples []
  obtain ⟨distance, hdistance⟩ := Json.exists_optional? Json.reads_float? h.distance
  obtain ⟨source, hsource⟩ := v.exists_optional?_some "source"
  obtain ⟨resolution, hresolution⟩ := Json.exists_optional? Json.reads_str? h.resolution
  obtain ⟨url, hurl⟩ := v.exists_optional?_some "url"
  obtain ⟨bounds, hbounds⟩ := Json.exists_field? (Json.reads_list? Json.reads_float?) h.bounds []
  obtain ⟨tx, htx⟩ := Json.exists_optional? Json.reads_pair? h.tx
  obtain ⟨rx, hrx⟩ := Json.exists_optional? Json.reads_pair? h.rx
  obtain ⟨stillLoading, hloading⟩ := Json.exists_field? Json.reads_bool? h.stillLoading false
  have htoken : v.field? "hash" "" Json.str? = some token := by
    simp [Json.field?, hhash, Json.withDefault?, Json.str?]
  refine ⟨⟨error, token, aoi, samples, distance, source, resolution, url, bounds, tx, rx,
    stillLoading⟩, ?_, rfl⟩
  simp [ofJson?, herror, htoken, haoi, hsamples, hdistance, hsource, hresolution, hurl, hbounds,
    htx, hrx, hloading]

theorem TerrainAnswer.WellFormed.exists_ofJson? (h : WellFormed v)
    (hhash : v.member? "hash" = some (.str token)) :
    ∃ answer, ofJson? v = some answer ∧ answer.hash = token := by
  obtain ⟨error, herror⟩ := Json.exists_optional? Json.reads_str? h.error
  obtain ⟨aoi, haoi⟩ := Json.exists_field? Json.reads_pair? h.aoi fullRange
  obtain ⟨points, hpoints⟩ :=
    Json.exists_field? (Json.reads_list? TerrainPoint.reads_ofJson?) h.points []
  obtain ⟨distance, hdistance⟩ := Json.exists_optional? Json.reads_float? h.distance
  obtain ⟨source, hsource⟩ := v.exists_optional?_some "source"
  have htoken : v.field? "hash" "" Json.str? = some token := by
    simp [Json.field?, hhash, Json.withDefault?, Json.str?]
  refine ⟨⟨error, token, aoi, points, distance, source⟩, ?_, rfl⟩
  simp [ofJson?, herror, htoken, haoi, hpoints, hdistance, hsource]

theorem LinkAnswer.WellFormed.exists_ofJson? (h : WellFormed v)
    (hhash : v.member? "hash" = some (.str token)) :
    ∃ answer, ofJson? v = some answer ∧ answer.hash = token := by
  obtain ⟨error, herror⟩ := Json.exists_optional? Json.reads_str? h.error
  obtain ⟨distance, hdistance⟩ := Json.exists_optional? Json.reads_float? h.distance
  have htoken : v.field? "hash" "" Json.str? = some token := by
    simp [Json.field?, hhash, Json.withDefault?, Json.str?]
  refine ⟨⟨error, token, distance⟩, ?_, rfl⟩
  simp [ofJson?, herror, htoken, hdistance]

/-! ### Status messages -/

/-- The coverage of an access point: features, or a collection that holds them. -/
inductive StatusMessage.IsCoverage : Json → Prop
  | features (items : List Json) : IsCoverage (.arr items)
  | collection {v : Json} {items : List Json} (h : v.member? "features" = some (.arr items)) :
      IsCoverage v

theorem StatusMessage.reads_coverage? : Json.Reads coverage? IsCoverage := by
  rintro v (items | @⟨_, items, h⟩)
  · exact ⟨items, rfl⟩
  · cases v with
    | obj members => exact ⟨items, by simp [coverage?, Json.required?, h, Json.arr?]⟩
    | _ => cases h

/-- The members of an event other than its token have their shapes. A new sector is tied to no
request, so its event answers none. -/
def StatusType.WellFormed (v : Json) : StatusType → Prop
  | .standard => v.MayHold "error" (Json.IsNullable Json.IsText)
  | .apStatus => v.MayHold "status" (Json.IsNullable Json.IsText) ∧
      v.MayHold "coverage" (Json.IsNullable StatusMessage.IsCoverage)
  | .apViewshed => v.MayHold "base_url" (Json.IsNullable Json.IsText) ∧
      v.MayHold "maxzoom" (Json.IsNullable Json.IsByte) ∧
      v.MayHold "minzoom" (Json.IsNullable Json.IsByte)
  | .viewshedProgress => v.MayHold "time_remaining" (Json.IsNullable Json.IsNumber)
  | .unexpectedError => v.MayHold "msg" Json.IsText
  | .sectorCreated => False

theorem StatusMessage.exists_ofFields? {type : StatusType} (h : type.WellFormed v)
    (huuid : v.member? "uuid" = some (.str token)) :
    ∃ message, ofFields? v type = some message ∧ message.uuid? = some token := by
  have htoken : v.required? "uuid" Json.str? = some token := by
    simp [Json.required?, huuid, Json.str?]
  have htoken' : v.optional? "uuid" Json.str? = some (some token) := by
    simp [Json.optional?, Json.field?, huuid, Json.withDefault?, Json.nullable?, Json.str?]
  cases type with
  | standard =>
    obtain ⟨error, herror⟩ := Json.exists_optional? Json.reads_str? h
    exact ⟨.standard (some token) error, by simp [ofFields?, htoken', herror], rfl⟩
  | apStatus =>
    obtain ⟨status, hstatus⟩ := Json.exists_optional? Json.reads_str? h.1
    obtain ⟨coverage, hcoverage⟩ := Json.exists_optional? reads_coverage? h.2
    exact ⟨.apStatus token status coverage, by simp [ofFields?, htoken, hstatus, hcoverage], rfl⟩
  | apViewshed =>
    obtain ⟨url, hurl⟩ := Json.exists_optional? Json.reads_str? h.1
    obtain ⟨high, hhigh⟩ := Json.exists_optional? Json.reads_natUpTo? h.2.1
    obtain ⟨low, hlow⟩ := Json.exists_optional? Json.reads_natUpTo? h.2.2
    exact ⟨.apViewshed token url high low,
      by simp [ofFields?, zoom?, htoken, hurl, hhigh, hlow], rfl⟩
  | viewshedProgress =>
    obtain ⟨progress, hprogress⟩ := v.exists_optional?_some "progress"
    obtain ⟨time, htime⟩ := Json.exists_optional? Json.reads_float? h
    exact ⟨.viewshedProgress token progress time,
      by simp [ofFields?, htoken, hprogress, htime], rfl⟩
  | unexpectedError =>
    obtain ⟨text, htext⟩ := Json.exists_field? Json.reads_str? h ""
    exact ⟨.unexpectedError token text, by simp [ofFields?, htoken, htext], rfl⟩
  | sectorCreated => exact h.elim

/-! ### Answers -/

namespace Message

/-- Well-formed answers whose token stands under a name, whatever the token is. -/
inductive IsAnswer (v : Json) : String → Prop
  | lidar (hhandler : v.member? "handler" = some (.str "lidar"))
      (hfields : LidarAnswer.WellFormed v) : IsAnswer v "hash"
  | terrain (hhandler : v.member? "handler" = some (.str "terrain"))
      (hfields : TerrainAnswer.WellFormed v) : IsAnswer v "hash"
  | link (hhandler : v.member? "handler" = some (.str "link"))
      (hfields : LinkAnswer.WellFormed v) : IsAnswer v "hash"
  | status {name : String} {type : StatusType} (hhandler : v.member? "handler" = none)
      (htype : v.member? "type" = some (.str name)) (hname : name ∈ type.names)
      (hfields : type.WellFormed v) : IsAnswer v "uuid"
  | typed {name : String} (hhandler : v.member? "handler" = none)
      (htype : v.member? "type" = some (.str name))
      (hname : ∀ type : StatusType, name ∉ type.names) : IsAnswer v "uuid"

theorem ofJson_of_fields {family : Family} {message : Message} (h : Family.of? v = some family)
    (hfields : ofFields? v family = some message) : ofJson v = .ok message := by
  rw [ofJson_of_family h, hfields]
  rfl

theorem exists_ofJson_of_profile {handler : Json} (answer : ProfileMessage)
    (hhandler : v.member? "handler" = some handler)
    (hanswer : ProfileMessage.ofJson? v = some answer) (hne : answer.hash ≠ "") :
    ∃ message, ofJson v = .ok message ∧ message.token? = some answer.hash :=
  ⟨.profile answer, ofJson_of_fields (family_of_handler hhandler) (by simp [ofFields?, hanswer]),
    if_neg hne⟩

/-- A well-formed answer is a message with the token that stands under its name. Profiles have no
empty token. -/
theorem IsAnswer.exists_message {name : String} (h : IsAnswer v name)
    (htoken : v.member? name = some (.str token)) (hne : name = "hash" → token ≠ "") :
    ∃ message, ofJson v = .ok message ∧ message.token? = some token := by
  cases h with
  | lidar hhandler hfields =>
    obtain ⟨answer, hanswer, rfl⟩ := hfields.exists_ofJson? htoken
    exact exists_ofJson_of_profile (.lidar answer) hhandler
      (by simp [ProfileMessage.ofJson?, hhandler, hanswer]) (hne rfl)
  | terrain hhandler hfields =>
    obtain ⟨answer, hanswer, rfl⟩ := hfields.exists_ofJson? htoken
    exact exists_ofJson_of_profile (.terrain answer) hhandler
      (by simp [ProfileMessage.ofJson?, hhandler, hanswer]) (hne rfl)
  | link hhandler hfields =>
    obtain ⟨answer, hanswer, rfl⟩ := hfields.exists_ofJson? htoken
    exact exists_ofJson_of_profile (.link answer) hhandler
      (by simp [ProfileMessage.ofJson?, hhandler, hanswer]) (hne rfl)
  | status hhandler htype hname hfields =>
    obtain ⟨message, hmessage, huuid⟩ := StatusMessage.exists_ofFields? hfields htoken
    exact ⟨.status message, ofJson_of_fields (family_of_status hhandler htype hname)
      (by simp [ofFields?, hmessage]), huuid⟩
  | @typed type hhandler htype hname =>
    obtain ⟨value, hvalue⟩ := v.exists_field?_some "value" .null
    have hanswer : TypedAnswer.ofJson? v = some ⟨type, token, value⟩ := by
      simp [TypedAnswer.ofJson?, Json.required?, htype, htoken, hvalue, Json.str?]
    exact ⟨.typed ⟨type, token, value⟩, ofJson_of_fields
      (family_of_typed hhandler htype hname (by simp [htoken])) (by simp [ofFields?, hanswer]), rfl⟩

end Message

end Sightline

import Sightline.Message.Basic

/-!
# The fields of messages

A frame is understood by the selector of its family and by the fields which that family declares:
two objects that agree on these are the same message, or both have a bad field
(`parse_eq_of_alike`). Other members, the order of members, and which of its two names a status type
is written with, do not count; and a frame with a handler is never anything but a profile.
-/

namespace Sightline

/-- Two values have the same members under the given names, or both lack them. -/
def Json.AgreeOn (names : List String) (v w : Json) : Prop :=
  ∀ name ∈ names, v.member? name = w.member? name

variable {v w : Json}

theorem Json.bind_str?_eq_some_iff {member : Option Json} {s : String} :
    member.bind str? = some s ↔ member = some (.str s) := by
  rcases member with _ | (_ | _ | _ | _ | _ | _ | _) <;> simp [str?]

/-! ### Profiles -/

def LidarAnswer.declared : List String :=
  ["error", "hash", "aoi", "lidar_profile", "dist", "source", "res", "url", "bb", "tx", "rx",
    "still_loading"]

def TerrainAnswer.declared : List String :=
  ["error", "hash", "aoi", "terrain_profile", "dist", "source"]

def LinkAnswer.declared : List String := ["error", "hash", "dist"]

theorem LidarAnswer.ofJson?_congr (h : Json.AgreeOn declared v w) : ofJson? v = ofJson? w := by
  simp only [Json.AgreeOn, declared, List.forall_mem_cons] at h
  simp only [ofJson?, Json.optional?, Json.field?, h]

theorem TerrainAnswer.ofJson?_congr (h : Json.AgreeOn declared v w) : ofJson? v = ofJson? w := by
  simp only [Json.AgreeOn, declared, List.forall_mem_cons] at h
  simp only [ofJson?, Json.optional?, Json.field?, h]

theorem LinkAnswer.ofJson?_congr (h : Json.AgreeOn declared v w) : ofJson? v = ofJson? w := by
  simp only [Json.AgreeOn, declared, List.forall_mem_cons] at h
  simp only [ofJson?, Json.optional?, Json.field?, h]

/-- The fields of the answers with a handler; an unknown handler has none. -/
def ProfileMessage.declared : Json → List String
  | .str "lidar" => LidarAnswer.declared
  | .str "terrain" => TerrainAnswer.declared
  | .str "link" => LinkAnswer.declared
  | _ => []

theorem ProfileMessage.ofJson?_congr {handler : Json} (hv : v.member? "handler" = some handler)
    (hw : w.member? "handler" = some handler) (h : Json.AgreeOn (declared handler) v w) :
    ofJson? v = ofJson? w := by
  rw [ofJson?, ofJson?, hv, hw]
  split
  · next heq =>
    cases heq
    rw [LidarAnswer.ofJson?_congr h]
  · next heq =>
    cases heq
    rw [TerrainAnswer.ofJson?_congr h]
  · next heq =>
    cases heq
    rw [LinkAnswer.ofJson?_congr h]
  · rfl

/-! ### Status messages -/

namespace StatusType

/-- The dotted name of a type and the one with underscores. -/
def names : StatusType → List String
  | .standard => ["standard.message", "std_msg"]
  | .apStatus => ["ap.status", "ap_status"]
  | .apViewshed => ["ap.viewshed", "ap_viewshed"]
  | .viewshedProgress => ["ap.viewshed_progress", "ap_viewshed_progress"]
  | .unexpectedError => ["ap.unexpected_error", "ap_unexpected_error"]
  | .sectorCreated => ["cpe.sector_created", "cpe_sector_created"]

def declared : StatusType → List String
  | .standard => ["uuid", "error"]
  | .apStatus => ["uuid", "status", "coverage"]
  | .apViewshed => ["uuid", "base_url", "maxzoom", "minzoom"]
  | .viewshedProgress => ["uuid", "progress", "time_remaining"]
  | .unexpectedError => ["uuid", "msg"]
  | .sectorCreated => ["added_features", "deleted_features"]

theorem ofName?_eq_some_iff {name : String} {type : StatusType} :
    ofName? name = some type ↔ name ∈ type.names := by
  constructor
  · intro h
    rw [ofName?.eq_def] at h
    split at h <;> cases h <;> simp [names]
  · intro h
    cases type <;>
    · simp only [names, List.mem_cons, List.not_mem_nil, or_false] at h
      rcases h with rfl | rfl <;> rfl

theorem ofName?_eq_none_iff {name : String} :
    ofName? name = none ↔ ∀ type : StatusType, name ∉ type.names := by
  simp only [Option.eq_none_iff_forall_ne_some, ne_eq, ofName?_eq_some_iff]

end StatusType

theorem StatusMessage.ofFields?_congr {type : StatusType}
    (h : Json.AgreeOn type.declared v w) : ofFields? v type = ofFields? w type := by
  cases type <;>
  · simp only [Json.AgreeOn, StatusType.declared, List.forall_mem_cons] at h
    simp only [ofFields?, Json.optional?, Json.required?, Json.field?, h]

/-! ### Answers to typed requests -/

def TypedAnswer.declared : List String := ["type", "uuid", "value"]

theorem TypedAnswer.ofJson?_congr (h : Json.AgreeOn declared v w) : ofJson? v = ofJson? w := by
  simp only [Json.AgreeOn, declared, List.forall_mem_cons] at h
  simp only [ofJson?, Json.required?, Json.field?, h]

/-! ### Families -/

namespace Message

theorem family_of_handler {handler : Json} (h : v.member? "handler" = some handler) :
    Family.of? v = some .profile := by
  rw [Family.of?, h, Option.isSome_some, if_pos rfl]

theorem family_of_status {name : String} {type : StatusType} (hhandler : v.member? "handler" = none)
    (htype : v.member? "type" = some (.str name)) (hname : name ∈ type.names) :
    Family.of? v = some (.status type) := by
  simp [Family.of?, hhandler, htype, Json.str?, StatusType.ofName?_eq_some_iff.2 hname]

theorem family_of_typed {name : String} (hhandler : v.member? "handler" = none)
    (htype : v.member? "type" = some (.str name)) (hname : ∀ type : StatusType, name ∉ type.names)
    (huuid : (v.member? "uuid").isSome = true) : Family.of? v = some .typed := by
  simp [Family.of?, hhandler, htype, Json.str?, StatusType.ofName?_eq_none_iff.2 hname, huuid]

/-- Only objects belong to a family. -/
theorem exists_members_of_family {family : Family} (h : Family.of? v = some family) :
    ∃ members, v = .obj members := by
  cases v with
  | obj members => exact ⟨members, rfl⟩
  | _ => simp [Family.of?, Json.member?] at h

/-- A value of a family is the message that its fields make, or has a bad field. -/
theorem ofJson_of_family {family : Family} (h : Family.of? v = some family) :
    ofJson v = (ofFields? v family).elim (.error .wrongField) .ok := by
  obtain ⟨members, rfl⟩ := exists_members_of_family h
  simp only [ofJson, h]
  cases ofFields? (.obj members) family <;> rfl

/-- Two objects select the same family in the same way and agree on its fields. -/
inductive Alike (v w : Json) : Prop
  /-- Both have the same handler. -/
  | profile (handler : Json) (hv : v.member? "handler" = some handler)
      (hw : w.member? "handler" = some handler)
      (h : Json.AgreeOn (ProfileMessage.declared handler) v w)
  /-- Both have a name of the same status type. -/
  | status (type : StatusType) (first second : String) (hv : v.member? "handler" = none)
      (hw : w.member? "handler" = none) (hfirst : v.member? "type" = some (.str first))
      (hsecond : w.member? "type" = some (.str second)) (hfirstName : first ∈ type.names)
      (hsecondName : second ∈ type.names) (h : Json.AgreeOn type.declared v w)
  /-- Both have the same other type and a token. -/
  | typed (name : String) (hv : v.member? "handler" = none) (hw : w.member? "handler" = none)
      (htype : v.member? "type" = some (.str name)) (hname : ∀ type : StatusType, name ∉ type.names)
      (huuid : (v.member? "uuid").isSome = true) (h : Json.AgreeOn TypedAnswer.declared v w)

/-- Objects that are alike have the same family, and its fields make the same of both. -/
theorem Alike.exists_family (h : Alike v w) : ∃ family, Family.of? v = some family ∧
    Family.of? w = some family ∧ ofFields? v family = ofFields? w family := by
  cases h with
  | profile handler hv hw h =>
    refine ⟨.profile, family_of_handler hv, family_of_handler hw, ?_⟩
    rw [ofFields?, ofFields?, ProfileMessage.ofJson?_congr hv hw h]
  | status type first second hv hw hfirst hsecond hfirstName hsecondName h =>
    refine ⟨.status type, family_of_status hv hfirst hfirstName,
      family_of_status hw hsecond hsecondName, ?_⟩
    rw [ofFields?, ofFields?, StatusMessage.ofFields?_congr h]
  | typed name hv hw htype hname huuid h =>
    have htype' : w.member? "type" = some (.str name) := by
      rw [← h "type" (by decide), htype]
    have huuid' : (w.member? "uuid").isSome = true := by
      rw [← h "uuid" (by decide), huuid]
    refine ⟨.typed, family_of_typed hv htype hname huuid,
      family_of_typed hw htype' hname huuid', ?_⟩
    rw [ofFields?, ofFields?, TypedAnswer.ofJson?_congr h]

theorem parse_of_value {text : String} (h : Json.parse? text = some v) : parse text = ofJson v := by
  rw [parse, h]

/-- Two frames whose objects are alike are the same message, or both have a bad field. A frame with
a handler is a profile or has a bad field. -/
theorem parse_eq_of_alike {first second : String} (hfirst : Json.parse? first = some v)
    (hsecond : Json.parse? second = some w) :
    (Alike v w →
      (∃ message, parse first = .ok message ∧ parse second = .ok message) ∨
        (parse first = .error .wrongField ∧ parse second = .error .wrongField)) ∧
    ((v.member? "handler").isSome = true →
      (∃ answer, parse first = .ok (.profile answer)) ∨ parse first = .error .wrongField) := by
  rw [parse_of_value hfirst, parse_of_value hsecond]
  constructor
  · intro h
    obtain ⟨family, hv, hw, hfields⟩ := h.exists_family
    rw [ofJson_of_family hv, ofJson_of_family hw, hfields]
    cases ofFields? w family with
    | some message => exact .inl ⟨message, rfl, rfl⟩
    | none => exact .inr ⟨rfl, rfl⟩
  · intro h
    obtain ⟨handler, hhandler⟩ := Option.isSome_iff_exists.1 h
    rw [ofJson_of_family (family_of_handler hhandler), ofFields?]
    cases ProfileMessage.ofJson? v with
    | some answer => exact .inl ⟨answer, rfl⟩
    | none => exact .inr rfl

/-- An error of an access point, under the name with an underscore and with a member too many. -/
def underscored : String :=
  "\x7b\"type\":\"ap_unexpected_error\",\"uuid\":\"a\",\"msg\":\"b\",\"extra\":[1]\x7d"

/-- The same under the dotted name, in another order. -/
def dotted : String :=
  "\x7b\"msg\":\"b\",\"uuid\":\"a\",\"type\":\"ap.unexpected_error\"\x7d"

/-- The members that count for such an error. -/
def shown (v : Json) : Bool × List (Option String) :=
  ((v.member? "handler").isNone, ["type", "uuid", "msg"].map fun name =>
    (v.member? name).bind Json.str?)

theorem exists_of_shown (text name : String)
    (h : (Json.parse? text).map shown = some (true, [some name, some "a", some "b"])) :
    ∃ v, Json.parse? text = some v ∧ v.member? "handler" = none ∧
      v.member? "type" = some (.str name) ∧ v.member? "uuid" = some (.str "a") ∧
      v.member? "msg" = some (.str "b") := by
  obtain ⟨v, hv, hshown⟩ := Option.map_eq_some_iff.1 h
  simp only [shown, List.map_cons, List.map_nil, Prod.mk.injEq, Option.isNone_iff_eq_none,
    List.cons.injEq, and_true, Json.bind_str?_eq_some_iff] at hshown
  exact ⟨v, hv, hshown⟩

theorem parse_eq_of_alike_underscored :
    ∃ v w, Json.parse? underscored = some v ∧ Json.parse? dotted = some w ∧ Alike v w ∧
      ∃ message, parse underscored = .ok message ∧ parse dotted = .ok message := by
  obtain ⟨v, hv, hhandler, htype, huuid, hmsg⟩ :=
    exists_of_shown underscored "ap_unexpected_error" (by decide +kernel)
  obtain ⟨w, hw, hhandler', htype', huuid', hmsg'⟩ :=
    exists_of_shown dotted "ap.unexpected_error" (by decide +kernel)
  have halike : Alike v w := by
    refine .status .unexpectedError _ _ hhandler hhandler' htype htype' (by decide) (by decide) ?_
    simp [Json.AgreeOn, StatusType.declared, huuid, huuid', hmsg, hmsg']
  have hok : (parse underscored).isOk = true := by decide +kernel
  refine ⟨v, w, hv, hw, halike, ?_⟩
  rcases (parse_eq_of_alike hv hw).1 halike with h | ⟨hfault, -⟩
  · exact h
  · rw [hfault] at hok
    cases hok

end Message

end Sightline

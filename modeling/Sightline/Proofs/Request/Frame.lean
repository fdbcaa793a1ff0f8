import Mathlib.Algebra.Group.Nat.Defs
import Sightline.Proofs.Json.Numerals
import Sightline.Proofs.Json.Strings
import Sightline.Proofs.Request.Key

/-!
# Frames of requests

The frame of a request is one JSON object, so its members are written in the order of their names.
The first name tells the kind of the request (`kind_eq_of_frame_eq`). A frame carries the identifier
of its request, unless it asks for the coverage of an access point: from the frame of any other
request the identifier can be read back (`id_eq_of_frame_eq`). The frame for an access point carries
its name and nothing else, so it tells the request (`eq_of_frame_eq`).
-/

namespace Sightline

/-! ### Identifiers -/

namespace RequestId

theorem hexDigits_succ (word count : Nat) :
    hexDigits word (count + 1) = hexDigits (word / 16) count ++ [Nat.digitChar (word % 16)] := by
  rw [hexDigits, Nat.toDigits_of_lt_base (Nat.mod_lt _ (by decide))]

theorem length_hexDigits (word count : Nat) : (hexDigits word count).length = count := by
  induction count generalizing word with
  | zero => rfl
  | succ count ih => simp [hexDigits_succ, ih]

theorem mem_hexDigits {word count : Nat} {c : Char} (h : c ∈ hexDigits word count) :
    ∃ n < 16, c = Nat.digitChar n := by
  induction count generalizing word with
  | zero => simp [hexDigits] at h
  | succ count ih =>
    rw [hexDigits_succ, List.mem_append, List.mem_singleton] at h
    rcases h with h | rfl
    · exact ih h
    · exact ⟨word % 16, Nat.mod_lt _ (by decide), rfl⟩

theorem digitChar_inj {m n : Nat} (hm : m < 16) (hn : n < 16)
    (h : Nat.digitChar m = Nat.digitChar n) : m = n := by
  have hall : ∀ m n : Fin 16, Nat.digitChar m = Nat.digitChar n → m = n := by decide
  exact congrArg Fin.val (hall ⟨m, hm⟩ ⟨n, hn⟩ h)

theorem hexDigits_inj {v w count : Nat} (hv : v < 16 ^ count) (hw : w < 16 ^ count)
    (h : hexDigits v count = hexDigits w count) : v = w := by
  induction count generalizing v w with
  | zero => omega
  | succ count ih =>
    -- the last digit is the remainder, and the others are the digits of the quotient
    rw [hexDigits_succ, hexDigits_succ] at h
    obtain ⟨hinit, hlast⟩ := List.append_inj' h rfl
    have hmod : v % 16 = w % 16 := by
      refine digitChar_inj ?_ ?_ (List.singleton_inj.1 hlast) <;> exact Nat.mod_lt _ (by decide)
    have hdiv : v / 16 = w / 16 := by
      refine ih ?_ ?_ hinit <;>
      · rw [Nat.div_lt_iff_lt_mul (by decide), ← Nat.pow_succ]
        assumption
    omega

variable {id i j : RequestId}

theorem length_render (id : RequestId) : id.render.length = 36 := by
  simp [render, length_hexDigits]

/-- Every character of an identifier is a digit or a dash, and is written as it is. -/
theorem escape_of_mem_render {c : Char} (h : c ∈ id.render) : Json.escape c = [c] := by
  have hdigit : ∀ n : Fin 16, Json.escape (Nat.digitChar n) = [Nat.digitChar n] := by decide
  have hgroup : ∀ start length, c ∈ ((hexDigits id.word.toNat 32).drop start).take length →
      Json.escape c = [c] := by
    intro start length hc
    obtain ⟨n, hn, rfl⟩ := mem_hexDigits (List.mem_of_mem_drop (List.mem_of_mem_take hc))
    exact hdigit ⟨n, hn⟩
  simp only [render, List.mem_append, List.mem_cons] at h
  rcases h with (((h | rfl | h) | rfl | h) | rfl | h) | rfl | h
  all_goals first | exact hgroup _ _ h | decide

/-- Without the dashes, the text of an identifier is its digits. -/
theorem filter_render (id : RequestId) :
    id.render.filter (· != '-') = hexDigits id.word.toNat 32 := by
  have hgroup : ∀ start length, (((hexDigits id.word.toNat 32).drop start).take length).filter
      (· != '-') = ((hexDigits id.word.toNat 32).drop start).take length := by
    intro start length
    rw [List.filter_eq_self]
    intro c hc
    obtain ⟨n, hn, rfl⟩ := mem_hexDigits (List.mem_of_mem_drop (List.mem_of_mem_take hc))
    simp
  have hjoin : ∀ m n, (hexDigits id.word.toNat 32).take m ++
      ((hexDigits id.word.toNat 32).drop m).take n = (hexDigits id.word.toNat 32).take (m + n) :=
    fun _ _ => List.take_add.symm
  have hlength := length_hexDigits id.word.toNat 32
  simp only [render, List.filter_append, List.filter_cons, hgroup, bne_self_eq_false,
    Bool.false_eq_true, if_false]
  rw [List.drop_zero, hjoin, hjoin, hjoin, hjoin, List.take_of_length_le (Nat.le_of_eq hlength)]

theorem render_inj (h : i.render = j.render) : i = j := by
  have hdigits : hexDigits i.word.toNat 32 = hexDigits j.word.toNat 32 := by
    rw [← filter_render, h, filter_render]
  have hword : i.word.toNat = j.word.toNat :=
    hexDigits_inj i.word.isLt j.word.isLt hdigits
  cases i
  cases j
  simp_all [BitVec.toNat_inj]

/-- The text of an identifier is written as it is. -/
theorem quote_append_text (front : String) (id : RequestId) :
    Json.quote (front ++ id.text) =
      '"' :: (front.toList.flatMap Json.escape ++ (id.render ++ ['"'])) := by
  have hid : id.render.flatMap Json.escape = id.render := by
    rw [List.flatMap_congr fun c => escape_of_mem_render]
    simp
  simp [Json.quote, text, hid]

theorem quote_text (id : RequestId) : Json.quote id.text = '"' :: (id.render ++ ['"']) := by
  simpa using quote_append_text "" id

end RequestId

/-! ### Texts without a bracket -/

/-- What stands before the last of a character is told by the whole. -/
theorem eq_of_append_cons_eq_of_notMem {c : Char} {x y u v : List Char} (hu : c ∉ u) (hv : c ∉ v)
    (h : x ++ c :: u = y ++ c :: v) : x = y := by
  have hreverse : u.reverse ++ c :: x.reverse = v.reverse ++ c :: y.reverse := by
    simpa using congrArg List.reverse h
  have hlast : u.reverse = v.reverse :=
    eq_of_append_cons_eq (by simpa using hu) (by simpa using hv) hreverse
  rw [List.reverse_inj.1 hlast] at h
  exact List.append_cancel_right h

theorem Json.bracket_notMem_renderFloat (x : Float) : '[' ∉ renderFloat x := by
  intro hmem
  rcases isNumeral_renderFloat_or x with h | h
  · rcases h.mem hmem with hdigit | hmark
    · cases hdigit
    · revert hmark
      decide
  · rw [h] at hmem
    revert hmem
    decide

/-- A position is an array of two numbers. -/
theorem Position.exists_render (p : Position) :
    ∃ numbers, '[' ∉ numbers ∧ p.toJson.render = '[' :: numbers := by
  refine ⟨Json.renderFloat p.lng ++ ',' :: (Json.renderFloat p.lat ++ [']']), ?_, ?_⟩
  · simp [Json.bracket_notMem_renderFloat]
  · simp [toJson, Json.render, Json.renderItems]

/-! ### Members -/

namespace Request

variable {i j : RequestId} {r s : Request}

/-- The members of a frame in the order in which they are written. -/
def sorted (id : RequestId) (r : Request) : List (String × Json) :=
  match r with
  | .link query =>
    [("aoi", query.aoi.toJson), ("fbid", .str query.clientId), ("freq", .ofFloat query.frequency),
      ("hash", .str (r.token id)), ("msg", .str "link"), ("rx", query.rx.toJson),
      ("tx", query.tx.toJson)]
  | .accessPoint transmitter => [("msg", .str "ap"), ("uuid", .str transmitter)]
  | .typed (.zipGeography zip) =>
    [("request_type", .str "zip_geography"), ("uuid", .str id.text), ("zip", .str zip)]
  | .typed (.countyGeography statecode countycode) =>
    [("countycode", .str countycode), ("request_type", .str "county_geography"),
      ("statecode", .str statecode), ("uuid", .str id.text)]
  | .typed request =>
    request.fields ++ [("request_type", .str (request.kind.requestType?.getD "")),
      ("uuid", .str id.text)]

theorem body_eq (id : RequestId) (r : Request) : r.body id = .obj (r.sorted id) := by
  -- all names are literals, so the order of any two of them is computed
  rcases r with query | transmitter | (_ | _ | _ | _ | _ | _) <;>
    simp only [body, members, sorted, token, TypedRequest.fields, TypedRequest.kind,
      RequestKind.requestType?, Option.getD_some, Json.ofMembers, Assoc.ofList, Assoc.insert,
      List.cons_append, List.nil_append, List.foldl_cons, List.foldl_nil, compare, String.compare,
      compareOfLessAndEq, String.reduceLT, String.reduceEq, if_true, if_false]

/-- The text of a frame. -/
theorem toList_frame (id : RequestId) (r : Request) :
    (r.encode id).frame.toList = '\x7b' :: (Json.renderMembers (r.sorted id) ++ ['\x7d']) := by
  simp [encode, Json.text, body_eq, Json.render]

/-! ### The kind -/

/-- How the first name in the frames of a kind begins. -/
def initials : RequestKind → List Char
  | .link => ['a', 'o']
  | .accessPoint => ['m', 's']
  | .polygon => ['i', 'n']
  | .grantGeography => ['c', 'b']
  | .zipGeography => ['r', 'e']
  | .countyGeography => ['c', 'o']
  | .censusBlockGeography => ['b', 'l']
  | .viewshed => ['c', 'e']

theorem initials_inj {k l : RequestKind} (h : initials k = initials l) : k = l := by
  revert h
  cases k <;> cases l <;> decide

theorem take_drop_frame (id : RequestId) (r : Request) :
    ((r.encode id).frame.toList.drop 2).take 2 = initials r.kind := by
  rw [toList_frame]
  rcases r with query | transmitter | (_ | _ | _ | _ | _ | _) <;> rfl

/-- Requests of different kinds never have the same frame. -/
theorem kind_eq_of_frame_eq (h : (r.encode i).frame = (s.encode j).frame) : r.kind = s.kind := by
  apply initials_inj
  rw [← take_drop_frame i r, h, take_drop_frame]

/-! ### The identifier of a typed request -/

/-- The text of the last members ends the text of all. -/
theorem exists_renderMembers_append (members : List (String × Json)) (first : String × Json)
    (rest : List (String × Json)) :
    ∃ front, Json.renderMembers (members ++ first :: rest) =
      front ++ Json.renderMembers (first :: rest) := by
  induction members with
  | nil => exact ⟨[], rfl⟩
  | cons member members ih =>
    obtain ⟨front, hfront⟩ := ih
    have hcons : Json.renderMembers (member :: (members ++ first :: rest)) =
        Json.quote member.1 ++ ':' :: (member.2.render ++
          ',' :: Json.renderMembers (members ++ first :: rest)) := by
      cases members <;> rfl
    rw [List.cons_append, hcons, hfront]
    exact ⟨Json.quote member.1 ++ ':' :: (member.2.render ++ ',' :: front), by simp⟩

/-- The frame of a typed request ends with the identifier, unless it asks for a ZIP code, whose
member comes last by its name. -/
theorem exists_frame_typed {request : TypedRequest} (h : request.kind ≠ .zipGeography)
    (id : RequestId) : ∃ front, ((Request.typed request).encode id).frame.toList =
      front ++ (id.render ++ ['"', '\x7d']) := by
  obtain ⟨members, hsorted⟩ :
      ∃ members, (Request.typed request).sorted id = members ++ [("uuid", .str id.text)] := by
    cases request with
    | zipGeography => exact absurd rfl h
    | countyGeography statecode countycode =>
      -- its second field comes after the type
      exact ⟨[("countycode", .str countycode), ("request_type", .str "county_geography"),
        ("statecode", .str statecode)], rfl⟩
    | polygon | grantGeography | censusBlockGeography | viewshed =>
      simp only [sorted]
      exact ⟨_, (List.append_assoc _ [_] [_]).symm⟩
  obtain ⟨front, hfront⟩ := exists_renderMembers_append members ("uuid", .str id.text) []
  have hlast : Json.renderMembers [("uuid", .str id.text)] =
      "\"uuid\":".toList ++ Json.quote id.text := rfl
  rw [toList_frame, hsorted, hfront, hlast, id.quote_text]
  exact ⟨'\x7b' :: (front ++ "\"uuid\":\"".toList), by simp⟩

/-- What precedes the identifier in the frame of a request for a ZIP code. -/
def beforeZip : List Char := "\x7b\"request_type\":\"zip_geography\",\"uuid\":\"".toList

theorem exists_frame_zip {request : TypedRequest} (h : request.kind = .zipGeography)
    (id : RequestId) : ∃ back, ((Request.typed request).encode id).frame.toList =
      beforeZip ++ (id.render ++ back) := by
  cases request with
  | zipGeography zip =>
    have hmembers : Json.renderMembers ((Request.typed (.zipGeography zip)).sorted id) =
        "\"request_type\":\"zip_geography\",\"uuid\":".toList ++
          (Json.quote id.text ++ ',' :: Json.renderMembers [("zip", .str zip)]) := rfl
    have hbefore : beforeZip =
        '\x7b' :: ("\"request_type\":\"zip_geography\",\"uuid\":".toList ++ ['"']) := rfl
    rw [toList_frame, hmembers, id.quote_text, hbefore]
    exact ⟨'"' :: ',' :: (Json.renderMembers [("zip", .str zip)] ++ ['\x7d']), by simp⟩
  | _ => cases h

/-! ### The identifier of a link request

Its token stands in the middle of the frame, before the positions of the radios. What follows the
token is found from the end, as the texts of numbers have no bracket.
-/

/-- What follows the identifier in the token of a link, up to the position of the receiver. -/
def afterHash : List Char := "\",\"msg\":\"link\",\"rx\":".toList

/-- In the frame of a link request only the two positions follow the token. -/
theorem exists_frame_link (query : LinkQuery) (id : RequestId) :
    ∃ front rx tx, '[' ∉ rx ∧ '[' ∉ tx ∧ ((Request.link query).encode id).frame.toList =
      front ++ (id.render ++ afterHash) ++ '[' :: rx ++ '[' :: tx := by
  have hsorted : (Request.link query).sorted id =
      [("aoi", query.aoi.toJson), ("fbid", .str query.clientId),
        ("freq", .ofFloat query.frequency)] ++
      ("hash", .str ((Request.link query).token id)) ::
        [("msg", .str "link"), ("rx", query.rx.toJson), ("tx", query.tx.toJson)] := rfl
  have hlast : Json.renderMembers (("hash", .str ((Request.link query).token id)) ::
        [("msg", .str "link"), ("rx", query.rx.toJson), ("tx", query.tx.toJson)]) =
      "\"hash\":".toList ++ (Json.quote (query.dedupeKey ++ ":" ++ id.text) ++
        (",\"msg\":\"link\",\"rx\":".toList ++ (query.rx.toJson.render ++
          (",\"tx\":".toList ++ query.tx.toJson.render)))) := rfl
  have hlabel : '[' ∉ ",\"tx\":".toList := by decide
  have hafter : afterHash = '"' :: ",\"msg\":\"link\",\"rx\":".toList := rfl
  obtain ⟨rx, hrx, hrxText⟩ := query.rx.exists_render
  obtain ⟨tx, htx, htxText⟩ := query.tx.exists_render
  obtain ⟨front, hfront⟩ := exists_renderMembers_append
    [("aoi", query.aoi.toJson), ("fbid", .str query.clientId), ("freq", .ofFloat query.frequency)]
    ("hash", .str ((Request.link query).token id))
    [("msg", .str "link"), ("rx", query.rx.toJson), ("tx", query.tx.toJson)]
  refine ⟨'\x7b' :: (front ++ "\"hash\":\"".toList ++
    (query.dedupeKey ++ ":").toList.flatMap Json.escape), rx ++ ",\"tx\":".toList,
    tx ++ ['\x7d'], ?_, ?_, ?_⟩
  · simp [hrx]
  · simp [htx]
  · rw [toList_frame, hsorted, hfront, hlast, id.quote_append_text, hrxText, htxText, hafter]
    simp

theorem id_eq_of_link {p q : LinkQuery}
    (h : ((Request.link p).encode i).frame = ((Request.link q).encode j).frame) : i = j := by
  obtain ⟨front, rx, tx, hrx, htx, htext⟩ := exists_frame_link p i
  obtain ⟨front', rx', tx', hrx', htx', htext'⟩ := exists_frame_link q j
  rw [h, htext'] at htext
  have hbeforeTx := eq_of_append_cons_eq_of_notMem htx' htx htext
  have hbeforeRx := eq_of_append_cons_eq_of_notMem hrx' hrx hbeforeTx
  obtain ⟨-, hhash⟩ := List.append_inj' hbeforeRx (by simp [RequestId.length_render])
  exact (RequestId.render_inj (List.append_cancel_right hhash)).symm

/-- The frame of a request tells its identifier, unless it asks for the coverage of an access point:
such a frame carries none. -/
theorem id_eq_of_frame_eq (hr : r.kind ≠ .accessPoint)
    (h : (r.encode i).frame = (s.encode j).frame) : i = j := by
  have hkind := kind_eq_of_frame_eq h
  cases r with
  | accessPoint => exact absurd rfl hr
  | link p =>
    cases s with
    | link q => exact id_eq_of_link h
    | accessPoint => cases hkind
    | typed request => exact absurd hkind.symm request.kind_ne_link
  | typed request =>
    cases s with
    | link => exact absurd hkind request.kind_ne_link
    | accessPoint => exact absurd hkind hr
    | typed other =>
      by_cases hzip : request.kind = .zipGeography
      · obtain ⟨back, htext⟩ := exists_frame_zip hzip i
        obtain ⟨back', htext'⟩ := exists_frame_zip (hkind.symm.trans hzip) j
        rw [h, htext'] at htext
        obtain ⟨hid, -⟩ :=
          List.append_inj (List.append_cancel_left htext) (by simp [RequestId.length_render])
        exact (RequestId.render_inj hid).symm
      · have hzip' : other.kind ≠ .zipGeography := fun hother => hzip (hkind.trans hother)
        obtain ⟨front, htext⟩ := exists_frame_typed hzip i
        obtain ⟨front', htext'⟩ := exists_frame_typed hzip' j
        rw [h, htext'] at htext
        obtain ⟨-, hlast⟩ := List.append_inj' htext (by simp [RequestId.length_render])
        exact (RequestId.render_inj (List.append_cancel_right hlast)).symm

/-- The frame of a request for the coverage of an access point tells the request. -/
theorem eq_of_frame_eq (hr : r.kind = .accessPoint)
    (h : (r.encode i).frame = (s.encode j).frame) : r = s := by
  have hkind := kind_eq_of_frame_eq h
  cases r with
  | accessPoint transmitter =>
    cases s with
    | accessPoint other =>
      have hmembers : ∀ name id, Json.renderMembers ((accessPoint name).sorted id) =
          "\"msg\":\"ap\",\"uuid\":".toList ++ Json.quote name := fun _ _ => rfl
      have htext := congrArg String.toList h
      rw [toList_frame, toList_frame, hmembers, hmembers] at htext
      have hquote := (List.cons.inj htext).2
      rw [List.append_assoc, List.append_assoc] at hquote
      obtain ⟨hname, -⟩ := Json.quote_inj (List.append_cancel_left hquote)
      rw [hname]
    | link => cases hkind
    | typed request => exact absurd hkind.symm request.kind_ne_accessPoint
  | link => cases hr
  | typed request => exact absurd hr request.kind_ne_accessPoint

end Request

end Sightline

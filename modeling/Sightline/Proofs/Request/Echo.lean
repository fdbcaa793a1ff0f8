import Sightline.Proofs.Json.RoundTrip
import Sightline.Proofs.Message.Token
import Sightline.Proofs.Request.Frame

/-!
# Echoed tokens

The token of a request is a member of its frame, whatever characters its texts have. It is read back
from the frame as it was written, and an answer that echoes it is a message with the same token
(`token_echoed`).
-/

namespace Sightline

/-- The names of the members in the frames of a kind. -/
def RequestKind.memberNames : RequestKind → List String
  | .link => ["aoi", "fbid", "freq", "hash", "msg", "rx", "tx"]
  | .accessPoint => ["msg", "uuid"]
  | .polygon => ["include", "request_type", "uuid"]
  | .grantGeography => ["cbgid", "request_type", "uuid"]
  | .zipGeography => ["request_type", "uuid", "zip"]
  | .countyGeography => ["countycode", "request_type", "statecode", "uuid"]
  | .censusBlockGeography => ["blockcode", "request_type", "uuid"]
  | .viewshed => ["center", "height", "radius", "request_type", "uuid"]

/-- The name under which a token is sent and echoed. -/
def RequestKind.tokenName : RequestKind → String
  | .link => "hash"
  | _ => "uuid"

/-- The texts that a typed request carries of its own, by the names of their members. -/
def TypedRequest.texts : TypedRequest → List (String × String)
  | .polygon _ => [("request_type", "standard_polygon")]
  | .grantGeography cbgid => [("request_type", "grant_geography"), ("cbgid", cbgid)]
  | .zipGeography zip => [("request_type", "zip_geography"), ("zip", zip)]
  | .countyGeography statecode countycode =>
    [("request_type", "county_geography"), ("statecode", statecode), ("countycode", countycode)]
  | .censusBlockGeography blockcode =>
    [("request_type", "census_block_geography"), ("blockcode", blockcode)]
  | .viewshed _ _ _ => [("request_type", "viewshed")]

namespace Request

/-- The texts in the frame of a request, by the names of their members. -/
def texts (id : RequestId) : Request → List (String × String)
  | .link query =>
    [("msg", "link"), ("fbid", query.clientId), ("hash", query.dedupeKey ++ ":" ++ id.text)]
  | .accessPoint transmitter => [("msg", "ap"), ("uuid", transmitter)]
  | .typed request => ("uuid", id.text) :: request.texts

theorem sorted_sorted (id : RequestId) (r : Request) : Assoc.Sorted (r.sorted id) := by
  have hbody : Assoc.ofList (r.members id) = r.sorted id := by
    have heq := body_eq id r
    rw [body, Json.ofMembers] at heq
    exact Json.obj.inj heq
  rw [← hbody]
  exact Assoc.sorted_ofList _

theorem map_fst_sorted (id : RequestId) (r : Request) :
    (r.sorted id).map (·.1) = r.kind.memberNames := by
  rcases r with query | transmitter | (_ | _ | _ | _ | _ | _) <;> rfl

theorem mem_sorted_of_mem_texts (id : RequestId) (r : Request) :
    ∀ field ∈ r.texts id, (field.1, Json.str field.2) ∈ r.sorted id := by
  rcases r with query | transmitter | (_ | _ | _ | _ | _ | _) <;>
    simp [texts, TypedRequest.texts, sorted, token, TypedRequest.fields, TypedRequest.kind,
      RequestKind.requestType?]

theorem token_mem_texts (id : RequestId) (r : Request) :
    (r.kind.tokenName, (r.encode id).token) ∈ r.texts id := by
  rcases r with query | transmitter | (_ | _ | _ | _ | _ | _) <;>
    simp [encode, token, kind, TypedRequest.kind, RequestKind.tokenName, texts]

/-- The token of a link request is not empty: it has an identifier. -/
theorem token_ne_empty (id : RequestId) {r : Request} (h : r.kind.tokenName = "hash") :
    (r.encode id).token ≠ "" := by
  rcases r with query | transmitter | (_ | _ | _ | _ | _ | _)
  case link =>
    intro hempty
    have hcolon : ':' ∈ ((Request.link query).encode id).token.toList := by
      simp [encode, token]
    rw [hempty] at hcolon
    cases hcolon
  all_goals simp [kind, TypedRequest.kind, RequestKind.tokenName] at h

/-- The frame of a request is read back with the members that are documented for its kind. Its texts
are the texts of the request, and the token is among them. Any answer that is well-formed and echoes
the token is a message with this token. -/
theorem token_echoed (id : RequestId) (r : Request) (h : (r.body id).Legible) :
    ∃ members, Json.parse? (r.encode id).frame = some (.obj members) ∧
      members.map (·.1) = r.kind.memberNames ∧
      (∀ field ∈ r.texts id, Assoc.find? field.1 members = some (.str field.2)) ∧
      Assoc.find? r.kind.tokenName members = some (.str (r.encode id).token) ∧
      ∀ answer v, Json.parse? answer = some v → Message.IsAnswer v r.kind.tokenName →
        v.member? r.kind.tokenName = Assoc.find? r.kind.tokenName members →
        ∃ message, Message.parse answer = .ok message ∧
          message.token? = some (r.encode id).token := by
  rw [body_eq] at h
  obtain ⟨members, hread, hnames, hstrings⟩ := h.exists_parse?_obj (sorted_sorted id r)
  have htexts : ∀ field ∈ r.texts id,
      Assoc.find? field.1 members = some (.str field.2) := by
    intro field hfield
    have hmem := mem_sorted_of_mem_texts id r field hfield
    exact hstrings _ _ ((sorted_sorted id r).find?_eq_some_iff.2 hmem)
  have htoken := htexts _ (token_mem_texts id r)
  refine ⟨members, ?_, ?_, htexts, htoken, ?_⟩
  · rw [encode, body_eq, hread]
  · rw [hnames, map_fst_sorted]
  · intro answer v hanswer hform hecho
    rw [htoken] at hecho
    rw [Message.parse_of_value hanswer]
    exact hform.exists_message hecho (token_ne_empty id)

/-- A query whose client has a quote, a backslash, control characters and characters of all widths
in its name. -/
def awkwardQuery : LinkQuery where
  tx := ⟨-86.58, 36.8, by decide +kernel, by decide +kernel⟩
  rx := ⟨-86.57, 36.81, by decide +kernel, by decide +kernel⟩
  clientId := "a\"\\\n\x01\x7fé€😀"
  aoi := .full
  frequency := 5.25

/-- An answer to the query that writes its token with other escapes. -/
def awkwardAnswer : String :=
  "\x7b \"handler\": \"lidar\", \"res\": \"0.5m\", \"extra\": [-1e-7], \"hash\": " ++
    "\"-86.58,36.8,-86.57,36.81,\\u0061\\\"\\u005C\\n\\u0001\x7f\\u00e9€\\uD83D\\uDE00,0,1:" ++
    "00000000-0000-0000-0000-000000000001\" \x7d"

/-- The members that count for the answer, and those that it lacks. -/
def answerView (v : Json) : List (Option String) × List Bool :=
  (["handler", "hash", "res"].map fun name => (v.member? name).bind Json.str?,
    ["error", "aoi", "lidar_profile", "dist", "bb", "tx", "rx", "still_loading"].map fun name =>
      (v.member? name).isNone)

theorem exists_awkwardAnswer : ∃ v, Json.parse? awkwardAnswer = some v ∧
    v.member? "hash" = some (.str ((link awkwardQuery).token ⟨1⟩)) ∧
    Message.IsAnswer v "hash" := by
  have hview : (Json.parse? awkwardAnswer).map answerView =
      some ([some "lidar", some ((link awkwardQuery).token ⟨1⟩), some "0.5m"],
        List.replicate 8 true) := by decide +kernel
  obtain ⟨v, hv, hshown⟩ := Option.map_eq_some_iff.1 hview
  simp only [answerView, List.map_cons, List.map_nil, List.replicate, Prod.mk.injEq,
    Option.isNone_iff_eq_none, List.cons.injEq, and_true, Json.bind_str?_eq_some_iff] at hshown
  obtain ⟨⟨hhandler, hhash, hres⟩, herror, haoi, hsamples, hdist, hbounds, htx, hrx, hloading⟩ :=
    hshown
  have hfields : LidarAnswer.WellFormed v := {
    error := Json.mayHold_of_absent herror
    aoi := Json.mayHold_of_absent haoi
    samples := Json.mayHold_of_absent hsamples
    distance := Json.mayHold_of_absent hdist
    resolution := Json.mayHold_of_present hres (.value (.str "0.5m"))
    bounds := Json.mayHold_of_absent hbounds
    tx := Json.mayHold_of_absent htx
    rx := Json.mayHold_of_absent hrx
    stillLoading := Json.mayHold_of_absent hloading }
  exact ⟨v, hv, hhash, .lidar hhandler hfields⟩

theorem token_echoed_awkward :
    ((link awkwardQuery).body ⟨1⟩).Legible ∧
      ∃ members v message,
        Json.parse? ((link awkwardQuery).encode ⟨1⟩).frame = some (.obj members) ∧
        members.map (·.1) = ["aoi", "fbid", "freq", "hash", "msg", "rx", "tx"] ∧
        Assoc.find? "fbid" members = some (.str awkwardQuery.clientId) ∧
        Json.parse? awkwardAnswer = some v ∧ Message.IsAnswer v "hash" ∧
        v.member? "hash" = Assoc.find? "hash" members ∧
        Message.parse awkwardAnswer = .ok message ∧
        message.token? = some ((link awkwardQuery).encode ⟨1⟩).token := by
  have hlegible : ((link awkwardQuery).body ⟨1⟩).Legible := by decide +kernel
  obtain ⟨members, hread, hnames, htexts, htoken, hecho⟩ :=
    token_echoed ⟨1⟩ (link awkwardQuery) hlegible
  obtain ⟨v, hv, hhash, hform⟩ := exists_awkwardAnswer
  have hclient := htexts ("fbid", awkwardQuery.clientId) (by simp [texts])
  have hsame : v.member? "hash" = Assoc.find? "hash" members := hhash.trans htoken.symm
  obtain ⟨message, hmessage, hcarried⟩ := hecho awkwardAnswer v hv hform hsame
  exact ⟨hlegible, members, v, message, hread, hnames, hclient, hv, hform, hsame, hmessage,
    hcarried⟩

end Request

end Sightline

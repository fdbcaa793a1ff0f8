import Sightline.Json.Printer
import Sightline.Request.Id
import Sightline.Request.Kind
import Sightline.Request.LinkQuery

/-!
# Requests

A request is written as one JSON object together with a correlation token, the text that the
backend echoes in its answers. Links and typed requests carry a fresh identifier in their token;
the token of an access point is its name.
-/

namespace Sightline

/-- A request of the typed family. -/
inductive TypedRequest
  /-- Everything inside a geometry collection. -/
  | polygon (included : Json)
  /-- A census block group. -/
  | grantGeography (cbgid : String)
  | zipGeography (zip : String)
  | countyGeography (statecode countycode : String)
  | censusBlockGeography (blockcode : String)
  /-- What is visible from an antenna of a height, within a radius. -/
  | viewshed (center : Position) (height radius : Float)

namespace TypedRequest

def kind : TypedRequest → RequestKind
  | .polygon _ => .polygon
  | .grantGeography _ => .grantGeography
  | .zipGeography _ => .zipGeography
  | .countyGeography _ _ => .countyGeography
  | .censusBlockGeography _ => .censusBlockGeography
  | .viewshed _ _ _ => .viewshed

theorem kind_ne_link (r : TypedRequest) : r.kind ≠ .link := by
  cases r <;> simp [kind]

theorem kind_ne_accessPoint (r : TypedRequest) : r.kind ≠ .accessPoint := by
  cases r <;> simp [kind]

/-- The fields of its own that a request carries, sorted by name. -/
def fields : TypedRequest → List (String × Json)
  | .polygon included => [("include", included)]
  | .grantGeography cbgid => [("cbgid", .str cbgid)]
  | .zipGeography zip => [("zip", .str zip)]
  | .countyGeography statecode countycode =>
    [("countycode", .str countycode), ("statecode", .str statecode)]
  | .censusBlockGeography blockcode => [("blockcode", .str blockcode)]
  | .viewshed center height radius =>
    [("center", center.toJson), ("height", .ofFloat height), ("radius", .ofFloat radius)]

end TypedRequest

/-- A request to the backend. -/
inductive Request
  | link (query : LinkQuery)
  /-- Coverage of one access point or sector. -/
  | accessPoint (transmitter : String)
  | typed (request : TypedRequest)

/-- A written request: its frame, and the token that its answers carry. -/
structure Encoded where
  frame : String
  token : String
  deriving DecidableEq, Repr

namespace Request

def kind : Request → RequestKind
  | .link _ => .link
  | .accessPoint _ => .accessPoint
  | .typed r => r.kind

/-- The correlation token of a request with an identifier. -/
def token (id : RequestId) : Request → String
  | .link query => query.dedupeKey ++ ":" ++ id.text
  | .accessPoint transmitter => transmitter
  | .typed _ => id.text

/-- The members of the frame of a request. -/
def members (id : RequestId) (r : Request) : List (String × Json) :=
  match r with
  | .link query =>
    [("msg", .str "link"), ("tx", query.tx.toJson), ("rx", query.rx.toJson),
      ("fbid", .str query.clientId), ("aoi", query.aoi.toJson), ("hash", .str (r.token id)),
      ("freq", .ofFloat query.frequency)]
  | .accessPoint transmitter => [("msg", .str "ap"), ("uuid", .str transmitter)]
  | .typed request =>
    request.fields ++ [("request_type", .str (request.kind.requestType?.getD "")),
      ("uuid", .str (r.token id))]

/-- The frame of a request as a value. -/
def body (id : RequestId) (r : Request) : Json := .ofMembers (r.members id)

/-- Writes a request. -/
def encode (id : RequestId) (r : Request) : Encoded := ⟨(r.body id).text, r.token id⟩

end Request

end Sightline

import Sightline.Json.Tree
import Sightline.Message.Profile
import Sightline.Message.Status

/-!
# Messages

A frame of the backend is a JSON object of one of three families, told apart by its keys: a
profile has a handler, a status message has one of the status types, and an answer to a typed
request has another type and a token.
-/

namespace Sightline

/-- An answer to a typed request. -/
structure TypedAnswer where
  type : String
  uuid : String
  value : Json

/-- A frame of the backend. -/
inductive Message
  | profile (message : ProfileMessage)
  | status (message : StatusMessage)
  | typed (answer : TypedAnswer)

/-- Why a frame is no message. -/
inductive FrameFault
  /-- The text is not JSON. -/
  | notJson
  /-- A field is missing or has another type. -/
  | wrongField
  | notAnObject
  /-- The object belongs to no family. -/
  | unknownShape (keys : List String)
  deriving DecidableEq, Repr

def FrameFault.message : FrameFault → String
  | .notJson => "Malformed frame"
  | .wrongField => "Malformed frame"
  | .notAnObject => "Frame is not a JSON object"
  | .unknownShape keys =>
    "Unrecognized message shape (keys: " ++ String.intercalate "," keys ++ ")"

def TypedAnswer.ofJson? (v : Json) : Option TypedAnswer := do
  return {
    type := ← v.required? "type" Json.str?
    uuid := ← v.required? "uuid" Json.str?
    value := ← v.field? "value" .null some }

namespace Message

/-- What an object's keys say about its family. -/
inductive Family
  | profile
  | status (type : StatusType)
  | typed
  deriving DecidableEq, Repr

/-- The family of an object. -/
def Family.of? (v : Json) : Option Family :=
  if (v.member? "handler").isSome then some .profile
  else match (v.member? "type").bind Json.str? with
    | none => none
    | some type =>
      match StatusType.ofName? type with
      | some known => some (.status known)
      | none => if (v.member? "uuid").isSome then some .typed else none

/-- Reads the fields of an object of a family. -/
def ofFields? (v : Json) : Family → Option Message
  | .profile => (ProfileMessage.ofJson? v).map .profile
  | .status type => (StatusMessage.ofFields? v type).map .status
  | .typed => (TypedAnswer.ofJson? v).map .typed

/-- The message of a value. -/
def ofJson (v : Json) : Except FrameFault Message :=
  match v with
  | .obj members =>
    match Family.of? v with
    | none => .error (.unknownShape (members.map (·.1)))
    | some family =>
      match ofFields? v family with
      | some message => .ok message
      | none => .error .wrongField
  | _ => .error .notAnObject

/-- Reads a frame. -/
def parse (text : String) : Except FrameFault Message :=
  match Json.parse? text with
  | some v => ofJson v
  | none => .error .notJson

/-- The token of the request that the message answers, if it carries one. -/
def token? : Message → Option String
  | .profile p => if p.hash = "" then none else some p.hash
  | .status s => s.uuid?
  | .typed a => some a.uuid

end Message

end Sightline

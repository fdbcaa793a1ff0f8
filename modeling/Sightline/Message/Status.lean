import Sightline.Json.Basic

/-!
# Status messages

Events that the backend pushes. Each type has a dotted name and one with underscores.
-/

namespace Sightline

/-- An event pushed by the backend. -/
inductive StatusMessage
  | standard (uuid error : Option String)
  /-- Processing of an access point, with its coverage once that is computed. -/
  | apStatus (uuid : String) (status : Option String) (features : Option (List Json))
  /-- Viewshed tiles are ready. -/
  | apViewshed (uuid : String) (baseUrl : Option String) (maxZoom minZoom : Option Nat)
  | viewshedProgress (uuid : String) (progress : Option Json) (timeRemaining : Option Float)
  | unexpectedError (uuid : String) (text : String)
  /-- A new sector changed the buildings; not tied to a request. -/
  | sectorCreated (added deleted : List Json)

/-- The types of status messages. -/
inductive StatusType
  | standard
  | apStatus
  | apViewshed
  | viewshedProgress
  | unexpectedError
  | sectorCreated
  deriving DecidableEq, Repr

namespace StatusType

/-- The type with a name. -/
def ofName? : String → Option StatusType
  | "standard.message" => some .standard
  | "std_msg" => some .standard
  | "ap.status" => some .apStatus
  | "ap_status" => some .apStatus
  | "ap.viewshed" => some .apViewshed
  | "ap_viewshed" => some .apViewshed
  | "ap.viewshed_progress" => some .viewshedProgress
  | "ap_viewshed_progress" => some .viewshedProgress
  | "ap.unexpected_error" => some .unexpectedError
  | "ap_unexpected_error" => some .unexpectedError
  | "cpe.sector_created" => some .sectorCreated
  | "cpe_sector_created" => some .sectorCreated
  | _ => none

end StatusType

namespace StatusMessage

/-- The token of the request that the event belongs to. -/
def uuid? : StatusMessage → Option String
  | .standard uuid _ => uuid
  | .apStatus uuid _ _ => some uuid
  | .apViewshed uuid _ _ _ => some uuid
  | .viewshedProgress uuid _ _ => some uuid
  | .unexpectedError uuid _ => some uuid
  | .sectorCreated _ _ => none

/-- Reads coverage: a list of features, or a collection that holds one. -/
def coverage? : Json → Option (List Json)
  | .arr features => some features
  | v => v.required? "features" Json.arr?

/-- Zoom levels are bytes. -/
def zoom? : Json → Option Nat := Json.natUpTo? 255

/-- Reads the fields of a message of a type. -/
def ofFields? (v : Json) : StatusType → Option StatusMessage
  | .standard => do
    return .standard (← v.optional? "uuid" Json.str?) (← v.optional? "error" Json.str?)
  | .apStatus => do
    return .apStatus (← v.required? "uuid" Json.str?) (← v.optional? "status" Json.str?)
      (← v.optional? "coverage" coverage?)
  | .apViewshed => do
    return .apViewshed (← v.required? "uuid" Json.str?) (← v.optional? "base_url" Json.str?)
      (← v.optional? "maxzoom" zoom?) (← v.optional? "minzoom" zoom?)
  | .viewshedProgress => do
    return .viewshedProgress (← v.required? "uuid" Json.str?) (← v.optional? "progress" some)
      (← v.optional? "time_remaining" Json.float?)
  | .unexpectedError => do
    return .unexpectedError (← v.required? "uuid" Json.str?) (← v.field? "msg" "" Json.str?)
  | .sectorCreated => do
    return .sectorCreated (← v.field? "added_features" [] Json.arr?)
      (← v.field? "deleted_features" [] Json.arr?)

end StatusMessage

end Sightline

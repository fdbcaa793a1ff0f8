import Sightline.Coverage.CoverageSet
import Sightline.Message.Basic
import Sightline.Request.Id
import Sightline.Request.Kind
import Sightline.Session.LinkState

/-!
# Session events

What a planning session reports to its consumer.
-/

namespace Sightline

/-- A report of a session. -/
inductive SessionEvent
  /-- The connection came up or went down. -/
  | connectivity (isUp : Bool)
  | linkAnalysis (analysis : LinkAnalysis)
  /-- A profile of a part of the link; what is known of the whole link is untouched. -/
  | partialProfile (message : ProfileMessage)
  /-- The backend, or the geometry of the link, reported an error. -/
  | backendError (kind : RequestKind) (message : String)
  | coverageUpdated (rows : List (BuildingKey × CoverageRecord)) (summary : CoverageSummary)
  | accessPointStatus (transmitter : String) (status : Option String)
  | viewshedReady (transmitter : String) (baseUrl : Option String) (minZoom maxZoom : Option Nat)
  | viewshedProgress (transmitter : String) (progress : Option Json) (timeRemaining : Option Float)
  | sectorCreated (added deleted : List Json)
  | typedResult (kind : RequestKind) (id : RequestId) (answer : TypedAnswer)

end Sightline

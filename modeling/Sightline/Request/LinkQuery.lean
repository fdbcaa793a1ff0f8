import Sightline.Position
import Sightline.Request.Aoi

/-!
# Link queries

A query asks for the profile of a link between two radios. Two queries for the same link, client
and part of the link have the same key, whatever their frequency.
-/

namespace Sightline

/-- A query for the profile of a link. -/
structure LinkQuery where
  tx : Position
  rx : Position
  /-- The caller's name for the link. -/
  clientId : String
  aoi : Aoi
  /-- Center frequency in gigahertz. -/
  frequency : Float
  deriving DecidableEq

/-- The key by which a repeated query is recognised. -/
def LinkQuery.dedupeKey (q : LinkQuery) : String :=
  q.tx.text ++ "," ++ q.rx.text ++ "," ++ q.clientId ++ "," ++ q.aoi.text

end Sightline

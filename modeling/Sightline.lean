import Sightline.Session.Planner
import Sightline.Stored
import Sightline.Proofs.Channel.Delivery
import Sightline.Proofs.Channel.Dispatch
import Sightline.Proofs.Session.Duplicate
import Sightline.Proofs.Session.Staleness
import Sightline.Proofs.Coverage.View
import Sightline.Proofs.Link.Merge
import Sightline.Proofs.Session.Coverage
import Sightline.Proofs.Session.Handling
import Sightline.Proofs.Session.Streams
import Sightline.Proofs.Link.Positive
import Sightline.Proofs.Session.Frequency
import Sightline.Proofs.Session.Zoom
import Sightline.Proofs.Session.Analysis
import Sightline.Proofs.Coverage.Union
import Sightline.Proofs.Coverage.Footprint
import Sightline.Proofs.Coverage.History
import Sightline.Proofs.Session.Recall
import Sightline.Proofs.Channel.Lifecycle
import Sightline.Proofs.Channel.Order
import Sightline.Proofs.Session.Origin
import Sightline.Proofs.Session.Submission
import Sightline.Proofs.Session.Refusal
import Sightline.Proofs.Session.Validity
import Sightline.Proofs.Message.Fields
import Sightline.Proofs.Json.Numerals
import Sightline.Proofs.Json.RoundTrip
import Sightline.Proofs.Message.Token
import Sightline.Proofs.Request.Echo
import Sightline.Proofs.Request.Identity
import Sightline.Proofs.Json.Trees
import Sightline.Proofs.Decimal.Naturals
import Sightline.Proofs.Obstruction.Intervals
import Sightline.Proofs.Obstruction.Interpolant
import Sightline.Proofs.Decimal.Differences
import Sightline.Proofs.Obstruction.Monotone
import Sightline.Proofs.Decimal.Plain
import Sightline.Proofs.Coverage.Canonical
import Sightline.Proofs.Coverage.Winding
import Sightline.Proofs.Coverage.Settled
import Sightline.Proofs.Session.Rekeying
import Sightline.Proofs.Coverage.Features
import Sightline.Proofs.Link.Zone
import Sightline.Proofs.Session.Ending

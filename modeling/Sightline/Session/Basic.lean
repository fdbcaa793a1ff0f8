import Sightline.Channel.Step
import Sightline.Config.Basic
import Sightline.Coverage.Feature
import Sightline.Coverage.Registry
import Sightline.Session.Event

/-!
# Planning sessions

A session turns the actions of its caller into requests, and the events of its channel into what
is known of the link and of the coverage. Every operation answers the session after it, the
reports it made, and its result.
-/

namespace Sightline

/-- Why an operation was refused. -/
inductive SessionFault
  | geometry (fault : GeometryFault)
  | badAoi (start stop : Float)
  | noLink
  deriving DecidableEq, Repr

def SessionFault.message : SessionFault → String
  | .geometry fault => fault.message
  | .badAoi start stop =>
    "Invalid area of interest [" ++ Decimal.plain start ++ ", " ++ Decimal.plain stop ++
      "]; need 0 <= start < end <= 1"
  | .noLink => "No link has been requested yet"

/-- Whether an event brings coverage with a ring whose area overflows. -/
def ChannelEvent.overflows : ChannelEvent → Bool
  | .response _ _ (.status (.apStatus _ _ (some features))) =>
    (CoverageSet.ofFeatures features).isNone
  | _ => false

/-- A planning session over a channel. -/
structure Session where
  units : UnitSystem
  channel : Channel
  /-- Events of the channel that were not yet handled, the oldest first. -/
  pending : List ChannelEvent
  link : LinkState
  /-- The last link query that was sent for the whole editing session. -/
  query : Option LinkQuery
  /-- The key that a repeated query has to match. -/
  queryKey : Option String
  coverage : Registry

/-- The session after an operation, the reports of the operation, and its result. -/
structure Outcome (α : Type) where
  session : Session
  events : List SessionEvent
  result : Except SessionFault α

/-- Someone who can send events to a session. -/
inductive EventSource
  | handle
  | task
  deriving DecidableEq, Repr

/-- What asking for the next event of the channel comes to. -/
inductive Receipt
  | handled (next : Session) (events : List SessionEvent)
  /-- Handling the event failed. What it had done until then stays. -/
  | failed (next : Session) (events : List SessionEvent)
  /-- No event is pending, but one may still come. -/
  | waits
  /-- No event is pending and nobody is left to send one. -/
  | ended

namespace Session

/-- A new session on a channel. -/
def start (config : SessionConfig) (channel : Channel) : Session where
  units := config.units
  channel := channel
  pending := []
  link := .initial ⟨LinkState.initialHeight, LinkState.initialHeight, config.frequency, config.zone⟩
  query := none
  queryKey := none
  coverage := .empty

/-- The operation is refused and nothing changes. -/
def refuse {α : Type} (s : Session) (fault : SessionFault) : Outcome α := ⟨s, [], .error fault⟩

/-! ### Link -/

/-- Reports the analysis of the link, or why there is none. -/
def recompute (s : Session) : List SessionEvent :=
  match s.link.analysis? with
  | none => []
  | some (.ok analysis) => [.linkAnalysis analysis]
  | some (.error fault) => [.backendError .link fault.message]

/-- Takes over parameters without a fault, and reports the analysis with them. -/
def updateParams (s : Session) (params : LinkParameters) : Outcome Unit :=
  match params.fault? with
  | some fault => s.refuse (.geometry fault)
  | none =>
    let s := { s with link := { s.link with params := params } }
    ⟨s, s.recompute, .ok ()⟩

/-- Sends a request on the channel. -/
def send (s : Session) (id : RequestId) (request : Request) : Session :=
  { s with channel := s.channel.send id request }

/-- Requests the profiles of a link, under a fresh identifier. A query that repeats the last one is
not sent again; if its frequency differs it is applied to what is known. -/
def updateRequest (s : Session) (id : RequestId) (query : LinkQuery) :
    Outcome (Option RequestId) :=
  let params := { s.link.params with frequency := query.frequency }
  match params.fault? with
  | some fault => s.refuse (.geometry fault)
  | none =>
    if s.queryKey = some query.dedupeKey then
      let s := { s with query := s.query.map fun q => { q with frequency := query.frequency } }
      if query.frequency == s.link.params.frequency then ⟨s, [], .ok none⟩
      else
        let updated := s.updateParams params
        ⟨updated.session, updated.events, updated.result.map fun _ => none⟩
    else
      let s := s.send id (.link query)
      ⟨{ s with
          link := LinkState.reset { s.link with params := params }
          query := some query
          queryKey := some query.dedupeKey }, [], .ok (some id)⟩

/-- Requests the profiles of a part of the link, under a fresh identifier. -/
def zoom (s : Session) (id : RequestId) (start stop : Float) : Outcome RequestId :=
  match Aoi.make? start stop, s.query with
  | none, _ => s.refuse (.badAoi start stop)
  | some _, none => s.refuse .noLink
  | some aoi, some query => ⟨s.send id (.link { query with aoi := aoi }), [], .ok id⟩

/-- Sets both radio heights, given in the unit system of the session. -/
def setRadioHeights (s : Session) (tx rx : Float) : Outcome Unit :=
  s.updateParams { s.link.params with
    txHeight := s.units.heightToMeters tx
    rxHeight := s.units.heightToMeters rx }

def setFrequency (s : Session) (frequency : Float) : Outcome Unit :=
  s.updateParams { s.link.params with frequency := frequency }

def setZone (s : Session) (zone : Nat) : Outcome Unit :=
  s.updateParams { s.link.params with zone := zone }

/-! ### Coverage -/

/-- The report of the coverage that is shown. -/
def publishCoverage (s : Session) : List SessionEvent :=
  [.coverageUpdated s.coverage.view.rows s.coverage.view.summary]

/-- Replaces the coverage of a transmitter. -/
def setCoverage (s : Session) (transmitter : String) (set : CoverageSet) : Outcome Unit :=
  let s := { s with coverage := s.coverage.set transmitter set }
  ⟨s, s.publishCoverage, .ok ()⟩

/-- Forgets a transmitter, and says whether it had coverage; only then there is a report. -/
def removeTransmitter (s : Session) (transmitter : String) : Outcome Bool :=
  let removed := s.coverage.contains transmitter
  let s := { s with coverage := s.coverage.remove transmitter }
  ⟨s, if removed then s.publishCoverage else [], .ok removed⟩

/-- Selects the transmitters whose coverage is shown; none means all. -/
def selectTransmitters (s : Session) (transmitters : List String) : Outcome Unit :=
  let s := { s with coverage := s.coverage.select transmitters }
  ⟨s, s.publishCoverage, .ok ()⟩

/-! ### Requests -/

/-- Requests the coverage status of an access point. -/
def requestAccessPoint (s : Session) (id : RequestId) (transmitter : String) : Outcome RequestId :=
  ⟨s.send id (.accessPoint transmitter), [], .ok id⟩

/-- Sends a typed request. -/
def request (s : Session) (id : RequestId) (request : TypedRequest) : Outcome RequestId :=
  ⟨s.send id (.typed request), [], .ok id⟩

/-- Drops answers to the live request of a kind. After a cancelled link the same link can be
requested again. -/
def cancel (s : Session) (kind : RequestKind) : Outcome Unit :=
  let s := { s with
    channel := s.channel.cancel kind
    queryKey := if kind = .link then none else s.queryKey }
  ⟨s, [], .ok ()⟩

/-! ### Handling channel events -/

/-- What an error in a profile message does to what is known. -/
def profileFailed (s : Session) (message : ProfileMessage) (reason : String) : Session :=
  match message with
  | .lidar a => if a.isFull then { s with link := s.link.lidarFailed reason } else s
  | .terrain a =>
    if a.isFull then { s with link := s.link.terrainFailed, queryKey := none } else s
  | .link _ => { s with queryKey := none }

/-- Handles a profile message. One of a part of the link is passed on as it is. -/
def handleProfile (s : Session) (message : ProfileMessage) : Session × List SessionEvent :=
  match message.error with
  | some reason =>
    let s := s.profileFailed message reason
    (s, .backendError .link reason :: s.recompute)
  | none =>
    match message with
    | .terrain a =>
      if a.isFull then
        let s := { s with link := s.link.applyTerrain a }
        (s, s.recompute)
      else (s, [.partialProfile message])
    | .lidar a =>
      if a.isFull then
        let s := { s with link := s.link.applyLidar a }
        (s, s.recompute)
      else (s, [.partialProfile message])
    | .link a =>
      match a.distance with
      | some distance =>
        let s := { s with link := s.link.applyDistance distance }
        (s, s.recompute)
      | none => (s, [])

/-- Handles a status message that answers a request of a kind. Coverage with a ring whose area
overflows is not taken over. -/
def handleStatus (s : Session) (kind : RequestKind) : StatusMessage → Session × List SessionEvent
  | .apStatus uuid status features =>
    let report := SessionEvent.accessPointStatus uuid status
    match features.bind CoverageSet.ofFeatures with
    | none => (s, [report])
    | some set =>
      let done := s.setCoverage uuid set
      (done.session, report :: done.events)
  | .apViewshed uuid baseUrl maxZoom minZoom =>
    (s, [.viewshedReady uuid baseUrl minZoom maxZoom])
  | .viewshedProgress uuid progress remaining => (s, [.viewshedProgress uuid progress remaining])
  | .unexpectedError _ text => (s, [.backendError kind text])
  | .standard _ error => (s, error.toList.map fun text => .backendError kind text)
  | .sectorCreated added deleted => (s, [.sectorCreated added deleted])

/-- Handles a message that answers no request; only a new sector is reported. -/
def handleNotification (s : Session) : Message → Session × List SessionEvent
  | .status (.sectorCreated added deleted) => (s, [.sectorCreated added deleted])
  | _ => (s, [])

/-- Handles one event of the channel. -/
def handle (s : Session) : ChannelEvent → Session × List SessionEvent
  | .connected => (s, [.connectivity true])
  | .disconnected => (s, [.connectivity false])
  | .notification message => s.handleNotification message
  | .response kind id message =>
    match message with
    | .profile profile => s.handleProfile profile
    | .status status => s.handleStatus kind status
    | .typed answer => (s, [.typedResult kind id answer])

/-- Those who can still send events to the session: the session itself, which holds a handle of its
channel, and the background task until it stops. -/
def sources (s : Session) : List EventSource :=
  .handle :: if s.channel.phase = .stopped then [] else [.task]

/-- Handles an event, which fails on an area that overflows. -/
def receive (s : Session) (event : ChannelEvent) : Receipt :=
  let (next, events) := s.handle event
  if event.overflows then .failed next events else .handled next events

/-- Handles the oldest pending event. -/
def processNext (s : Session) : Receipt :=
  match s.pending with
  | event :: rest => { s with pending := rest }.receive event
  | [] => if s.sources.isEmpty then .ended else .waits

end Session

end Sightline

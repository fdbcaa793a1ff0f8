import Sightline.Proofs.Channel.Dispatch
import Sightline.Proofs.Session.Streams

/-!
# Zooming

A zoom requests a part of the link, and its request takes the place of that for the whole. Whether
an answer is for a part is read off the answer, not off the request: `zoomed_link_undisturbed` says
that an answer to a zoom leaves what is known of the whole link alone if it says so itself.
-/

namespace Sightline.Session

variable {s : Session} {text : String} {kind : RequestKind} {id : RequestId}
  {message : ProfileMessage}

/-! ### Receiving an answer -/

theorem channelStep_receive (s : Session) (text : String) :
    s.channelStep (.receive text) = { s with
      pending := s.pending ++
        if s.channel.phase = .serving then (s.channel.route text).toList else [] } := by
  simp only [channelStep, Channel.step_receive]
  split
  · cases s.channel.route text <;> rfl
  · rfl

/-- An answer is handled after all that is pending; while nobody is connected it is not received. -/
theorem link_processAll_receive
    (hroute : s.channel.route text = some (.response kind id (.profile message))) :
    (s.channelStep (.receive text)).processAll.1.link =
      if s.channel.phase = .serving then s.processAll.1.link.absorb message
      else s.processAll.1.link := by
  rw [channelStep_receive, link_processAll, link_processAll, hroute]
  split
  · rw [Option.toList_some, List.filterMap_append, ← LinkState.merged_concat]
    rfl
  · rw [List.append_nil]

/-! ### Live zooms -/

/-- The live link request of a run was sent by a zoom: no link request was sent or cancelled since,
and it has not expired. -/
def ZoomLive (timeout : Option Nat) (first : Session) (actions : List Action) (id : RequestId)
    (query : LinkQuery) : Prop :=
  ∃ before start stop after, actions = before ++ .zoom id start stop :: after ∧
    (first.run before).1.asks (.zoom id start stop) = [.send id (.link query)] ∧
    let later := ((first.run before).1.step (.zoom id start stop)).1.history after
    (∀ action ∈ later, action.touches .link = false) ∧
      ∀ limit, timeout = some limit → Channel.elapsed later ≤ limit

theorem ZoomLive.live {timeout : Option Nat} {first : Session} {actions : List Action}
    {query : LinkQuery} (h : ZoomLive timeout first actions id query) :
    Channel.Live timeout (first.history actions) .link id (.link query) := by
  obtain ⟨before, start, stop, after, rfl, hasks, huntouched, hyoung⟩ := h
  refine ⟨_, ⟨first.history before, _, ?_, rfl, huntouched, rfl⟩, hyoung⟩
  rw [history_append, history, hasks]
  rfl

/-- An answer that carries the token of a live zoom is taken for the answer to a live request with
this token. Whichever this is, it leaves what is known of the whole link alone, and so the analysis,
if it says nothing of the whole link: a surface, a terrain or an error for another area, or a
summary that failed or has no length. -/
theorem zoomed_link_undisturbed (config : SessionConfig) (delay : Nat) (timeout : Option Nat)
    (actions : List Action) (id : RequestId) (query : LinkQuery) (text : String)
    (message : ProfileMessage)
    (hzoom : ZoomLive timeout (start config (.start delay timeout)) actions id query)
    (hparse : Message.parse text = .ok (.profile message))
    (htoken : message.hash = (Request.link query).token id) :
    let s := ((start config (.start delay timeout)).run actions).1
    let next := s.channelStep (.receive text)
    (∃ kind' id' request', s.channel.route text = some (.response kind' id' (.profile message)) ∧
        Channel.Live timeout ((start config (.start delay timeout)).history actions) kind' id'
          request' ∧ (request'.encode id').token = message.hash) ∧
      (s.channel.phase = .serving →
        next.processAll.1.link = s.processAll.1.link.absorb message) ∧
      (message.concernsWhole = false →
        next.processAll.1.link = s.processAll.1.link ∧
          next.processAll.1.link.analysis? = s.processAll.1.link.analysis?) := by
  intro s next
  have hnonempty : message.hash ≠ "" := by
    rw [htoken]
    intro h
    simp [Request.token] at h
  have hcarried : (Message.profile message).token? = some ((Request.link query).encode id).token :=
    (if_neg hnonempty).trans (congrArg some htoken)
  have hchannel : s.channel = ((Channel.start delay timeout).run
      ((start config (.start delay timeout)).history actions)).1 := run_channel _ actions
  obtain ⟨kind', id', request', hroute, hlive, hsame⟩ :=
    Channel.exists_route_of_live delay hzoom.live hparse hcarried
  rw [← hchannel] at hroute
  refine ⟨⟨kind', id', request', hroute, hlive, hsame.trans htoken.symm⟩, fun hserving => ?_,
    fun hwhole => ?_⟩
  · rw [link_processAll_receive hroute, if_pos hserving]
  · have hlink : next.processAll.1.link = s.processAll.1.link := by
      rw [link_processAll_receive hroute, (LinkState.absorb_eq_self_iff message).2 hwhole, ite_self]
    exact ⟨hlink, by rw [hlink]⟩

/-- The sample link is zoomed before any of its answers has come. -/
def zoomedAtOnce : List Action :=
  [.channel .connect, .updateRequest ⟨1⟩ sampleQuery, .zoom ⟨2⟩ 0.25 0.5]

/-- The frame with some members that carries the token of the zoom. -/
def zoomAnswer (members : String) : String :=
  "\x7b" ++ members ++
    ",\"hash\":\"0,0,1,0,a,0.25,0.5:00000000-0000-0000-0000-000000000002\"\x7d"

theorem zoomLive_zoomedAtOnce : ZoomLive none sample zoomedAtOnce ⟨2⟩ zoomedQuery := by
  have hquery : (sample.run [.channel .connect, .updateRequest ⟨1⟩ sampleQuery]).1.query =
      some sampleQuery := by
    decide +kernel
  exact ⟨_, 0.25, 0.5, [], rfl, asks_zoom hquery ⟨2⟩, by simp [history], by simp⟩

/-- Whether a frame is a profile message with a property. -/
def isProfile (p : ProfileMessage → Bool) (text : String) : Bool :=
  match Message.parse text with
  | .ok (.profile message) => p message
  | _ => false

theorem exists_of_isProfile {p : ProfileMessage → Bool} (h : isProfile p text = true) :
    ∃ message, Message.parse text = .ok (.profile message) ∧ p message = true := by
  rw [isProfile] at h
  split at h
  · next message hparse => exact ⟨message, hparse, h⟩
  · cases h

/-- The terrain of the zoomed part. -/
def zoomedTerrain : String :=
  zoomAnswer "\"handler\":\"terrain\",\"aoi\":[0.25,0.5],\"terrain_profile\":[[1,0,0],[2,0,1]]"

theorem zoomed_link_undisturbed_zoomedTerrain :
    let s := ((start .initial (.start 1000 none)).run zoomedAtOnce).1
    let next := s.channelStep (.receive zoomedTerrain)
    ∃ message, Message.parse zoomedTerrain = .ok (.profile message) ∧
      message.hash = (Request.link zoomedQuery).token ⟨2⟩ ∧ message.concernsWhole = false ∧
      next.processAll.1.link = s.processAll.1.link ∧
      next.processAll.1.link.analysis? = s.processAll.1.link.analysis? := by
  have hprofile : isProfile
      (fun m => m.hash == (Request.link zoomedQuery).token ⟨2⟩ && !m.concernsWhole)
      zoomedTerrain = true := by
    decide +kernel
  obtain ⟨message, hparse, hmessage⟩ := exists_of_isProfile hprofile
  obtain ⟨htoken, hwhole⟩ : message.hash = (Request.link zoomedQuery).token ⟨2⟩ ∧
      message.concernsWhole = false := by
    simpa using hmessage
  obtain ⟨-, -, hundisturbed⟩ := zoomed_link_undisturbed .initial 1000 none zoomedAtOnce ⟨2⟩
    zoomedQuery zoomedTerrain message zoomLive_zoomedAtOnce hparse htoken
  exact ⟨message, hparse, htoken, hwhole, hundisturbed hwhole⟩

/-- Whenever a frame answers a live zoom of a part, it leaves what is known of the whole link
alone. -/
def NeverDisturbs (text : String) : Prop :=
  ∀ (config : SessionConfig) (delay : Nat) (timeout : Option Nat) (actions : List Action)
    (id : RequestId) (query : LinkQuery) (message : ProfileMessage),
    ZoomLive timeout (start config (.start delay timeout)) actions id query →
    query.aoi.isFull = false → Message.parse text = .ok (.profile message) →
    message.hash = (Request.link query).token id →
    let s := ((start config (.start delay timeout)).run actions).1
    (s.channelStep (.receive text)).processAll.1.link = s.processAll.1.link

theorem not_neverDisturbs
    (hprofile : isProfile (fun m => m.hash == (Request.link zoomedQuery).token ⟨2⟩) text = true)
    (hchanged : let s := (sample.run zoomedAtOnce).1
      (s.channelStep (.receive text)).processAll.1.link ≠ s.processAll.1.link) :
    ¬ NeverDisturbs text := by
  intro h
  obtain ⟨message, hparse, hmessage⟩ := exists_of_isProfile hprofile
  have htoken : message.hash = (Request.link zoomedQuery).token ⟨2⟩ := by simpa using hmessage
  have hpart : zoomedQuery.aoi.isFull = false := by decide +kernel
  exact hchanged (h .initial 1000 none zoomedAtOnce ⟨2⟩ zoomedQuery message zoomLive_zoomedAtOnce
    hpart hparse htoken)

/-- A summary with a length counts for the whole link, and so does a failure that names no area. -/
theorem zoomed_link_disturbed :
    ¬ NeverDisturbs (zoomAnswer "\"handler\":\"link\",\"dist\":10") ∧
      ¬ NeverDisturbs (zoomAnswer "\"handler\":\"lidar\",\"error\":\"no data\"") :=
  ⟨not_neverDisturbs (by decide +kernel) (by decide +kernel),
    not_neverDisturbs (by decide +kernel) (by decide +kernel)⟩

end Sightline.Session

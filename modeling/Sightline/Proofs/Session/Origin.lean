import Sightline.Proofs.Session.Handling
import Sightline.Proofs.Session.Staleness

/-!
# What touches the link

What is known of the link changes only by profile messages, and these answer link requests. But a
session goes by the message and not by the kind of the request that it was matched with, and all
kinds of requests share one space of tokens: `touching_answer_of_link_iff` says that a profile
message touches the link whatever it answers, and which requests it can be matched with.
-/

namespace Sightline

/-- Whether a report is about the profile of the link. -/
def SessionEvent.isProfile : SessionEvent → Bool
  | .linkAnalysis _ | .partialProfile _ => true
  | _ => false

namespace Session

variable {s : Session} {event : ChannelEvent} {kind : RequestKind} {id : RequestId}
  {message : ProfileMessage} {timeout : Option Nat} {asked later : List Channel.Action} {age : Nat}

/-- A step touches the link: what is known of it becomes another, or the key does, or a profile is
reported. -/
def TouchesLink (s : Session) (after : Session × List SessionEvent) : Prop :=
  after.1.link ≠ s.link ∨ after.1.queryKey ≠ s.queryKey ∨
    ∃ report ∈ after.2, report.isProfile = true

/-! ### Handling -/

theorem exists_of_profile?_eq_some (h : event.profile? = some message) :
    ∃ kind id, event = .response kind id (.profile message) := by
  cases event with
  | response kind id answer =>
    cases answer with
    | profile m =>
      obtain rfl : m = message := by simpa [ChannelEvent.profile?] using h
      exact ⟨kind, id, rfl⟩
    | status | typed => cases h
  | connected | disconnected | notification => cases h

theorem isProfile_handleStatus (s : Session) (kind : RequestKind) (status : StatusMessage) :
    ∀ report ∈ (s.handleStatus kind status).2, report.isProfile = false := by
  cases status with
  | apStatus uuid status features =>
    dsimp only [handleStatus]
    split <;> simp [setCoverage, publishCoverage, SessionEvent.isProfile]
  | standard uuid error => cases error <;> simp [handleStatus, SessionEvent.isProfile]
  | _ => simp [handleStatus, SessionEvent.isProfile]

/-- Only profile messages touch the link. -/
theorem not_touchesLink_handle (h : event.profile? = none) :
    ¬ TouchesLink s (s.handle event) := by
  have hreports : ∀ report ∈ (s.handle event).2, report.isProfile = false := by
    cases event with
    | connected | disconnected => simp [handle, SessionEvent.isProfile]
    | notification message =>
      show ∀ report ∈ (s.handleNotification message).2, report.isProfile = false
      unfold handleNotification
      split <;> simp [SessionEvent.isProfile]
    | response kind id message =>
      cases message with
      | profile message => cases h
      | status status => exact isProfile_handleStatus s kind status
      | typed answer => simp [handle, SessionEvent.isProfile]
  rw [TouchesLink, handle_fst]
  rintro (hlink | hkey | ⟨report, hmem, hreport⟩)
  · exact hlink (by simp [absorb, h])
  · exact hkey (by simp [absorb, h])
  · rw [hreports report hmem] at hreport
    cases hreport

/-- What touches the link was pending, and it is handled alike whatever it answers. -/
theorem exists_pending_of_touchesLink (h : TouchesLink s (s.step .processNext)) :
    ∃ kind id message rest, s.pending = .response kind id (.profile message) :: rest ∧
      s.step .processNext = handleProfile { s with pending := rest } message := by
  cases hp : s.pending with
  | nil =>
    rw [step_processNext_of_nil hp] at h
    simp [TouchesLink] at h
  | cons event rest =>
    cases hprofile : event.profile? with
    | none =>
      rw [step_processNext_of_cons hp] at h
      exact absurd h (not_touchesLink_handle (s := { s with pending := rest }) hprofile)
    | some message =>
      obtain ⟨kind, id, rfl⟩ := exists_of_profile?_eq_some hprofile
      exact ⟨kind, id, message, rest, rfl, step_processNext_of_cons hp⟩

/-! ### Matching -/

/-- A request of another kind that the hash of a profile message can be matched with: one for the
coverage of an access point that has the hash for its name, or a typed request that has it for its
identifier. -/
def Misleads (asked : List Channel.Action) (kind : RequestKind) (id : RequestId)
    (message : ProfileMessage) : Prop :=
  (kind = .accessPoint ∧ .send id (.accessPoint message.hash) ∈ asked) ∨
    ∃ request : TypedRequest, kind = request.kind ∧ .send id (.typed request) ∈ asked ∧
      message.hash = id.text

theorem Misleads.kind_ne_link (h : Misleads asked kind id message) : kind ≠ .link := by
  rcases h with ⟨rfl, -⟩ | ⟨request, rfl, -⟩
  · nofun
  · exact request.kind_ne_link

/-- A profile message that was passed on as an answer answers a link request, unless it misleads. -/
theorem Answered.misleads_iff (h : Answered timeout asked kind id (.profile message) age later) :
    Misleads asked kind id message ↔ kind ≠ .link := by
  obtain ⟨earlier, text, request, rfl, -, htoken, ⟨before, after, rfl, rfl, -⟩, -⟩ := h
  have hhash : message.hash = request.token id := by
    simp only [Message.token?] at htoken
    split at htoken
    · cases htoken
    · exact Option.some.inj htoken
  constructor
  · exact Misleads.kind_ne_link
  · intro hkind
    cases request with
    | link query => exact absurd rfl hkind
    | accessPoint transmitter =>
      obtain rfl : message.hash = transmitter := hhash
      exact .inl ⟨rfl, by simp⟩
    | typed request => exact .inr ⟨request, rfl, by simp, hhash⟩

/-- Whatever touches the link is a profile message that was passed on as the answer to a request
which was live then. It is handled alike whatever it answers. So it answers a link request, unless
its hash is the name of an access point or the identifier of a typed request. -/
theorem touching_answer_of_link_iff (config : SessionConfig) (delay : Nat) (timeout : Option Nat)
    (actions : List Action) :
    let s := ((start config (.start delay timeout)).run actions).1
    let asked := (start config (.start delay timeout)).history actions
    TouchesLink s (s.step .processNext) →
      ∃ kind id message rest, s.pending = .response kind id (.profile message) :: rest ∧
        (∃ age later, Answered timeout asked kind id (.profile message) age later) ∧
        (∀ k i, handle { s with pending := rest } (.response k i (.profile message)) =
          s.step .processNext) ∧
        (kind = .link ↔ ¬ Misleads asked kind id message) := by
  intro s asked htouches
  obtain ⟨kind, id, message, rest, hp, hhandle⟩ := exists_pending_of_touchesLink htouches
  have hmem : .response kind id (.profile message) ∈ s.pending := hp ▸ List.mem_cons_self
  obtain ⟨age, later, hanswered⟩ := answered_of_mem_pending actions hmem
  refine ⟨kind, id, message, rest, hp, ⟨age, later, hanswered⟩, fun _ _ => hhandle.symm, ?_⟩
  rw [hanswered.misleads_iff, not_not]

/-- A terrain that carries the name of an access point for its hash. -/
def misledTerrain : String :=
  "\x7b\"handler\":\"terrain\",\"dist\":10,\"terrain_profile\":[[1,0,0],[2,0,1]]," ++
    "\"hash\":\"x\"\x7d"

/-- The terrain is received while only the coverage of the access point was asked for. -/
def misled : List Action :=
  [.channel .connect, .processNext, .requestAccessPoint ⟨1⟩ "x", .channel (.receive misledTerrain)]

theorem touchesLink_misled :
    TouchesLink (sample.run misled).1 ((sample.run misled).1.step .processNext) := by
  have hbefore : (sample.run misled).1.link.elevation = none := by decide +kernel
  have hafter : ((sample.run misled).1.step .processNext).1.link.elevation ≠ none := by
    decide +kernel
  refine .inl fun hlink => hafter ?_
  rw [hlink, hbefore]

theorem touching_answer_of_link_iff_misled :
    let s := (sample.run misled).1
    TouchesLink s (s.step .processNext) ∧
      ∃ kind id message rest, s.pending = .response kind id (.profile message) :: rest ∧
        (kind = .link ↔ ¬ Misleads (sample.history misled) kind id message) := by
  intro s
  obtain ⟨kind, id, message, rest, hp, -, -, hiff⟩ :=
    touching_answer_of_link_iff .initial 1000 none misled touchesLink_misled
  exact ⟨touchesLink_misled, kind, id, message, rest, hp, hiff⟩

/-- The answer to the request for the coverage of the access point is taken for the terrain of a
link. -/
theorem touching_answer_not_of_link :
    ¬ ∀ (config : SessionConfig) (delay : Nat) (timeout : Option Nat) (actions : List Action),
      let s := ((start config (.start delay timeout)).run actions).1
      TouchesLink s (s.step .processNext) →
        ∃ id message rest, s.pending = .response .link id message :: rest := by
  intro h
  obtain ⟨id, message, rest, hp⟩ := h .initial 1000 none misled touchesLink_misled
  have hanswers : (sample.run misled).1.pending.head?.any (·.answers .accessPoint ⟨1⟩) = true := by
    decide +kernel
  have hpending : (sample.run misled).1.pending = .response .link id message :: rest := hp
  rw [hpending] at hanswers
  simp [ChannelEvent.answers] at hanswers

end Session

end Sightline

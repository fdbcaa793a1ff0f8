import Sightline.Proofs.Link.Merge
import Sightline.Proofs.Session.Move

/-!
# Handling of channel events

Three things can come of an event: a profile message is taken over into the link state, an error in
one can drop the key, and coverage of a transmitter is replaced. `handle_fst` says this of one
event. Handling all pending events is a fold over them (`processAll_fst`), so that the link state
is merged from the profile messages among them.
-/

namespace Sightline

/-- Whether a message is an error after which the same link can be requested again. -/
def ProfileMessage.dropsKey : ProfileMessage → Bool
  | .terrain a => a.isFull && a.error.isSome
  | .lidar _ => false
  | .link a => a.error.isSome

theorem SameStreams.mem_iff {first second : List ProfileMessage} (h : SameStreams first second)
    (message : ProfileMessage) : message ∈ first ↔ message ∈ second := by
  cases ht : message.isTerrain with
  | true =>
    have hmem : ∀ list : List ProfileMessage,
        message ∈ list ↔ message ∈ list.filter ProfileMessage.isTerrain := by
      simp [List.mem_filter, ht]
    rw [hmem first, h.terrain, ← hmem second]
  | false =>
    have hmem : ∀ list : List ProfileMessage,
        message ∈ list ↔ message ∈ list.filter (!ProfileMessage.isTerrain ·) := by
      simp [List.mem_filter, ht]
    rw [hmem first, h.others, ← hmem second]

namespace ChannelEvent

/-- The profile message that an event carries. -/
def profile? : ChannelEvent → Option ProfileMessage
  | .response _ _ (.profile message) => some message
  | _ => none

/-- The transmitter and the coverage that an event carries; none if an area overflows. -/
def coverage? : ChannelEvent → Option (String × CoverageSet)
  | .response _ _ (.status (.apStatus uuid _ features)) =>
    (features.bind CoverageSet.ofFeatures).map (uuid, ·)
  | _ => none

theorem exists_features_of_coverage? {event : ChannelEvent} {transmitter : String}
    {set : CoverageSet} (h : event.coverage? = some (transmitter, set)) :
    ∃ features, CoverageSet.ofFeatures features = some set := by
  unfold coverage? at h
  split at h
  · obtain ⟨read, hread, hpair⟩ := Option.map_eq_some_iff.1 h
    obtain ⟨features, -, hfeatures⟩ := Option.bind_eq_some_iff.1 hread
    cases hpair
    exact ⟨features, hfeatures⟩
  · cases h

end ChannelEvent

namespace Session

variable {s : Session} {event : ChannelEvent} {events : List ChannelEvent}

/-! ### One event -/

theorem handleProfile_fst (s : Session) (message : ProfileMessage) :
    (s.handleProfile message).1 = { s with
      link := s.link.absorb message
      queryKey := if message.dropsKey then none else s.queryKey } := by
  rw [handleProfile.eq_def]
  cases message with
  | terrain a =>
    cases herror : a.error <;> cases hfull : a.isFull <;>
      simp [ProfileMessage.error, ProfileMessage.dropsKey, LinkState.absorb, profileFailed,
        herror, hfull]
  | lidar a =>
    cases herror : a.error <;> cases hfull : a.isFull <;>
      simp [ProfileMessage.error, ProfileMessage.dropsKey, LinkState.absorb, profileFailed,
        herror, hfull]
  | link a =>
    cases herror : a.error <;> cases hdistance : a.distance <;>
      simp [ProfileMessage.error, ProfileMessage.dropsKey, LinkState.absorb, profileFailed,
        herror, hdistance]

/-- The session after an event. -/
def absorb (s : Session) (event : ChannelEvent) : Session :=
  { s with
    link := event.profile?.elim s.link s.link.absorb
    queryKey := if event.profile?.any ProfileMessage.dropsKey then none else s.queryKey
    coverage := event.coverage?.elim s.coverage fun (transmitter, set) =>
      s.coverage.set transmitter set }

theorem handle_fst (s : Session) (event : ChannelEvent) : (s.handle event).1 = s.absorb event := by
  cases event with
  | connected | disconnected => rfl
  | notification message =>
    show (s.handleNotification message).1 = s
    unfold handleNotification
    split <;> rfl
  | response kind id message =>
    cases message with
    | profile message => exact handleProfile_fst s message
    | status message =>
      cases message with
      | apStatus uuid status features =>
        dsimp only [handle, handleStatus, absorb, ChannelEvent.coverage?]
        cases features.bind CoverageSet.ofFeatures <;> rfl
      | _ => rfl
    | typed answer => rfl

/-! ### All pending events -/

/-- The first pending event is handled, and then the others. -/
theorem processAll_cons {rest : List ChannelEvent} (hp : s.pending = event :: rest) :
    s.processAll.1 = ({ s with pending := rest }.absorb event).processAll.1 := by
  have hstep : (s.step .processNext).1 = { s with pending := rest }.absorb event := by
    rw [step_processNext_of_cons hp]
    exact handle_fst _ event
  have hpending : ({ s with pending := rest }.absorb event).pending = rest := rfl
  rw [processAll, processAll, hp, hpending, List.length_cons, List.replicate_succ, run_cons, hstep]

theorem processAll_fst (s : Session) :
    s.processAll.1 = s.pending.foldl absorb { s with pending := [] } := by
  generalize hp : s.pending = pending
  induction pending generalizing s with
  | nil =>
    have hs : { s with pending := [] } = s := by rw [← hp]
    rw [processAll, hp, hs]
    rfl
  | cons event rest ih =>
    rw [processAll_cons hp, ih _ rfl]
    rfl

theorem link_foldl_absorb (s : Session) (events : List ChannelEvent) :
    (events.foldl absorb s).link = s.link.merged (events.filterMap ChannelEvent.profile?) := by
  rw [← LinkState.foldl_absorb, List.foldl_filterMap]
  induction events generalizing s with
  | nil => rfl
  | cons event rest ih =>
    rw [List.foldl_cons, ih, List.foldl_cons]
    congr 1
    simp only [absorb]
    cases event.profile? <;> rfl

theorem queryKey_foldl_absorb (s : Session) (events : List ChannelEvent) :
    (events.foldl absorb s).queryKey =
      if (events.filterMap ChannelEvent.profile?).any ProfileMessage.dropsKey then none
      else s.queryKey := by
  induction events generalizing s with
  | nil => rfl
  | cons event rest ih =>
    rw [List.foldl_cons, ih]
    simp only [absorb]
    cases hm : event.profile? with
    | none => simp [hm]
    | some message => cases hd : message.dropsKey <;> simp [hm, hd]

end Session

end Sightline

import Mathlib.Data.List.DropRight
import Sightline.Proofs.Channel.Delivery
import Sightline.Proofs.Channel.Dispatch
import Sightline.Proofs.Link.Positive
import Sightline.Proofs.Lists
import Sightline.Proofs.Session.Handling

/-!
# Submission of link queries

A session skips a query that repeats the last one which it has sent. The history of a session says
which query that is, and whether it was cancelled or has failed since: `Due` reads this off the
turns of a run, without the key that the session keeps. The key agrees with it (`run_queryKey`), so
exactly the queries that are due are sent (`sent_iff_due`).
-/

namespace Sightline.Session

variable {s next : Session} {action : Action} {events : List SessionEvent}
  {more : List Channel.Action} {id : RequestId} {query : LinkQuery}

/-! ### What the history says -/

/-- The key of the query that a turn sends, if it sends one for the whole editing session. -/
def sentKey? (turn : Session × Action) : Option String :=
  match turn.2 with
  | .updateRequest id query =>
    match (turn.1.updateRequest id query).result with
    | .ok (some _) => some query.dedupeKey
    | _ => none
  | _ => none

/-- Whether a turn makes the session forget its last query: links are cancelled, or the terrain of
the whole link or the summary of the link has failed. -/
def forgets (turn : Session × Action) : Bool :=
  match turn.2 with
  | .cancel kind => kind = .link
  | .processNext => turn.1.pending.head?.any (·.profile?.any ProfileMessage.dropsKey)
  | _ => false

/-- The keys of the queries that were sent. -/
def sentKeys (turns : List (Session × Action)) : List String := turns.filterMap sentKey?

/-- The turns since a query was sent. -/
def sinceSent (turns : List (Session × Action)) : List (Session × Action) :=
  turns.rtakeWhile fun turn => (sentKey? turn).isNone

/-- A query has to be sent: no query was sent before, the last one had another key, or it was
forgotten since. -/
def Due (turns : List (Session × Action)) (query : LinkQuery) : Prop :=
  sentKeys turns = [] ∨ (sentKeys turns).getLast? ≠ some query.dedupeKey ∨
    ∃ turn ∈ sinceSent turns, forgets turn = true

instance (turns : List (Session × Action)) (query : LinkQuery) : Decidable (Due turns query) :=
  inferInstanceAs (Decidable (_ ∨ _ ∨ _))

/-! ### The key -/

/-- A turn that sends a query forgets none. -/
theorem forgets_eq_false_of_sent {key : String} (h : sentKey? (s, action) = some key) :
    forgets (s, action) = false := by
  cases action with
  | updateRequest => rfl
  | _ => cases h

/-- What a move does to the key. -/
theorem Move.queryKey_eq (hm : Move s action next events more) :
    next.queryKey =
      if forgets (s, action) then none else (sentKey? (s, action)).or s.queryKey := by
  cases hm with
  | invalid hf => simp [forgets, sentKey?, updateRequest_of_invalid hf, refuse]
  | repeated hf hk hs => simp [forgets, sentKey?, updateRequest_of_repeated hf hk hs, retune]
  | retuned hf hk hs =>
    simp [forgets, sentKey?, updateRequest_of_retuned hf hk hs, retune, withParams]
  | requested hf hk => simp [forgets, sentKey?, updateRequest_of_requested hf hk]
  | unadjusted ha | adjusted ha => cases action <;> first | rfl | cases ha
  | handled hp =>
    rw [handle_fst]
    simp [absorb, forgets, sentKey?, hp]
  | waits hp => simp [forgets, sentKey?, hp]
  | cancel kind => simp [forgets, sentKey?]
  | _ => rfl

/-- The key that a run leaves is that of the last query sent, unless it was forgotten. -/
theorem run_queryKey (config : SessionConfig) (channel : Channel) (actions : List Action) :
    let turns := (start config channel).turns actions
    ((start config channel).run actions).1.queryKey =
      if (sinceSent turns).any forgets then none else (sentKeys turns).getLast? := by
  refine turns_induction (P := fun turns last _ => last.queryKey =
    if (sinceSent turns).any forgets then none else (sentKeys turns).getLast?) rfl ?_ actions
  intro turns last events action ih
  -- a turn that sends a query is the last one so far, and nothing was forgotten since
  rw [(Move.of_step last action).queryKey_eq, ih, sentKeys, sentKeys, getLast?_filterMap_concat,
    sinceSent, sinceSent, List.rtakeWhile_concat]
  cases hsent : sentKey? (last, action) with
  | some key => simp [forgets_eq_false_of_sent hsent]
  | none =>
    rw [Option.none_or, if_pos Option.isNone_none, List.any_append, List.any_cons, List.any_nil,
      Bool.or_false, Option.none_or]
    cases forgets (last, action) with
    | true => rw [Bool.or_true, if_pos rfl, if_pos rfl]
    | false => rw [Bool.or_false, if_neg Bool.false_ne_true]

/-- Exactly the queries that are due differ from the key. -/
theorem queryKey_ne_iff_due (config : SessionConfig) (channel : Channel) (actions : List Action)
    (query : LinkQuery) :
    ((start config channel).run actions).1.queryKey ≠ some query.dedupeKey ↔
      Due ((start config channel).turns actions) query := by
  rw [run_queryKey config channel actions, Due, ← List.any_eq_true]
  cases hforgets : (sinceSent ((start config channel).turns actions)).any forgets with
  | true => simp
  | false =>
    rw [if_neg (by simp)]
    constructor
    · intro h
      exact .inr (.inl h)
    · rintro (h | h | h)
      · simp [h]
      · exact h
      · cases h

/-! ### Queries -/

/-- A query is sent: its frame, and no other, joins those that wait to be written. -/
structure Sent (s : Session) (id : RequestId) (query : LinkQuery) : Prop where
  result : (s.updateRequest id query).result = .ok (some id)
  channel : (s.updateRequest id query).session.channel = s.channel.send id (.link query)
  frames : (s.updateRequest id query).session.channel.unwritten =
    s.channel.unwritten ++ [((Request.link query).encode id).frame]

/-- A query is skipped: nothing but the frequency of the link changes, and that is taken over. -/
structure Skipped (s : Session) (id : RequestId) (query : LinkQuery) : Prop where
  result : (s.updateRequest id query).result = .ok none
  channel : (s.updateRequest id query).session.channel = s.channel
  link : (s.updateRequest id query).session.link =
    { s.link with params := { s.link.params with frequency := query.frequency } }

/-- A query with another key than the last is sent. -/
theorem sent_of_queryKey_ne (hf : (s.tuned query).fault? = none)
    (hk : s.queryKey ≠ some query.dedupeKey) (ha : s.channel.Attached) (id : RequestId) :
    Sent s id query := by
  have hupdate := updateRequest_of_requested hf hk id
  have hchannel : (s.updateRequest id query).session.channel = s.channel.send id (.link query) := by
    rw [hupdate]
    rfl
  refine ⟨congrArg Outcome.result hupdate, hchannel, ?_⟩
  rw [hchannel, ha.unwritten_send]

/-- A query with the key of the last one is skipped. -/
theorem skipped_of_queryKey_eq (hf : (s.tuned query).fault? = none)
    (hk : s.queryKey = some query.dedupeKey) (id : RequestId) : Skipped s id query := by
  cases hs : query.frequency == s.link.params.frequency with
  | true =>
    have hupdate := updateRequest_of_repeated hf hk hs id
    have hfrequency : query.frequency = s.link.params.frequency :=
      LinkParameters.frequency_eq_of_beq (p := s.tuned query) hf hs
    refine ⟨congrArg Outcome.result hupdate, ?_, ?_⟩
    · rw [hupdate, retune]
    · rw [hupdate, hfrequency, retune]
  | false =>
    have hupdate := updateRequest_of_retuned hf hk hs id
    refine ⟨congrArg Outcome.result hupdate, ?_, ?_⟩
    · rw [hupdate, withParams, retune]
    · rw [hupdate, withParams, retune, tuned]

/-! ### What submits nothing -/

/-- Whether an action is no request: it sets parameters, edits coverage, cancels, or handles what
the backend has sent. -/
def Action.isLocal : Action → Bool
  | .setRadioHeights _ _ | .setFrequency _ | .setZone _ => true
  | .setCoverage _ _ | .removeTransmitter _ | .selectTransmitters _ => true
  | .cancel _ | .channel (.receive _) | .processNext => true
  | _ => false

/-- Of the channel, such an action reaches at most the slots. -/
theorem Move.exists_slots_of_isLocal (hm : Move s action next events more)
    (h : action.isLocal = true) : ∃ slots, next.channel = { s.channel with slots := slots } := by
  cases hm with
  | invalid | repeated | retuned | requested | misplaced | zoomed | requestAccessPoint | request =>
    cases h
  | unadjusted | adjusted | setCoverage | removeTransmitter | selectTransmitters | waits =>
    exact ⟨s.channel.slots, rfl⟩
  | cancel kind => exact ⟨s.channel.slots.set kind none, rfl⟩
  | handled =>
    rw [(handled_handle _ _).channel]
    exact ⟨s.channel.slots, rfl⟩
  | channel action =>
    cases action with
    | receive text =>
      simp only [channelStep, Channel.step_receive]
      exact ⟨s.channel.slots, rfl⟩
    | _ => cases h

/-- A query without a fault is sent exactly if it is due: it joins the frames that wait to be
written, and no other does. Otherwise it is skipped. Nothing that is no request submits a frame. -/
theorem sent_iff_due (config : SessionConfig) (delay : Nat) (timeout : Option Nat)
    (actions : List Action) (id : RequestId) (query : LinkQuery) :
    let s := ((start config (.start delay timeout)).run actions).1
    let turns := (start config (.start delay timeout)).turns actions
    ((s.tuned query).fault? = none →
      (Due turns query → Sent s id query) ∧ (¬ Due turns query → Skipped s id query)) ∧
    ∀ action : Action, action.isLocal = true →
      ∃ slots, (s.step action).1.channel = { s.channel with slots := slots } := by
  intro s turns
  have hdue : s.queryKey ≠ some query.dedupeKey ↔ Due turns query :=
    queryKey_ne_iff_due config _ actions query
  have hattached : s.channel.Attached := by
    rw [show s.channel = _ from run_channel _ actions]
    exact (Channel.run_conserved delay timeout _).attached
  refine ⟨fun hf => ⟨?_, ?_⟩, ?_⟩
  · intro h
    exact sent_of_queryKey_ne hf (hdue.2 h) hattached id
  · intro h
    apply skipped_of_queryKey_eq hf
    by_contra hk
    exact h (hdue.1 hk)
  · intro action h
    exact (Move.of_step s action).exists_slots_of_isLocal h

/-- The sample link is zoomed and its zone is set, and then it is cancelled. -/
def cancelledLater : List Action :=
  [.updateRequest ⟨1⟩ sampleQuery, .zoom ⟨2⟩ 0.25 0.5, .setZone 2, .cancel .link]

theorem sent_iff_due_cancelledLater :
    let before := (sample.run (cancelledLater.take 3)).1
    let after := (sample.run cancelledLater).1
    (before.tuned sampleQuery).fault? = none ∧ (after.tuned sampleQuery).fault? = none ∧
      ¬ Due (sample.turns (cancelledLater.take 3)) sampleQuery ∧
      Due (sample.turns cancelledLater) sampleQuery ∧
      Skipped before ⟨3⟩ sampleQuery ∧ Sent after ⟨3⟩ sampleQuery ∧
      ∃ slots, (before.step (.cancel .link)).1.channel =
        { before.channel with slots := slots } := by
  intro before after
  have hbefore : (before.tuned sampleQuery).fault? = none := by decide +kernel
  have hafter : (after.tuned sampleQuery).fault? = none := by decide +kernel
  have hskipped : ¬ Due (sample.turns (cancelledLater.take 3)) sampleQuery := by decide +kernel
  have hsent : Due (sample.turns cancelledLater) sampleQuery := by decide +kernel
  obtain ⟨hquery, hlocal⟩ :=
    sent_iff_due .initial 1000 none (cancelledLater.take 3) ⟨3⟩ sampleQuery
  obtain ⟨hlater, -⟩ := sent_iff_due .initial 1000 none cancelledLater ⟨3⟩ sampleQuery
  refine ⟨hbefore, hafter, hskipped, hsent, ?_, ?_, hlocal (.cancel .link) rfl⟩
  · exact (hquery hbefore).2 hskipped
  · exact (hlater hafter).1 hsent

end Sightline.Session

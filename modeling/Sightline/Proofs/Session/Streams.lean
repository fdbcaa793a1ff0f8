import Sightline.Proofs.Session.Handling

/-!
# The link state of a session

A link request that is sent resets what is known of the link. `link_eq_merged` says that from then
on the link state is merged from the profile messages that were handled, whatever else was done in
between, and that handling them in another order of the streams comes to the same.
-/

namespace Sightline.Session

variable {s next : Session} {action : Action} {events : List SessionEvent}
  {more : List Channel.Action} {turns : List (Session × Action)}

/-! ### Profile messages since the last reset -/

/-- Whether an action sends a query for another link. -/
def resets (s : Session) : Action → Bool
  | .updateRequest id query =>
    match (s.updateRequest id query).result with
    | .ok (some _) => true
    | _ => false
  | _ => false

/-- The profile message that an action handles. -/
def answer? (s : Session) : Action → Option ProfileMessage
  | .processNext => s.pending.head?.bind ChannelEvent.profile?
  | _ => none

/-- The profile messages that were handled since the last reset. -/
def answers (turns : List (Session × Action)) : List ProfileMessage :=
  turns.foldl
    (fun found turn => if turn.1.resets turn.2 then [] else found ++ (turn.1.answer? turn.2).toList)
    []

theorem answers_concat (turns : List (Session × Action)) (s : Session) (action : Action) :
    answers (turns ++ [(s, action)]) =
      if s.resets action then [] else answers turns ++ (s.answer? action).toList := by
  simp [answers]

/-- Setting parameters is neither. -/
theorem resets_of_adjusted? {params : LinkParameters} (h : s.adjusted? action = some params) :
    s.resets action = false ∧ s.answer? action = none := by
  cases action <;> first | exact ⟨rfl, rfl⟩ | cases h

/-- A move resets the link, or takes over the profile message that it handles; the parameters may
be others afterwards. -/
theorem Move.link_eq (hm : Move s action next events more) :
    (s.resets action = true ∧ next.link = .initial next.link.params) ∨
      (s.resets action = false ∧
        next.link = { (s.answer? action).elim s.link s.link.absorb with
          params := next.link.params }) := by
  cases hm with
  | invalid hf => exact .inr ⟨by simp [resets, updateRequest_of_invalid hf, refuse], rfl⟩
  | repeated hf hk hs => exact .inr ⟨by simp [resets, updateRequest_of_repeated hf hk hs], rfl⟩
  | retuned hf hk hs => exact .inr ⟨by simp [resets, updateRequest_of_retuned hf hk hs], rfl⟩
  | requested hf hk => exact .inl ⟨by simp [resets, updateRequest_of_requested hf hk], rfl⟩
  | unadjusted ha | adjusted ha =>
    obtain ⟨hresets, hanswer⟩ := resets_of_adjusted? ha
    exact .inr ⟨hresets, by rw [hanswer]; rfl⟩
  | @handled event rest hp =>
    have hanswer : s.answer? .processNext = event.profile? := by simp [answer?, hp]
    rw [handle_fst, hanswer]
    refine .inr ⟨rfl, ?_⟩
    cases h : event.profile? with
    | none => simp [absorb, h]
    | some message => simp [absorb, h]
  | waits hp =>
    have hanswer : s.answer? .processNext = none := by simp [answer?, hp]
    exact .inr ⟨rfl, by rw [hanswer]; rfl⟩
  | _ => exact .inr ⟨rfl, rfl⟩

theorem run_link (config : SessionConfig) (channel : Channel) (actions : List Action) :
    ((start config channel).run actions).1.link =
      (LinkState.initial ((start config channel).run actions).1.link.params).merged
        (answers ((start config channel).turns actions)) := by
  refine turns_induction (P := fun turns last _ =>
    last.link = (LinkState.initial last.link.params).merged (answers turns)) rfl ?_ actions
  intro turns last events action ih
  rw [answers_concat]
  rcases (Move.of_step last action).link_eq with ⟨hresets, hlink⟩ | ⟨hresets, hlink⟩
  · rw [if_pos hresets]
    exact hlink
  · rw [if_neg (by simp [hresets]), hlink]
    -- what is merged does not depend on the parameters, which the action may have changed
    cases hanswer : last.answer? action with
    | none =>
      rw [Option.elim_none, Option.toList_none, List.append_nil]
      generalize (last.step action).1.link.params = params
      rw [ih]
      rfl
    | some message =>
      rw [Option.elim_some, Option.toList_some]
      generalize (last.step action).1.link.params = params
      rw [ih, ← LinkState.merged_concat]
      rfl

/-! ### Interleavings -/

theorem link_processAll (s : Session) :
    s.processAll.1.link = s.link.merged (s.pending.filterMap ChannelEvent.profile?) := by
  rw [processAll_fst, link_foldl_absorb]

theorem queryKey_processAll (s : Session) :
    s.processAll.1.queryKey =
      if (s.pending.filterMap ChannelEvent.profile?).any ProfileMessage.dropsKey then none
      else s.queryKey := by
  rw [processAll_fst, queryKey_foldl_absorb]

/-- The link state is merged from the profile messages that were handled since the last reset. It
is the same, and so are the key and the analysis, after two lists of events whose terrain messages
agree and whose other profile messages agree, however the two are interleaved. -/
theorem link_eq_merged (config : SessionConfig) (channel : Channel) (actions : List Action)
    (first second : List ChannelEvent) :
    let s := ((start config channel).run actions).1
    let afterFirst := { s with pending := first }.processAll.1
    let afterSecond := { s with pending := second }.processAll.1
    s.link = (LinkState.initial s.link.params).merged
        (answers ((start config channel).turns actions)) ∧
      (SameStreams (first.filterMap ChannelEvent.profile?)
          (second.filterMap ChannelEvent.profile?) →
        afterFirst.link = afterSecond.link ∧ afterFirst.queryKey = afterSecond.queryKey ∧
          afterFirst.link.analysis? = afterSecond.link.analysis?) := by
  intro s afterFirst afterSecond
  refine ⟨run_link config channel actions, fun h => ?_⟩
  have hlink : afterFirst.link = afterSecond.link := by
    rw [link_processAll, link_processAll]
    exact h.merged_eq s.link
  refine ⟨hlink, ?_, by rw [hlink]⟩
  rw [queryKey_processAll, queryKey_processAll]
  have hdrops : (first.filterMap ChannelEvent.profile?).any ProfileMessage.dropsKey =
      (second.filterMap ChannelEvent.profile?).any ProfileMessage.dropsKey := by
    rw [Bool.eq_iff_iff, List.any_eq_true, List.any_eq_true]
    simp only [h.mem_iff]
  rw [hdrops]

/-- A profile message in answer to the first link request. -/
def answered (message : ProfileMessage) : ChannelEvent := .response .link ⟨1⟩ (.profile message)

def sampleTerrainAnswer : ProfileMessage := .terrain
  { error := none, hash := "", aoi := fullRange, points := [⟨1, 0, 0⟩, ⟨2, 0, 1⟩],
    distance := some 10, source := none }

def sampleLidarAnswer : ProfileMessage := .lidar
  { error := none, hash := "", aoi := fullRange, samples := [(0, 3), (10, 4)],
    distance := some 11, source := none, resolution := none, url := none, bounds := [],
    tx := none, rx := none, stillLoading := true }

def sampleSummary : ProfileMessage := .link { error := none, hash := "", distance := some 12 }

/-- The terrain comes before the others, or after them. -/
theorem link_eq_merged_terrainFirst :
    let s := ((start .initial (.start 1000 none)).run [.updateRequest ⟨1⟩ sampleQuery]).1
    let first := [sampleTerrainAnswer, sampleLidarAnswer, sampleSummary].map answered
    let second := [sampleLidarAnswer, sampleSummary, sampleTerrainAnswer].map answered
    let afterFirst := { s with pending := first }.processAll.1
    let afterSecond := { s with pending := second }.processAll.1
    SameStreams (first.filterMap ChannelEvent.profile?) (second.filterMap ChannelEvent.profile?) ∧
      afterFirst.link = afterSecond.link ∧ afterFirst.queryKey = afterSecond.queryKey ∧
      afterFirst.link.analysis? = afterSecond.link.analysis? := by
  have hsame : SameStreams
      ((List.map answered [sampleTerrainAnswer, sampleLidarAnswer, sampleSummary]).filterMap
        ChannelEvent.profile?)
      ((List.map answered [sampleLidarAnswer, sampleSummary, sampleTerrainAnswer]).filterMap
        ChannelEvent.profile?) :=
    ⟨rfl, rfl⟩
  exact ⟨hsame, (link_eq_merged .initial (.start 1000 none) [.updateRequest ⟨1⟩ sampleQuery]
    _ _).2 hsame⟩

end Sightline.Session

import Mathlib.Data.List.Basic
import Sightline.Proofs.Link.Positive
import Sightline.Proofs.Session.Handling
import Sightline.Proofs.Session.Refusal

/-!
# The frequency of link requests

A session keeps two frequencies: that of the stored query, which a zoom sends again, and that of
the link, which the analysis uses. A query that is accepted sets both, also when it is skipped. A
frequency that is set for the link alone leaves the query as it is, so that a zoom after it still
sends the old one: `link_frequency_eq_iff`.
-/

namespace Sightline.Session

/-- A frequency that was taken over: that of a query, or one for the link alone. -/
inductive Tuning
  | query (frequency : Float)
  | link (frequency : Float)

namespace Tuning

def frequency : Tuning → Float
  | .query frequency => frequency
  | .link frequency => frequency

/-- The frequency of a query that was accepted. -/
def query? : Tuning → Option Float
  | .query frequency => some frequency
  | .link _ => none

end Tuning

/-- The frequency that an action sets, unless it is refused. -/
def tuning? (s : Session) : Action → Option Tuning
  | .updateRequest id query =>
    if (s.updateRequest id query).result.isOk then some (.query query.frequency) else none
  | .setFrequency frequency =>
    if (s.setFrequency frequency).result.isOk then some (.link frequency) else none
  | _ => none

/-- The frequencies that were set, the oldest first. -/
def tunings (turns : List (Session × Action)) : List Tuning :=
  turns.filterMap fun turn => turn.1.tuning? turn.2

variable {config : SessionConfig} {found : List Tuning} {s next : Session} {action : Action}
  {events : List SessionEvent} {more : List Channel.Action}

theorem tunings_concat (turns : List (Session × Action)) (s : Session) (action : Action) :
    tunings (turns ++ [(s, action)]) = tunings turns ++ (s.tuning? action).toList := by
  rw [tunings, List.filterMap_append]
  cases h : s.tuning? action <;> simp [tunings, h]

/-! ### The two frequencies -/

/-- The stored query has the frequency of the last query that was accepted, and the link the last
frequency that was set at all. -/
structure Tuned (config : SessionConfig) (found : List Tuning) (s : Session) : Prop where
  keyed : s.queryKey.isSome = true → s.query.isSome = true
  stored : s.query.map (·.frequency) = (found.filterMap Tuning.query?).getLast?
  current : s.link.params.frequency = (found.getLast?.map Tuning.frequency).getD config.frequency

/-- What sets no frequency keeps both. -/
theorem Tuned.of_untuned (h : Tuned config found s) (htuning : s.tuning? action = none)
    (hkey : next.queryKey = s.queryKey ∨ next.queryKey = none) (hquery : next.query = s.query)
    (hcurrent : next.link.params.frequency = s.link.params.frequency) :
    Tuned config (found ++ (s.tuning? action).toList) next := by
  rw [htuning, Option.toList_none, List.append_nil]
  refine ⟨?_, by rw [hquery, h.stored], by rw [hcurrent, h.current]⟩
  rcases hkey with hkey | hkey
  · rw [hkey, hquery]
    exact h.keyed
  · rw [hkey]
    intro hnone
    cases hnone

/-- A query that is accepted sets both. -/
theorem Tuned.of_query {query : LinkQuery}
    (htuning : s.tuning? action = some (.query query.frequency))
    (hstored : next.query.map (·.frequency) = some query.frequency)
    (hcurrent : next.link.params.frequency = query.frequency) :
    Tuned config (found ++ (s.tuning? action).toList) next := by
  rw [htuning]
  refine ⟨fun _ => ?_, by simp [hstored, Tuning.query?], by simp [hcurrent, Tuning.frequency]⟩
  cases hq : next.query with
  | none => simp [hq] at hstored
  | some _ => rfl

theorem retune_query (h : Tuned config found s) {query : LinkQuery}
    (hk : s.queryKey = some query.dedupeKey) :
    (s.retune query.frequency).query.map (·.frequency) = some query.frequency := by
  have hsome : s.query.isSome = true := h.keyed (by simp [hk])
  obtain ⟨stored, hstored⟩ := Option.isSome_iff_exists.1 hsome
  simp [retune, hstored]

/-- Setting parameters sets the frequency of the link, or keeps both. -/
theorem Tuned.of_adjusted? (h : Tuned config found s) {params : LinkParameters}
    (ha : s.adjusted? action = some params) (hf : params.fault? = none) :
    Tuned config (found ++ (s.tuning? action).toList) (s.withParams params) := by
  cases action with
  | setRadioHeights tx rx | setZone zone =>
    cases ha
    exact h.of_untuned rfl (.inl rfl) rfl rfl
  | setFrequency frequency =>
    cases ha
    have htuning : s.tuning? (.setFrequency frequency) = some (.link frequency) := by
      simp [tuning?, setFrequency, isOk_updateParams, hf]
    rw [htuning]
    refine ⟨h.keyed, ?_, by simp [withParams, Tuning.frequency]⟩
    simp [withParams, h.stored, Tuning.query?]
  | _ => cases ha

theorem tuning?_of_fault {params : LinkParameters} {fault : GeometryFault}
    (ha : s.adjusted? action = some params) (hf : params.fault? = some fault) :
    s.tuning? action = none := by
  cases action with
  | setFrequency frequency =>
    cases ha
    simp [tuning?, setFrequency, isOk_updateParams, hf]
  | setRadioHeights tx rx | setZone zone => rfl
  | _ => cases ha

theorem Tuned.move (h : Tuned config found s) (hm : Move s action next events more) :
    Tuned config (found ++ (s.tuning? action).toList) next := by
  cases hm with
  | invalid hf =>
    refine h.of_untuned ?_ (.inl rfl) rfl rfl
    simp [tuning?, isOk_updateRequest, hf]
  | @repeated id query hf hk hs =>
    -- the link keeps its frequency, which passed for that of the query only by the test on doubles
    refine .of_query ?_ (retune_query h hk) ?_
    · simp [tuning?, isOk_updateRequest, hf]
    · exact (LinkParameters.frequency_eq_of_beq (p := s.tuned query) hf hs).symm
  | retuned hf hk hs =>
    refine .of_query ?_ (retune_query h hk) rfl
    simp [tuning?, isOk_updateRequest, hf]
  | requested hf hk =>
    refine .of_query ?_ rfl rfl
    simp [tuning?, isOk_updateRequest, hf]
  | unadjusted ha hf => exact h.of_untuned (tuning?_of_fault ha hf) (.inl rfl) rfl rfl
  | adjusted ha hf => exact h.of_adjusted? ha hf
  | @handled event rest hp =>
    have hh := handled_handle { s with pending := rest } event
    refine h.of_untuned rfl hh.queryKey hh.query ?_
    rw [handle_fst]
    cases hp : event.profile? <;> simp [absorb, hp, LinkState.absorb_params]
  | cancel kind =>
    refine h.of_untuned rfl ?_ rfl rfl
    by_cases hk : kind = .link
    · exact .inr (if_pos hk)
    · exact .inl (if_neg hk)
  | misplaced | zoomed | setCoverage | removeTransmitter | selectTransmitters
  | requestAccessPoint | request | channel | waits => exact h.of_untuned rfl (.inl rfl) rfl rfl

theorem run_tuned (config : SessionConfig) (channel : Channel) (actions : List Action) :
    Tuned config (tunings ((start config channel).turns actions))
      ((start config channel).run actions).1 := by
  refine turns_induction (P := fun turns last _ => Tuned config (tunings turns) last)
    ⟨fun h => h, rfl, rfl⟩ ?_ actions
  intro turns last events action h
  rw [tunings_concat]
  exact h.move (Move.of_step last action)

/-! ### Link requests -/

/-- A link request of the session has the frequency of the query that is stored afterwards. -/
theorem Move.query_of_asked {id : RequestId} {query : LinkQuery}
    (hm : Move s action next events more) (hown : ∀ a, action ≠ .channel a)
    (hasked : .send id (.link query) ∈ more) :
    next.query.map (·.frequency) = some query.frequency := by
  cases hm with
  | requested hf hk =>
    obtain ⟨rfl, rfl⟩ : _ ∧ _ := by simpa using hasked
    rfl
  | zoomed ha hq =>
    obtain ⟨rfl, rfl⟩ : _ ∧ _ := by simpa using hasked
    simp [send, hq]
  | channel a => exact absurd rfl (hown a)
  | _ => simp at hasked

/-- The last query among frequencies that were set, if it is the last of them. -/
theorem Tuned.frequency_eq_iff (h : Tuned config found s) {frequency : Float}
    (hquery : s.query.map (·.frequency) = some frequency) :
    frequency = s.link.params.frequency ↔
      ∀ other, found.getLast? = some (.link other) → other = frequency := by
  have hstored := h.stored
  rw [hquery] at hstored
  rcases List.eq_nil_or_concat' found with rfl | ⟨earlier, last, rfl⟩
  · cases hstored
  · have hcurrent : s.link.params.frequency = last.frequency := by simp [h.current]
    cases last with
    | query other =>
      obtain rfl : frequency = other := by simpa [Tuning.query?] using hstored
      simp [hcurrent, Tuning.frequency]
    | link other =>
      rw [hcurrent]
      simp [Tuning.frequency, eq_comm]

/-- A link request has the frequency of the last query that was accepted. This is the frequency of
the link exactly if none was set for the link alone since, or the same one. -/
theorem link_frequency_eq_iff (config : SessionConfig) (channel : Channel) (actions : List Action)
    (action : Action) (id : RequestId) (query : LinkQuery) (hown : ∀ a, action ≠ .channel a)
    (hasked : .send id (.link query) ∈ ((start config channel).run actions).1.asks action) :
    let found := tunings ((start config channel).turns (actions ++ [action]))
    let next := ((start config channel).run (actions ++ [action])).1
    (found.filterMap Tuning.query?).getLast? = some query.frequency ∧
      (query.frequency = next.link.params.frequency ↔
        ∀ other, found.getLast? = some (.link other) → other = query.frequency) := by
  intro found next
  have htuned : Tuned config found next := run_tuned config channel (actions ++ [action])
  have hquery : next.query.map (·.frequency) = some query.frequency := by
    have hm := Move.of_step ((start config channel).run actions).1 action
    simp only [next, run_concat]
    exact hm.query_of_asked hown hasked
  exact ⟨by rw [← htuned.stored, hquery], htuned.frequency_eq_iff hquery⟩

/-- The frequency is set for the link alone, and then by a query that repeats the sample. -/
def retunedTwice : List Action :=
  [.updateRequest ⟨1⟩ sampleQuery, .setFrequency 24,
    .updateRequest ⟨2⟩ { sampleQuery with frequency := 24 }]

theorem link_frequency_eq_iff_retunedTwice :
    let found := tunings (sample.turns (retunedTwice ++ [.zoom ⟨3⟩ 0.25 0.5]))
    let next := (sample.run (retunedTwice ++ [.zoom ⟨3⟩ 0.25 0.5])).1
    .send ⟨3⟩ (.link { zoomedQuery with frequency := 24 }) ∈
        (sample.run retunedTwice).1.asks (.zoom ⟨3⟩ 0.25 0.5) ∧
      (found.filterMap Tuning.query?).getLast? = some 24 ∧
      (24 = next.link.params.frequency ↔
        ∀ other, found.getLast? = some (.link other) → other = 24) := by
  intro found next
  have hquery : (sample.run retunedTwice).1.query = some { sampleQuery with frequency := 24 } := by
    decide +kernel
  have hasked : .send ⟨3⟩ (.link { zoomedQuery with frequency := 24 }) ∈
      (sample.run retunedTwice).1.asks (.zoom ⟨3⟩ 0.25 0.5) := by
    rw [asks_zoom hquery]
    exact List.mem_cons_self
  exact ⟨hasked, link_frequency_eq_iff .initial (.start 1000 none) retunedTwice
    (.zoom ⟨3⟩ 0.25 0.5) ⟨3⟩ { zoomedQuery with frequency := 24 } (fun _ h => by cases h) hasked⟩

/-- The zoom after a frequency that is set for the link alone still asks for the old one. -/
theorem link_frequency_outdated :
    ¬ ∀ (config : SessionConfig) (channel : Channel) (actions : List Action) (action : Action)
      (id : RequestId) (query : LinkQuery), (∀ a, action ≠ .channel a) →
      .send id (.link query) ∈ ((start config channel).run actions).1.asks action →
      query.frequency =
        ((start config channel).run (actions ++ [action])).1.link.params.frequency := by
  intro h
  let actions : List Action := [.updateRequest ⟨1⟩ sampleQuery, .setFrequency 24]
  have hquery : (sample.run actions).1.query = some sampleQuery := by decide +kernel
  have hasked : .send ⟨2⟩ (.link zoomedQuery) ∈
      (sample.run actions).1.asks (.zoom ⟨2⟩ 0.25 0.5) := by
    rw [asks_zoom hquery]
    exact List.mem_cons_self
  have hsame : (5 : Float) =
      (sample.run (actions ++ [.zoom ⟨2⟩ 0.25 0.5])).1.link.params.frequency :=
    h .initial (.start 1000 none) actions (.zoom ⟨2⟩ 0.25 0.5) ⟨2⟩ zoomedQuery
      (fun _ h => by cases h) hasked
  exact absurd hsame (by decide +kernel)

end Sightline.Session

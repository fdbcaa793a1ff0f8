import Sightline.Proofs.Coverage.History
import Sightline.Proofs.Session.Handling

/-!
# Coverage of a session

Callers edit the coverage of a session, and so do answers of the backend that carry coverage. Every
step makes the edit read off it or leaves the coverage alone (`Move.coverage_eq`), so the coverage
after any run is what the edits of the run say (`recalls_edits`).
-/

namespace Sightline.Session

open Registry (Edit listing latest? chosen counts)

variable {s next : Session} {action : Action} {events : List SessionEvent}
  {more : List Channel.Action} {history : List Edit}

/-- The edit that a step makes to the coverage, if it makes one. -/
def edit? (s : Session) : Action → Option Edit
  | .setCoverage transmitter set => some (.set transmitter set)
  | .removeTransmitter transmitter => some (.remove transmitter)
  | .selectTransmitters transmitters => some (.select transmitters)
  | .processNext => do
    let event ← s.pending.head?
    let (transmitter, set) ← event.coverage?
    return .set transmitter set
  | _ => none

/-- The edits of a run, the oldest first. -/
def edits (turns : List (Session × Action)) : List Edit :=
  turns.filterMap fun (s, action) => s.edit? action

/-- What a session answers about its coverage is what the history of its edits says. -/
structure Recalls (s : Session) (history : List Edit) : Prop where
  transmitters : s.coverage.transmitters = listing history
  /-- No transmitter is listed twice, and those are listed that have coverage. -/
  once : s.coverage.transmitters.Nodup
  listed : ∀ transmitter,
    transmitter ∈ s.coverage.transmitters ↔ ∃ set, latest? history transmitter = some set
  coverage : ∀ transmitter, s.coverage.find? transmitter = latest? history transmitter
  removed : ∀ transmitter,
    (s.removeTransmitter transmitter).result = .ok (decide (transmitter ∈ listing history))
  selected : s.coverage.selected = chosen history
  view : s.coverage.view =
    .union (((listing history).filter (counts history)).filterMap (latest? history))
  serviceable : ∀ building, s.coverage.view.status building = .serviceable ↔
    ∃ transmitter ∈ listing history, counts history transmitter = true ∧
      ∃ set, latest? history transmitter = some set ∧ set.status building = .serviceable

theorem recalls_of_refines (h : Registry.Refines s.coverage history) : Recalls s history where
  transmitters := h.transmitters
  once := h.transmitters ▸ Registry.nodup_listing history
  listed transmitter := by
    rw [Registry.mem_transmitters_iff, h.coverage, Option.isSome_iff_exists]
  coverage := h.coverage
  removed transmitter := by
    rw [removeTransmitter, ← h.transmitters]
    exact congrArg _ (Registry.contains_eq_decide _ _)
  selected := h.selected
  view := h.view_eq
  serviceable _ := h.status_view_iff

theorem edit?_of_adjusted {params : LinkParameters} (h : s.adjusted? action = some params) :
    s.edit? action = none := by
  cases action with
  | setRadioHeights | setFrequency | setZone => rfl
  | _ => cases h

/-- A step makes its edit, and otherwise leaves the coverage alone. -/
theorem Move.coverage_eq (hm : Move s action next events more) :
    next.coverage = (s.edit? action).elim s.coverage s.coverage.apply := by
  cases hm with
  | @handled event rest hp =>
    rw [handle_fst]
    cases hc : event.coverage? with
    | none => simp [absorb, edit?, hp, hc]
    | some carried => simp [absorb, edit?, hp, hc, Registry.apply]
  | waits hp => simp [edit?, hp]
  | unadjusted ha hf | adjusted ha hf =>
    rw [edit?_of_adjusted ha]
    rfl
  | _ => rfl

theorem edits_concat (turns : List (Session × Action)) (s : Session) (action : Action) :
    edits (turns ++ [(s, action)]) = edits turns ++ (s.edit? action).toList := by
  rw [edits, edits, List.filterMap_append]
  cases h : s.edit? action <;> simp [h]

theorem coverage_eq_replay (config : SessionConfig) (channel : Channel) (actions : List Action) :
    ((start config channel).run actions).1.coverage =
      (edits ((start config channel).turns actions)).foldl Registry.apply .empty := by
  refine turns_induction
    (P := fun turns last _ => last.coverage = (edits turns).foldl Registry.apply .empty)
    rfl ?_ actions
  intro turns last events action h
  rw [(Move.of_step last action).coverage_eq, edits_concat, List.foldl_append, ← h]
  cases last.edit? action <;> rfl

/-- Whatever was set, removed and selected in a run, the session recalls. Its transmitters are
listed once, in the order of their first coverage since they were last removed; each has the
coverage it was given last; a removal tells whether there was any; and what is shown is the union
over the transmitters that are selected, or over all of them when none is. -/
theorem recalls_edits (config : SessionConfig) (channel : Channel) (actions : List Action) :
    Recalls ((start config channel).run actions).1
      (edits ((start config channel).turns actions)) := by
  apply recalls_of_refines
  rw [coverage_eq_replay]
  exact Registry.refines_replay _

end Sightline.Session

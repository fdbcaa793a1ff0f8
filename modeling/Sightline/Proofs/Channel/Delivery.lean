import Mathlib.Data.List.Basic
import Mathlib.Data.List.ModifyLast
import Sightline.Proofs.Channel.Move

/-!
# Delivery of frames

A frame that a caller has sent is taken by a connection, fails to be written, waits in the writer
of the connection, or waits in the queue. `frames_conserved` says that these four places, read in
this order, are always exactly what was sent, in the order of sending: nothing is lost, written
twice or overtaken, over any number of connections. What makes the order right is `Attached`: the
queue is empty as long as the connection is open.
-/

namespace Sightline

/-- Whether the task has a connection. -/
def TaskPhase.isAttached : TaskPhase → Bool
  | .serving | .writing | .leaving _ => true
  | _ => false

namespace Channel

variable {c d : Channel} {action : Action} {effects shown : List Effect}

/-! ### What the connections have taken -/

/-- Adds an effect to what each connection has taken so far, the first connection first. -/
def Effect.record (taken : List (List String)) : Effect → List (List String)
  | .emit .connected => taken ++ [[]]
  | .emit _ => taken
  | .write frame => taken.modifyLast (· ++ [frame])

/-- The frames that each connection has taken, the first connection first. What is written without
a connection counts for none. -/
def takenBy (effects : List Effect) : List (List String) := effects.foldl Effect.record []

theorem takenBy_append_emit_connected (effects : List Effect) :
    takenBy (effects ++ [.emit .connected]) = takenBy effects ++ [[]] := by
  simp [takenBy, Effect.record]

theorem takenBy_append_emit_disconnected (effects : List Effect) :
    takenBy (effects ++ [.emit .disconnected]) = takenBy effects := by
  simp [takenBy, Effect.record]

/-- Messages that are passed on do not count. -/
theorem takenBy_append_routed {c : Channel} {text : String} {found : Option ChannelEvent}
    (h : Routed c text found) (effects : List Effect) :
    takenBy (effects ++ found.toList.map .emit) = takenBy effects := by
  cases h <;> simp [takenBy, Effect.record]

/-- A frame that is written during a connection is the last one that this connection has taken. -/
theorem takenBy_append_write (h : takenBy effects ≠ []) (frame : String) :
    ∃ earlier current, takenBy effects = earlier ++ [current] ∧
      takenBy (effects ++ [.write frame]) = earlier ++ [current ++ [frame]] := by
  obtain ⟨earlier, current, hlast⟩ := (List.eq_nil_or_concat' (takenBy effects)).resolve_left h
  refine ⟨earlier, current, hlast, ?_⟩
  rw [← List.modifyLast_concat (· ++ [frame]), ← hlast]
  simp [takenBy, Effect.record]

/-! ### What was sent and not yet taken -/

/-- The frame whose write has just failed. -/
def failedWrite (c : Channel) : Option String :=
  match c.phase with
  | .leaving failed => failed
  | _ => none

/-- The frames that no connection has taken, in the order in which one would take them. -/
def unwritten (c : Channel) : List String :=
  c.failedWrite.toList ++ c.outbound.getD [] ++ c.queue

theorem submitted_of_isCall_eq_false (h : action.isCall = false) : submitted [action] = [] := by
  cases action <;> first | rfl | cases h

theorem submitted_append (first second : List Action) :
    submitted (first ++ second) = submitted first ++ submitted second := by
  simp [submitted]

/-! ### The writer and the queue -/

/-- A channel has a writer exactly while it is open, which is while its task has a connection; and
then no frame waits in the queue. -/
structure Attached (c : Channel) : Prop where
  isSome_iff : c.outbound.isSome = true ↔ c.phase.isAttached = true
  open_iff : c.state = .open ↔ c.phase.isAttached = true
  queue_eq_nil : c.phase.isAttached = true → c.queue = []

theorem attached_start (delay : Nat) (timeout : Option Nat) : Attached (start delay timeout) := by
  constructor <;> simp [start, TaskPhase.isAttached]

/-- Nothing of this is about the slots. -/
theorem Attached.setSlots (h : Attached c) (slots : Slots) : Attached { c with slots := slots } :=
  ⟨h.isSome_iff, h.open_iff, h.queue_eq_nil⟩

theorem Attached.outbound_eq_none (h : Attached c) (hp : c.phase.isAttached = false) :
    c.outbound = none := by
  have hs := h.isSome_iff
  rw [hp] at hs
  simpa using hs

/-- With a connection a frame goes behind those of the writer, else behind those of the queue. -/
theorem Attached.enqueue_eq (h : Attached c) (frame : String) :
    c.enqueue frame =
      if c.phase.isAttached then { c with outbound := some (c.outbound.getD [] ++ [frame]) }
      else { c with queue := c.queue ++ [frame] } := by
  cases hp : c.phase.isAttached with
  | true =>
    obtain ⟨frames, ho⟩ := Option.isSome_iff_exists.1 (h.isSome_iff.2 hp)
    simp [enqueue, h.open_iff.2 hp, ho]
  | false =>
    have hs : c.state ≠ .open := fun hs => by simp [h.open_iff.1 hs] at hp
    rw [enqueue]
    split
    · next hs' _ => exact absurd hs' hs
    · simp

theorem Attached.enqueue (h : Attached c) (frame : String) : Attached (c.enqueue frame) := by
  rw [h.enqueue_eq]
  split
  · next hp => exact ⟨by simp [hp], h.open_iff, h.queue_eq_nil⟩
  · next hp => exact ⟨h.isSome_iff, h.open_iff, fun hp' => absurd hp' hp⟩

/-- A frame that is sent comes after all that were sent before it. -/
theorem Attached.unwritten_enqueue (h : Attached c) (frame : String) :
    (c.enqueue frame).unwritten = c.unwritten ++ [frame] := by
  rw [h.enqueue_eq]
  split
  · next hp => simp [unwritten, failedWrite, h.queue_eq_nil hp]
  · next hp =>
    have ho := h.outbound_eq_none (by simpa using hp)
    simp [unwritten, failedWrite, ho]

theorem Attached.unwritten_send (h : Attached c) (id : RequestId) (request : Request) :
    (c.send id request).unwritten = c.unwritten ++ [(request.encode id).frame] := by
  have hsent := (h.setSlots
    (c.slots.set request.kind (some ⟨id, (request.encode id).token, c.now⟩))).unwritten_enqueue
      (request.encode id).frame
  simpa [send, unwritten, failedWrite] using hsent

theorem Attached.move (h : Attached c) (hm : Move c action d shown) : Attached d := by
  cases hm with
  | send id request =>
    exact (h.setSlots _).enqueue _
  | cancel | elapse | shutdown | reorder | idle | receive =>
    exact ⟨h.isSome_iff, h.open_iff, h.queue_eq_nil⟩
  | connect => constructor <;> simp [TaskPhase.isAttached]
  | refuse hp =>
    have ho := h.outbound_eq_none (by simp [hp, TaskPhase.isAttached])
    constructor <;> simp [await, ho, TaskPhase.isAttached]
  | beginWrite hp | lose hp =>
    have ha : c.phase.isAttached = true := by simp [hp, TaskPhase.isAttached]
    exact ⟨by simp [h.isSome_iff.2 ha, TaskPhase.isAttached],
      by simp [h.open_iff.2 ha, TaskPhase.isAttached], fun _ => h.queue_eq_nil ha⟩
  | written hp | failed hp =>
    have ha : c.phase.isAttached = true := by simp [hp, TaskPhase.isAttached]
    exact ⟨by simp [TaskPhase.isAttached], by simp [h.open_iff.2 ha, TaskPhase.isAttached],
      fun _ => h.queue_eq_nil ha⟩
  | detach => constructor <;> simp [await, TaskPhase.isAttached]
  | retry hp =>
    have ho := h.outbound_eq_none (by simp [hp, TaskPhase.isAttached])
    constructor <;> simp [ho, TaskPhase.isAttached]
  | stop => constructor <;> simp [TaskPhase.isAttached]

/-! ### Conservation -/

/-- The frames `sent` so far are those that connections have taken and those that wait, in order. -/
structure Conserved (sent : List String) (c : Channel) (effects : List Effect) : Prop where
  attached : Attached c
  takenBy_ne_nil : c.phase.isAttached = true → takenBy effects ≠ []
  frames : (takenBy effects).flatten ++ c.unwritten = sent

theorem conserved_start (delay : Nat) (timeout : Option Nat) :
    Conserved [] (start delay timeout) [] where
  attached := attached_start delay timeout
  takenBy_ne_nil := by simp [start, TaskPhase.isAttached]
  frames := by simp [takenBy, unwritten, failedWrite, start]

/-- The cases that move frames: a sent frame joins the waiting ones, a connection takes over the
queue, a written frame goes from the waiting ones to the taken ones, and a lost connection gives
its frames back to the queue. -/
theorem Conserved.move {sent : List String} (h : Conserved sent c effects)
    (hm : Move c action d shown) :
    Conserved (sent ++ submitted [action]) d (effects ++ shown) := by
  refine ⟨h.attached.move hm, ?_, ?_⟩
  · intro hd
    cases hm with
    | connect => simp [takenBy_append_emit_connected]
    | @written frame rest hp ho =>
      have ha : c.phase.isAttached = true := by simp [hp, TaskPhase.isAttached]
      obtain ⟨earlier, current, -, hnew⟩ := takenBy_append_write (h.takenBy_ne_nil ha) frame
      simp [hnew]
    | receive hp hr =>
      rw [takenBy_append_routed hr]
      exact h.takenBy_ne_nil hd
    | beginWrite hp | failed hp | lose hp =>
      have ha : c.phase.isAttached = true := by simp [hp, TaskPhase.isAttached]
      simpa using h.takenBy_ne_nil ha
    | send => simpa using h.takenBy_ne_nil (by simpa using hd)
    | cancel | elapse | shutdown | reorder | idle => simpa using h.takenBy_ne_nil hd
    | refuse | detach | retry | stop => simp [await, TaskPhase.isAttached] at hd
  · rw [← h.frames]
    cases hm with
    | send id request =>
      rw [h.attached.unwritten_send, List.append_nil, ← List.append_assoc]
      rfl
    | connect hp =>
      have ho := h.attached.outbound_eq_none (by simp [hp, TaskPhase.isAttached])
      rw [takenBy_append_emit_connected]
      simp [submitted, unwritten, failedWrite, hp, ho]
    | @written frame rest hp ho =>
      have ha : c.phase.isAttached = true := by simp [hp, TaskPhase.isAttached]
      obtain ⟨earlier, current, hold, hnew⟩ := takenBy_append_write (h.takenBy_ne_nil ha) frame
      rw [hold, hnew]
      simp [submitted, unwritten, failedWrite, hp, ho]
    | failed hp ho => simp [submitted, unwritten, failedWrite, hp, ho]
    | detach hp =>
      rw [takenBy_append_emit_disconnected]
      simp [submitted, unwritten, failedWrite, await, hp]
    | receive hp hr =>
      rw [takenBy_append_routed hr]
      simp [submitted]
    | stop hp =>
      have ho := h.attached.outbound_eq_none (by
        rcases hp with hp | ⟨deadline, hp⟩ <;> simp [hp, TaskPhase.isAttached])
      rcases hp with hp | ⟨deadline, hp⟩ <;> simp [submitted, unwritten, failedWrite, hp, ho]
    | refuse hp | retry hp | lose hp | beginWrite hp =>
      simp [submitted, unwritten, failedWrite, await, hp]
    | cancel | elapse | shutdown | reorder =>
      simp [submitted, unwritten, failedWrite, cancel, shutdown]
    | idle hi => simp [submitted_of_isCall_eq_false hi]

theorem run_conserved (delay : Nat) (timeout : Option Nat) (actions : List Action) :
    Conserved (submitted actions) ((start delay timeout).run actions).1
      ((start delay timeout).run actions).2 := by
  refine run_induction (P := fun actions => Conserved (submitted actions)) ?_ ?_ actions
  · exact conserved_start delay timeout
  · intro actions action last next effects shown h hm
    rw [submitted_append]
    exact h.move hm

/-- Nothing is lost, duplicated or reordered: what the first, the second, and every further
connection has taken, a frame whose write has just failed, what the writer of the current
connection holds, and the queue are together exactly the frames that were sent, in the order of
sending. There is a writer exactly while the channel is open, and no queue then. -/
theorem frames_conserved (delay : Nat) (timeout : Option Nat) (actions : List Action) :
    let c := ((start delay timeout).run actions).1
    let effects := ((start delay timeout).run actions).2
    (takenBy effects).flatten ++ c.failedWrite.toList ++ c.outbound.getD [] ++ c.queue =
        submitted actions ∧
      (c.outbound.isSome = true ↔ c.state = .open) ∧ (c.state = .open → c.queue = []) := by
  intro c effects
  have h : Conserved (submitted actions) c effects := run_conserved delay timeout actions
  refine ⟨?_, ?_, ?_⟩
  · rw [← h.frames]
    simp [unwritten]
  · rw [h.attached.isSome_iff, h.attached.open_iff]
  · intro hopen
    exact h.attached.queue_eq_nil (h.attached.open_iff.1 hopen)

end Channel

end Sightline

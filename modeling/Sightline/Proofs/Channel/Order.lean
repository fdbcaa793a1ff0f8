import Mathlib.Data.List.Perm.Subperm
import Sightline.Proofs.Channel.Delivery
import Sightline.Proofs.Channel.Dispatch
import Sightline.Proofs.Request.Frame

/-!
# Slots and the order of frames

Many callers share one channel. Each of them draws an identifier and writes its frame on its own;
then it takes the lock, and under it the request gets the slot of its kind and the frame its place
behind all others. So requests may reach the channel in another order than that of their
identifiers, but slots and frames still agree (`slots_agree_with_order`): the slot of a kind belongs
to the last frame of the kind that the backend has seen or will see.
-/

namespace Sightline.Channel

/-! ### Callers -/

/-- A request with its identifier. -/
structure Submission where
  id : RequestId
  request : Request

def Submission.frame (s : Submission) : String := (s.request.encode s.id).frame

/-- What callers and the rest of the world do, in the order of time. -/
inductive Activity
  /-- A caller draws an identifier and writes its frame, without the lock. -/
  | prepare (s : Submission)
  /-- The caller with an index among those that wait takes the lock and sends what it prepared. -/
  | handOver (index : Nat)
  /-- Anything else that happens to the channel, also a send that nothing interrupts. -/
  | act (action : Action)

/-- The actions that a channel meets while callers wait with what they prepared. -/
def met (waiting : List Submission) : List Activity → List Action
  | [] => []
  | .prepare s :: rest => met (s :: waiting) rest
  | .handOver index :: rest =>
    match waiting[index]? with
    | some s => .send s.id s.request :: met (waiting.eraseIdx index) rest
    | none => met waiting rest
  | .act action :: rest => action :: met waiting rest

/-- The identifiers that callers draw. -/
def drawn : List Activity → List RequestId
  | [] => []
  | .prepare s :: rest => s.id :: drawn rest
  | .act (.send id _) :: rest => id :: drawn rest
  | _ :: rest => drawn rest

/-- The requests that actions send. -/
def sends : List Action → List Submission
  | [] => []
  | .send id request :: rest => ⟨id, request⟩ :: sends rest
  | _ :: rest => sends rest

variable {actions : List Action} {kind : RequestKind} {waiting : List Submission}

theorem submitted_eq (actions : List Action) :
    submitted actions = (sends actions).map Submission.frame := by
  induction actions with
  | nil => rfl
  | cons action rest ih =>
    have hcons : submitted (action :: rest) = submitted [action] ++ submitted rest :=
      submitted_append [action] rest
    rw [hcons, ih]
    cases action <;> rfl

/-- Requests reach the channel under identifiers that were drawn, each of them at most once. -/
theorem subperm_drawn (waiting : List Submission) (activities : List Activity) :
    ((sends (met waiting activities)).map Submission.id).Subperm
      (waiting.map Submission.id ++ drawn activities) := by
  induction activities generalizing waiting with
  | nil => exact List.nil_subperm
  | cons activity rest ih =>
    cases activity with
    | prepare s =>
      refine (ih (s :: waiting)).trans (List.Perm.subperm ?_)
      exact List.perm_middle.symm
    | handOver index =>
      cases hs : waiting[index]? with
      | none =>
        simp only [met, hs]
        exact ih waiting
      | some s =>
        -- the request that is sent is the one that no longer waits
        obtain ⟨hindex, rfl⟩ := List.getElem?_eq_some_iff.1 hs
        simp only [met, hs]
        have hperm := (List.getElem_cons_eraseIdx_perm hindex).map Submission.id
        refine List.Subperm.trans ?_ (hperm.append_right (drawn rest)).subperm
        exact (List.subperm_cons _).2 (ih (waiting.eraseIdx index))
    | act action =>
      cases action with
      | send id request =>
        refine List.Subperm.trans ?_ List.perm_middle.symm.subperm
        exact (List.subperm_cons _).2 (ih waiting)
      | _ => exact ih waiting

theorem nodup_sends {activities : List Activity} (h : (drawn activities).Nodup) :
    ((sends (met [] activities)).map Submission.id).Nodup := by
  obtain ⟨ids, hperm, hsub⟩ := subperm_drawn [] activities
  exact hperm.nodup_iff.1 (h.sublist hsub)

/-! ### The last of a kind -/

/-- Of the requests `earlier ++ s :: later`, `s` is the last of a kind, and nothing else is taken
for it: no other carries its identifier. The same holds of frames: none of the later ones reads like
a frame of the kind, and no other frame reads like that of `s`. Only a frame for an access point,
which carries no identifier, may recur: the same access point was then asked for earlier. -/
structure IsLast (kind : RequestKind) (earlier : List Submission) (s : Submission)
    (later : List Submission) : Prop where
  kind_eq : s.request.kind = kind
  last : ∀ t ∈ later, t.request.kind ≠ kind
  once : ∀ t ∈ earlier ++ later, t.id ≠ s.id
  last_frame : ∀ t ∈ later, ∀ u : Submission, u.frame = t.frame → u.request.kind ≠ kind
  once_frame : ∀ t ∈ earlier ++ later, t.frame = s.frame →
    t ∈ earlier ∧ kind = .accessPoint ∧ t.request = s.request

theorem isLast_of_nodup {earlier later : List Submission} {s : Submission}
    (hkind : s.request.kind = kind) (hlast : ∀ t ∈ later, t.request.kind ≠ kind)
    (h : ((earlier ++ s :: later).map Submission.id).Nodup) : IsLast kind earlier s later := by
  have honce : ∀ t ∈ earlier ++ later, t.id ≠ s.id := by
    intro t ht heq
    rw [List.map_append, List.map_cons, List.nodup_middle, List.nodup_cons] at h
    apply h.1
    rw [← List.map_append, ← heq]
    exact List.mem_map_of_mem ht
  refine ⟨hkind, hlast, honce, ?_, ?_⟩
  · intro t ht u hu
    rw [Request.kind_eq_of_frame_eq hu]
    exact hlast t ht
  · intro t ht heq
    have hkind' : t.request.kind = kind := (Request.kind_eq_of_frame_eq heq).trans hkind
    have hearlier : t ∈ earlier :=
      (List.mem_append.1 ht).resolve_right fun hlater => hlast t hlater hkind'
    by_cases hap : kind = .accessPoint
    · exact ⟨hearlier, hap, Request.eq_of_frame_eq (hkind'.trans hap) heq⟩
    · exact absurd (Request.id_eq_of_frame_eq (hkind'.trans_ne hap) heq) (honce t ht)

theorem sends_append (first second : List Action) :
    sends (first ++ second) = sends first ++ sends second := by
  induction first with
  | nil => rfl
  | cons action rest ih => cases action <;> simp [sends, ih]

/-- Actions that leave a kind alone send no request of it. -/
theorem kind_ne_of_mem_sends (h : ∀ action ∈ actions, action.touches kind = false) :
    ∀ t ∈ sends actions, t.request.kind ≠ kind := by
  induction actions with
  | nil => simp [sends]
  | cons action rest ih =>
    obtain ⟨haction, hrest⟩ := List.forall_mem_cons.1 h
    cases action with
    | send id request =>
      rw [sends, List.forall_mem_cons]
      exact ⟨by simpa [Action.touches] using haction, ih hrest⟩
    | _ => exact ih hrest

/-- Whatever callers do on their own, the frames that connections have taken, the one whose write
has just failed, those of the writer and those of the queue are together the frames of the requests
in the order in which these got the lock. A slot, expired or not, is that of the last of these
requests of its kind. -/
theorem slots_agree_with_order (delay : Nat) (timeout : Option Nat) (activities : List Activity)
    (hfresh : (drawn activities).Nodup) :
    let sent := sends (met [] activities)
    let c := ((start delay timeout).run (met [] activities)).1
    let effects := ((start delay timeout).run (met [] activities)).2
    (takenBy effects).flatten ++ c.failedWrite.toList ++ c.outbound.getD [] ++ c.queue =
        sent.map Submission.frame ∧
      ∀ kind slot, c.slots kind = some slot → ∃ earlier s later,
        sent = earlier ++ s :: later ∧ slot.id = s.id ∧
          slot.token = (s.request.encode s.id).token ∧ IsLast kind earlier s later := by
  intro sent c effects
  refine ⟨?_, ?_⟩
  · have h : Conserved (submitted (met [] activities)) c effects :=
      run_conserved delay timeout (met [] activities)
    rw [← submitted_eq, ← h.frames]
    simp [unwritten]
  · intro kind slot hslot
    obtain ⟨request, age, ⟨before, after, hactions, hkind, hafter, -⟩, htoken, -⟩ :=
      (run_slotsAgree delay timeout (met [] activities) kind slot).1 hslot
    have hsent : sent = sends before ++ ⟨slot.id, request⟩ :: sends after := by
      simp only [sent]
      rw [hactions, sends_append, sends]
    refine ⟨sends before, ⟨slot.id, request⟩, sends after, hsent, rfl, htoken, ?_⟩
    apply isLast_of_nodup hkind (kind_ne_of_mem_sends hafter)
    rw [← hsent]
    exact nodup_sends hfresh

/-- Two callers ask for the coverage of an access point each. The one that was second to draw its
identifier is first to get the lock, so its request is superseded. -/
theorem slots_agree_with_order_overtaken :
    let north : Submission := ⟨⟨1⟩, .accessPoint "north"⟩
    let south : Submission := ⟨⟨2⟩, .accessPoint "south"⟩
    let activities : List Activity :=
      [.prepare north, .prepare south, .handOver 0, .act .connect, .handOver 0]
    let c := ((start 0 none).run (met [] activities)).1
    (drawn activities).Nodup ∧ c.slots .accessPoint = some ⟨⟨1⟩, "north", 0⟩ ∧
      ∃ earlier s later, [south, north] = earlier ++ s :: later ∧ s.id = north.id ∧
        IsLast .accessPoint earlier s later := by
  intro north south activities c
  have hfresh : (drawn activities).Nodup := by decide
  have hslot : c.slots .accessPoint = some ⟨⟨1⟩, "north", 0⟩ := rfl
  obtain ⟨-, hslots⟩ := slots_agree_with_order 0 none activities hfresh
  obtain ⟨earlier, s, later, hsent, hid, -, hlast⟩ := hslots .accessPoint _ hslot
  exact ⟨hfresh, hslot, earlier, s, later, hsent, hid.symm, hlast⟩

end Sightline.Channel

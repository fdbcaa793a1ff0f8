import Sightline.Proofs.Channel.Move
import Sightline.Proofs.Lists

/-!
# Dispatch of answers

A request is live after a history of actions if it is the last one of its kind that was sent, its
kind was not cancelled since, and it is not older than the timeout. `Live` says this of the
history alone, without slots. The slots hold exactly that (`slots_eq_some_iff`), so a frame is
passed on as an answer exactly if it carries the token of a live request (`dispatch_iff_live`).
-/

namespace Sightline.Channel

variable {c d : Channel} {action : Action} {actions : List Action} {shown : List Effect}
  {kind : RequestKind} {id : RequestId} {request : Request} {age : Nat}

/-! ### Histories -/

/-- Whether an action replaces or empties the slot of a kind. -/
def Action.touches (kind : RequestKind) : Action → Bool
  | .send _ request => request.kind = kind
  | .cancel k => k = kind
  | _ => false

/-- The time that an action takes. -/
def Action.duration : Action → Nat
  | .elapse ms => ms
  | _ => 0

/-- The time that passes during a history. -/
def elapsed : List Action → Nat
  | [] => 0
  | action :: rest => action.duration + elapsed rest

/-- The last request of a kind that was sent, if the kind was not cancelled since, and the time
that has passed since. -/
def Outstanding (actions : List Action) (kind : RequestKind) (id : RequestId) (request : Request)
    (age : Nat) : Prop :=
  ∃ before after, actions = before ++ .send id request :: after ∧ request.kind = kind ∧
    (∀ action ∈ after, action.touches kind = false) ∧ elapsed after = age

/-- A request that is outstanding and not older than the timeout, if there is one. -/
def Live (timeout : Option Nat) (actions : List Action) (kind : RequestKind) (id : RequestId)
    (request : Request) : Prop :=
  ∃ age, Outstanding actions kind id request age ∧ ∀ limit, timeout = some limit → age ≤ limit

theorem elapsed_append (first second : List Action) :
    elapsed (first ++ second) = elapsed first + elapsed second := by
  induction first with
  | nil => simp [elapsed]
  | cons action rest ih => simp only [List.cons_append, elapsed, ih, Nat.add_assoc]

theorem elapsed_concat (actions : List Action) (action : Action) :
    elapsed (actions ++ [action]) = elapsed actions + action.duration := by
  simp [elapsed_append, elapsed]

theorem not_outstanding_nil : ¬ Outstanding [] kind id request age := by
  rintro ⟨before, after, h, -⟩
  simp at h

/-- One more action: it is the send itself, or it leaves the kind alone and the request ages. -/
theorem outstanding_concat : Outstanding (actions ++ [action]) kind id request age ↔
    (action = .send id request ∧ request.kind = kind ∧ age = 0) ∨
      (action.touches kind = false ∧ ∃ earlier,
        Outstanding actions kind id request earlier ∧ age = earlier + action.duration) := by
  constructor
  · rintro ⟨before, after, h, hkind, hafter, rfl⟩
    rcases concat_eq_append_cons_iff.1 h with ⟨-, rfl, rfl⟩ | ⟨rest, rfl, rfl⟩
    · exact .inl ⟨rfl, hkind, rfl⟩
    · rw [List.forall_mem_append, List.forall_mem_singleton] at hafter
      refine .inr ⟨hafter.2, elapsed rest, ?_, elapsed_concat rest action⟩
      exact ⟨before, rest, rfl, hkind, hafter.1, rfl⟩
  · rintro (⟨rfl, hkind, rfl⟩ | ⟨htouches, earlier, ⟨before, after, rfl, hkind, hafter, rfl⟩, rfl⟩)
    · exact ⟨actions, [], rfl, hkind, by simp, rfl⟩
    · refine ⟨before, after ++ [action], by simp, hkind, ?_, elapsed_concat after action⟩
      rw [List.forall_mem_append, List.forall_mem_singleton]
      exact ⟨hafter, htouches⟩

/-- A request whose kind is left alone stays outstanding and ages. -/
theorem Outstanding.append {more : List Action} (h : Outstanding actions kind id request age)
    (hmore : ∀ action ∈ more, action.touches kind = false) :
    Outstanding (actions ++ more) kind id request (age + elapsed more) := by
  obtain ⟨before, after, rfl, hkind, hafter, rfl⟩ := h
  refine ⟨before, after ++ more, by simp, hkind, ?_, elapsed_append after more⟩
  exact List.forall_mem_append.2 ⟨hafter, hmore⟩

theorem Outstanding.age_le (h : Outstanding actions kind id request age) :
    age ≤ elapsed actions := by
  obtain ⟨before, after, rfl, -, -, rfl⟩ := h
  rw [elapsed_append, elapsed]
  omega

/-! ### Slots and time -/

theorem Move.now_eq (hm : Move c action d shown) : d.now = c.now + action.duration := by
  cases hm with
  | send => simp [Action.duration]
  | idle hi => cases action <;> first | rfl | cases hi
  | _ => rfl

theorem Move.requestTimeout_eq (hm : Move c action d shown) :
    d.requestTimeout = c.requestTimeout := by
  cases hm with
  | send => simp
  | _ => rfl

/-- Only a send and a cancel of a kind change its slot. -/
theorem Move.slots_eq (hm : Move c action d shown) (h : action.touches kind = false) :
    d.slots kind = c.slots kind := by
  cases hm with
  | send id request =>
    have hne : kind ≠ request.kind := fun hk => by simp [Action.touches, hk] at h
    simp [Slots.set_of_ne _ hne]
  | cancel k =>
    have hne : kind ≠ k := fun hk => by simp [Action.touches, hk] at h
    simp [Slots.set_of_ne _ hne]
  | _ => rfl

theorem run_now (delay : Nat) (timeout : Option Nat) (actions : List Action) :
    ((start delay timeout).run actions).1.now = elapsed actions := by
  refine run_induction (P := fun actions c _ => c.now = elapsed actions) rfl ?_ actions
  intro actions action last next effects shown h hm
  rw [hm.now_eq, h, elapsed_concat]

theorem run_requestTimeout (delay : Nat) (timeout : Option Nat) (actions : List Action) :
    ((start delay timeout).run actions).1.requestTimeout = timeout := by
  refine run_induction (P := fun _ c _ => c.requestTimeout = timeout) rfl ?_ actions
  intro actions action last next effects shown h hm
  rw [hm.requestTimeout_eq, h]

/-- The slot of a kind is that of its outstanding request. -/
def SlotsAgree (actions : List Action) (c : Channel) : Prop :=
  ∀ kind slot, c.slots kind = some slot ↔ ∃ request age,
    Outstanding actions kind slot.id request age ∧
      slot.token = (request.encode slot.id).token ∧ slot.issued + age = c.now

/-- The slot of a kind after an action that touches it. -/
theorem Move.slots_of_touches (hm : Move c action d shown) (h : action.touches kind = true) :
    (∃ id request, action = .send id request ∧ request.kind = kind ∧ d.now = c.now ∧
      d.slots kind = some ⟨id, (request.encode id).token, c.now⟩) ∨
    (action = .cancel kind ∧ d.slots kind = none) := by
  cases hm with
  | send id request =>
    obtain rfl : request.kind = kind := by simpa [Action.touches] using h
    exact .inl ⟨id, request, rfl, rfl, by simp, by simp⟩
  | cancel k =>
    obtain rfl : k = kind := by simpa [Action.touches] using h
    exact .inr ⟨rfl, by simp⟩
  | idle hi => cases action <;> simp_all [Action.touches, Action.isCall]
  | _ => simp [Action.touches] at h

theorem SlotsAgree.move (h : SlotsAgree actions c) (hm : Move c action d shown) :
    SlotsAgree (actions ++ [action]) d := by
  intro kind slot
  simp only [outstanding_concat]
  cases ht : action.touches kind with
  | false =>
    rw [hm.slots_eq ht, h kind slot]
    constructor
    · rintro ⟨request, age, ho, htoken, hissued⟩
      exact ⟨request, _, .inr ⟨rfl, age, ho, rfl⟩, htoken, by rw [hm.now_eq]; omega⟩
    · rintro ⟨request, age, ⟨rfl, hkind, -⟩ | ⟨-, earlier, ho, rfl⟩, htoken, hissued⟩
      · simp [Action.touches, hkind] at ht
      · exact ⟨request, earlier, ho, htoken, by rw [hm.now_eq] at hissued; omega⟩
  | true =>
    rcases hm.slots_of_touches ht with ⟨id, sent, rfl, hkind, hnow, hslot⟩ | ⟨rfl, hslot⟩
    · rw [hslot]
      constructor
      · rintro ⟨rfl⟩
        exact ⟨sent, 0, .inl ⟨rfl, hkind, rfl⟩, rfl, by simp [hnow]⟩
      · rintro ⟨request, age, ⟨heq, -, rfl⟩ | ⟨hne, -⟩, htoken, hissued⟩
        · cases heq
          cases slot
          simp_all
        · cases hne
    · simp [hslot]

theorem run_slotsAgree (delay : Nat) (timeout : Option Nat) (actions : List Action) :
    SlotsAgree actions ((start delay timeout).run actions).1 := by
  refine run_induction (P := fun actions c _ => SlotsAgree actions c) ?_ ?_ actions
  · intro kind slot
    simp [start, Slots.empty, not_outstanding_nil]
  · intro actions action last next effects shown h hm
    exact h.move hm

/-! ### Live requests -/

/-- The slot of a kind with an outstanding request is live as long as the request is not older than
the timeout. -/
theorem Outstanding.live?_eq_some_iff (h : Outstanding actions kind id request age) (delay : Nat)
    (timeout : Option Nat) (slot : Slot) :
    let c := ((start delay timeout).run actions).1
    c.slots.live? c.requestTimeout c.now kind = some slot ↔
      slot = ⟨id, (request.encode id).token, elapsed actions - age⟩ ∧
        ∀ limit, timeout = some limit → age ≤ limit := by
  intro c
  have hnow : c.now = elapsed actions := run_now delay timeout actions
  have htimeout : c.requestTimeout = timeout := run_requestTimeout delay timeout actions
  have hle := h.age_le
  have hslot : c.slots kind = some ⟨id, (request.encode id).token, elapsed actions - age⟩ :=
    (run_slotsAgree delay timeout actions kind _).2
      ⟨request, age, h, rfl, by rw [run_now]; dsimp only; omega⟩
  rw [Slots.live?_eq_some_iff, hslot, Option.some.injEq, eq_comm, htimeout, hnow]
  apply and_congr_right
  rintro rfl
  cases timeout with
  | none => simp [Slot.isLive]
  | some limit =>
    simp [Slot.isLive]
    omega

theorem exists_live_iff (delay : Nat) (timeout : Option Nat) (actions : List Action)
    (kind : RequestKind) (id : RequestId) (token : String) :
    let c := ((start delay timeout).run actions).1
    (∃ slot, c.slots.live? c.requestTimeout c.now kind = some slot ∧ slot.token = token ∧
        slot.id = id) ↔
      ∃ request, Live timeout actions kind id request ∧ (request.encode id).token = token := by
  intro c
  constructor
  · rintro ⟨slot, hlive, rfl, rfl⟩
    have hslot := (Slots.live?_eq_some_iff.1 hlive).1
    obtain ⟨request, age, ho, htoken, -⟩ := (run_slotsAgree delay timeout actions kind slot).1 hslot
    obtain ⟨-, hlimit⟩ := (ho.live?_eq_some_iff delay timeout slot).1 hlive
    exact ⟨request, ⟨age, ho, hlimit⟩, htoken.symm⟩
  · rintro ⟨request, ⟨age, ho, hlimit⟩, rfl⟩
    exact ⟨_, (ho.live?_eq_some_iff delay timeout _).2 ⟨rfl, hlimit⟩, rfl, rfl⟩

theorem activeRequest?_eq_some_iff (delay : Nat) (timeout : Option Nat) (actions : List Action)
    (kind : RequestKind) (id : RequestId) :
    ((start delay timeout).run actions).1.activeRequest? kind = some id ↔
      ∃ request, Live timeout actions kind id request := by
  simp only [activeRequest?, Option.map_eq_some_iff]
  constructor
  · rintro ⟨slot, hlive, hid⟩
    obtain ⟨request, h, -⟩ :=
      (exists_live_iff delay timeout actions kind id slot.token).1 ⟨slot, hlive, rfl, hid⟩
    exact ⟨request, h⟩
  · rintro ⟨request, h⟩
    obtain ⟨slot, hlive, -, hid⟩ :=
      (exists_live_iff delay timeout actions kind id (request.encode id).token).2 ⟨request, h, rfl⟩
    exact ⟨slot, hlive, hid⟩

/-- The token that finds a slot is that of a live request. -/
theorem exists_live_of_matched {delay : Nat} {timeout : Option Nat} {token : String}
    (h : let c := ((start delay timeout).run actions).1
      c.slots.withToken? c.order c.requestTimeout c.now token = some (kind, id)) :
    ∃ request, Live timeout actions kind id request ∧ (request.encode id).token = token :=
  (exists_live_iff delay timeout actions kind id token).1 (Slots.exists_live_of_withToken? h)

/-- A token that finds no slot is that of no live request. -/
theorem unmatched_iff (delay : Nat) (timeout : Option Nat) (actions : List Action)
    (token : String) :
    let c := ((start delay timeout).run actions).1
    c.slots.withToken? c.order c.requestTimeout c.now token = none ↔
      ∀ kind id request, Live timeout actions kind id request →
        (request.encode id).token ≠ token := by
  intro c
  rw [Slots.withToken?_eq_none_iff]
  constructor
  · intro h kind id request hlive htoken
    obtain ⟨slot, hslot, hst, -⟩ :=
      (exists_live_iff delay timeout actions kind id token).2 ⟨request, hlive, htoken⟩
    exact h kind slot hslot hst
  · intro h kind slot hslot htoken
    obtain ⟨request, hlive, hrt⟩ :=
      (exists_live_iff delay timeout actions kind slot.id token).1 ⟨slot, hslot, htoken, rfl⟩
    exact h kind slot.id request hlive hrt

/-- A frame with the token of a live request is passed on as the answer to one with this token. -/
theorem exists_route_of_live (delay : Nat) {timeout : Option Nat} {text : String}
    {message : Message} (hlive : Live timeout actions kind id request)
    (hp : Message.parse text = .ok message)
    (ht : message.token? = some (request.encode id).token) :
    ∃ kind' id' request',
      ((start delay timeout).run actions).1.route text = some (.response kind' id' message) ∧
        Live timeout actions kind' id' request' ∧
        (request'.encode id').token = (request.encode id).token := by
  let c := ((start delay timeout).run actions).1
  have hroute : c.route text =
      (c.slots.withToken? c.order c.requestTimeout c.now (request.encode id).token).map
        fun found => .response found.1 found.2 message := by
    simp only [route, hp, ht]
    split <;> simp_all
  cases hs : c.slots.withToken? c.order c.requestTimeout c.now (request.encode id).token with
  | none => exact absurd rfl ((unmatched_iff delay timeout actions _).1 hs kind id request hlive)
  | some found =>
    obtain ⟨request', hlive', htoken'⟩ := exists_live_of_matched hs
    exact ⟨found.1, found.2, request', by rw [hroute, hs]; rfl, hlive', htoken'⟩

theorem step_receive (c : Channel) (text : String) :
    c.step (.receive text) =
      (c, if c.phase = .serving then (c.route text).toList.map .emit else []) := by
  cases hphase : c.phase <;> simp [step, hphase]

/-- Only a frame that was received is passed on as an answer. -/
theorem Move.routed_of_mem_emitted {message : Message} (hm : Move c action d shown)
    (h : .response kind id message ∈ emitted shown) :
    ∃ text, action = .receive text ∧ Routed c text (some (.response kind id message)) := by
  cases hm with
  | @receive text found hp hr =>
    cases found with
    | none => simp [emitted] at h
    | some event =>
      obtain rfl : .response kind id message = event := by simpa [emitted] using h
      exact ⟨text, rfl, hr⟩
  | _ => simp [emitted] at h

/-- A frame is passed on as the answer to a request only if it carries the token of that request
and the request is live; if it carries the token of some live request, it is passed on as the
answer to one with this token. A message without a token is passed on as it is, and no other frame
comes to anything. Routing changes nothing, and the request that the channel calls active is the
live one. -/
theorem dispatch_iff_live (delay : Nat) (timeout : Option Nat) (actions : List Action)
    (text : String) :
    let c := ((start delay timeout).run actions).1
    (∀ kind id message, c.route text = some (.response kind id message) →
      Message.parse text = .ok message ∧ ∃ request, Live timeout actions kind id request ∧
        message.token? = some (request.encode id).token) ∧
    (∀ kind id request message, Live timeout actions kind id request →
      Message.parse text = .ok message → message.token? = some (request.encode id).token →
        ∃ kind' id' request', c.route text = some (.response kind' id' message) ∧
          Live timeout actions kind' id' request' ∧
          (request'.encode id').token = (request.encode id).token) ∧
    (∀ message, c.route text = some (.notification message) ↔
      Message.parse text = .ok message ∧ message.token? = none) ∧
    (c.route text = none ↔ (∃ fault, Message.parse text = .error fault) ∨
      ∃ message token, Message.parse text = .ok message ∧ message.token? = some token ∧
        ∀ kind id request, Live timeout actions kind id request →
          (request.encode id).token ≠ token) ∧
    c.step (.receive text) =
      (c, if c.phase = .serving then (c.route text).toList.map .emit else []) ∧
    ∀ kind id, c.activeRequest? kind = some id ↔
      ∃ request, Live timeout actions kind id request := by
  intro c
  have hr : Routed c text (c.route text) := .of_route c text
  refine ⟨?_, ?_, ?_, ?_, ?_, activeRequest?_eq_some_iff delay timeout actions⟩
  · intro kind id message heq
    rw [heq] at hr
    cases hr with
    | response hp ht hs =>
      obtain ⟨request, hlive, rfl⟩ := exists_live_of_matched hs
      exact ⟨hp, request, hlive, ht⟩
  · intro kind id request message hlive hp ht
    exact exists_route_of_live delay hlive hp ht
  · intro message
    constructor
    · intro heq
      rw [heq] at hr
      cases hr with
      | notification hp ht => exact ⟨hp, ht⟩
    · rintro ⟨hp, ht⟩
      simp [route, hp, ht]
  · constructor
    · intro heq
      rw [heq] at hr
      cases hr with
      | malformed hp => exact .inl ⟨_, hp⟩
      | unmatched hp ht hs =>
        exact .inr ⟨_, _, hp, ht, (unmatched_iff delay timeout actions _).1 hs⟩
    · rintro (⟨fault, hp⟩ | ⟨message, token, hp, ht, hnone⟩)
      · simp [route, hp]
      · have hs : c.slots.withToken? c.order c.requestTimeout c.now token = none :=
          (unmatched_iff delay timeout actions token).2 hnone
        simp [route, hp, ht, hs]
  · cases hphase : c.phase <;> simp [step, hphase]

end Sightline.Channel

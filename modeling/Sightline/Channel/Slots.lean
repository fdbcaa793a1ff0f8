import Sightline.Request.Id
import Sightline.Request.Kind

/-!
# Slots

Each kind of request has one slot for its last request. A slot stops matching answers when its
request is cancelled or replaced, or grows older than the timeout. The slots are searched for a
token in an order that nobody relies on: of several live requests with one token, any may be found.
-/

namespace Sightline

/-- The last request of a kind: its identifier, its token, and when it was issued. -/
structure Slot where
  id : RequestId
  token : String
  issued : Nat
  deriving DecidableEq, Repr

/-- Whether the request is not older than the timeout; without one it never expires. -/
def Slot.isLive (timeout : Option Nat) (now : Nat) (slot : Slot) : Bool :=
  match timeout with
  | some limit => now - slot.issued ≤ limit
  | none => true

/-- The slot of each kind; none after a cancel. -/
abbrev Slots := RequestKind → Option Slot

namespace Slots

/-- No requests. -/
def empty : Slots := fun _ => none

/-- Replaces the slot of a kind. -/
def set (slots : Slots) (kind : RequestKind) (slot : Option Slot) : Slots :=
  fun k => if k = kind then slot else slots k

@[simp] theorem set_same (slots : Slots) (kind : RequestKind) (slot : Option Slot) :
    slots.set kind slot kind = slot := by simp [set]

theorem set_of_ne (slots : Slots) {kind k : RequestKind} (h : k ≠ kind) (slot : Option Slot) :
    slots.set kind slot k = slots k := by simp [set, h]

/-- The live request of a kind. -/
def live? (timeout : Option Nat) (now : Nat) (slots : Slots) (kind : RequestKind) : Option Slot :=
  (slots kind).filter (Slot.isLive timeout now)

theorem live?_eq_some_iff {timeout : Option Nat} {now : Nat} {slots : Slots} {kind : RequestKind}
    {slot : Slot} : slots.live? timeout now kind = some slot ↔
      slots kind = some slot ∧ slot.isLive timeout now = true := by
  simp [live?, Option.filter_eq_some_iff]

/-- An order in which the slots are searched. Every kind has its turn. -/
structure Order where
  kinds : List RequestKind
  complete : ∀ kind, kind ∈ kinds

/-- The order in which the kinds are listed. -/
def Order.listed : Order := ⟨RequestKind.all, RequestKind.mem_all⟩

/-- The live request that carries a token, the first in an order. -/
def withToken? (order : Order) (timeout : Option Nat) (now : Nat) (slots : Slots) (token : String) :
    Option (RequestKind × RequestId) :=
  order.kinds.findSome? fun kind =>
    match slots.live? timeout now kind with
    | some slot => if slot.token = token then some (kind, slot.id) else none
    | none => none

theorem exists_live_of_withToken? {order : Order} {timeout : Option Nat} {now : Nat} {slots : Slots}
    {token : String} {kind : RequestKind} {id : RequestId}
    (h : slots.withToken? order timeout now token = some (kind, id)) :
    ∃ slot, slots.live? timeout now kind = some slot ∧ slot.token = token ∧ slot.id = id := by
  obtain ⟨k, -, hk⟩ := List.exists_of_findSome?_eq_some h
  split at hk
  · next slot hlive =>
    split at hk
    · next htoken =>
      obtain ⟨rfl, rfl⟩ : k = kind ∧ slot.id = id := by simpa using hk
      exact ⟨slot, hlive, htoken, rfl⟩
    · cases hk
  · cases hk

theorem withToken?_eq_none_iff {order : Order} {timeout : Option Nat} {now : Nat} {slots : Slots}
    {token : String} : slots.withToken? order timeout now token = none ↔
      ∀ kind slot, slots.live? timeout now kind = some slot → slot.token ≠ token := by
  simp only [withToken?, List.findSome?_eq_none_iff]
  constructor
  · intro h kind slot hlive htoken
    simpa [hlive, htoken] using h kind (order.complete kind)
  · intro h kind _
    split
    · next slot hlive => simp [h kind slot hlive]
    · rfl

end Slots

end Sightline

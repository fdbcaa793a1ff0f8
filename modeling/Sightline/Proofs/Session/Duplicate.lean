import Sightline.Proofs.Channel.Dispatch
import Sightline.Proofs.Request.Key
import Sightline.Proofs.Session.Move

/-!
# Repeated queries

A query that repeats the last one is not sent again. The key that it has to match is kept by the
session, while the channel keeps the request. `KeyAgrees` ties the two together: as long as a key is
kept, the last link request is for the same link. A zoom replaces that request by one for another
part, and the request expires, and neither drops the key; `skipped_justified_iff` says when a query
that is skipped is really loaded or awaited.
-/

namespace Sightline.Session

variable {s next : Session} {action : Action} {events : List SessionEvent}
  {asked more : List Channel.Action} {id : RequestId} {query : LinkQuery}

/-- A query need not be sent: the terrain of the whole link is known, or the live link request has a
token that begins with the key of the query. -/
def Justified (s : Session) (query : LinkQuery) : Prop :=
  s.link.elevation.isSome = true ∨ ∃ slot rest,
    s.channel.slots.live? s.channel.requestTimeout s.channel.now .link = some slot ∧
      slot.token = query.dedupeKey ++ ":" ++ rest

/-! ### The key and the last link request -/

/-- The last link request, `age` milliseconds ago, was for the link of the stored query. -/
def LastLink (asked : List Channel.Action) (s : Session) (id : RequestId) (latest : LinkQuery)
    (age : Nat) (stored : LinkQuery) : Prop :=
  s.query = some stored ∧ Channel.Outstanding asked .link id (.link latest) age ∧
    latest.SameLink stored

/-- As long as a key is kept, it is that of the stored query, and there is a last link request for
the same link. -/
def KeyAgrees (asked : List Channel.Action) (s : Session) : Prop :=
  ∀ key, s.queryKey = some key →
    ∃ id latest age stored, LastLink asked s id latest age stored ∧ stored.dedupeKey = key

/-- What leaves the requests for links alone leaves the agreement alone. -/
theorem KeyAgrees.of_untouched (h : KeyAgrees asked s)
    (hmore : ∀ action ∈ more, action.touches .link = false) (hquery : next.query = s.query)
    (hkey : next.queryKey = s.queryKey ∨ next.queryKey = none) :
    KeyAgrees (asked ++ more) next := by
  intro key hk
  rcases hkey with hkey | hkey
  · rw [hkey] at hk
    obtain ⟨id, latest, age, stored, ⟨hs, ho, hsame⟩, hd⟩ := h key hk
    exact ⟨id, latest, _, stored, ⟨hquery.trans hs, ho.append hmore, hsame⟩, hd⟩
  · rw [hkey] at hk
    cases hk

/-- Another frequency makes no difference. -/
theorem KeyAgrees.retune (h : KeyAgrees asked s) (frequency : Float) :
    KeyAgrees asked (s.retune frequency) := by
  intro key hk
  obtain ⟨id, latest, age, stored, ⟨hs, ho, hsame⟩, hd⟩ := h key hk
  refine ⟨id, latest, age, { stored with frequency := frequency }, ⟨?_, ho, hsame⟩, hd⟩
  simp [Session.retune, hs]

/-- The cases that matter: a new query is the last link request itself, a zoom is one for another
part of the same link, and a cancelled link drops the key. -/
theorem KeyAgrees.move (h : KeyAgrees asked s) (hm : Move s action next events more)
    (hother : ∀ a, action = .channel a → a.touches .link = false) :
    KeyAgrees (asked ++ more) next := by
  cases hm with
  | requested =>
    rintro key ⟨⟩
    exact ⟨_, _, 0, _, ⟨rfl, Channel.outstanding_concat.2 (.inl ⟨rfl, rfl, rfl⟩), rfl, rfl, rfl⟩,
      rfl⟩
  | @zoomed id start stop aoi query ha hq =>
    intro key hk
    obtain ⟨-, -, -, stored, ⟨hs, -, -⟩, hd⟩ := h key hk
    obtain rfl : query = stored := Option.some.inj (hq.symm.trans hs)
    exact ⟨id, _, 0, query, ⟨hs, Channel.outstanding_concat.2 (.inl ⟨rfl, rfl, rfl⟩),
      rfl, rfl, rfl⟩, hd⟩
  | repeated =>
    rw [List.append_nil]
    exact h.retune _
  | retuned =>
    rw [List.append_nil]
    exact h.retune _
  | cancel kind =>
    by_cases hk : kind = .link
    · subst hk
      rintro key ⟨⟩
    · refine h.of_untouched ?_ rfl (.inl (if_neg hk))
      rintro a ha
      rw [List.mem_singleton.1 ha]
      exact decide_eq_false hk
  | requestAccessPoint id transmitter =>
    exact h.of_untouched (by simp [Channel.Action.touches, Request.kind]) rfl (.inl rfl)
  | request id request =>
    refine h.of_untouched ?_ rfl (.inl rfl)
    rintro a ha
    rw [List.mem_singleton.1 ha]
    exact decide_eq_false (request.kind_ne_link)
  | channel a =>
    refine h.of_untouched ?_ rfl (.inl rfl)
    rintro b hb
    rw [List.mem_singleton.1 hb]
    exact hother a rfl
  | @handled event rest hp =>
    have hh := handled_handle { s with pending := rest } event
    exact h.of_untouched (by simp) hh.query hh.queryKey
  | invalid | misplaced | unadjusted | waits | adjusted | setCoverage | removeTransmitter
  | selectTransmitters => exact h.of_untouched (by simp) rfl (.inl rfl)

theorem run_keyAgrees (config : SessionConfig) (channel : Channel) (actions : List Action)
    (hother : ∀ a, .channel a ∈ actions → a.touches .link = false) :
    KeyAgrees ((start config channel).history actions) ((start config channel).run actions).1 := by
  revert hother
  refine run_induction (P := fun actions asked last _ =>
    (∀ a, .channel a ∈ actions → a.touches .link = false) → KeyAgrees asked last) ?_ ?_ actions
  · rintro - key ⟨⟩
  · intro actions asked action last next events shown more ih hm hother
    refine (ih fun a ha => hother a (by simp [ha])).move hm ?_
    rintro a rfl
    exact hother a (by simp)

/-! ### Skipped queries -/

theorem updateRequest_result_eq_none (h : (s.updateRequest id query).result = .ok none) :
    s.queryKey = some query.dedupeKey := by
  cases hf : (s.tuned query).fault? with
  | some fault =>
    rw [updateRequest_of_invalid hf] at h
    cases h
  | none =>
    by_contra hk
    rw [updateRequest_of_requested hf hk] at h
    cases h

/-- A query that is skipped repeats the stored one, and there is a last link request for the same
link. It is loaded or awaited exactly if the terrain is known, or this request is for the same part
of the link and has not expired. -/
theorem skipped_justified_iff (config : SessionConfig) (delay : Nat) (timeout : Option Nat)
    (actions : List Action) (id : RequestId) (query : LinkQuery)
    (hother : ∀ a, .channel a ∈ actions → a.touches .link = false) :
    let s := ((start config (.start delay timeout)).run actions).1
    let asked := (start config (.start delay timeout)).history actions
    (s.updateRequest id query).result = .ok none →
      ∃ last latest age stored, LastLink asked s last latest age stored ∧
        stored.dedupeKey = query.dedupeKey ∧
        (s.Justified query ↔ s.link.elevation.isSome = true ∨
          (latest.dedupeKey = query.dedupeKey ∧ ∀ limit, timeout = some limit → age ≤ limit)) := by
  intro s asked h
  have hagree : KeyAgrees asked s := run_keyAgrees config _ actions hother
  obtain ⟨last, latest, age, stored, hlast, hd⟩ := hagree _ (updateRequest_result_eq_none h)
  refine ⟨last, latest, age, stored, hlast, hd, or_congr_right ?_⟩
  obtain ⟨-, ho, hsame⟩ := hlast
  have hc : s.channel = ((Channel.start delay timeout).run asked).1 := run_channel _ actions
  rw [hc, ← hd, ← hsame.token_eq_dedupeKey_append_iff last]
  constructor
  · rintro ⟨slot, rest, hslot, htoken⟩
    obtain ⟨rfl, hyoung⟩ := (ho.live?_eq_some_iff delay timeout slot).1 hslot
    exact ⟨⟨rest, htoken⟩, hyoung⟩
  · rintro ⟨⟨rest, htoken⟩, hyoung⟩
    exact ⟨_, rest, (ho.live?_eq_some_iff delay timeout _).2 ⟨rfl, hyoung⟩, htoken⟩

/-- The sample link is zoomed before its terrain has come. -/
def zoomedTooSoon : List Action := [.updateRequest ⟨1⟩ sampleQuery, .zoom ⟨2⟩ 0.25 0.5]

theorem skipped_justified_iff_zoomedTooSoon :
    let s := (sample.run zoomedTooSoon).1
    let asked := sample.history zoomedTooSoon
    (s.updateRequest ⟨3⟩ sampleQuery).result = .ok none ∧
      ∃ last latest age stored, LastLink asked s last latest age stored ∧
        stored.dedupeKey = sampleQuery.dedupeKey ∧
        (s.Justified sampleQuery ↔ s.link.elevation.isSome = true ∨
          (latest.dedupeKey = sampleQuery.dedupeKey ∧
            ∀ limit, (none : Option Nat) = some limit → age ≤ limit)) := by
  intro s asked
  have hskipped : (s.updateRequest ⟨3⟩ sampleQuery).result = .ok none := by decide +kernel
  refine ⟨hskipped, ?_⟩
  exact skipped_justified_iff .initial 1000 none zoomedTooSoon ⟨3⟩ sampleQuery
    (by simp [zoomedTooSoon]) hskipped

/-- The zoom replaces the request of the whole link, and yet the link is not requested again. -/
theorem skipped_not_justified :
    ¬ ∀ (config : SessionConfig) (delay : Nat) (timeout : Option Nat) (actions : List Action)
      (id : RequestId) (query : LinkQuery),
      (∀ a, .channel a ∈ actions → a.touches .link = false) →
      let s := ((start config (.start delay timeout)).run actions).1
      (s.updateRequest id query).result = .ok none → s.Justified query := by
  intro h
  let s := (sample.run zoomedTooSoon).1
  have hskipped : (s.updateRequest ⟨3⟩ sampleQuery).result = .ok none := by decide +kernel
  have hother : ∀ a, .channel a ∈ zoomedTooSoon → a.touches .link = false := by
    simp [zoomedTooSoon]
  have hjustified : s.Justified sampleQuery :=
    h .initial 1000 none zoomedTooSoon ⟨3⟩ sampleQuery hother hskipped
  rcases hjustified with helevation | ⟨slot, rest, hslot, htoken⟩
  · exact absurd helevation (by decide +kernel)
  · let zoomed : LinkQuery := { sampleQuery with aoi := ⟨0.25, 0.5⟩ }
    have hzoomed : s.channel.slots.live? s.channel.requestTimeout s.channel.now .link =
        some ⟨⟨2⟩, (Request.link zoomed).token ⟨2⟩, 0⟩ := by decide +kernel
    obtain rfl := Option.some.inj (hslot.symm.trans hzoomed)
    have hsame : zoomed.SameLink sampleQuery := ⟨rfl, rfl, rfl⟩
    have hkeys : zoomed.dedupeKey = sampleQuery.dedupeKey :=
      (hsame.token_eq_dedupeKey_append_iff ⟨2⟩).1 ⟨rest, htoken⟩
    exact absurd hkeys (by decide +kernel)

end Sightline.Session

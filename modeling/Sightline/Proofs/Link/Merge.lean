import Mathlib.Data.List.Induction
import Sightline.Proofs.Lists
import Sightline.Session.LinkState

/-!
# Link state as a merge of streams

What is known of a link comes from three streams that know nothing of each other: the terrain, the
surface, and the lengths that come with surfaces and summaries. `LinkState.merged` reads the state
off the messages: the last of each stream counts, and a length of the terrain only where no other
is known. Messages taken over one by one come to the same (`foldl_absorb`), so it does not matter
how the terrain and the other messages are interleaved (`SameStreams.merged_eq`).
-/

namespace Sightline

/-! ### Streams -/

namespace ProfileMessage

/-- An answer, or the error in its place. -/
def outcome {α : Type} (error : Option String) (answer : α) : Except String α :=
  match error with
  | some reason => .error reason
  | none => .ok answer

/-- What a message says of the terrain of the whole link. -/
def terrain? : ProfileMessage → Option (Except String TerrainAnswer)
  | .terrain a => if a.isFull then some (outcome a.error a) else none
  | _ => none

/-- What a message says of the surface of the whole link. -/
def surface? : ProfileMessage → Option (Except String LidarAnswer)
  | .lidar a => if a.isFull then some (outcome a.error a) else none
  | _ => none

/-- The length that a surface of the whole link or a summary carries. -/
def length? : ProfileMessage → Option Float
  | .lidar a => if a.isFull && a.error.isNone then a.distance else none
  | .link a => if a.error.isNone then a.distance else none
  | .terrain _ => none

/-- The length that a terrain of the whole link carries. -/
def terrainLength? : ProfileMessage → Option Float
  | .terrain a => if a.isFull && a.error.isNone then a.distance else none
  | _ => none

def isTerrain : ProfileMessage → Bool
  | .terrain _ => true
  | _ => false

variable {message : ProfileMessage}

theorem terrain_eq_none_of_isTerrain_eq_false (h : message.isTerrain = false) :
    message.terrain? = none ∧ message.terrainLength? = none := by
  cases message with
  | terrain a => cases h
  | lidar a | link a => exact ⟨rfl, rfl⟩

theorem others_eq_none_of_isTerrain (h : message.isTerrain = true) :
    message.surface? = none ∧ message.length? = none := by
  cases message with
  | terrain a => exact ⟨rfl, rfl⟩
  | lidar a | link a => cases h

end ProfileMessage

open ProfileMessage

/-- The terrain messages of two lists are the same and in the same order, and so are the others. -/
structure SameStreams (first second : List ProfileMessage) : Prop where
  terrain : first.filter isTerrain = second.filter isTerrain
  others : first.filter (!isTerrain ·) = second.filter (!isTerrain ·)

namespace LinkState

variable {l : LinkState} {messages first second : List ProfileMessage}

/-- What is known of a link after a message. -/
def absorb (l : LinkState) : ProfileMessage → LinkState
  | .terrain a =>
    if a.isFull then
      match a.error with
      | some _ => l.terrainFailed
      | none => l.applyTerrain a
    else l
  | .lidar a =>
    if a.isFull then
      match a.error with
      | some reason => l.lidarFailed reason
      | none => l.applyLidar a
    else l
  | .link a =>
    match a.error, a.distance with
    | none, some distance => l.applyDistance distance
    | _, _ => l

/-- What is known of a link after messages, read off the streams. -/
def merged (l : LinkState) (messages : List ProfileMessage) : LinkState where
  params := l.params
  elevation := match (messages.filterMap terrain?).getLast? with
    | some (.ok a) => some a.elevations
    | some (.error _) => none
    | none => l.elevation
  ends := match (messages.filterMap terrain?).getLast? with
    | some (.ok a) => do return (← a.points.head?, ← a.points.getLast?)
    | some (.error _) => none
    | none => l.ends
  surface := match (messages.filterMap surface?).getLast? with
    | some (.ok a) => .available (Surface.ofPairs a.samples)
    | some (.error reason) => .unavailable reason
    | none => l.surface
  reported := (messages.filterMap length?).getLast?.or
    (l.reported.or (messages.filterMap terrainLength?).head?)
  stillLoading := match (messages.filterMap surface?).getLast? with
    | some (.ok a) => a.stillLoading
    | some (.error _) => false
    | none => l.stillLoading

/-! ### One message more -/

theorem merged_concat (l : LinkState) (messages : List ProfileMessage) (message : ProfileMessage) :
    l.merged (messages ++ [message]) = (l.merged messages).absorb message := by
  simp only [merged, getLast?_filterMap_concat, head?_filterMap_concat]
  cases message with
  | terrain a =>
    cases hfull : a.isFull <;> cases herror : a.error <;>
      simp [absorb, terrain?, surface?, length?, terrainLength?, outcome, hfull, herror,
        applyTerrain, terrainFailed, Option.or_assoc]
  | lidar a =>
    cases hfull : a.isFull <;> cases herror : a.error <;>
      simp [absorb, terrain?, surface?, length?, terrainLength?, outcome, hfull, herror,
        applyLidar, lidarFailed, Option.or_assoc]
  | link a =>
    cases herror : a.error <;> cases hdistance : a.distance <;>
      simp [absorb, terrain?, surface?, length?, terrainLength?, herror, hdistance, applyDistance]

/-- Messages taken over one by one come to the last of each stream. -/
theorem foldl_absorb (l : LinkState) (messages : List ProfileMessage) :
    messages.foldl absorb l = l.merged messages := by
  induction messages using List.reverseRecOn with
  | nil => simp [merged]
  | append_singleton messages message ih =>
    rw [List.foldl_append, ih, merged_concat]
    rfl

theorem absorb_params (l : LinkState) (message : ProfileMessage) :
    (l.absorb message).params = l.params := by
  have h := congrArg LinkState.params (foldl_absorb l [message])
  exact h

end LinkState

/-! ### Messages of a part of the link -/

/-- Whether a message says something of the whole link. A summary does by its length alone. -/
def ProfileMessage.concernsWhole : ProfileMessage → Bool
  | .lidar a => a.isFull
  | .terrain a => a.isFull
  | .link a => a.error.isNone && a.distance.isSome

/-- A message leaves every link state alone exactly if it says nothing of the whole link. -/
theorem LinkState.absorb_eq_self_iff (message : ProfileMessage) :
    (∀ l : LinkState, l.absorb message = l) ↔ message.concernsWhole = false := by
  constructor
  · intro h
    rw [Bool.eq_false_iff]
    intro hwhole
    let unknown : LinkState := .initial ⟨initialHeight, initialHeight, 1, 1⟩
    cases message with
    | terrain a =>
      have hfull : a.isFull = true := hwhole
      cases herror : a.error with
      | none =>
        have hs := congrArg LinkState.elevation (h unknown)
        simp [absorb, hfull, herror, applyTerrain, unknown, initial] at hs
      | some reason =>
        have hs := congrArg LinkState.elevation (h { unknown with elevation := some [] })
        simp [absorb, hfull, herror, terrainFailed] at hs
    | lidar a =>
      have hfull : a.isFull = true := hwhole
      have hs := congrArg LinkState.surface (h unknown)
      cases herror : a.error <;>
        simp [absorb, hfull, herror, applyLidar, lidarFailed, unknown, initial] at hs
    | link a =>
      obtain ⟨herror, hdistance⟩ : a.error = none ∧ a.distance.isSome = true := by
        simpa [ProfileMessage.concernsWhole] using hwhole
      obtain ⟨distance, hdistance⟩ := Option.isSome_iff_exists.1 hdistance
      have hs := congrArg LinkState.reported (h unknown)
      simp [absorb, herror, hdistance, applyDistance, unknown, initial] at hs
  · intro h l
    cases message with
    | terrain a | lidar a => exact if_neg (Bool.eq_false_iff.1 h)
    | link a =>
      cases herror : a.error with
      | some reason => simp [absorb, herror]
      | none =>
        have hdistance : a.distance = none := by
          simpa [ProfileMessage.concernsWhole, herror] using h
        simp [absorb, hdistance]

/-! ### Interleavings -/

/-- The state depends on the streams alone. -/
theorem SameStreams.merged_eq {first second : List ProfileMessage} (h : SameStreams first second)
    (l : LinkState) : l.merged first = l.merged second := by
  have hterrain : first.filterMap terrain? = second.filterMap terrain? :=
    filterMap_eq_of_filter_eq (fun _ hm => (terrain_eq_none_of_isTerrain_eq_false hm).1) h.terrain
  have hterrainLength : first.filterMap terrainLength? = second.filterMap terrainLength? :=
    filterMap_eq_of_filter_eq (fun _ hm => (terrain_eq_none_of_isTerrain_eq_false hm).2) h.terrain
  have hsurface : first.filterMap surface? = second.filterMap surface? :=
    filterMap_eq_of_filter_eq
      (fun _ hm => (others_eq_none_of_isTerrain (Bool.not_eq_eq_eq_not.1 hm)).1) h.others
  have hlength : first.filterMap length? = second.filterMap length? :=
    filterMap_eq_of_filter_eq
      (fun _ hm => (others_eq_none_of_isTerrain (Bool.not_eq_eq_eq_not.1 hm)).2) h.others
  simp only [LinkState.merged, hterrain, hterrainLength, hsurface, hlength]

end Sightline

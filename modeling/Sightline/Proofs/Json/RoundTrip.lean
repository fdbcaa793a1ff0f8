import Sightline.Proofs.Json.Trees

/-!
# Values of printed texts

A text can be read back if the value nests no deeper than a frame may and its numbers can be read
(`Legible.exists_parse?`). Whole numbers of 64 bits and strings are read back as they are, and an
object keeps its names and its strings (`Legible.exists_parse?_obj`).
-/

namespace Sightline.Json

/-! ### Legible values -/

/-- A whole number of at most 64 bits, with a sign or without. -/
def IsWord (n : Int) : Prop := Int64.minValue.toInt ≤ n ∧ n < UInt64.size

mutual

/-- How many arrays and objects are inside each other. -/
def depth : Json → Nat
  | .arr items => itemsDepth items + 1
  | .obj members => membersDepth members + 1
  | _ => 0

def itemsDepth : List Json → Nat
  | [] => 0
  | v :: rest => max v.depth (itemsDepth rest)

def membersDepth : List (String × Json) → Nat
  | [] => 0
  | (_, v) :: rest => max v.depth (membersDepth rest)

end

mutual

/-- The numbers anywhere in a value. -/
def numbers : Json → List Json
  | .int n => [.int n]
  | .float x => [.float x]
  | .arr items => itemNumbers items
  | .obj members => memberNumbers members
  | _ => []

def itemNumbers : List Json → List Json
  | [] => []
  | v :: rest => v.numbers ++ itemNumbers rest

def memberNumbers : List (String × Json) → List Json
  | [] => []
  | (_, v) :: rest => v.numbers ++ memberNumbers rest

end

/-- A number whose text can be read back: a whole number has at most 64 bits, and the text of a
double has a value. -/
def LegibleNumber : Json → Prop
  | .int n => IsWord n
  | .float x => (parse? (Json.float x).text).isSome = true
  | _ => False

/-- A value whose text can be read back: it nests no deeper than a frame may, and so can its
numbers. -/
structure Legible (v : Json) : Prop where
  depth_le : v.depth ≤ nestingLimit
  numbers : ∀ x ∈ v.numbers, x.LegibleNumber

instance : (v : Json) → Decidable v.LegibleNumber
  | .int n => inferInstanceAs (Decidable (Int64.minValue.toInt ≤ n ∧ n < UInt64.size))
  | .float x => inferInstanceAs (Decidable ((parse? (Json.float x).text).isSome = true))
  | .null | .bool _ | .str _ | .arr _ | .obj _ => isFalse id

instance (v : Json) : Decidable v.Legible :=
  decidable_of_iff (v.depth ≤ nestingLimit ∧ ∀ x ∈ v.numbers, x.LegibleNumber)
    ⟨fun h => ⟨h.1, h.2⟩, fun h => ⟨h.depth_le, h.numbers⟩⟩

theorem parse?_text (v : Json) : parse? v.text = v.toTree.value? nestingLimit := by
  simp [parse?, parseWithin?, text, parse?_render]

theorem value?_int {n : Int} (h : IsWord n) (room : Nat) :
    (Json.int n).toTree.value? room = some (.int n) := by
  obtain ⟨hlow, hhigh⟩ := h
  have hmin : Int64.minValue.toInt = -(Int64.minValue.toInt.natAbs : Int) := by decide
  rw [toTree, Tree.value?, Numeral.value?]
  by_cases hn : n < 0
  · have habs : 0 < n.natAbs ∧ n.natAbs ≤ Int64.minValue.toInt.natAbs := by omega
    have hneg : -(n.natAbs : Int) = n := by omega
    rw [if_neg (by simp [hn]), if_pos ⟨rfl, decide_eq_true hn, habs⟩, hneg]
  · have habs : n.natAbs < UInt64.size := by omega
    have hpos : (n.natAbs : Int) = n := by omega
    rw [if_pos ⟨rfl, decide_eq_false hn, habs⟩, hpos]

/-- The text of a double has the same value at any depth. -/
theorem exists_value?_float {x : Float} (h : (Json.float x).LegibleNumber) (room : Nat) :
    ∃ w, (Json.float x).toTree.value? room = some w := by
  obtain ⟨w, hw⟩ := Option.isSome_iff_exists.1 h
  refine ⟨w, ?_⟩
  rw [parse?_text, toTree, numberTree] at hw
  rw [toTree, numberTree, ← hw]
  cases readNumeral (renderFloat x) <;> simp [Tree.value?]

theorem value?_str (s : String) (room : Nat) :
    (Json.str s).toTree.value? room = some (.str s) := by
  simp [toTree, Tree.value?, pieces, joinPieces_chars]

mutual

theorem exists_value? (v : Json) (room : Nat) (hdepth : v.depth ≤ room)
    (hnumbers : ∀ x ∈ v.numbers, x.LegibleNumber) : ∃ w, v.toTree.value? room = some w := by
  match v with
  | .null => exact ⟨.null, rfl⟩
  | .bool b => exact ⟨.bool b, rfl⟩
  | .int n => exact ⟨.int n, value?_int (hnumbers (.int n) List.mem_cons_self) room⟩
  | .float x => exact exists_value?_float (hnumbers (.float x) List.mem_cons_self) room
  | .str s => exact ⟨.str s, value?_str s room⟩
  | .arr items =>
    obtain ⟨room, rfl⟩ : ∃ n, room = n + 1 := ⟨room - 1, by simp only [depth] at hdepth; omega⟩
    obtain ⟨ws, hws⟩ := exists_itemValues? items room (Nat.le_of_succ_le_succ hdepth) hnumbers
    exact ⟨.arr ws, by simp [toTree, Tree.value?, hws]⟩
  | .obj members =>
    obtain ⟨room, rfl⟩ : ∃ n, room = n + 1 := ⟨room - 1, by simp only [depth] at hdepth; omega⟩
    obtain ⟨ws, hws⟩ := exists_memberValues? members room (Nat.le_of_succ_le_succ hdepth) hnumbers
    exact ⟨ofMembers ws, by simp [toTree, Tree.value?, hws]⟩

theorem exists_itemValues? (items : List Json) (room : Nat) (hdepth : itemsDepth items ≤ room)
    (hnumbers : ∀ x ∈ itemNumbers items, x.LegibleNumber) :
    ∃ ws, itemValues? room (itemTrees items) = some ws := by
  match items with
  | [] => exact ⟨[], rfl⟩
  | v :: items =>
    obtain ⟨hv, hitems⟩ := List.forall_mem_append.1 hnumbers
    simp only [itemsDepth, Nat.max_le] at hdepth
    obtain ⟨w, hw⟩ := exists_value? v room hdepth.1 hv
    obtain ⟨ws, hws⟩ := exists_itemValues? items room hdepth.2 hitems
    exact ⟨w :: ws, by simp [itemTrees, itemValues?, hw, hws]⟩

theorem exists_memberValues? (members : List (String × Json)) (room : Nat)
    (hdepth : membersDepth members ≤ room)
    (hnumbers : ∀ x ∈ memberNumbers members, x.LegibleNumber) :
    ∃ ws, memberValues? room (memberTrees members) = some ws := by
  match members with
  | [] => exact ⟨[], rfl⟩
  | (k, v) :: members =>
    obtain ⟨hv, hmembers⟩ := List.forall_mem_append.1 hnumbers
    simp only [membersDepth, Nat.max_le] at hdepth
    obtain ⟨w, hw⟩ := exists_value? v room hdepth.1 hv
    obtain ⟨ws, hws⟩ := exists_memberValues? members room hdepth.2 hmembers
    exact ⟨(k, w) :: ws, by simp [memberTrees, memberValues?, pieces, joinPieces_chars, hw, hws]⟩

end

/-- The text of a legible value has a value. -/
theorem Legible.exists_parse? {v : Json} (h : v.Legible) : ∃ w, parse? v.text = some w := by
  obtain ⟨w, hw⟩ := exists_value? v nestingLimit h.depth_le h.numbers
  exact ⟨w, by rw [parse?_text, hw]⟩

/-! ### Members -/

section

variable {members values : List (String × Json)} {room : Nat}

theorem memberValues?_cons {k : String} {v : Json} :
    memberValues? room (memberTrees ((k, v) :: members)) = some values ↔
      ∃ w ws, v.toTree.value? room = some w ∧ memberValues? room (memberTrees members) = some ws ∧
        (k, w) :: ws = values := by
  simp [memberTrees, memberValues?, pieces, joinPieces_chars, Option.bind_eq_some_iff]

theorem map_fst_of_memberValues? (h : memberValues? room (memberTrees members) = some values) :
    values.map (·.1) = members.map (·.1) := by
  induction members generalizing values with
  | nil =>
    cases h
    rfl
  | cons m members ih =>
    obtain ⟨w, ws, -, hws, rfl⟩ := memberValues?_cons.1 h
    simp [ih hws]

/-- Every member is read under its name. -/
theorem find?_of_memberValues? (h : memberValues? room (memberTrees members) = some values)
    (k : String) : Assoc.find? k values =
      (Assoc.find? k members).bind fun v => v.toTree.value? room := by
  induction members generalizing values with
  | nil =>
    cases h
    rfl
  | cons m members ih =>
    obtain ⟨w, ws, hw, hws, rfl⟩ := memberValues?_cons.1 h
    simp only [Assoc.find?, ih hws]
    split
    · exact hw.symm
    · rfl

end

/-- An object is read back with the same names, and with the same strings under them. -/
theorem Legible.exists_parse?_obj {members : List (String × Json)} (h : (Json.obj members).Legible)
    (hsorted : Assoc.Sorted members) :
    ∃ values, parse? (Json.obj members).text = some (.obj values) ∧
      values.map (·.1) = members.map (·.1) ∧
      ∀ k s, Assoc.find? k members = some (.str s) → Assoc.find? k values = some (.str s) := by
  obtain ⟨room, hroom⟩ : ∃ n, nestingLimit = n + 1 := ⟨126, rfl⟩
  have hdepth : membersDepth members ≤ room := by
    have hle := h.depth_le
    rw [hroom] at hle
    exact Nat.le_of_succ_le_succ hle
  obtain ⟨values, hvalues⟩ := exists_memberValues? members room hdepth h.numbers
  have hnames := map_fst_of_memberValues? hvalues
  refine ⟨values, ?_, hnames, ?_⟩
  · have hsame : Assoc.ofList values = values := (hsorted.of_map_fst hnames).ofList_eq
    rw [parse?_text, hroom, toTree, Tree.value?, hvalues, Option.map_some, ofMembers, hsame]
  · intro k s hk
    rw [find?_of_memberValues? hvalues, hk]
    exact value?_str s room

end Sightline.Json

import Sightline.Proofs.Json.Numerals
import Sightline.Proofs.Json.Strings

/-!
# Trees of printed values

The text of a value is read as a tree of the same shape (`parse?_render`): a numeral for each
number, a literal for each string, and the items and members in their order. A double that is not
finite is read as `null`. The induction is on the value, and what follows its text is arbitrary as
long as it cannot continue a numeral (`readTree_render`).
-/

namespace Sightline.Json

open Text (Halts)

/-! ### Trees -/

/-- A string as it is written. -/
def pieces (s : String) : List Piece := s.toList.map .char

/-- The tree of a number's text; what is no numeral stands for `null`. -/
def numberTree (text : List Char) : Tree := (readNumeral text).elim .null fun r => .numeral r.1

mutual

/-- The tree of the text of a value. -/
def toTree : Json → Tree
  | .null => .null
  | .bool b => .bool b
  | .int n => .numeral ⟨n < 0, n.natAbs, 0, true⟩
  | .float x => numberTree (renderFloat x)
  | .str s => .str (pieces s)
  | .arr items => .arr (itemTrees items)
  | .obj members => .obj (memberTrees members)

def itemTrees : List Json → List Tree
  | [] => []
  | v :: rest => v.toTree :: itemTrees rest

def memberTrees : List (String × Json) → List (List Piece × Tree)
  | [] => []
  | (k, v) :: rest => (pieces k, v.toTree) :: memberTrees rest

end

variable {text rest : List Char} {fuel : Nat}

theorem skipSpace_cons {c : Char} (h : isSpace c = false) : skipSpace (c :: rest) = c :: rest := by
  simp [skipSpace, h]

/-! ### Numbers -/

theorem IsNumeral.exists_cons (h : IsNumeral text) :
    ∃ c cs, text = c :: cs ∧ (c = '-' ∨ c.isDigit = true) := by
  obtain ⟨negative, h⟩ := h
  cases negative with
  | true => exact ⟨'-', _, rfl, .inl rfl⟩
  | false =>
    obtain ⟨c, cs, rfl, hc⟩ := h.exists_cons
    exact ⟨c, cs, rfl, .inr hc⟩

/-- The characters that the reader understands before it looks for a numeral. -/
def otherSigns : List Char := [' ', '\t', '\n', '\r', 'n', 't', 'f', '"', '[', '\x7b']

theorem notMem_otherSigns {c : Char} (hc : c = '-' ∨ c.isDigit = true) : c ∉ otherSigns := by
  have hall : ∀ d ∈ otherSigns, ¬ (d = '-' ∨ d.isDigit = true) := by simp [otherSigns]
  intro hmem
  exact hall c hmem hc

theorem readTree_numeral (h : IsNumeral text) :
    readTree (fuel + 1) (text ++ rest) =
      (readNumeral (text ++ rest)).map fun r => (.numeral r.1, r.2) := by
  obtain ⟨c, cs, rfl, hc⟩ := h.exists_cons
  have hother := notMem_otherSigns hc
  simp only [otherSigns, List.mem_cons, List.not_mem_nil, or_false, not_or] at hother
  obtain ⟨hblank, htab, hnewline, hreturn, hnull, htrue, hfalse, hquote, hbracket, hbrace⟩ := hother
  have hspace : isSpace c = false := by simp [isSpace, hblank, htab, hnewline, hreturn]
  rw [List.cons_append, readTree, skipSpace_cons hspace]
  split <;> simp_all

theorem readTree_renderInt (n : Int) (hrest : Halts numeralSigns rest) :
    readTree (fuel + 1) (renderInt n ++ rest) = some ((Json.int n).toTree, rest) := by
  rw [readTree_numeral (isNumeral_renderInt n), readNumeral_renderInt n hrest]
  rfl

theorem readTree_renderFloat (x : Float) (hrest : Halts numeralSigns rest) :
    readTree (fuel + 1) (renderFloat x ++ rest) = some ((Json.float x).toTree, rest) := by
  rw [toTree]
  rcases isNumeral_renderFloat_or x with h | h
  · obtain ⟨n, hread⟩ := readNumeral_append h
    have hwhole := hread [] Text.halts_nil
    rw [List.append_nil] at hwhole
    rw [readTree_numeral h, hread rest hrest, numberTree, hwhole]
    rfl
  · rw [h]
    rfl

/-! ### Strings -/

theorem length_le_length_flatMap_escape (cs : List Char) :
    cs.length ≤ (cs.flatMap escape).length := by
  induction cs with
  | nil => exact Nat.le_refl 0
  | cons c cs ih =>
    have hescape : 0 < (escape c).length := by
      rcases escape_cases c [] with ⟨hc, -⟩ | ⟨code, hc, -⟩ <;> simp [hc]
    simp only [List.flatMap_cons, List.length_append, List.length_cons]
    omega

/-- The fuel for the text of a string literal is enough for its pieces. -/
theorem readPieces_quote (s : String) (rest : List Char) {fuel : Nat}
    (hfuel : (quote s).length ≤ fuel + 1) :
    ∃ cs, quote s ++ rest = '"' :: cs ∧ readPieces fuel cs = some (pieces s, rest) := by
  refine ⟨s.toList.flatMap escape ++ '"' :: rest, by simp [quote], ?_⟩
  have hlength := length_le_length_flatMap_escape s.toList
  simp only [quote, List.length_cons, List.length_append, List.length_nil] at hfuel
  obtain ⟨spare, rfl⟩ : ∃ spare, fuel = s.toList.length + spare + 1 :=
    ⟨fuel - s.toList.length - 1, by omega⟩
  exact readPieces_chars s.toList spare rest

/-! ### Values -/

/-- The text begins with a character that is neither a space nor a closing bracket. -/
def Begins (text : List Char) : Prop :=
  ∃ c cs, text = c :: cs ∧ isSpace c = false ∧ c ≠ ']' ∧ c ≠ '\x7d'

theorem Begins.append (h : Begins text) (rest : List Char) : Begins (text ++ rest) := by
  obtain ⟨c, cs, rfl, hc⟩ := h
  exact ⟨c, cs ++ rest, rfl, hc⟩

theorem IsNumeral.begins (h : IsNumeral text) : Begins text := by
  obtain ⟨c, cs, rfl, hc⟩ := h.exists_cons
  have hall : ∀ d ∈ [' ', '\t', '\n', '\r', ']', '\x7d'], ¬ (d = '-' ∨ d.isDigit = true) := by
    simp
  have hnot : c ∉ [' ', '\t', '\n', '\r', ']', '\x7d'] := fun hmem => hall c hmem hc
  refine ⟨c, cs, rfl, ?_⟩
  simpa [isSpace, and_assoc] using hnot

theorem begins_render (v : Json) : Begins v.render := by
  cases v with
  | int n => exact (isNumeral_renderInt n).begins
  | float x =>
    rcases isNumeral_renderFloat_or x with h | h
    · exact h.begins
    · exact ⟨'n', _, h, by decide⟩
  | bool b => cases b <;> exact ⟨_, _, rfl, by decide⟩
  | null | str | arr | obj => exact ⟨_, _, rfl, by decide⟩

theorem begins_renderItems {items : List Json} (hne : items ≠ []) :
    Begins (renderItems items) := by
  match items with
  | [] => exact absurd rfl hne
  | [v] => exact v.begins_render
  | v :: w :: items => exact v.begins_render.append (',' :: renderItems (w :: items))

theorem begins_renderMembers {members : List (String × Json)} (hne : members ≠ []) :
    Begins (renderMembers members) := by
  match members with
  | [] => exact absurd rfl hne
  | [_] => exact ⟨_, _, rfl, by decide⟩
  | _ :: _ :: _ => exact ⟨_, _, rfl, by decide⟩

/-! ### Steps of the reader -/

theorem readTree_bracket {trees : List Tree} (htext : Begins text)
    (hitems : readItems fuel text = some (trees, rest)) :
    readTree (fuel + 1) ('[' :: text) = some (.arr trees, rest) := by
  obtain ⟨c, cs, rfl, hspace, hclose, -⟩ := htext
  simp [readTree, skipSpace_cons (c := '[') rfl, skipSpace_cons hspace, hclose, hitems]

theorem readTree_brace {trees : List (List Piece × Tree)} (htext : Begins text)
    (hmembers : readMembers fuel text = some (trees, rest)) :
    readTree (fuel + 1) ('\x7b' :: text) = some (.obj trees, rest) := by
  obtain ⟨c, cs, rfl, hspace, -, hclose⟩ := htext
  simp [readTree, skipSpace_cons (c := '\x7b') rfl, skipSpace_cons hspace, hclose, hmembers]

section

variable {cs more after : List Char} {tree : Tree} {key : List Piece}

theorem readItems_close (hitem : readTree fuel cs = some (tree, ']' :: rest)) :
    readItems (fuel + 1) cs = some ([tree], rest) := by
  simp [readItems, hitem, skipSpace_cons (c := ']') rfl]

theorem readItems_comma {trees : List Tree} (hitem : readTree fuel cs = some (tree, ',' :: more))
    (hitems : readItems fuel more = some (trees, rest)) :
    readItems (fuel + 1) cs = some (tree :: trees, rest) := by
  simp [readItems, hitem, hitems, skipSpace_cons (c := ',') rfl]

theorem readMembers_close (hkey : readPieces fuel cs = some (key, ':' :: more))
    (hvalue : readTree fuel more = some (tree, '\x7d' :: rest)) :
    readMembers (fuel + 1) ('"' :: cs) = some ([(key, tree)], rest) := by
  simp [readMembers, hkey, hvalue, skipSpace_cons, isSpace]

theorem readMembers_comma {trees : List (List Piece × Tree)}
    (hkey : readPieces fuel cs = some (key, ':' :: more))
    (hvalue : readTree fuel more = some (tree, ',' :: after))
    (hmembers : readMembers fuel after = some (trees, rest)) :
    readMembers (fuel + 1) ('"' :: cs) = some ((key, tree) :: trees, rest) := by
  simp [readMembers, hkey, hvalue, hmembers, skipSpace_cons, isSpace]

end

/-! ### The whole text -/

theorem halts_of_separator {c : Char} (hc : c ∈ [',', ']', '\x7d']) :
    Halts numeralSigns (c :: rest) := by
  have hall : ∀ c ∈ [',', ']', '\x7d'], c.isDigit = false ∧ c ∉ numeralSigns := by
    simp [numeralSigns]
  exact Text.halts_cons (hall c hc).1 (hall c hc).2

-- Two units of fuel for a character are enough: an array takes one call for itself and one for each
-- item beside the call for the value, and a bracket or a comma stands for each of them.

mutual

/-- The text of a value is read as its tree, up to what follows it. -/
theorem readTree_render (v : Json) (fuel : Nat) (rest : List Char)
    (hfuel : 2 * v.render.length ≤ fuel) (hrest : Halts numeralSigns rest) :
    readTree fuel (v.render ++ rest) = some (v.toTree, rest) := by
  obtain ⟨c, cs, hcons, -⟩ := v.begins_render
  obtain ⟨fuel, rfl⟩ : ∃ n, fuel = n + 1 :=
    ⟨fuel - 1, by simp only [hcons, List.length_cons] at hfuel; omega⟩
  match v with
  | .null => rfl
  | .bool true => rfl
  | .bool false => rfl
  | .int n => exact readTree_renderInt n hrest
  | .float x => exact readTree_renderFloat x hrest
  | .str s =>
    simp only [render] at hfuel
    obtain ⟨cs, hquote, hread⟩ := readPieces_quote s rest (by omega : _ ≤ fuel + 1)
    rw [render, hquote]
    simp [readTree, skipSpace_cons (c := '"') rfl, hread, toTree]
  | .arr [] => rfl
  | .arr (v :: items) =>
    simp only [render, List.length_cons, List.length_append] at hfuel
    have hread := readItems_render (v :: items) (by simp) fuel rest (by omega)
    have hbegins := begins_renderItems (List.cons_ne_nil v items)
    rw [render, List.cons_append, List.append_assoc]
    exact readTree_bracket (hbegins.append _) hread
  | .obj [] => rfl
  | .obj (m :: members) =>
    simp only [render, List.length_cons, List.length_append] at hfuel
    have hread := readMembers_render (m :: members) (by simp) fuel rest (by omega)
    have hbegins := begins_renderMembers (List.cons_ne_nil m members)
    rw [render, List.cons_append, List.append_assoc]
    exact readTree_brace (hbegins.append _) hread

theorem readItems_render (items : List Json) (hne : items ≠ []) (fuel : Nat) (rest : List Char)
    (hfuel : 2 * (renderItems items).length < fuel) :
    readItems fuel (renderItems items ++ ']' :: rest) = some (itemTrees items, rest) := by
  obtain ⟨fuel, rfl⟩ : ∃ n, fuel = n + 1 := ⟨fuel - 1, by omega⟩
  match items with
  | [] => exact absurd rfl hne
  | [v] =>
    have hv := readTree_render v fuel (']' :: rest) (by simp only [renderItems] at hfuel; omega)
      (halts_of_separator (by decide))
    exact readItems_close hv
  | v :: w :: items =>
    simp only [renderItems, List.length_cons, List.length_append] at hfuel
    have hv := readTree_render v fuel (',' :: (renderItems (w :: items) ++ ']' :: rest)) (by omega)
      (halts_of_separator (by decide))
    have hitems := readItems_render (w :: items) (by simp) fuel rest (by omega)
    simp only [renderItems, List.append_assoc, List.cons_append]
    exact readItems_comma hv hitems

theorem readMembers_render (members : List (String × Json)) (hne : members ≠ []) (fuel : Nat)
    (rest : List Char) (hfuel : 2 * (renderMembers members).length < fuel) :
    readMembers fuel (renderMembers members ++ '\x7d' :: rest) =
      some (memberTrees members, rest) := by
  obtain ⟨fuel, rfl⟩ : ∃ n, fuel = n + 1 := ⟨fuel - 1, by omega⟩
  match members with
  | [] => exact absurd rfl hne
  | [(k, v)] =>
    simp only [renderMembers, List.length_cons, List.length_append] at hfuel
    have hv := readTree_render v fuel ('\x7d' :: rest) (by omega) (halts_of_separator (by decide))
    obtain ⟨cs, hquote, hkey⟩ := readPieces_quote k (':' :: (v.render ++ '\x7d' :: rest))
      (by omega : _ ≤ fuel + 1)
    rw [renderMembers, List.append_assoc, List.cons_append, hquote]
    exact readMembers_close hkey hv
  | (k, v) :: m :: members =>
    simp only [renderMembers, List.length_cons, List.length_append] at hfuel
    have hv := readTree_render v fuel (',' :: (renderMembers (m :: members) ++ '\x7d' :: rest))
      (by omega) (halts_of_separator (by decide))
    have hmembers := readMembers_render (m :: members) (by simp) fuel rest (by omega)
    obtain ⟨cs, hquote, hkey⟩ := readPieces_quote k
      (':' :: (v.render ++ ',' :: (renderMembers (m :: members) ++ '\x7d' :: rest)))
      (by omega : _ ≤ fuel + 1)
    simp only [renderMembers, List.append_assoc, List.cons_append]
    rw [hquote]
    exact readMembers_comma hkey hv hmembers

end

/-- The text of a value is read as its tree. -/
theorem parse?_render (v : Json) : Tree.parse? v.render = some v.toTree := by
  have hread := readTree_render v (2 * v.render.length + 2) [] (Nat.le_add_right _ 2) Text.halts_nil
  rw [List.append_nil] at hread
  rw [Tree.parse?, hread]
  rfl

end Sightline.Json

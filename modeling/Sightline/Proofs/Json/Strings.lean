import Sightline.Json.Printer
import Sightline.Json.Tree

/-!
# Strings of JSON texts

What is printed for a string can be read back (`readPieces_chars`, `joinPieces_chars`), whatever
follows it. So a text that begins with a string literal tells the string (`quote_inj`).
-/

namespace Sightline.Json

variable {s t : String}

/-! ### Characters -/

theorem hexNumber?_hexDigit : ∀ n < 0x20,
    Text.hexNumber? ['0', '0', hexDigit (n / 16), hexDigit n] = some n := by
  decide

/-- A character is written as it is, or after a backslash in a form that can be read back. -/
theorem escape_cases (c : Char) (rest : List Char) :
    (escape c = [c] ∧ c ≠ '"' ∧ c ≠ '\\' ∧ ¬ c.toNat < 0x20) ∨
      ∃ code, escape c = '\\' :: code ∧ readEscape (code ++ rest) = some (.char c, rest) := by
  rw [escape.eq_def]
  split
  case h_8 hquote hslash _ _ _ _ _ =>
    by_cases hcontrol : c.toNat < 0x20
    · have hpiece : ¬ (0xD800 ≤ c.toNat ∧ c.toNat < 0xE000) := by omega
      refine .inr ⟨_, if_pos hcontrol, ?_⟩
      simp [readEscape, hexNumber?_hexDigit _ hcontrol, hpiece, Char.ofNat_toNat]
    · exact .inl ⟨if_neg hcontrol, hquote, hslash, hcontrol⟩
  -- the others have a letter of their own
  all_goals exact .inr ⟨_, rfl, rfl⟩

/-- The reader takes what is written for a character as one piece. -/
theorem readPieces_escape (fuel : Nat) (c : Char) (rest : List Char) :
    readPieces (fuel + 1) (escape c ++ rest) =
      (readPieces fuel rest).map fun read => (.char c :: read.1, read.2) := by
  rcases escape_cases c rest with ⟨hc, hquote, hslash, hcontrol⟩ | ⟨code, hc, hread⟩
  · rw [hc, List.singleton_append, readPieces, if_neg hcontrol]
    · cases readPieces fuel rest <;> rfl
    · exact hquote
    · exact hslash
  · rw [hc, List.cons_append, readPieces, hread]
    cases hrest : readPieces fuel rest <;> simp [hrest]

/-! ### Strings -/

/-- The literal of a string is read to its end. -/
theorem readPieces_chars (cs : List Char) (spare : Nat) (rest : List Char) :
    readPieces (cs.length + spare + 1) (cs.flatMap escape ++ '"' :: rest) =
      some (cs.map .char, rest) := by
  induction cs with
  | nil => simp [readPieces]
  | cons c cs ih =>
    have hfuel : (c :: cs).length + spare + 1 = cs.length + spare + 1 + 1 := by
      simp only [List.length_cons]
      omega
    rw [hfuel, List.flatMap_cons, List.append_assoc, readPieces_escape, ih]
    rfl

theorem joinPieces_chars (cs : List Char) : joinPieces (cs.map .char) = some cs := by
  induction cs with
  | nil => rfl
  | cons c cs ih => simp [joinPieces, ih]

/-- A string literal tells its string and where it ends. -/
theorem quote_inj {front back : List Char} (h : quote s ++ front = quote t ++ back) :
    s = t ∧ front = back := by
  simp only [quote, List.cons_append, List.append_assoc, List.nil_append, List.cons.injEq,
    true_and] at h
  have hs := readPieces_chars s.toList t.toList.length front
  have ht := readPieces_chars t.toList s.toList.length back
  rw [h, Nat.add_comm s.toList.length, ht] at hs
  obtain ⟨hchars, hrest⟩ := Prod.mk.inj (Option.some.inj hs)
  have hlist : t.toList = s.toList := by
    have hjoin := joinPieces_chars t.toList
    rw [hchars, joinPieces_chars] at hjoin
    exact (Option.some.inj hjoin).symm
  exact ⟨String.toList_injective hlist.symm, hrest.symm⟩

end Sightline.Json

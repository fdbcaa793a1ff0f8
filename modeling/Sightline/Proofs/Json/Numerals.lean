import Sightline.Json.Printer
import Sightline.Json.Tree

/-!
# Numerals of JSON texts

The text printed for a whole number or a finite double is a numeral of the grammar (`IsNumeral`):
its integer part has no zero in front, and its fraction and exponent have digits. The reader takes
such a text to its end, whatever follows it that could not continue a numeral
(`readNumeral_append`). A whole number is read back as itself (`readNumeral_renderInt`).
-/

namespace Sightline

/-! ### Digits -/

namespace Text

/-- The text begins neither with a digit nor with one of the given signs. -/
def Halts (signs text : List Char) : Prop := ∀ c ∈ text.head?, c.isDigit = false ∧ c ∉ signs

/-- One or more digits. -/
def IsDigits (text : List Char) : Prop := text ≠ [] ∧ ∀ c ∈ text, c.isDigit = true

variable {digits rest signs fewer : List Char}

theorem Halts.mono (h : Halts signs rest) (hsub : fewer ⊆ signs) : Halts fewer rest :=
  fun c hc => ⟨(h c hc).1, mt (@hsub c) (h c hc).2⟩

theorem halts_nil : Halts signs [] := by simp [Halts]

theorem halts_cons {c : Char} (hdigit : c.isDigit = false) (hsign : c ∉ signs) :
    Halts signs (c :: rest) := by
  simp [Halts, hdigit, hsign]

theorem spanDigits_append (h : ∀ c ∈ digits, c.isDigit = true) (hrest : Halts signs rest) :
    spanDigits (digits ++ rest) = (digits, rest) := by
  rw [spanDigits, List.takeWhile_append_of_pos h, List.dropWhile_append_of_pos h]
  cases rest with
  | nil => simp
  | cons c rest => simp [(hrest c rfl).1]

theorem decimalValue_toDigits (n : Nat) : decimalValue (Nat.toDigits 10 n) = n := by
  rw [decimalValue, ← Nat.ofDigitChars_eq_foldl, Nat.ofDigitChars_ten_toDigits]

theorem isDigits_toDigits (n : Nat) : IsDigits (Nat.toDigits 10 n) :=
  ⟨Nat.toDigits_ne_nil, fun _ => Nat.isDigit_of_mem_toDigits (by decide) (by decide)⟩

/-- Only the digits of zero begin with a zero. -/
theorem head?_toDigits_ne {n : Nat} (h : 0 < n) : (Nat.toDigits 10 n).head? ≠ some '0' := by
  induction n using Nat.base_induction 10 (by decide) with
  | single n hn =>
    have hdigit : ∀ n < 10, 0 < n → [Nat.digitChar n].head? ≠ some '0' := by decide
    rw [Nat.toDigits_of_lt_base hn]
    exact hdigit n hn h
  | digit n k hk hn ih =>
    obtain ⟨c, cs, hcs⟩ := List.exists_cons_of_ne_nil (Nat.toDigits_ne_nil (n := n) (b := 10))
    rw [← Nat.toDigits_append_toDigits (by decide) hn hk, hcs]
    simpa [hcs] using ih hn

end Text

/-! ### The grammar -/

namespace Json

open Text (Halts IsDigits)

/-- A zero alone, or digits that start with another one. -/
def IsInteger (text : List Char) : Prop := text = ['0'] ∨ IsDigits text ∧ text.head? ≠ some '0'

/-- Nothing, or a point and digits. -/
inductive IsFraction : List Char → Prop
  | absent : IsFraction []
  | places {digits : List Char} (h : IsDigits digits) : IsFraction ('.' :: digits)

/-- Nothing, or a sign and digits after the letter of an exponent. -/
inductive IsPower : List Char → Prop
  | absent : IsPower []
  | minus {digits : List Char} (h : IsDigits digits) : IsPower ('e' :: '-' :: digits)
  | plus {digits : List Char} (h : IsDigits digits) : IsPower ('e' :: '+' :: digits)

/-- A numeral without its sign. -/
inductive IsSize : List Char → Prop
  | mk {integer fraction power : List Char} (hinteger : IsInteger integer)
      (hfraction : IsFraction fraction) (hpower : IsPower power) :
      IsSize (integer ++ (fraction ++ power))

/-- A numeral. -/
inductive IsNumeral : List Char → Prop
  | mk {size : List Char} (negative : Bool) (h : IsSize size) :
      IsNumeral (Decimal.signed negative size)

/-- What cannot continue a numeral. -/
def numeralSigns : List Char := ['.', 'e', 'E']

variable {text rest : List Char}

theorem IsInteger.exists_cons (h : IsInteger text) :
    ∃ c cs, text = c :: cs ∧ c.isDigit = true := by
  rcases h with rfl | ⟨⟨hne, hall⟩, -⟩
  · exact ⟨'0', [], rfl, rfl⟩
  · obtain ⟨c, cs, rfl⟩ := List.exists_cons_of_ne_nil hne
    exact ⟨c, cs, rfl, hall c List.mem_cons_self⟩

theorem IsSize.exists_cons (h : IsSize text) : ∃ c cs, text = c :: cs ∧ c.isDigit = true := by
  obtain ⟨hinteger, -, -⟩ := h
  obtain ⟨c, cs, rfl, hc⟩ := hinteger.exists_cons
  exact ⟨c, _, rfl, hc⟩

theorem isInteger_zero : IsInteger ['0'] := .inl rfl

theorem isInteger_toDigits (n : Nat) : IsInteger (Nat.toDigits 10 n) := by
  rcases Nat.eq_zero_or_pos n with rfl | h
  · exact isInteger_zero
  · exact .inr ⟨Text.isDigits_toDigits n, Text.head?_toDigits_ne h⟩

/-- The characters of numerals that are no digits. -/
def numeralMarks : List Char := ['-', '+', '.', 'e']

theorem IsInteger.isDigit_of_mem (h : IsInteger text) {c : Char} (hc : c ∈ text) :
    c.isDigit = true := by
  rcases h with rfl | ⟨⟨-, hall⟩, -⟩
  · rw [List.mem_singleton.1 hc]
    rfl
  · exact hall c hc

theorem IsFraction.mem (h : IsFraction text) {c : Char} (hc : c ∈ text) :
    c.isDigit = true ∨ c ∈ numeralMarks := by
  cases h with
  | absent => cases hc
  | places h =>
    rcases List.mem_cons.1 hc with rfl | hc
    · exact .inr (by decide)
    · exact .inl (h.2 c hc)

theorem IsPower.mem (h : IsPower text) {c : Char} (hc : c ∈ text) :
    c.isDigit = true ∨ c ∈ numeralMarks := by
  cases h with
  | absent => cases hc
  | minus h | plus h =>
    simp only [List.mem_cons] at hc
    rcases hc with rfl | rfl | hc
    · exact .inr (by decide)
    · exact .inr (by decide)
    · exact .inl (h.2 c hc)

/-- A numeral has digits and a few marks. -/
theorem IsNumeral.mem (h : IsNumeral text) {c : Char} (hc : c ∈ text) :
    c.isDigit = true ∨ c ∈ numeralMarks := by
  obtain ⟨negative, hinteger, hfraction, hpower⟩ := h
  rcases Decimal.mem_signed hc with rfl | hc
  · exact .inr (by decide)
  · simp only [List.mem_append] at hc
    rcases hc with hc | hc | hc
    · exact .inl (hinteger.isDigit_of_mem hc)
    · exact hfraction.mem hc
    · exact hpower.mem hc

/-! ### Reading -/

theorem readInteger_append (h : IsInteger text) (hrest : Halts [] rest) :
    readInteger (text ++ rest) = some (text, rest) := by
  rcases h with rfl | ⟨⟨hne, hall⟩, hhead⟩
  · rfl
  · obtain ⟨c, cs, rfl⟩ := List.exists_cons_of_ne_nil hne
    have hc : c ≠ '0' := by simpa using hhead
    rw [readInteger, Text.spanDigits_append hall hrest]
    rintro _ heq
    exact hc (List.cons.inj heq).1

theorem readFraction_of_halts (hrest : Halts ['.'] rest) :
    readFraction rest = some (none, rest) := by
  rw [readFraction]
  rintro cs rfl
  simpa using (hrest '.' rfl).2

theorem readFraction_append (h : IsFraction text) : ∃ fraction, ∀ rest, Halts ['.'] rest →
    readFraction (text ++ rest) = some (fraction, rest) := by
  cases h with
  | absent => exact ⟨none, fun rest => readFraction_of_halts⟩
  | @places digits h =>
    refine ⟨some digits, fun rest hrest => ?_⟩
    obtain ⟨c, cs, rfl⟩ := List.exists_cons_of_ne_nil h.1
    rw [List.cons_append, readFraction, Text.spanDigits_append h.2 hrest]

theorem readExponent_of_halts (hrest : Halts ['e', 'E'] rest) :
    readExponent rest = some (none, rest) := by
  cases rest with
  | nil => rfl
  | cons c rest =>
    have hc : ¬ (c = 'e' ∨ c = 'E') := by simpa using (hrest c rfl).2
    simp only [readExponent, if_neg hc]

theorem readPower_append {digits : List Char} (h : IsDigits digits) (negative : Bool) :
    ∃ power, ∀ rest, Halts ['e', 'E'] rest →
      readPower negative (digits ++ rest) = some (power, rest) := by
  refine ⟨some (if negative then -Text.decimalValue digits else Text.decimalValue digits),
    fun rest hrest => ?_⟩
  rw [readPower, Text.spanDigits_append h.2 hrest]
  obtain ⟨c, cs, rfl⟩ := List.exists_cons_of_ne_nil h.1
  rfl

theorem readExponent_append (h : IsPower text) : ∃ power, ∀ rest, Halts ['e', 'E'] rest →
    readExponent (text ++ rest) = some (power, rest) := by
  cases h with
  | absent => exact ⟨none, fun rest => readExponent_of_halts⟩
  | minus h => exact readPower_append h true
  | plus h => exact readPower_append h false

theorem IsPower.halts_append (h : IsPower text) (hrest : Halts numeralSigns rest) :
    Halts ['.'] (text ++ rest) := by
  cases h with
  | absent => exact hrest.mono (by decide)
  | minus | plus => exact Text.halts_cons rfl (by decide)

theorem IsFraction.halts_append (h : IsFraction text) (hrest : Halts ['.'] rest) :
    Halts [] (text ++ rest) := by
  cases h with
  | absent => exact hrest.mono (by decide)
  | places => exact Text.halts_cons rfl (by decide)

theorem readSize_append (h : IsSize text) (negative : Bool) :
    ∃ n, ∀ rest, Halts numeralSigns rest → readSize negative (text ++ rest) = some (n, rest) := by
  obtain @⟨integer, _, _, hinteger, hfraction, hpower⟩ := h
  obtain ⟨fraction, hreadFraction⟩ := readFraction_append hfraction
  obtain ⟨power, hreadPower⟩ := readExponent_append hpower
  refine ⟨⟨negative, Text.decimalValue (integer ++ fraction.getD []),
    power.getD 0 - (fraction.getD []).length, fraction.isNone && power.isNone⟩,
    fun rest hrest => ?_⟩
  have hafter := hpower.halts_append hrest
  have hreadInteger := readInteger_append hinteger (hfraction.halts_append hafter)
  have hreadRest := hreadPower rest (hrest.mono (by decide))
  simp only [readSize, List.append_assoc, hreadInteger, hreadFraction _ hafter, hreadRest,
    Option.bind_eq_bind, Option.bind_some, Option.pure_def]

theorem readNumeral_signed (h : IsSize text) (negative : Bool) :
    readNumeral (Decimal.signed negative text ++ rest) = readSize negative (text ++ rest) := by
  cases negative with
  | true => rfl
  | false =>
    -- a digit is no sign
    obtain ⟨c, cs, rfl, hc⟩ := h.exists_cons
    rw [Decimal.signed, if_neg Bool.false_ne_true, List.cons_append, readNumeral]
    rintro _ heq
    rw [(List.cons.inj heq).1] at hc
    cases hc

/-- The reader takes a numeral to its end. -/
theorem readNumeral_append (h : IsNumeral text) :
    ∃ n, ∀ rest, Halts numeralSigns rest → readNumeral (text ++ rest) = some (n, rest) := by
  obtain ⟨negative, h⟩ := h
  obtain ⟨n, hread⟩ := readSize_append h negative
  refine ⟨n, fun rest hrest => ?_⟩
  rw [readNumeral_signed h, hread rest hrest]

/-! ### Whole numbers -/

theorem isSize_toDigits (n : Nat) : IsSize (Nat.toDigits 10 n) := by
  simpa using IsSize.mk (isInteger_toDigits n) .absent .absent

theorem isNumeral_renderInt (n : Int) : IsNumeral (renderInt n) := ⟨_, isSize_toDigits _⟩

/-- A whole number is read back with its sign and its size. -/
theorem readNumeral_renderInt (n : Int) (hrest : Halts numeralSigns rest) :
    readNumeral (renderInt n ++ rest) = some (⟨n < 0, n.natAbs, 0, true⟩, rest) := by
  have hinteger := readInteger_append (isInteger_toDigits n.natAbs) (hrest.mono (by decide))
  have hfraction := readFraction_of_halts (hrest.mono (by decide))
  have hpower := readExponent_of_halts (hrest.mono (by decide))
  rw [renderInt, readNumeral_signed (isSize_toDigits _), readSize, hinteger]
  simp [hfraction, hpower, Text.decimalValue_toDigits]

end Json

/-! ### Doubles -/

namespace Decimal

variable {b : Binary} {k : Int} {tie : Tie}

namespace Binary

/-- Zero is not in the interval of a positive number. -/
theorem contains_zero (h : 0 < b.mantissa) : b.contains k 0 = false := by
  have hquarters : 0 < 4 * b.mantissa - b.reach.1 := by
    have hreach : b.reach.1 ≤ 2 := by
      rw [reach]
      split <;> decide
    omega
  have hlow : 0 < b.scaled k (4 * b.mantissa - b.reach.1) :=
    Nat.mul_pos (Nat.mul_pos hquarters (Nat.pow_pos (by decide))) (Nat.pow_pos (by decide))
  rw [contains]
  split
  · simp
    omega
  · simp

theorem pos_of_contains (h : 0 < b.mantissa) {c : Nat} (hc : b.contains k c = true) : 0 < c := by
  rw [Nat.pos_iff_ne_zero]
  rintro rfl
  rw [contains_zero h] at hc
  cases hc

theorem significand_pos_of_onGrid (h : 0 < b.mantissa) {digits : Digits}
    (hgrid : b.onGrid tie k = some digits) : 0 < digits.significand := by
  simp only [onGrid] at hgrid
  split at hgrid
  · cases hgrid
  · next hbelow _ =>
    cases hgrid
    exact pos_of_contains h hbelow
  · cases hgrid
    exact Nat.succ_pos _
  · next hbelow _ =>
    have hpos := pos_of_contains h hbelow
    cases hgrid
    have hneighbours (up : Bool) {n : Nat} (hn : 0 < n) : 0 < if up then n + 1 else n := by
      cases up
      · exact hn
      · exact Nat.succ_pos n
    exact hneighbours _ hpos

theorem exact_significand_pos (h : 0 < b.mantissa) : 0 < b.exact.significand := by
  rw [exact]
  split <;> exact Nat.mul_pos h (Nat.pow_pos (by decide))

theorem shortest_significand_pos (h : 0 < b.mantissa) (tie : Tie) :
    0 < (b.shortest tie).significand := by
  rw [shortest]
  cases hgrids : (List.range 21).findSome? fun (i : Nat) => b.onGrid tie (b.coarsest - i) with
  | none => exact exact_significand_pos h
  | some digits =>
    obtain ⟨i, -, hgrid⟩ := List.exists_of_findSome?_eq_some hgrids
    exact significand_pos_of_onGrid h hgrid

end Binary

open Json (IsInteger IsSize isInteger_zero)
open Text (IsDigits)

variable {digits integer places : List Char}

theorem isDigits_append {more : List Char} (h : IsDigits digits)
    (hmore : ∀ c ∈ more, c.isDigit = true) : IsDigits (digits ++ more) := by
  refine ⟨by simp [h.1], fun c hc => ?_⟩
  rcases List.mem_append.1 hc with hc | hc
  · exact h.2 c hc
  · exact hmore c hc

theorem isDigit_of_mem_replicate {n : Nat} : ∀ c ∈ List.replicate n '0', c.isDigit = true := by
  intro c hc
  rw [(List.mem_replicate.1 hc).2]
  rfl

theorem isSize_places (hinteger : IsInteger integer) (hplaces : IsDigits places) :
    IsSize (integer ++ '.' :: places) := by
  simpa using IsSize.mk hinteger (.places hplaces) .absent

theorem isSize_pointed (hdigits : IsDigits digits) (hhead : digits.head? ≠ some '0')
    (point : Int) : IsSize (pointed digits point ['.', '0']) := by
  rw [pointed]
  split
  · refine isSize_places isInteger_zero ⟨by simp [hdigits.1], fun c hc => ?_⟩
    rcases List.mem_append.1 hc with hc | hc
    · exact isDigit_of_mem_replicate c hc
    · exact hdigits.2 c hc
  · next hpoint =>
    have hfront : point.toNat ≠ 0 := by omega
    split
    · have hinteger := isDigits_append hdigits
        (isDigit_of_mem_replicate (n := point.toNat - digits.length))
      refine isSize_places (.inr ⟨hinteger, ?_⟩) ⟨by simp, by simp⟩
      simpa [List.head?_eq_some_head hdigits.1] using hhead
    · next hlength =>
      have hinteger : IsDigits (digits.take point.toNat) :=
        ⟨mt List.take_eq_nil_iff.1 (not_or.2 ⟨hfront, hdigits.1⟩),
          fun c hc => hdigits.2 c (List.mem_of_mem_take hc)⟩
      have hplaces : IsDigits (digits.drop point.toNat) :=
        ⟨mt List.drop_eq_nil_iff.1 hlength, fun c hc => hdigits.2 c (List.mem_of_mem_drop hc)⟩
      refine isSize_places (.inr ⟨hinteger, ?_⟩) hplaces
      rwa [List.head?_take, if_neg hfront]

theorem isSize_powered (hdigits : IsDigits digits) (hhead : digits.head? ≠ some '0')
    (point : Int) : IsSize (powered digits point) := by
  have hpower : Json.IsPower ('e' :: (if point - 1 < 0 then '-' else '+') ::
      Nat.toDigits 10 (point - 1).natAbs) := by
    split
    · exact .minus (Text.isDigits_toDigits _)
    · exact .plus (Text.isDigits_toDigits _)
  obtain ⟨c, cs, rfl⟩ := List.exists_cons_of_ne_nil hdigits.1
  have hfirst : IsInteger [c] :=
    .inr ⟨⟨by simp, by simpa using hdigits.2 c List.mem_cons_self⟩, hhead⟩
  cases cs with
  | nil => exact .mk hfirst .absent hpower
  | cons d cs =>
    have hrest : IsDigits (d :: cs) :=
      ⟨by simp, fun x hx => hdigits.2 x (List.mem_cons_of_mem c hx)⟩
    exact .mk hfirst (.places hrest) hpower

theorem isSize_size (b : Binary) : IsSize (Layout.json.size b) := by
  rw [Layout.size]
  split
  · exact isSize_places isInteger_zero ⟨by simp, by simp⟩
  · next hmantissa =>
    have hpos := b.shortest_significand_pos (Nat.pos_of_ne_zero hmantissa) .toEven
    have hdigits := Text.isDigits_toDigits (b.shortest .toEven).significand
    have hhead := Text.head?_toDigits_ne hpos
    dsimp only [Layout.json]
    split
    · exact isSize_pointed hdigits hhead _
    · exact isSize_powered hdigits hhead _

end Decimal

/-- The text of a double is a numeral, or `null` if the double is not finite. -/
theorem Json.isNumeral_renderFloat_or (x : Float) :
    IsNumeral (renderFloat x) ∨ renderFloat x = "null".toList := by
  rw [renderFloat, Decimal.json?]
  split
  · exact .inl ⟨_, Decimal.isSize_size _⟩
  · exact .inr rfl

end Sightline

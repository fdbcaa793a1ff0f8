import Mathlib
import Sightline.Proofs.Decimal.Shortest
import Sightline.Proofs.Json.Numerals
import Sightline.Proofs.Request.Key

/-!
# Plain texts tell doubles

A plain text without its sign stands for the shortest decimal, which is rounded to the size of the
double, so the text tells the size (`size_plain_inj`). With the sign it tells the double
(`plain_inj`), the sign of zero included.
-/

namespace Sightline.Decimal

open Float.Model

/-! ### The number of a text -/

section

variable {digits integer places : List Char}

theorem decimalValue_eq (digits : List Char) :
    Text.decimalValue digits = Nat.ofDigitChars 10 digits 0 := by
  rw [Text.decimalValue, ← Nat.ofDigitChars_eq_foldl]

theorem decimalValue_zeros_append (n : Nat) (digits : List Char) :
    Text.decimalValue (List.replicate n '0' ++ digits) = Text.decimalValue digits := by
  rw [decimalValue_eq, decimalValue_eq, Nat.ofDigitChars_append, Nat.ofDigitChars_replicate_zero,
    Nat.mul_zero]

theorem decimalValue_append_zeros (digits : List Char) (n : Nat) :
    Text.decimalValue (digits ++ List.replicate n '0') = Text.decimalValue digits * 10 ^ n := by
  rw [decimalValue_eq, decimalValue_eq, Nat.ofDigitChars_append, Nat.ofDigitChars_replicate_zero,
    Nat.mul_comm]

/-- The number that digits with at most one point stand for. -/
def pointedValue (text : List Char) : ℚ :=
  let integer := text.takeWhile (· != '.')
  let places := text.drop (integer.length + 1)
  Text.decimalValue (integer ++ places) * 10 ^ (-places.length : Int)

theorem pointedValue_of_notMem (h : '.' ∉ digits) :
    pointedValue digits = Text.decimalValue digits := by
  have hinteger : digits.takeWhile (· != '.') = digits :=
    List.takeWhile_eq_self_iff.2 fun c hc => bne_iff_ne.2 (ne_of_mem_of_not_mem hc h)
  have hplaces : digits.drop (digits.length + 1) = [] := List.drop_eq_nil_of_le (by omega)
  simp [pointedValue, hinteger, hplaces]

theorem pointedValue_append (h : '.' ∉ integer) : pointedValue (integer ++ '.' :: places) =
    Text.decimalValue (integer ++ places) * 10 ^ (-places.length : Int) := by
  have hinteger : (integer ++ '.' :: places).takeWhile (· != '.') = integer := by
    rw [List.takeWhile_append_of_pos fun c hc => bne_iff_ne.2 (ne_of_mem_of_not_mem hc h)]
    simp
  simp [pointedValue, hinteger]

/-- Wherever the point stands, it scales the digits by its distance from their end. -/
theorem pointedValue_pointed (h : '.' ∉ digits) (point : Int) :
    pointedValue (pointed digits point []) =
      Text.decimalValue digits * 10 ^ (point - digits.length) := by
  rw [pointed]
  split
  · next hpoint =>
    have hplaces : Text.decimalValue (['0'] ++ (List.replicate (-point).toNat '0' ++ digits)) =
        Text.decimalValue digits := by
      rw [← List.append_assoc]
      exact decimalValue_zeros_append ((-point).toNat + 1) digits
    have hlength : (-(List.replicate (-point).toNat '0' ++ digits).length : Int) =
        point - digits.length := by
      rw [List.length_append, List.length_replicate]
      omega
    rw [← List.singleton_append, pointedValue_append (by simp), hplaces, hlength]
  · split
    · next hpoint hle =>
      have hnotMem : '.' ∉ digits ++ List.replicate (point.toNat - digits.length) '0' := by
        simp [h, List.mem_replicate]
      have hexponent : point - digits.length = (point.toNat - digits.length : Nat) := by omega
      rw [List.append_nil, pointedValue_of_notMem hnotMem, decimalValue_append_zeros, hexponent,
        zpow_natCast]
      push_cast
      rfl
    · next hpoint hgt =>
      have hlength : (-(digits.drop point.toNat).length : Int) = point - digits.length := by
        rw [List.length_drop]
        omega
      rw [pointedValue_append fun hmem => h (List.mem_of_mem_take hmem), List.take_append_drop,
        hlength]

end

/-! ### Sizes -/

/-- The text of a size stands for a number that is rounded to it. -/
theorem rounds_pointedValue (b : Binary) : b.Rounds (pointedValue (Layout.plain.size b)) := by
  rw [Layout.size]
  split
  · next hzero =>
    have hvalue : pointedValue ('0' :: Layout.plain.whole) = 0 := by
      rw [pointedValue_of_notMem (by decide)]
      rfl
    have hlow : b.lowest = 0 := by
      have := b.lowest_le
      omega
    have hquarter := b.quarter_pos
    rw [hvalue, Binary.Rounds, if_pos (by rw [hzero]), hlow]
    exact ⟨by simp, by positivity⟩
  · next hpos =>
    have hdigits : '.' ∉ Nat.toDigits 10 (b.shortest .upward).significand := by
      intro hmem
      have := Nat.isDigit_of_mem_toDigits (by decide) (by decide) hmem
      cases this
    change b.Rounds (pointedValue (pointed (Nat.toDigits 10 (b.shortest .upward).significand)
      ((Nat.toDigits 10 (b.shortest .upward).significand).length +
        (b.shortest .upward).exponent) []))
    rw [pointedValue_pointed hdigits, Text.decimalValue_toDigits, add_sub_cancel_left]
    exact b.rounds_shortest (Nat.pos_of_ne_zero hpos) .upward

theorem size_plain_inj {b b' : Binary} (h : b.IsDouble) (h' : b'.IsDouble)
    (heq : Layout.plain.size b = Layout.plain.size b') : b = b' := by
  have hx := rounds_pointedValue b
  rw [heq] at hx
  exact hx.eq (rounds_pointedValue b') h h'

/-! ### Doubles -/

theorem isDouble_of_ofFloat {x : Float} {negative : Bool} {b : Binary}
    (h : Reading.ofFloat x = .finite negative b) : b.IsDouble := by
  rw [Reading.ofFloat] at h
  simp only [Nat.pow_eq] at h
  split at h
  · split at h <;> cases h
  · split at h
    · next hzero =>
      cases h
      exact ⟨⟨le_rfl, by dsimp only; omega, .inl rfl⟩, by simp⟩
    · next hzero =>
      cases h
      refine ⟨⟨by dsimp only; omega, by dsimp only; omega, .inr (by dsimp only; omega)⟩, ?_⟩
      simp only [decide_eq_true_eq]
      omega

/-- The bits of a double, from what they stand for. -/
def Reading.bits : Reading → Nat
  | .nan => 2047 * 2 ^ 52 + 2 ^ 51
  | .infinite negative => negative.toNat * 2 ^ 63 + 2047 * 2 ^ 52
  | .finite negative b => negative.toNat * 2 ^ 63 +
      if b.mantissa < 2 ^ 52 then b.mantissa
      else (b.exponent + 1075).toNat * 2 ^ 52 + (b.mantissa - 2 ^ 52)

theorem toNat_unpackExponent (word : BitVec Format.binary64.numBits) :
    (UnpackedFloat.unpackExponent word).toNat = word.toNat / 2 ^ 52 % 2 ^ 11 := by
  simp [UnpackedFloat.unpackExponent, Nat.shiftRight_eq_div_pow]

theorem toNat_unpackMantissa (word : BitVec Format.binary64.numBits) :
    (UnpackedFloat.unpackMantissa word).toNat = word.toNat % 2 ^ 52 := by
  simp [UnpackedFloat.unpackMantissa]

/-- There is one double that is no number. -/
theorem toBits_of_nan {x : Float} (hexponent : x.toBits.toNat / 2 ^ 52 % 2 ^ 11 = 2047)
    (hfraction : x.toBits.toNat % 2 ^ 52 ≠ 0) : x.toBits.toNat = 2047 * 2 ^ 52 + 2 ^ 51 := by
  obtain ⟨word, hword⟩ : ∃ word : BitVec Format.binary64.numBits, word = x.toBits.toBitVec :=
    ⟨_, rfl⟩
  have hnat : word.toNat = x.toBits.toNat := by
    rw [hword]
    rfl
  have hones : UnpackedFloat.unpackExponent word = -1#11 := by
    apply BitVec.eq_of_toNat_eq
    rw [toNat_unpackExponent, hnat, hexponent]
    rfl
  have hrest : UnpackedFloat.unpackMantissa word ≠ 0#52 := by
    intro hzero
    rw [← hnat, ← toNat_unpackMantissa, hzero] at hfraction
    exact hfraction rfl
  have hpacked : word = UnpackedFloat.packedNaN .binary64 := by
    subst hword
    exact x.toModel.valid.eq_packedNaN hones hrest
  rw [← hnat, hpacked]
  rfl

theorem bits_ofFloat (x : Float) : (Reading.ofFloat x).bits = x.toBits.toNat := by
  have hbits := x.toBits.toNat_lt
  have hnan := toBits_of_nan (x := x)
  rw [Reading.ofFloat]
  simp only [Nat.pow_eq]
  generalize x.toBits.toNat = bits at *
  have hsign : (bits / 2 ^ 63 == 1).toNat = bits / 2 ^ 63 := by
    have : bits / 2 ^ 63 < 2 := by omega
    interval_cases bits / 2 ^ 63 <;> rfl
  split
  · split
    · simp only [Reading.bits, hsign]
      omega
    · next hexponent hfraction =>
      rw [hnan hexponent hfraction, Reading.bits]
  · split
    · simp only [Reading.bits, hsign]
      rw [if_pos (by omega)]
      omega
    · simp only [Reading.bits, hsign]
      rw [if_neg (by omega)]
      omega

theorem ofFloat_inj {x y : Float} (h : Reading.ofFloat x = Reading.ofFloat y) : x = y := by
  rw [← Float.toBits_inj, ← UInt64.toNat_inj, ← bits_ofFloat, ← bits_ofFloat, h]

theorem signed_inj {s t : Bool} {u v : List Char} (hu : '-' ∉ u) (hv : '-' ∉ v)
    (h : signed s u = signed t v) : s = t ∧ u = v := by
  cases s <;> cases t
  · exact ⟨rfl, h⟩
  · obtain rfl : u = '-' :: v := h
    exact absurd List.mem_cons_self hu
  · obtain rfl : '-' :: u = v := h
    exact absurd List.mem_cons_self hv
  · exact ⟨rfl, List.tail_eq_of_cons_eq h⟩

/-- The plain text of what the bits of a double stand for. -/
def Reading.text : Reading → List Char
  | .nan => ['N', 'a', 'N']
  | .infinite negative => signed negative ['i', 'n', 'f']
  | .finite negative b => signed negative (Layout.plain.size b)

theorem toList_plain (x : Float) : (plain x).toList = (Reading.ofFloat x).text := by
  rw [plain]
  split
  · next h => rw [h, Reading.text]; rfl
  · next h => rw [h, Reading.text, String.toList_ofList]
  · next h => rw [h, Reading.text, String.toList_ofList]

theorem notMem_text_finite {c : Char} (hdigit : c.isDigit = false) (hsign : c ∉ ['-', '.'])
    (negative : Bool) (b : Binary) : c ∉ (Reading.finite negative b).text := by
  intro hmem
  rcases mem_signed hmem with rfl | hmem
  · exact hsign (by decide)
  · rcases mem_plain_size hmem with h | rfl
    · rw [hdigit] at h
      cases h
    · exact hsign (by decide)

/-- Both texts without digits have a letter. -/
theorem nan_text_ne_finite (negative : Bool) (b : Binary) :
    Reading.nan.text ≠ (Reading.finite negative b).text := by
  intro h
  have hletter : 'N' ∈ Reading.nan.text := by decide
  rw [h] at hletter
  exact notMem_text_finite rfl (by decide) negative b hletter

theorem infinite_text_ne_finite (s negative : Bool) (b : Binary) :
    (Reading.infinite s).text ≠ (Reading.finite negative b).text := by
  intro h
  have hletter : ∀ s, 'n' ∈ (Reading.infinite s).text := by decide
  have hmem := hletter s
  rw [h] at hmem
  exact notMem_text_finite rfl (by decide) negative b hmem

theorem nan_text_ne_infinite : ∀ negative, Reading.nan.text ≠ (Reading.infinite negative).text := by
  decide

/-- The plain text of a double tells it. -/
theorem plain_inj {x y : Float} : plain x = plain y ↔ x = y := by
  refine ⟨fun h => ofFloat_inj ?_, fun h => h ▸ rfl⟩
  have htext : (Reading.ofFloat x).text = (Reading.ofFloat y).text := by
    rw [← toList_plain, ← toList_plain, h]
  rcases hx : Reading.ofFloat x with _ | s | ⟨s, b⟩ <;>
    rcases hy : Reading.ofFloat y with _ | t | ⟨t, b'⟩ <;> rw [hx, hy] at htext
  case nan.infinite => exact absurd htext (nan_text_ne_infinite t)
  case nan.finite => exact absurd htext (nan_text_ne_finite t b')
  case infinite.nan => exact absurd htext.symm (nan_text_ne_infinite s)
  case infinite.infinite => rw [(signed_inj (by decide) (by decide) htext).1]
  case infinite.finite => exact absurd htext (infinite_text_ne_finite s t b')
  case finite.nan => exact absurd htext.symm (nan_text_ne_finite s b)
  case finite.infinite => exact absurd htext.symm (infinite_text_ne_finite t s b)
  case finite.finite =>
    have hminus : ∀ b : Binary, '-' ∉ Layout.plain.size b := fun b hmem => by
      rcases mem_plain_size hmem with h | h <;> cases h
    obtain ⟨rfl, hsize⟩ := signed_inj (hminus b) (hminus b') htext
    rw [size_plain_inj (isDouble_of_ofFloat hx) (isDouble_of_ofFloat hy) hsize]

end Sightline.Decimal

import Mathlib
import Sightline.Decimal.Layout
import Sightline.Proofs.Link.Positive

/-!
# Rounding to a double

A number is rounded to fifty-three places, half to even (`roundWithAccuracy_eq`). Only if it reaches
the next power of two does the exponent go up by one more. A double is read back as it was packed,
unless its exponent is too great (`unpack_pack`).
-/

namespace Sightline.Decimal

open Float.Model
open UnpackedFloat (ExtendedMantissa Sign roundWithAccuracy)

/-! ### Rounded quotients -/

variable {a b c d : Nat}

theorem roundDiv_eq (num den : Nat) : roundDiv num den =
    if 2 * (num % den) < den ∨ 2 * (num % den) = den ∧ num / den % 2 = 0 then num / den
    else num / den + 1 := by
  rw [roundDiv]
  rcases h : compare (2 * (num % den)) den with _ | _ | _ <;> dsimp only
  · rw [if_pos (.inl (Nat.compare_eq_lt.1 h))]
  · have heq := Nat.compare_eq_eq.1 h
    split <;> omega
  · have := Nat.compare_eq_gt.1 h
    rw [if_neg (by omega)]

theorem roundDiv_mul_right (hc : 0 < c) : roundDiv (a * c) (b * c) = roundDiv a b := by
  have hmod : a * c % (b * c) = a % b * c := Nat.mul_mod_mul_right c a b
  have hlt : 2 * (a % b * c) < b * c ↔ 2 * (a % b) < b := by
    rw [← Nat.mul_assoc]
    exact Nat.mul_lt_mul_right hc
  have heq : 2 * (a % b * c) = b * c ↔ 2 * (a % b) = b := by
    rw [← Nat.mul_assoc]
    exact Nat.mul_left_inj (Nat.ne_of_gt hc)
  rw [roundDiv_eq, roundDiv_eq, hmod, Nat.mul_div_mul_right _ _ hc]
  simp only [hlt, heq]

theorem roundDiv_le_roundDiv (h : a ≤ b) (hd : 0 < d) : roundDiv a d ≤ roundDiv b d := by
  have ha := Nat.div_add_mod a d
  have hb := Nat.div_add_mod b d
  have hmoda := Nat.mod_lt a hd
  have hmodb := Nat.mod_lt b hd
  have hdiv : a / d ≤ b / d := Nat.div_le_div_right h
  rw [roundDiv_eq, roundDiv_eq]
  rcases Nat.lt_or_eq_of_le hdiv with hlt | heq
  · split <;> split <;> omega
  · rw [heq] at ha
    have hmod : a % d ≤ b % d := by omega
    rw [heq]
    split <;> split <;> omega

/-! ### Shifting with a round bit and a sticky bit -/

/-- The bits below the last place tell how the rest compares with half a unit of it. -/
theorem shiftRight_eq (m s : Nat) : (⟨m, false, false⟩ : ExtendedMantissa) >>> s =
    ⟨m / 2 ^ s, decide (2 ^ s ≤ 2 * (m % 2 ^ s)),
      decide (2 * (m % 2 ^ s) ≠ 0 ∧ 2 * (m % 2 ^ s) ≠ 2 ^ s)⟩ := by
  change s.repeat ExtendedMantissa.shiftRightOne _ = _
  induction s with
  | zero => simp [Nat.repeat, Nat.mod_one]
  | succ s ih =>
    have hpow : 2 ^ (s + 1) = 2 ^ s * 2 := Nat.pow_succ ..
    have hpos : 0 < 2 ^ s := Nat.two_pow_pos s
    have hrest : m % (2 ^ s * 2) = m % 2 ^ s + 2 ^ s * (m / 2 ^ s % 2) := Nat.mod_mul
    have hmod := Nat.mod_lt m hpos
    have hbit := Nat.mod_two_eq_zero_or_one (m / 2 ^ s)
    rw [Nat.repeat, ih, ExtendedMantissa.shiftRightOne, hpow, hrest, ← Nat.div_div_eq_div_mul,
      ExtendedMantissa.mk.injEq]
    refine ⟨rfl, ?_, ?_⟩ <;> rw [Bool.eq_iff_iff]
    · simp only [bne_iff_ne, decide_eq_true_eq]
      rcases hbit with hbit | hbit <;> rw [hbit] <;> omega
    · simp only [Bool.or_eq_true, decide_eq_true_eq]
      rcases hbit with hbit | hbit <;> rw [hbit] <;> omega

theorem roundedMantissa_eq (m : Nat) (round sticky : Bool) :
    (⟨m, round, sticky⟩ : ExtendedMantissa).roundedMantissa =
      if round = true then if sticky = true then m + 1 else m + m % 2 else m := by
  cases round <;> cases sticky <;> rfl

theorem roundedMantissa_shiftRight (m s : Nat) :
    ((⟨m, false, false⟩ : ExtendedMantissa) >>> s).roundedMantissa = roundDiv m (2 ^ s) := by
  have hpos : 0 < 2 ^ s := Nat.two_pow_pos s
  rw [shiftRight_eq, roundedMantissa_eq, roundDiv_eq]
  simp only [decide_eq_true_eq]
  split
  · split <;> split <;> omega
  · rw [if_pos (.inl (by omega))]

/-! ### Rounding to a double -/

/-- A mantissa and an exponent as a double holds them: fifty-three places, and without the leading
one only for the least exponent. -/
structure Stored (m : Nat) (e : Int) : Prop where
  least : -1074 ≤ e
  lt : m < 2 ^ 53
  leading : e = -1074 ∨ 2 ^ 52 ≤ m

/-- The number of units of the last place, and its exponent. The least number of them that has one
more digit is written with the next exponent. -/
def carried (units : Nat) (exponent : Int) : Nat × Int :=
  if units = 2 ^ 53 then (2 ^ 52, exponent + 1) else (units, exponent)

theorem carried_pos {units : Nat} (h : 2 ^ 52 ≤ units) (e : Int) : 0 < (carried units e).1 := by
  rw [carried]
  split <;> dsimp only <;> omega

theorem stored_carried {units : Nat} {e : Int} (hlow : 2 ^ 52 ≤ units) (hhigh : units ≤ 2 ^ 53)
    (he : -1074 ≤ e) : Stored (carried units e).1 (carried units e).2 := by
  rw [carried]
  split <;> constructor <;> dsimp only <;> omega

theorem carried_of_lt {units : Nat} {e : Int} (h : units < 2 ^ 53) :
    carried units e = (units, e) :=
  if_neg (Nat.ne_of_lt h)

theorem targetExponent_eq {m : Nat} {e : Int} {l : Nat} (hl : m.log2 = l) :
    Format.binary64.targetExponent (totalExponent m e) = max (l - 52 + e) (-1074) := by
  simp only [Format.targetExponent, totalExponent, hl, Format.mantissaBits, Format.minExponent]
  omega

theorem log2_eq_of_bounds {m l : Nat} (hlow : 2 ^ l ≤ m) (hhigh : m < 2 ^ (l + 1)) :
    m.log2 = l :=
  (Nat.log2_eq_iff (by have := Nat.two_pow_pos l; omega)).2 ⟨hlow, hhigh⟩

theorem mul_two_pow_bounds {n p s : Nat} (h : 0 < n) (hp : n.log2 + p = 52 + s) :
    2 ^ (52 + s) ≤ n * 2 ^ p ∧ n * 2 ^ p < 2 ^ (53 + s) := by
  obtain ⟨hlow, hhigh⟩ := (Nat.log2_eq_iff (Nat.ne_of_gt h)).1 rfl
  have hp' : n.log2 + 1 + p = 53 + s := by omega
  have hpos : 0 < 2 ^ p := Nat.two_pow_pos p
  rw [← hp, ← hp', Nat.pow_add, Nat.pow_add 2 (n.log2 + 1)]
  exact ⟨Nat.mul_le_mul_right _ hlow, Nat.mul_lt_mul_of_pos_right hhigh hpos⟩

theorem shiftToTargetExponent_eq (m : Nat) (e : Int) :
    UnpackedFloat.shiftToTargetExponent .binary64 m e .exact =
      ((⟨m, false, false⟩ : ExtendedMantissa) >>>
        (max (m.log2 - 52 + e) (-1074) - e).toNat,
        e + ((max (m.log2 - 52 + e) (-1074) - e).toNat : Nat)) := by
  simp only [UnpackedFloat.shiftToTargetExponent, UnpackedFloat.shiftToExponent,
    targetExponent_eq rfl, ExtendedMantissa.ofMantissaAndAccuracy]

/-- What is left after rounding is exact: only a carry is shifted out. -/
theorem shift_rounded {units : Nat} {e : Int} (hlow : 2 ^ 52 ≤ units) (hhigh : units ≤ 2 ^ 53)
    (he : -1074 ≤ e) :
    ((UnpackedFloat.shiftToTargetExponent .binary64 units e .exact).1.mantissa,
      (UnpackedFloat.shiftToTargetExponent .binary64 units e .exact).2) = carried units e := by
  rw [shiftToTargetExponent_eq, carried]
  split
  · next h =>
    subst h
    have hlog : (2 ^ 53 : Nat).log2 = 53 := Nat.log2_two_pow
    have hshift : (max (((2 ^ 53 : Nat).log2 : Int) - 52 + e) (-1074) - e).toNat = 1 := by
      rw [hlog]
      omega
    rw [hshift]
    rfl
  · have hlog : units.log2 = 52 := log2_eq_of_bounds hlow (by omega)
    have hshift : (max ((units.log2 : Int) - 52 + e) (-1074) - e).toNat = 0 := by
      rw [hlog]
      omega
    rw [hshift]
    simp only [Int.natCast_zero, Int.add_zero]
    rfl

theorem roundDiv_bounds {m s : Nat} (hlow : 2 ^ (52 + s) ≤ m) (hhigh : m < 2 ^ (53 + s)) :
    2 ^ 52 ≤ roundDiv m (2 ^ s) ∧ roundDiv m (2 ^ s) ≤ 2 ^ 53 := by
  have hpos : 0 < 2 ^ s := Nat.two_pow_pos s
  have hfloor : 2 ^ 52 ≤ m / 2 ^ s := by
    rwa [Nat.le_div_iff_mul_le hpos, ← Nat.pow_add]
  have hceil : m / 2 ^ s < 2 ^ 53 := by
    rwa [Nat.div_lt_iff_lt_mul hpos, ← Nat.pow_add]
  rw [roundDiv_eq]
  split <;> omega

/-- A number with at least fifty-three bits is rounded to fifty-three. -/
theorem roundWithAccuracy_eq (sign : Sign) {m s : Nat} {e : Int} (hlow : 2 ^ (52 + s) ≤ m)
    (hhigh : m < 2 ^ (53 + s)) (he : -1074 ≤ e + s) :
    ∃ hpos, roundWithAccuracy .binary64 sign m e .exact =
      .finite sign (carried (roundDiv m (2 ^ s)) (e + s)).1
        (carried (roundDiv m (2 ^ s)) (e + s)).2 hpos := by
  obtain ⟨hunits, hunits'⟩ := roundDiv_bounds hlow hhigh
  have hlog : m.log2 = 52 + s := log2_eq_of_bounds hlow (by rwa [Nat.add_right_comm])
  have hshift : (max ((m.log2 : Int) - 52 + e) (-1074) - e).toNat = s := by
    rw [hlog]
    omega
  have hpos := carried_pos hunits (e + s)
  have hrounded := shift_rounded hunits hunits' he
  refine ⟨hpos, ?_⟩
  rw [roundWithAccuracy, shiftToTargetExponent_eq, hshift]
  dsimp only
  rw [← hrounded] at hpos
  simp only [roundedMantissa_shiftRight, ← hrounded]
  rw [dif_neg (Nat.ne_of_gt hpos)]

/-! ### Packing -/

section

variable {s : Sign} {exponent : BitVec 11} {mantissa : BitVec 52} {m : Nat} {e : Int} {hm : 0 < m}

theorem unpack_packComponents_normal (hones : exponent.toNat ≠ 2047) (hzero : exponent.toNat ≠ 0)
    (hmantissa : 2 ^ 52 + mantissa.toNat = m) (hexponent : (exponent.toNat : Int) - 1075 = e) :
    UnpackedFloat.unpack .binary64 (UnpackedFloat.packComponents .binary64 s exponent mantissa) =
      .finite s m e hm := by
  have hones : exponent ≠ -1#11 := fun h => hones (by rw [h]; rfl)
  have hzero : exponent ≠ 0#11 := fun h => hzero (by rw [h]; rfl)
  subst hmantissa hexponent
  simp only [UnpackedFloat.unpack, UnpackedFloat.unpackMantissa_packComponents,
    UnpackedFloat.unpackExponent_packComponents, UnpackedFloat.unpackSign_packComponents]
  change (if exponent = -1#11 then _ else if exponent = 0#11 then _ else
    UnpackedFloat.finite (Sign.ofBitVec s.toBitVec) (1#1 ++ mantissa).toNat
      (exponent.toNat - (1023 + 52)) _) = _
  rw [if_neg hones, if_neg hzero]
  cases s <;> simp only [toNat_one_append] <;> rfl

theorem unpack_packComponents_subnormal (hmantissa : mantissa.toNat = m) :
    UnpackedFloat.unpack .binary64 (UnpackedFloat.packComponents .binary64 s 0#11 mantissa) =
      .finite s m (-1074) hm := by
  have hzero : mantissa ≠ 0#52 := by
    rintro rfl
    exact Nat.ne_of_gt hm hmantissa.symm
  subst hmantissa
  simp only [UnpackedFloat.unpack, UnpackedFloat.unpackMantissa_packComponents,
    UnpackedFloat.unpackExponent_packComponents, UnpackedFloat.unpackSign_packComponents]
  rw [if_neg (by decide), if_pos trivial, dif_neg hzero]
  cases s <;> rfl

/-- A double is read back as it was packed, unless its exponent is too great. -/
theorem unpack_pack (h : Stored m e) : (pack (.finite s m e hm)).unpack =
    if e ≤ 971 then .finite s m e hm else .infinity s := by
  have hleast := h.least
  have hlt := h.lt
  change UnpackedFloat.unpack .binary64 (UnpackedFloat.pack .binary64 _) = _
  rw [UnpackedFloat.pack]
  change UnpackedFloat.unpack .binary64 (if 2048 ≤ (e + 1023 + 52).toNat + 1 then _ else
    if m.log2 + 1 = 53 then UnpackedFloat.packComponents .binary64 s
      (BitVec.ofNat 11 (e + 1023 + 52).toNat) (BitVec.ofNat 52 m)
    else UnpackedFloat.packComponents .binary64 s 0#11 (BitVec.ofNat 52 m)) = _
  by_cases hmost : e ≤ 971
  · rw [if_neg (by omega), if_pos hmost]
    split
    · next hbits =>
      obtain ⟨hlow, -⟩ := (Nat.log2_eq_iff (Nat.ne_of_gt hm)).1 (Nat.succ.inj hbits)
      apply unpack_packComponents_normal <;> rw [BitVec.toNat_ofNat] <;> omega
    · next hbits =>
      have hsmall : m < 2 ^ 52 := by
        by_contra hge
        exact hbits (by rw [log2_eq_of_bounds (not_lt.1 hge) hlt])
      obtain rfl : e = -1074 := h.leading.resolve_right (not_le.2 hsmall)
      apply unpack_packComponents_subnormal
      rw [BitVec.toNat_ofNat]
      omega
  · rw [if_pos (by omega), if_neg hmost]
    cases s <;> rfl

end

end Sightline.Decimal

import Mathlib
import Sightline.Proofs.Decimal.Rounding
import Sightline.Scalar

/-!
# Natural numbers as doubles

A natural number becomes the nearest double, so greater numbers do not become lesser doubles
(`ofNat_le_ofNat`). Its mantissa is the number in units of its last place, rounded half to even.
-/

namespace Sightline

open Float.Model
open UnpackedFloat (roundWithAccuracy)

namespace Decimal

variable {n k : Nat}

/-- A positive number in units of the last of its fifty-three places, rounded. -/
def units (n : Nat) : Nat := roundDiv (n * 2 ^ 52) (2 ^ n.log2)

/-- The mantissa and the exponent of the double for a positive number. -/
def scaled (n : Nat) : Nat × Int := carried (units n) (n.log2 - 52)

theorem units_bounds (h : 0 < n) : 2 ^ 52 ≤ units n ∧ units n ≤ 2 ^ 53 := by
  obtain ⟨hlow, hhigh⟩ := mul_two_pow_bounds h (p := 52) (Nat.add_comm _ _)
  exact roundDiv_bounds hlow hhigh

theorem stored_scaled (h : 0 < n) : Stored (scaled n).1 (scaled n).2 :=
  stored_carried (units_bounds h).1 (units_bounds h).2 (by omega)

/-- Scaled by any power of two that leaves fifty-three places, a number is rounded alike. -/
theorem roundWithAccuracy_mul_two_pow (h : 0 < n) {p s : Nat} {e : Int} (hp : n.log2 + p = 52 + s)
    (he : e + s = n.log2 - 52) : ∃ hpos,
    roundWithAccuracy .binary64 .positive (n * 2 ^ p) e .exact =
      .finite .positive (scaled n).1 (scaled n).2 hpos := by
  obtain ⟨hlow, hhigh⟩ := mul_two_pow_bounds h hp
  have hunits : roundDiv (n * 2 ^ p) (2 ^ s) = units n := by
    -- both are the quotient of `n * 2 ^ (p + 52)` and `2 ^ (s + 52)`
    rw [units, ← roundDiv_mul_right (c := 2 ^ 52) (Nat.two_pow_pos 52),
      ← roundDiv_mul_right (a := n * 2 ^ 52) (c := 2 ^ p) (Nat.two_pow_pos p), ← Nat.pow_add,
      ← Nat.pow_add, hp, Nat.add_comm s, Nat.mul_right_comm]
  have hround := roundWithAccuracy_eq .positive hlow hhigh (e := e) (by omega)
  rwa [hunits, he] at hround

theorem log2_le_of_lt (h : 0 < n) (hsmall : n < 2 ^ 53) : n.log2 ≤ 52 :=
  Nat.le_of_lt_succ ((Nat.log2_lt (Nat.ne_of_gt h)).2 hsmall)

/-- A number of at most fifty-three bits is shifted up to its leading bit. -/
theorem unpack_toFloat (h : 0 < n) (hsmall : n < 2 ^ 53) :
    ∃ hpos, n.toUInt64.toFloat.toModel.unpack =
      .finite .positive (n * 2 ^ (52 - n.log2)) (n.log2 - 52) hpos := by
  have hlog := log2_le_of_lt h hsmall
  obtain ⟨hlow, hhigh⟩ := mul_two_pow_bounds h (p := 52 - n.log2) (s := 0) (by omega)
  have hword : n.toUInt64.toNat = n := by
    rw [Nat.toUInt64_eq, UInt64.toNat_ofNat']
    omega
  have htarget : Format.binary64.targetExponent (totalExponent n 0) = n.log2 - 52 := by
    rw [targetExponent_eq rfl]
    omega
  have hshift : (0 - ((n.log2 : Int) - 52)).toNat = 52 - n.log2 := by omega
  have hexponent : (0 : Int) - (52 - n.log2 : Nat) = n.log2 - 52 := by omega
  have hround : UnpackedFloat.round .binary64 .positive n 0 =
      roundWithAccuracy .binary64 .positive (n * 2 ^ (52 - n.log2)) (n.log2 - 52) .exact := by
    rw [UnpackedFloat.round, htarget, UnpackedFloat.decreaseExponent, hshift, hexponent,
      Nat.shiftLeft_eq]
  have hofNat : UnpackedFloat.ofUInt64 .binary64 n.toUInt64 =
      UnpackedFloat.round .binary64 .positive n 0 := by
    have hgt : compare (n : Int) 0 = .gt := Int.compare_eq_gt.2 (by omega)
    rw [UnpackedFloat.ofUInt64, hword, UnpackedFloat.ofNat, UnpackedFloat.ofInt,
      UnpackedFloat.normalize, hgt]
    rfl
  have hexact := roundWithAccuracy_eq .positive hlow hhigh (e := n.log2 - 52) (by omega)
  have hunits : roundDiv (n * 2 ^ (52 - n.log2)) (2 ^ 0) = n * 2 ^ (52 - n.log2) := by
    rw [roundDiv_eq, if_pos (.inl (by omega)), Nat.pow_zero, Nat.div_one]
  rw [hunits, Int.natCast_zero, Int.add_zero, carried_of_lt hhigh] at hexact
  obtain ⟨hpos, hexact⟩ := hexact
  refine ⟨hpos, ?_⟩
  change (pack (UnpackedFloat.ofUInt64 .binary64 n.toUInt64)).unpack = _
  rw [hofNat, hround, hexact, unpack_pack ⟨by omega, hhigh, .inr hlow⟩, if_pos (by omega)]

/-- The double of a positive number is its rounded mantissa and exponent, packed. -/
theorem toModel_ofNat (h : 0 < n) : ∃ hpos, (Float.ofNat n).toModel =
    pack (.finite .positive (scaled n).1 (scaled n).2 hpos) := by
  by_cases hsmall : n < 2 ^ 53
  · -- the shifted number is multiplied by one
    have hlog := log2_le_of_lt h hsmall
    have hmodel : Float.ofNat n = n.toUInt64.toFloat * Float.ofBits 4607182418800017408 := by
      change Float.ofScientific n false 0 = _
      rw [Float.ofScientific, dif_pos ⟨hsmall, by decide⟩]
      rfl
    have hone : (Float.ofBits 4607182418800017408).toModel.unpack =
        .finite .positive (2 ^ 52) (-52) (by decide) := by rfl
    obtain ⟨hpos, hshifted⟩ := unpack_toFloat h hsmall
    obtain ⟨hpos', hround⟩ := roundWithAccuracy_mul_two_pow h (p := 52 - n.log2 + 52) (s := 52)
      (e := n.log2 - 52 + -52) (by omega) (by omega)
    refine ⟨hpos', ?_⟩
    rw [hmodel]
    change pack (UnpackedFloat.mul .binary64 n.toUInt64.toFloat.toModel.unpack
      (Float.ofBits 4607182418800017408).toModel.unpack) = _
    rw [hshifted, hone, ← hround, Nat.pow_add, ← Nat.mul_assoc]
    rfl
  · -- the number is scaled by fifty-three places, whatever its size
    have hmodel : Float.ofNat n = ⟨Float.Model.ofScientific n 0⟩ := by
      change Float.ofScientific n false 0 = _
      rw [Float.ofScientific, dif_neg (not_and_of_not_left _ hsmall)]
      rfl
    have hscientific : UnpackedFloat.ofScientific .binary64 n 0 =
        roundWithAccuracy .binary64 .positive (n <<< 53 * 10 ^ 0) (-53 + 0) .exact := by
      have hbound : (0 : Int) ≤ 2 ^ Format.binary64.exponentBits := by decide
      rw [UnpackedFloat.ofScientific, dif_neg (Nat.ne_of_gt h), if_neg (by decide),
        if_neg (by omega), if_pos (Int.le_refl 0)]
      rfl
    obtain ⟨hpos, hround⟩ := roundWithAccuracy_mul_two_pow h (p := 53) (s := n.log2 + 1) (e := -53)
      (by omega) (by omega)
    refine ⟨hpos, ?_⟩
    rw [hmodel, Float.Model.ofScientific, hscientific, Nat.pow_zero, Nat.mul_one, Int.add_zero,
      Nat.shiftLeft_eq, hround]

/-- The double of a positive number has its mantissa and exponent, or is too great to be finite. -/
theorem unpack_ofNat (h : 0 < n) : ∃ hpos, (Float.ofNat n).toModel.unpack =
    if (scaled n).2 ≤ 971 then .finite .positive (scaled n).1 (scaled n).2 hpos
    else .infinity .positive := by
  obtain ⟨hpos, hmodel⟩ := toModel_ofNat h
  exact ⟨hpos, by rw [hmodel, unpack_pack (stored_scaled h)]⟩

/-- A greater number has a greater exponent, or a greater mantissa with the same exponent. -/
theorem scaled_le_scaled (hn : 0 < n) (h : n ≤ k) : (scaled n).2 < (scaled k).2 ∨
    (scaled n).2 = (scaled k).2 ∧ (scaled n).1 ≤ (scaled k).1 := by
  have hk : 0 < k := Nat.lt_of_lt_of_le hn h
  obtain ⟨hlow, hhigh⟩ := units_bounds hn
  obtain ⟨hlow', hhigh'⟩ := units_bounds hk
  have hlog : n.log2 ≤ k.log2 :=
    (Nat.le_log2 (Nat.ne_of_gt hk)).2 (Nat.le_trans (Nat.log2_self_le (Nat.ne_of_gt hn)) h)
  rcases Nat.lt_or_eq_of_le hlog with hlt | heq
  · -- one exponent further up, a carry is the least number
    simp only [scaled, carried]
    split <;> split <;> dsimp only <;> omega
  · have hunits : units n ≤ units k := by
      rw [units, units, heq]
      exact roundDiv_le_roundDiv (Nat.mul_le_mul_right _ h) (Nat.two_pow_pos _)
    simp only [scaled, carried, heq]
    split <;> split <;> dsimp only <;> omega

end Decimal

open Decimal

theorem le_of_isLE_compare {a b : Float}
    (h : (a.toModel.unpack.compare b.toModel.unpack).any (·.isLE) = true) : a ≤ b :=
  decide_eq_true (p := a.toModel ≤ b.toModel) h

theorem isLE_compare_finite {m m' : Nat} {e e' : Int} {hm : 0 < m} {hm' : 0 < m'}
    (h : e < e' ∨ e = e' ∧ m ≤ m') : ((UnpackedFloat.finite .positive m e hm).compare
      (.finite .positive m' e' hm')).any (·.isLE) = true := by
  change ((compare e e').then (compare m m')).isLE = true
  rcases h with hlt | ⟨heq, hle⟩
  · rw [Int.compare_eq_lt.2 hlt]
    rfl
  · rw [Int.compare_eq_eq.2 heq]
    exact Nat.isLE_compare.2 hle

/-- Greater natural numbers are not lesser doubles. -/
theorem ofNat_le_ofNat {m n : Nat} (h : m ≤ n) : (m : Float) ≤ (n : Float) := by
  apply le_of_isLE_compare
  change ((Float.ofNat m).toModel.unpack.compare (Float.ofNat n).toModel.unpack).any _ = true
  have hzero : (Float.ofNat 0).toModel.unpack = .zero .positive := by rfl
  rcases Nat.eq_zero_or_pos n with rfl | hn
  · rw [Nat.le_zero.1 h, hzero]
    rfl
  · obtain ⟨hpos, hunpack⟩ := unpack_ofNat hn
    rcases Nat.eq_zero_or_pos m with rfl | hm
    · rw [hzero, hunpack]
      split <;> rfl
    · obtain ⟨hpos', hunpack'⟩ := unpack_ofNat hm
      have hscaled := scaled_le_scaled hm h
      rw [hunpack, hunpack']
      split
      · split
        · exact isLE_compare_finite hscaled
        · rfl
      · rw [if_neg (by omega)]
        rfl

end Sightline

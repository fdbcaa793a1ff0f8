import Mathlib
import Sightline.Proofs.Decimal.Rounding

/-!
# Differences of doubles

The exponent of a double is at least that of the least one, so what is left of two of them is a
number of units of the least one and is never rounded to zero. Doubles that the test `==` tells
apart have a difference other than zero (`sub_ne_zero_of_ne`).
-/

namespace Sightline

open Float.Model
open UnpackedFloat (Sign roundWithAccuracy)

namespace Decimal

/-! ### Rounding keeps a number away from zero -/

variable {m m' : Nat} {e e' : Int} {s s' : Sign}

/-- A number of units of the least double is not rounded if it has no leading bit. -/
theorem roundWithAccuracy_of_lt (s : Sign) (hm : 0 < m) (h : m < 2 ^ 52) :
    roundWithAccuracy .binary64 s m (-1074) .exact = .finite s m (-1074) hm := by
  have hlog : m.log2 < 52 := (Nat.log2_lt (Nat.ne_of_gt hm)).2 h
  have hshift : (max ((m.log2 : Int) - 52 + -1074) (-1074) - -1074).toNat = 0 := by omega
  have hexact : UnpackedFloat.shiftToTargetExponent .binary64 m (-1074) .exact =
      (⟨m, false, false⟩, -1074) := by
    rw [shiftToTargetExponent_eq, hshift]
    rfl
  rw [roundWithAccuracy, hexact]
  dsimp only
  simp only [roundedMantissa_eq, Bool.false_eq_true, if_false, hexact]
  rw [dif_neg (Nat.ne_of_gt hm)]

theorem round_eq_finite (s : Sign) (hm : 0 < m) (he : -1074 ≤ e) :
    ∃ m' e' hm', UnpackedFloat.round .binary64 s m e = .finite s m' e' hm' ∧ Stored m' e' := by
  obtain ⟨up, hup⟩ : ∃ up, up = (e - max ((m.log2 : Int) - 52 + e) (-1074)).toNat := ⟨_, rfl⟩
  have hround : UnpackedFloat.round .binary64 s m e =
      roundWithAccuracy .binary64 s (m * 2 ^ up) (e - up) .exact := by
    rw [UnpackedFloat.round, targetExponent_eq rfl, UnpackedFloat.decreaseExponent, ← hup,
      Nat.shiftLeft_eq]
  rw [hround]
  by_cases hnormal : 52 ≤ m.log2 + up
  · obtain ⟨shift, hshift⟩ : ∃ shift, m.log2 + up = 52 + shift := Nat.exists_eq_add_of_le hnormal
    obtain ⟨hlow, hhigh⟩ := mul_two_pow_bounds hm hshift
    obtain ⟨hunits, hunits'⟩ := roundDiv_bounds hlow hhigh
    have hleast : -1074 ≤ e - up + shift := by omega
    obtain ⟨hpos, hfinite⟩ := roundWithAccuracy_eq s hlow hhigh hleast
    exact ⟨_, _, hpos, hfinite, stored_carried hunits hunits' hleast⟩
  · have hleast : e - up = -1074 := by omega
    have hpos : 0 < m * 2 ^ up := Nat.mul_pos hm (Nat.two_pow_pos up)
    have hlt : m * 2 ^ up < 2 ^ 52 := calc
      m * 2 ^ up < 2 ^ (m.log2 + 1) * 2 ^ up :=
        Nat.mul_lt_mul_of_pos_right Nat.lt_log2_self (Nat.two_pow_pos up)
      _ = 2 ^ (m.log2 + 1 + up) := (Nat.pow_add ..).symm
      _ ≤ 2 ^ 52 := Nat.pow_le_pow_right Nat.two_pos (by omega)
    rw [hleast]
    exact ⟨_, _, hpos, roundWithAccuracy_of_lt s hpos hlt, by omega, by omega, .inl rfl⟩

/-! ### Exact differences -/

theorem stored_of_unpack {b : BitVec Format.binary64.numBits} {hm : 0 < m}
    (h : UnpackedFloat.unpack .binary64 b = .finite s m e hm) : Stored m e := by
  obtain ⟨-, hfields⟩ := fields_of_unpack h
  have hmantissa : (UnpackedFloat.unpackMantissa b).toNat < 2 ^ 52 :=
    (UnpackedFloat.unpackMantissa b).isLt
  constructor <;> omega

/-- A number with a greater exponent is greater. -/
theorem Stored.lt_mul (h : Stored m e) (h' : Stored m' e') (hlt : e < e') :
    m < m' * 2 ^ (e' - e).toNat := by
  have hleast := h.least
  have hleading : 2 ^ 52 ≤ m' := h'.leading.resolve_left (by omega)
  calc m < 2 ^ 52 * 2 := h.lt
    _ ≤ m' * 2 ^ (e' - e).toNat := Nat.mul_le_mul hleading (Nat.le_self_pow (by omega) 2)

/-- In units of the lesser exponent, two numbers agree only in both their parts. -/
theorem Stored.eq_of_mul_eq (h : Stored m e) (h' : Stored m' e')
    (heq : m * 2 ^ (e - min e e').toNat = m' * 2 ^ (e' - min e e').toNat) : m = m' ∧ e = e' := by
  rcases lt_trichotomy e e' with hlt | rfl | hgt
  · rw [min_eq_left hlt.le, sub_self, Int.toNat_zero, Nat.pow_zero, Nat.mul_one] at heq
    exact absurd heq (h.lt_mul h' hlt).ne
  · simpa using heq
  · rw [min_eq_right hgt.le, sub_self, Int.toNat_zero, Nat.pow_zero, Nat.mul_one] at heq
    exact absurd heq.symm (h'.lt_mul h hgt).ne

/-- Whether a number that is read is other than zero and is packed without loss. -/
def Nonzero : UnpackedFloat → Prop
  | .zero _ => False
  | .finite _ m e _ => Stored m e
  | .infinity _ | .notANumber => True

theorem nonzero_normalize {d : Int} (hd : d ≠ 0) (he : -1074 ≤ e) (s : Sign) :
    Nonzero (UnpackedFloat.normalize .binary64 d e s) := by
  rw [UnpackedFloat.normalize]
  rcases h : compare d 0 with _ | _ | _ <;> dsimp only
  · have hlt := Int.compare_eq_lt.1 h
    obtain ⟨m', e', hm', hround, hstored⟩ :=
      round_eq_finite (m := (-d).toNat) .negative (by omega) he
    rw [hround]
    exact hstored
  · exact absurd (Int.compare_eq_eq.1 h) hd
  · have hgt := Int.compare_eq_gt.1 h
    obtain ⟨m', e', hm', hround, hstored⟩ := round_eq_finite (m := d.toNat) .positive (by omega) he
    rw [hround]
    exact hstored

/-- Two numbers in units of the lesser exponent are the same only in all their parts. -/
theorem Stored.sub_ne_zero (h : Stored m e) (h' : Stored m' e') (hm : 0 < m) (hm' : 0 < m')
    (hne : ¬(s = s' ∧ m = m' ∧ e = e')) :
    s.apply ((m * 2 ^ (e - min e e').toNat : Nat) : Int) -
      s'.apply ((m' * 2 ^ (e' - min e e').toNat : Nat) : Int) ≠ 0 := by
  have hpos : 0 < m * 2 ^ (e - min e e').toNat := Nat.mul_pos hm (Nat.two_pow_pos _)
  have hpos' : 0 < m' * 2 ^ (e' - min e e').toNat := Nat.mul_pos hm' (Nat.two_pow_pos _)
  have hmul : s = s' → m * 2 ^ (e - min e e').toNat ≠ m' * 2 ^ (e' - min e e').toNat :=
    fun hs heq => hne ⟨hs, h.eq_of_mul_eq h' heq⟩
  generalize m * 2 ^ (e - min e e').toNat = a at *
  generalize m' * 2 ^ (e' - min e e').toNat = b at *
  cases s <;> cases s' <;> simp only [Sign.apply] <;> simp at hmul <;> omega

theorem nonzero_sub_finite {hm : 0 < m} {hm' : 0 < m'} (h : Stored m e) (h' : Stored m' e')
    (hne : ¬(s = s' ∧ m = m' ∧ e = e')) :
    Nonzero (UnpackedFloat.sub .binary64 (.finite s m e hm) (.finite s' m' e' hm')) := by
  have hleast := h.least
  have hleast' := h'.least
  have hexact : UnpackedFloat.sub .binary64 (.finite s m e hm) (.finite s' m' e' hm') =
      UnpackedFloat.normalize .binary64 (s.apply ((m * 2 ^ (e - min e e').toNat : Nat) : Int) -
        s'.apply ((m' * 2 ^ (e' - min e e').toNat : Nat) : Int)) (min e e') .positive := by
    rw [← Nat.shiftLeft_eq, ← Nat.shiftLeft_eq]
    rfl
  rw [hexact]
  exact nonzero_normalize (h.sub_ne_zero h' hm hm' hne) (le_min hleast hleast') _

theorem nonzero_sub {a b : UnpackedFloat} (ha : ∀ s m e hm, a = .finite s m e hm → Stored m e)
    (hb : ∀ s m e hm, b = .finite s m e hm → Stored m e) (hab : a.compare b ≠ some .eq) :
    Nonzero (UnpackedFloat.sub .binary64 a b) := by
  rcases a with s | _ | s | ⟨s, m, e, hm⟩ <;> rcases b with s' | _ | s' | ⟨s', m', e', hm'⟩
  case infinity.infinity => cases s <;> cases s' <;> trivial
  case zero.zero => exact absurd rfl hab
  case zero.finite => exact hb _ _ _ _ rfl
  case finite.zero => exact ha _ _ _ _ rfl
  case finite.finite =>
    refine nonzero_sub_finite (ha _ _ _ _ rfl) (hb _ _ _ _ rfl) ?_
    rintro ⟨rfl, rfl, rfl⟩
    cases s <;> simp [UnpackedFloat.compare] at hab
  all_goals trivial

/-- A difference that is not zero is not read back as zero. -/
theorem Nonzero.compare_zero_ne {a : UnpackedFloat} (h : Nonzero a) :
    (pack a).unpack.compare (.zero .positive) ≠ some .eq := by
  rcases a with s | _ | s | ⟨s, m, e, hm⟩
  · cases s <;> exact nofun
  · exact nofun
  · exact h.elim
  · rw [unpack_pack h]
    split <;> cases s <;> exact nofun

end Decimal

open Decimal

/-- Doubles that differ have a difference other than zero. -/
theorem sub_ne_zero_of_ne {x y : Float} (h : ¬(x == y) = true) : ¬(x - y == 0) = true := by
  intro hzero
  have hcompare : x.toModel.unpack.compare y.toModel.unpack ≠ some .eq := by
    intro heq
    have hbeq : (x.toModel.unpack.compare y.toModel.unpack == some .eq) = true := beq_iff_eq.2 heq
    exact h hbeq
  have hsub : (pack (UnpackedFloat.sub .binary64 x.toModel.unpack y.toModel.unpack)).unpack.compare
      (.zero .positive) = some .eq := beq_iff_eq.1 hzero
  refine (nonzero_sub ?_ ?_ hcompare).compare_zero_ne hsub
  · exact fun _ _ _ _ => stored_of_unpack
  · exact fun _ _ _ _ => stored_of_unpack

end Sightline

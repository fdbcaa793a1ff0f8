import Mathlib
import Sightline.Link.Parameters

/-!
# Positive doubles

The test `==` on doubles takes the two zeros for one number and a NaN for none. On positive numbers
it is equality (`eq_of_beq_of_isPositive`): a word that reads as a number other than zero is told
by its sign, mantissa and exponent, and these are what the test compares.
-/

namespace Sightline

open Float.Model
open UnpackedFloat (Sign unpackSign unpackExponent unpackMantissa)

/-! ### Words -/

namespace Decimal

variable {b c : BitVec Format.binary64.numBits} {s : Sign} {m : Nat} {e : Int} {hm : 0 < m}

theorem word_ext (hs : unpackSign b = unpackSign c) (he : unpackExponent b = unpackExponent c)
    (hm : unpackMantissa b = unpackMantissa c) : b = c := by
  have hs := congrArg BitVec.toNat hs
  have he := congrArg BitVec.toNat he
  have hm := congrArg BitVec.toNat hm
  simp [unpackSign, unpackExponent, unpackMantissa, Nat.shiftRight_eq_div_pow] at hs he hm
  have hb : b.toNat < 2 ^ 64 := b.isLt
  have hc : c.toNat < 2 ^ 64 := c.isLt
  apply BitVec.eq_of_toNat_eq
  omega

theorem toBitVec_ofBitVec (v : BitVec 1) : (Sign.ofBitVec v).toBitVec = v := by
  revert v
  decide

theorem toNat_one_append (v : BitVec 52) : (1#1 ++ v).toNat = 2 ^ 52 + v.toNat := by
  rw [BitVec.toNat_append, ← Nat.shiftLeft_add_eq_or_of_lt v.isLt]
  rfl

/-- What a word holds that reads as a number other than zero. A number that is not normal has the
exponent zero in place of the least one, and no leading bit. -/
theorem fields_of_unpack (h : UnpackedFloat.unpack .binary64 b = .finite s m e hm) :
    s = Sign.ofBitVec (unpackSign b) ∧
      (((unpackExponent b).toNat = 0 ∧ m = (unpackMantissa b).toNat ∧ e = -1074) ∨
        ((unpackExponent b).toNat ≠ 0 ∧ m = 2 ^ 52 + (unpackMantissa b).toNat ∧
          e = (unpackExponent b).toNat - 1075)) := by
  rw [UnpackedFloat.unpack] at h
  split at h
  · split at h <;> cases h
  · split at h
    · next hexponent =>
      split at h
      · cases h
      · injection h with hs hm he
        refine ⟨hs.symm, .inl ⟨by rw [hexponent]; rfl, hm.symm, ?_⟩⟩
        rw [← he, hexponent]
        rfl
    · next hexponent =>
      injection h with hs hm he
      refine ⟨hs.symm, .inr ⟨fun h0 => hexponent (BitVec.eq_of_toNat_eq h0), ?_, he.symm⟩⟩
      rw [← hm]
      exact toNat_one_append _

theorem eq_of_unpack_eq (hb : UnpackedFloat.unpack .binary64 b = .finite s m e hm)
    (hc : UnpackedFloat.unpack .binary64 c = .finite s m e hm) : b = c := by
  obtain ⟨hbs, hb⟩ := fields_of_unpack hb
  obtain ⟨hcs, hc⟩ := fields_of_unpack hc
  have hbm : (unpackMantissa b).toNat < 2 ^ 52 := (unpackMantissa b).isLt
  have hcm : (unpackMantissa c).toNat < 2 ^ 52 := (unpackMantissa c).isLt
  apply word_ext
  · rw [← toBitVec_ofBitVec (unpackSign b), ← hbs, hcs, toBitVec_ofBitVec]
  · apply BitVec.eq_of_toNat_eq
    omega
  · apply BitVec.eq_of_toNat_eq
    omega

end Decimal

/-! ### Doubles -/

variable {x y : Float} {s : Sign} {m : Nat} {e : Int} {hm : 0 < m}

theorem eq_of_unpack_toModel_eq (hx : x.toModel.unpack = .finite s m e hm)
    (hy : y.toModel.unpack = .finite s m e hm) : x = y := by
  obtain ⟨⟨xbits, _⟩⟩ := x
  obtain ⟨⟨ybits, _⟩⟩ := y
  obtain rfl : xbits = ybits := UInt64.toBitVec_inj.1 (Decimal.eq_of_unpack_eq hx hy)
  rfl

theorem unpack_of_isPositive (h : isPositive x = true) :
    ∃ m e hm, x.toModel.unpack = .finite .positive m e hm := by
  simp only [isPositive, Bool.and_eq_true, decide_eq_true_eq] at h
  obtain ⟨hfinite, hlt⟩ := h
  have hfinite : x.toModel.unpack.isFinite = true := hfinite
  have hlt : UnpackedFloat.lt (.zero .positive) x.toModel.unpack = true :=
    of_decide_eq_true (p := (0 : Float).toModel < x.toModel) hlt
  -- infinite or no number, then zero: only a finite number other than zero is left
  rcases hx : x.toModel.unpack with s | _ | s | ⟨s, m, e, hm⟩
  · rw [hx] at hfinite
    cases hfinite
  · rw [hx] at hfinite
    cases hfinite
  · rw [hx] at hlt
    cases hlt
  · cases s with
    | positive => exact ⟨m, e, hm, rfl⟩
    | negative =>
      rw [hx] at hlt
      cases hlt

theorem eq_of_compare_eq {a : UnpackedFloat}
    (h : UnpackedFloat.compare (.finite .positive m e hm) a = some .eq) :
    a = .finite .positive m e hm := by
  rcases a with s | _ | s | ⟨s, m', e', hm'⟩
  · cases s <;> cases h
  · cases h
  · cases h
  · cases s with
    | negative => cases h
    | positive =>
      obtain ⟨he, hm⟩ := Ordering.then_eq_eq.1 (Option.some.inj h)
      obtain rfl := Std.LawfulEqCmp.eq_of_compare he
      obtain rfl := Std.LawfulEqCmp.eq_of_compare hm
      rfl

theorem eq_of_beq_of_isPositive (hx : isPositive x = true) (h : (x == y) = true) : x = y := by
  obtain ⟨m, e, hm, hx⟩ := unpack_of_isPositive hx
  have hcompare : x.toModel.unpack.compare y.toModel.unpack = some .eq := beq_iff_eq.1 h
  rw [hx] at hcompare
  exact eq_of_unpack_toModel_eq hx (eq_of_compare_eq hcompare)

/-- A double that passes for the frequency of parameters without a fault is this frequency. -/
theorem LinkParameters.frequency_eq_of_beq {p : LinkParameters} {frequency : Float}
    (hp : p.fault? = none) (h : (p.frequency == frequency) = true) : p.frequency = frequency :=
  eq_of_beq_of_isPositive (fault?_eq_none_iff.1 hp).1 h

end Sightline

import Mathlib.Algebra.Order.Ring.Rat
import Mathlib.Tactic.FieldSimp
import Mathlib.Tactic.GCongr
import Mathlib.Tactic.NormNum
import Mathlib.Tactic.Positivity
import Mathlib.Tactic.Ring
import Mathlib.Tactic.Zify
import Sightline.Link.Fresnel

/-!
# The shape of the Fresnel zone

At a sample the square of the half width is a multiple of the product of its distances to both ends
(`halfWidthSquared_eq`), and this product falls with the distance of the sample from the middle
(`reach_lt_reach_iff`). So the zone pinches at both ends and is widest in the middle
(`halfWidthSquared_peaks`).
-/

namespace Sightline

variable {last i j : Nat}

/-! ### Samples -/

/-- The product of the distances of a sample to both ends, counted in samples. -/
def reach (last i : Nat) : Nat := i * (last - i)

/-- Twice the distance of a sample from the middle, counted in samples. -/
def offCenter (last i : Nat) : Nat := ((last : Int) - 2 * i).natAbs

theorem offCenter_sub (h : i ≤ last) : offCenter last (last - i) = offCenter last i := by
  unfold offCenter
  omega

theorem offCenter_lt_of_lt (hij : i < j) (hj : j ≤ last / 2) :
    offCenter last j < offCenter last i := by
  unfold offCenter
  omega

theorem offCenter_middle_le : offCenter last (last / 2) ≤ offCenter last i := by
  unfold offCenter
  omega

/-- Of an even number of samples, two are in the middle. -/
theorem offCenter_eq_middle_iff (h : i ≤ last) :
    offCenter last i = offCenter last (last / 2) ↔ i = last / 2 ∨ i = last - last / 2 := by
  unfold offCenter
  omega

theorem four_mul_reach_add (h : i ≤ last) :
    4 * reach last i + offCenter last i ^ 2 = last ^ 2 := by
  obtain ⟨rest, rfl⟩ := Nat.exists_eq_add_of_le h
  rw [reach, offCenter, Nat.add_sub_cancel_left]
  zify
  rw [sq_abs]
  ring

theorem reach_lt_reach_iff (hi : i ≤ last) (hj : j ≤ last) :
    reach last i < reach last j ↔ offCenter last j < offCenter last i := by
  have hsum := four_mul_reach_add hi
  have hsum' := four_mul_reach_add hj
  have hsquares : offCenter last j ^ 2 < offCenter last i ^ 2 ↔
      offCenter last j < offCenter last i := Nat.pow_lt_pow_iff_left two_ne_zero
  rw [← hsquares]
  omega

theorem reach_eq_reach_iff (hi : i ≤ last) (hj : j ≤ last) :
    reach last i = reach last j ↔ offCenter last i = offCenter last j := by
  have hlt := reach_lt_reach_iff hi hj
  have hgt := reach_lt_reach_iff hj hi
  omega

theorem reach_pos_iff : 0 < reach last i ↔ 0 < i ∧ i < last := by
  rw [reach, CanonicallyOrderedAdd.mul_pos, Nat.sub_pos_iff_lt]

/-! ### Widths -/

section

variable {K : Type} [Field K] {spacing frequency : K} {zone zone' : Nat}

/-- The square of the half width of the first zone at a sample whose reach is one. -/
def zoneUnit (last : Nat) (spacing frequency : K) : K := spacing * wavelength frequency / last

theorem halfWidthSquared_eq (hspacing : spacing ≠ 0) (frequency : K) (zone : Nat) :
    halfWidthSquared last spacing frequency zone i =
      ((zone * reach last i : Nat) : K) * zoneUnit last spacing frequency := by
  rw [halfWidthSquared, reach, zoneUnit, Nat.cast_mul, Nat.cast_mul]
  field_simp

variable [LinearOrder K] [IsStrictOrderedRing K]

theorem wavelength_pos (h : 0 < frequency) : 0 < wavelength frequency := by
  unfold wavelength speedOfLight
  positivity

theorem wavelength_lt_wavelength {frequency' : K} (h : 0 < frequency)
    (hlt : frequency < frequency') : wavelength frequency' < wavelength frequency := by
  unfold wavelength speedOfLight
  gcongr

theorem zoneUnit_pos (hlast : 0 < last) (hspacing : 0 < spacing) (hfrequency : 0 < frequency) :
    0 < zoneUnit last spacing frequency := by
  have hwavelength := wavelength_pos hfrequency
  unfold zoneUnit
  positivity

/-- At one frequency, squares are compared by the zone and the reach of their samples. -/
theorem halfWidthSquared_lt_iff (hlast : 0 < last) (hspacing : 0 < spacing)
    (hfrequency : 0 < frequency) :
    halfWidthSquared last spacing frequency zone i <
        halfWidthSquared last spacing frequency zone' j ↔
      zone * reach last i < zone' * reach last j := by
  rw [halfWidthSquared_eq hspacing.ne', halfWidthSquared_eq hspacing.ne',
    mul_lt_mul_iff_of_pos_right (zoneUnit_pos hlast hspacing hfrequency), Nat.cast_lt]

theorem halfWidthSquared_lt_of_frequency_lt {frequency' : K} (hspacing : 0 < spacing)
    (hfrequency : 0 < frequency) (hlt : frequency < frequency') (hzone : 0 < zone) (hi : 0 < i)
    (hilast : i < last) :
    halfWidthSquared last spacing frequency' zone i <
      halfWidthSquared last spacing frequency zone i := by
  have hreach : 0 < reach last i := reach_pos_iff.2 ⟨hi, hilast⟩
  have hlast : 0 < last := hi.trans hilast
  have hwavelength := wavelength_lt_wavelength hfrequency hlt
  rw [halfWidthSquared_eq hspacing.ne', halfWidthSquared_eq hspacing.ne']
  unfold zoneUnit
  gcongr

end

/-- At both ends of a link the square of the half width is zero, and it is positive between them.
It is the same as far from the one end as from the other, and grows up to the middle, where it is
greatest. It grows with the zone, and falls as the frequency rises. -/
theorem halfWidthSquared_peaks {length zone : Nat} {spacing frequency : ℚ} (two : 2 ≤ length)
    (hspacing : 0 < spacing) (hfrequency : 0 < frequency) (hzone : 1 ≤ zone) :
    let last := length - 1
    let square := halfWidthSquared last spacing frequency zone
    square 0 = 0 ∧ square last = 0 ∧ (∀ i, 0 < i → i < last → 0 < square i) ∧
      (∀ i < length, square (last - i) = square i) ∧
      (∀ i j, i < j → j ≤ last / 2 → square i < square j) ∧
      (∀ i < length, square i ≤ square (last / 2) ∧
        (square i = square (last / 2) ↔ i = last / 2 ∨ i = last - last / 2)) ∧
      ∀ i, 0 < i → i < last →
        (∀ zone', zone < zone' →
          square i < halfWidthSquared last spacing frequency zone' i) ∧
        ∀ frequency', frequency < frequency' →
          halfWidthSquared last spacing frequency' zone i < square i := by
  intro last square
  have hlast : 0 < last := Nat.sub_pos_of_lt two
  have hmiddle : last / 2 ≤ last := Nat.div_le_self _ _
  have hlt : ∀ i j, square i < square j ↔ reach last i < reach last j := by
    intro i j
    rw [halfWidthSquared_lt_iff hlast hspacing hfrequency, Nat.mul_lt_mul_left hzone]
  have heq : ∀ i j, square i = square j ↔ reach last i = reach last j := by
    intro i j
    rw [le_antisymm_iff, ← not_lt, ← not_lt, hlt, hlt]
    omega
  have hzero : square 0 = 0 := by simp [square, halfWidthSquared]
  refine ⟨hzero, by simp [square, halfWidthSquared], ?_, ?_, ?_, ?_, ?_⟩
  · intro i hi hilast
    rw [← hzero, hlt]
    simpa [reach] using reach_pos_iff.2 ⟨hi, hilast⟩
  · intro i hi
    have hle : i ≤ last := Nat.le_sub_one_of_lt hi
    rw [heq, reach_eq_reach_iff (Nat.sub_le _ _) hle, offCenter_sub hle]
  · intro i j hij hj
    have hle : j ≤ last := hj.trans hmiddle
    rw [hlt, reach_lt_reach_iff (hij.le.trans hle) hle]
    exact offCenter_lt_of_lt hij hj
  · intro i hi
    have hle : i ≤ last := Nat.le_sub_one_of_lt hi
    rw [← not_lt, hlt, heq, reach_lt_reach_iff hmiddle hle, reach_eq_reach_iff hle hmiddle]
    exact ⟨offCenter_middle_le.not_gt, offCenter_eq_middle_iff hle⟩
  · intro i hi hilast
    refine ⟨fun zone' hzones => ?_, fun frequency' hrises => ?_⟩
    · rw [halfWidthSquared_lt_iff hlast hspacing hfrequency]
      exact Nat.mul_lt_mul_of_pos_right hzones (reach_pos_iff.2 ⟨hi, hilast⟩)
    · exact halfWidthSquared_lt_of_frequency_lt hspacing hfrequency hrises hzone hi hilast

/-- Seven samples, a kilometer apart, at five gigahertz, and at six. -/
theorem halfWidthSquared_peaks_sevenSamples :
    let square : Nat → ℚ := halfWidthSquared 6 1000 5 1
    square 0 = 0 ∧ square 2 < square 3 ∧ square 4 = square 2 ∧
      square 3 < halfWidthSquared 6 1000 5 2 3 ∧ halfWidthSquared 6 1000 6 1 3 < square 3 := by
  have hspacing : (0 : ℚ) < 1000 := by norm_num
  have hfrequency : (0 : ℚ) < 5 := by norm_num
  obtain ⟨hzero, -, -, hsame, hgrows, -, hinside⟩ :=
    halfWidthSquared_peaks (by decide : 2 ≤ 7) hspacing hfrequency (le_refl 1)
  obtain ⟨hzone, hfalls⟩ := hinside 3 (by decide) (by decide)
  exact ⟨hzero, hgrows 2 3 (by decide) (by decide), hsame 2 (by decide), hzone 2 (by decide),
    hfalls 6 (by norm_num)⟩

end Sightline

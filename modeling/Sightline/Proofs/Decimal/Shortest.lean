import Mathlib
import Sightline.Decimal.Shortest
import Sightline.Proofs.Decimal.Rounding

/-!
# Shortest decimals read back

A decimal that is found on a grid lies between the midpoints to the two neighbours of the double,
and so do all its digits (`rounds_shortest`). No number lies so for two doubles (`Rounds.eq`), so
the shortest decimal tells the double.
-/

namespace Sightline.Decimal

/-- The number that digits stand for. -/
def Digits.value (d : Digits) : ℚ := d.significand * 10 ^ d.exponent

namespace Binary

variable {b b' : Binary} {x : ℚ} {k : Int} {c : Nat} {tie : Tie} {digits : Digits}

/-- The exact number. -/
def value (b : Binary) : ℚ := b.mantissa * 2 ^ b.exponent

/-- A quarter of the last binary place. -/
def quarter (b : Binary) : ℚ := 2 ^ (b.exponent - 2)

/-- The quarters up to the midpoint below. -/
def lowest (b : Binary) : Nat := 4 * b.mantissa - b.reach.1

/-- The quarters up to the midpoint above. -/
def highest (b : Binary) : Nat := 4 * b.mantissa + b.reach.2

/-- Whether a number is rounded to this one. The midpoints are if the mantissa is even. -/
def Rounds (b : Binary) (x : ℚ) : Prop :=
  if b.mantissa % 2 = 0 then b.lowest * b.quarter ≤ x ∧ x ≤ b.highest * b.quarter
  else b.lowest * b.quarter < x ∧ x < b.highest * b.quarter

theorem quarter_pos (b : Binary) : 0 < b.quarter := zpow_pos two_pos _

theorem lowest_le (b : Binary) : b.lowest ≤ 4 * b.mantissa := Nat.sub_le _ _

theorem highest_eq (b : Binary) : b.highest = 4 * b.mantissa + 2 := rfl

/-! ### The grid -/

theorem zpow_mul_pow_toNat {a : ℚ} (ha : a ≠ 0) (e : Int) :
    a ^ e * a ^ (-e).toNat = a ^ e.toNat := by
  rw [← zpow_natCast, ← zpow_natCast, ← zpow_add₀ ha]
  congr 1
  omega

/-- What `scaled` and `step` count in. -/
def scale (b : Binary) (k : Int) : ℚ := 2 ^ (2 - b.exponent).toNat * 10 ^ (-k).toNat

theorem scale_pos (b : Binary) (k : Int) : 0 < b.scale k := by
  unfold scale
  positivity

theorem scaled_eq (b : Binary) (k : Int) (quarters : Nat) :
    (b.scaled k quarters : ℚ) = quarters * b.quarter * b.scale k := by
  have hpow := zpow_mul_pow_toNat (two_ne_zero (α := ℚ)) (b.exponent - 2)
  rw [neg_sub] at hpow
  calc (b.scaled k quarters : ℚ)
      = quarters * 2 ^ (b.exponent - 2).toNat * 10 ^ (-k).toNat := by
        simp only [scaled, Nat.pow_eq]
        push_cast
        rfl
    _ = quarters * b.quarter * b.scale k := by
        rw [← hpow, quarter, scale]
        ring

theorem step_eq (b : Binary) (k : Int) (c : Nat) :
    ((c * b.step k : Nat) : ℚ) = c * 10 ^ k * b.scale k := by
  have hpow := zpow_mul_pow_toNat (a := (10 : ℚ)) (by decide) k
  calc ((c * b.step k : Nat) : ℚ) = c * (10 ^ k.toNat * 2 ^ (2 - b.exponent).toNat) := by
        simp only [step, Nat.pow_eq]
        push_cast
        rfl
    _ = c * 10 ^ k * b.scale k := by
        rw [← hpow, scale]
        ring

/-- The test on the grid compares with the midpoints. -/
theorem contains_iff : b.contains k c = true ↔ b.Rounds (c * 10 ^ k) := by
  have hscale := b.scale_pos k
  have hle : ∀ quarters : Nat, b.scaled k quarters ≤ c * b.step k ↔
      quarters * b.quarter ≤ c * 10 ^ k := fun quarters => by
    rw [← Nat.cast_le (α := ℚ), scaled_eq, step_eq, mul_le_mul_iff_left₀ hscale]
  have hge : ∀ quarters : Nat, c * b.step k ≤ b.scaled k quarters ↔
      c * 10 ^ k ≤ quarters * b.quarter := fun quarters => by
    rw [← Nat.cast_le (α := ℚ), scaled_eq, step_eq, mul_le_mul_iff_left₀ hscale]
  rw [contains, Rounds]
  split
  · simp only [Bool.and_eq_true, decide_eq_true_eq, hle, hge]
    rfl
  · simp only [Bool.and_eq_true, decide_eq_true_eq, ← not_le, hle, hge]
    rfl

theorem rounds_of_onGrid (h : b.onGrid tie k = some digits) : b.Rounds digits.value := by
  simp only [onGrid] at h
  split at h
  · cases h
  · next hbelow _ =>
    cases h
    exact contains_iff.1 hbelow
  · next habove =>
    cases h
    exact contains_iff.1 habove
  · next hbelow habove =>
    have hneighbours (up : Bool) {n : Nat} (hn : b.contains k n = true)
        (hn' : b.contains k (n + 1) = true) :
        b.Rounds (Digits.mk (if up then n + 1 else n) k).value := by
      cases up
      · exact contains_iff.1 hn
      · exact contains_iff.1 hn'
    cases h
    exact hneighbours _ hbelow habove

/-! ### All digits -/

theorem value_exact (b : Binary) : b.exact.value = b.value := by
  rw [exact, value]
  split
  · next hneg =>
    have hexponent : b.exponent = -(b.exponent.natAbs : Int) := by omega
    generalize b.exponent.natAbs = n at *
    rw [Digits.value, hexponent]
    dsimp only
    rw [zpow_neg, zpow_neg, zpow_natCast, zpow_natCast]
    have hten : (10 : ℚ) ^ n = 5 ^ n * 2 ^ n := by
      rw [← mul_pow]
      norm_num
    rw [Nat.pow_eq, hten]
    push_cast
    field_simp
  · next hnonneg =>
    have hexponent : b.exponent = (b.exponent.toNat : Int) := by omega
    generalize b.exponent.toNat = n at *
    rw [Digits.value, hexponent]
    simp

theorem value_eq (b : Binary) : b.value = (4 * b.mantissa : Nat) * b.quarter := by
  rw [value, quarter, zpow_sub₀ two_ne_zero]
  push_cast
  field_simp

theorem rounds_value (h : 0 < b.mantissa) : b.Rounds b.value := by
  have hquarter := b.quarter_pos
  have hreach : 0 < b.reach.1 := by
    rw [reach]
    split <;> decide
  have hlow : b.lowest < 4 * b.mantissa := Nat.sub_lt (by omega) hreach
  have hhigh : 4 * b.mantissa < b.highest := by
    rw [highest_eq]
    omega
  have hlow' : (b.lowest : ℚ) * b.quarter < b.value := by
    rw [value_eq]
    gcongr
  have hhigh' : b.value < b.highest * b.quarter := by
    rw [value_eq]
    gcongr
  rw [Rounds]
  split
  · exact ⟨hlow'.le, hhigh'.le⟩
  · exact ⟨hlow', hhigh'⟩

/-- The shortest decimal is rounded to the number. -/
theorem rounds_shortest (h : 0 < b.mantissa) (tie : Tie) : b.Rounds (b.shortest tie).value := by
  rw [shortest]
  cases hgrids : (List.range 21).findSome? fun (i : Nat) => b.onGrid tie (b.coarsest - i) with
  | none =>
    rw [Option.getD_none, value_exact]
    exact rounds_value h
  | some digits =>
    obtain ⟨i, -, hgrid⟩ := List.exists_of_findSome?_eq_some hgrids
    exact rounds_of_onGrid hgrid

/-! ### Intervals of doubles -/

/-- Whether this is the size of a double. -/
structure IsDouble (b : Binary) : Prop where
  stored : Stored b.mantissa b.exponent
  narrow_iff : b.narrowBelow = true ↔ b.mantissa = 2 ^ 52 ∧ -1074 < b.exponent

/-- The midpoint above a double is not above the midpoint below a greater one. Where they meet, one
of the mantissas is odd. -/
theorem highest_le_lowest (h : b.IsDouble) (h' : b'.IsDouble)
    (hlt : b.exponent < b'.exponent ∨ b.exponent = b'.exponent ∧ b.mantissa < b'.mantissa) :
    b.highest ≤ b'.lowest * 2 ^ (b'.exponent - b.exponent).toNat ∧
      (b.highest = b'.lowest * 2 ^ (b'.exponent - b.exponent).toNat →
        b.mantissa % 2 = 1 ∨ b'.mantissa % 2 = 1) := by
  have hmantissa := h.stored.lt
  have hreach : b'.reach.1 = if b'.narrowBelow then 1 else 2 := rfl
  rw [highest_eq, lowest, hreach]
  rcases hlt with hlt | ⟨heq, hlt⟩
  · have hleast := h.stored.least
    have hleading := h'.stored.leading
    obtain ⟨d, hd⟩ : ∃ d, (b'.exponent - b.exponent).toNat = d + 1 :=
      ⟨(b'.exponent - b.exponent).toNat - 1, by omega⟩
    have hpow : 1 ≤ 2 ^ d := Nat.one_le_two_pow
    have hdouble : ∀ q, 2 * q ≤ q * 2 ^ (d + 1) := fun q => by
      rw [Nat.pow_succ']
      nlinarith
    rw [hd]
    split
    · next hnarrow =>
      have := h'.narrow_iff.1 hnarrow
      have := hdouble (4 * b'.mantissa - 1)
      omega
    · next hnarrow =>
      have := mt h'.narrow_iff.2 hnarrow
      have := hdouble (4 * b'.mantissa - 2)
      omega
  · have hzero : (b'.exponent - b.exponent).toNat = 0 := by omega
    rw [hzero, Nat.pow_zero, Nat.mul_one]
    split
    · next hnarrow =>
      have := (h'.narrow_iff.1 hnarrow).1
      omega
    · omega

theorem Rounds.le_highest (h : b.Rounds x) :
    x ≤ b.highest * b.quarter ∧ (b.mantissa % 2 = 1 → x < b.highest * b.quarter) := by
  rw [Rounds] at h
  split at h
  · next heven => exact ⟨h.2, fun hodd => by omega⟩
  · exact ⟨h.2.le, fun _ => h.2⟩

theorem Rounds.lowest_le (h : b.Rounds x) :
    b.lowest * b.quarter ≤ x ∧ (b.mantissa % 2 = 1 → b.lowest * b.quarter < x) := by
  rw [Rounds] at h
  split at h
  · next heven => exact ⟨h.1, fun hodd => by omega⟩
  · exact ⟨h.1.le, fun _ => h.1⟩

theorem Rounds.not_lesser (hx : b.Rounds x) (hx' : b'.Rounds x) (h : b.IsDouble)
    (h' : b'.IsDouble) :
    ¬(b.exponent < b'.exponent ∨ b.exponent = b'.exponent ∧ b.mantissa < b'.mantissa) := by
  intro hlt
  obtain ⟨hle, hmeet⟩ := highest_le_lowest h h' hlt
  have hquarter : b'.quarter = 2 ^ (b'.exponent - b.exponent).toNat * b.quarter := by
    rw [quarter, quarter, ← zpow_natCast, ← zpow_add₀ two_ne_zero]
    congr 1
    omega
  obtain ⟨hhigh, hhigh'⟩ := hx.le_highest
  obtain ⟨hlow, hlow'⟩ := hx'.lowest_le
  rw [hquarter, ← mul_assoc] at hlow hlow'
  have hpos := b.quarter_pos
  have hge : b'.lowest * 2 ^ (b'.exponent - b.exponent).toNat ≤ b.highest := by
    have := le_of_mul_le_mul_right (hlow.trans hhigh) hpos
    exact_mod_cast this
  have heq := le_antisymm hle hge
  have hends : (b.highest : ℚ) = b'.lowest * 2 ^ (b'.exponent - b.exponent).toNat := by
    exact_mod_cast heq
  rw [hends] at hhigh hhigh'
  rcases hmeet heq with hodd | hodd
  · exact absurd (hhigh' hodd) (not_lt.2 hlow)
  · exact absurd (hlow' hodd) (not_lt.2 hhigh)

/-- No number is rounded to two doubles. -/
theorem Rounds.eq (hx : b.Rounds x) (hx' : b'.Rounds x) (h : b.IsDouble) (h' : b'.IsDouble) :
    b = b' := by
  have hlt := hx.not_lesser hx' h h'
  have hgt := hx'.not_lesser hx h' h
  have hexponent : b.exponent = b'.exponent := by omega
  have hmantissa : b.mantissa = b'.mantissa := by omega
  have hnarrow : b.narrowBelow = b'.narrowBelow := by
    rw [Bool.eq_iff_iff, h.narrow_iff, h'.narrow_iff, hexponent, hmantissa]
  cases b
  cases b'
  rw [mk.injEq]
  exact ⟨hmantissa, hexponent, hnarrow⟩

end Binary

end Sightline.Decimal

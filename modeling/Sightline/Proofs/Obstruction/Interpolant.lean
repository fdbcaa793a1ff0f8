import Mathlib
import Sightline.Obstruction.Resample
import Sightline.Proofs.Decimal.Differences

/-!
# The piecewise linear interpolant

For ascending abscissas the binary search finds the segment of a target, and the values are those of
the one function that passes through all known points and is affine on each segment, the first and
the last of which have no end outside (`resample_interpolates`).
-/

namespace Sightline

/-! ### The search -/

section

variable {α : Type} [LinearOrder α] {knots : Array (α × α)} {x : α} {i j k : Nat}

/-- Every abscissa is greater than those before it. -/
def AscendingKnots (knots : Array (α × α)) : Prop :=
  ∀ i j (hij : i < j) (hj : j < knots.size), knots[i].1 < knots[j].1

theorem AscendingKnots.le (h : AscendingKnots knots) (hij : i ≤ j) (hj : j < knots.size) :
    knots[i].1 ≤ knots[j].1 := by
  rcases Nat.lt_or_eq_of_le hij with hlt | rfl
  · exact (h i j hlt hj).le
  · exact le_rfl

/-- Whether exactly the first `count` abscissas are below the target. -/
def Splits (knots : Array (α × α)) (x : α) (count : Nat) : Prop :=
  ∀ i (h : i < knots.size), knots[i].1 < x ↔ i < count

/-- Of the abscissas, those before the searched part are below the target and those after it are
not. This holds at every step of the search. -/
theorem splits_countBelowFrom (h : AscendingKnots knots) (base size : Nat)
    (inside : base + size ≤ knots.size) (pos : 0 < size)
    (hbelow : ∀ i (hi : i < base), knots[i].1 < x)
    (habove : ∀ i (_ : base + size ≤ i) (hi : i < knots.size), x ≤ knots[i].1) :
    Splits knots x (countBelowFrom knots x base size inside pos) := by
  fun_induction countBelowFrom knots x base size inside pos with
  | case1 base inside pos hlt =>
    intro i hi
    refine ⟨fun hix => ?_, fun hle => ?_⟩
    · by_contra hge
      exact not_lt_of_ge (habove i (by omega) hi) hix
    · rcases Nat.lt_or_eq_of_le (Nat.le_of_lt_succ hle) with hlt' | rfl
      · exact hbelow i hlt'
      · exact hlt
  | case2 base inside pos hge =>
    intro i hi
    refine ⟨fun hix => ?_, fun hle => hbelow i hle⟩
    by_contra hge'
    rcases Nat.lt_or_eq_of_le (Nat.le_of_not_lt hge') with hlt | rfl
    · exact not_lt_of_ge (habove i (by omega) hi) hix
    · exact hge hix
  | case3 base size inside pos hone half bound hlt ih =>
    refine ih (fun i hi => ?_) (fun i hle hi => habove i (by omega) hi)
    exact lt_of_le_of_lt (h.le hi.le bound) hlt
  | case4 base size inside pos hone half bound hge ih =>
    refine ih hbelow fun i hle hi => ?_
    exact le_trans (not_lt.1 hge) (h.le (by omega) hi)

theorem splits_countBelow (h : AscendingKnots knots) (x : α) :
    Splits knots x (countBelow knots x) := by
  rw [countBelow]
  split
  · exact splits_countBelowFrom h _ _ _ _ (by omega) (by omega)
  · intro i hi
    omega

/-! ### Segments -/

/-- Whether a segment is the one for a target. The first one has no end below and the last one has
no end above. -/
structure Covers (knots : Array (α × α)) (k : Nat) (x : α) : Prop where
  lt_size : k + 1 < knots.size
  low : 0 < k → knots[k].1 ≤ x
  high : k + 2 < knots.size → x ≤ knots[k + 1].1

/-- The number of the segment that is taken for a target. -/
def segment (knots : Array (α × α)) (x : α) : Nat :=
  min (countBelow knots x - 1) (knots.size - 2)

theorem covers_segment (h : AscendingKnots knots) (two : 2 ≤ knots.size) (x : α) :
    Covers knots (segment knots x) x := by
  have hsplits := splits_countBelow h x
  rw [segment]
  refine ⟨by omega, fun hpos => ?_, fun hlt => ?_⟩
  · exact ((hsplits _ (by omega)).2 (by omega)).le
  · exact not_lt.1 (mt (hsplits _ (by omega)).1 (by omega))

/-! ### Points of two lists -/

variable {xs ys : List α}

theorem ascendingKnots_zip (h : xs.Pairwise (· < ·)) : AscendingKnots (xs.zip ys).toArray := by
  intro i j hij hj
  simp only [List.size_toArray, List.length_zip] at hj
  simpa using List.pairwise_iff_getElem.1 h i j (by omega) (by omega) hij

theorem covers_zip_iff (hx : k + 1 < xs.length) (hy : k + 1 < ys.length) :
    Covers (xs.zip ys).toArray k x ↔
      (0 < k → xs[k] ≤ x) ∧ (k + 2 < min xs.length ys.length → x ≤ xs[k + 1]) := by
  constructor
  · intro h
    exact ⟨by simpa using h.low, by simpa using h.high⟩
  · rintro ⟨hlow, hhigh⟩
    exact ⟨by simp; omega, by simpa using hlow, by simpa using hhigh⟩

end

/-! ### Lines -/

section

variable {K : Type} [Field K] [LinearOrder K] {p q p' q' : K × K} {a b x : K}

theorem lineThrough_left (p q : K × K) : lineThrough p q p.1 = p.2 := by
  simp [lineThrough]

/-- Between the abscissas the line weighs both ordinates. -/
theorem lineThrough_eq_div (h : p.1 ≠ q.1) (x : K) :
    lineThrough p q x = ((q.1 - x) * p.2 + (x - p.1) * q.2) / (q.1 - p.1) := by
  have hsub : q.1 - p.1 ≠ 0 := sub_ne_zero.2 h.symm
  rw [lineThrough, if_neg (by simpa using h.symm)]
  field_simp
  ring

theorem lineThrough_right (h : p.1 ≠ q.1) : lineThrough p q q.1 = q.2 := by
  have hsub : q.1 - p.1 ≠ 0 := sub_ne_zero.2 h.symm
  rw [lineThrough_eq_div h]
  field_simp
  ring

theorem exists_lineThrough_eq (h : p.1 ≠ q.1) : ∃ a b, ∀ x, lineThrough p q x = a * x + b := by
  refine ⟨(q.2 - p.2) / (q.1 - p.1), (q.1 * p.2 - p.1 * q.2) / (q.1 - p.1), fun x => ?_⟩
  rw [lineThrough_eq_div h]
  ring

/-- Two points of a line tell all of it. -/
theorem lineThrough_eq_of_affine (h : p.1 ≠ q.1) (hp : a * p.1 + b = p.2) (hq : a * q.1 + b = q.2)
    (x : K) : lineThrough p q x = a * x + b := by
  have hsub : q.1 - p.1 ≠ 0 := sub_ne_zero.2 h.symm
  rw [lineThrough_eq_div h, ← hp, ← hq]
  field_simp
  ring

variable [IsStrictOrderedRing K]

/-- Between the abscissas a line through higher points is higher. -/
theorem lineThrough_le_lineThrough (h : p.1 < q.1) (hp : p'.1 = p.1) (hq : q'.1 = q.1)
    (hlow : p.1 ≤ x) (hhigh : x ≤ q.1) (hple : p'.2 ≤ p.2) (hqle : q'.2 ≤ q.2) :
    lineThrough p' q' x ≤ lineThrough p q x := by
  rw [lineThrough_eq_div h.ne, lineThrough_eq_div (by rw [hp, hq]; exact h.ne), hp, hq]
  have hpos : 0 ≤ q.1 - p.1 := (sub_pos.2 h).le
  have hleft : 0 ≤ q.1 - x := sub_nonneg.2 hhigh
  have hright : 0 ≤ x - p.1 := sub_nonneg.2 hlow
  gcongr

/-- Between the abscissas a line stays between the ordinates. -/
theorem lineThrough_mem_Icc (h : p.1 < q.1) (hlow : p.1 ≤ x) (hhigh : x ≤ q.1) :
    lineThrough p q x ∈ Set.Icc (min p.2 q.2) (max p.2 q.2) := by
  have hconst : ∀ c, lineThrough (p.1, c) (q.1, c) x = c := by
    intro c
    have := lineThrough_eq_of_affine (p := (p.1, c)) (q := (q.1, c)) (a := 0) (b := c) h.ne
      (by simp) (by simp) x
    simpa using this
  constructor
  · rw [← hconst (min p.2 q.2)]
    exact lineThrough_le_lineThrough h rfl rfl hlow hhigh (min_le_left _ _) (min_le_right _ _)
  · rw [← hconst (max p.2 q.2)]
    exact lineThrough_le_lineThrough h rfl rfl hlow hhigh (le_max_left _ _) (le_max_right _ _)

end

/-! ### Values -/

section

variable {K : Type} [Field K] [LinearOrder K] {knots : Array (K × K)} {x : K} {j k : Nat}

/-- The line of a segment. -/
def segmentLine (knots : Array (K × K)) (k : Nat) (h : k + 1 < knots.size) (x : K) : K :=
  lineThrough knots[k] knots[k + 1] x

theorem segmentLine_left (h : k + 1 < knots.size) : segmentLine knots k h knots[k].1 = knots[k].2 :=
  lineThrough_left _ _

theorem segmentLine_right (h : AscendingKnots knots) (hk : k + 1 < knots.size) :
    segmentLine knots k hk knots[k + 1].1 = knots[k + 1].2 :=
  lineThrough_right (h k (k + 1) (Nat.lt_succ_self k) hk).ne

/-- Two segments for one target meet at it, and both lines pass through the point that they
share. -/
theorem Covers.segmentLine_eq_of_lt (h : AscendingKnots knots) (hj : Covers knots j x)
    (hk : Covers knots k x) (hlt : j < k) :
    segmentLine knots j hj.lt_size x = segmentLine knots k hk.lt_size x := by
  have hj' := hj.lt_size
  have hk' := hk.lt_size
  have hhigh := hj.high (by omega)
  have hlow := hk.low (by omega)
  have hle := h.le (i := j + 1) (j := k) hlt (by omega)
  obtain rfl : x = knots[j + 1].1 := le_antisymm hhigh (hle.trans hlow)
  obtain rfl : k = j + 1 := by
    by_contra hne
    exact absurd (h (j + 1) k (by omega) (by omega)) (not_lt_of_ge hlow)
  rw [segmentLine_right h, segmentLine_left]

theorem Covers.segmentLine_eq (h : AscendingKnots knots) (hj : Covers knots j x)
    (hk : Covers knots k x) :
    segmentLine knots j hj.lt_size x = segmentLine knots k hk.lt_size x := by
  rcases Nat.lt_trichotomy j k with hlt | rfl | hgt
  · exact hj.segmentLine_eq_of_lt h hk hlt
  · rfl
  · exact (hk.segmentLine_eq_of_lt h hj hgt).symm

/-- The value may be taken from any segment for the target. -/
theorem valueAt_eq_segmentLine (h : AscendingKnots knots) (two : 2 ≤ knots.size)
    (hk : Covers knots k x) : valueAt knots two x = segmentLine knots k hk.lt_size x :=
  (covers_segment h two x).segmentLine_eq h hk

/-- For the abscissa of a known point the value is its ordinate. -/
theorem valueAt_knot (h : AscendingKnots knots) (two : 2 ≤ knots.size) (hk : k < knots.size) :
    valueAt knots two knots[k].1 = knots[k].2 := by
  by_cases hlast : k + 1 < knots.size
  · have hcovers : Covers knots k knots[k].1 :=
      ⟨hlast, fun _ => le_rfl, fun _ => h.le (Nat.le_succ k) hlast⟩
    rw [valueAt_eq_segmentLine h two hcovers, segmentLine_left]
  · -- the last point ends the last segment
    obtain ⟨j, rfl⟩ : ∃ j, k = j + 1 := ⟨k - 1, by omega⟩
    have hcovers : Covers knots j knots[j + 1].1 :=
      ⟨hk, fun _ => h.le (Nat.le_succ j) hk, fun _ => le_rfl⟩
    rw [valueAt_eq_segmentLine h two hcovers, segmentLine_right h]

end

/-! ### The interpolant of two lists -/

section

variable {K : Type} [Field K] [LinearOrder K] {xs ys : List K} {f g : K → K} {a b x : K} {k : Nat}

/-- Whether a function passes through the known points and is affine on every segment between two of
them. The first segment has no end below and the last one no end above. -/
structure Interpolates (xs ys : List K) (f : K → K) : Prop where
  knot : ∀ k (_ : k < xs.length) (_ : k < ys.length), f xs[k] = ys[k]
  affine : ∀ k (_ : k + 1 < xs.length) (_ : k + 1 < ys.length), ∃ a b, ∀ x,
    (0 < k → xs[k] ≤ x) → (k + 2 < min xs.length ys.length → x ≤ xs[k + 1]) → f x = a * x + b

theorem resample_eq_map (two : 2 ≤ (xs.zip ys).toArray.size) (targets : List K) :
    resample targets xs ys = targets.map (valueAt (xs.zip ys).toArray two) := by
  rw [resample, dif_pos two]

theorem interpolates_valueAt (h : xs.Pairwise (· < ·)) (two : 2 ≤ (xs.zip ys).toArray.size) :
    Interpolates xs ys (valueAt (xs.zip ys).toArray two) := by
  have hknots : AscendingKnots (xs.zip ys).toArray := ascendingKnots_zip h
  constructor
  · intro k hx hy
    have hsize : k < (xs.zip ys).toArray.size := by
      simp
      omega
    simpa using valueAt_knot hknots two hsize
  · intro k hx hy
    have hsize : k + 1 < (xs.zip ys).toArray.size := by
      simp
      omega
    obtain ⟨a, b, hline⟩ := exists_lineThrough_eq (hknots k (k + 1) (Nat.lt_succ_self k) hsize).ne
    refine ⟨a, b, fun x hlow hhigh => ?_⟩
    rw [valueAt_eq_segmentLine hknots two ((covers_zip_iff hx hy).2 ⟨hlow, hhigh⟩), segmentLine,
      hline]

/-- No other function interpolates the points. -/
theorem Interpolates.eq_valueAt (hg : Interpolates xs ys g) (h : xs.Pairwise (· < ·))
    (two : 2 ≤ (xs.zip ys).toArray.size) : g = valueAt (xs.zip ys).toArray two := by
  have hknots : AscendingKnots (xs.zip ys).toArray := ascendingKnots_zip h
  funext x
  obtain ⟨k, hk⟩ : ∃ k, Covers (xs.zip ys).toArray k x := ⟨_, covers_segment hknots two x⟩
  obtain ⟨hx, hy⟩ : k + 1 < xs.length ∧ k + 1 < ys.length := by simpa using hk.lt_size
  obtain ⟨a, b, hline⟩ := hg.affine k hx hy
  obtain ⟨hlow, hhigh⟩ := (covers_zip_iff hx hy).1 hk
  have hne := hknots k (k + 1) (Nat.lt_succ_self k) hk.lt_size
  have hlt : xs[k] < xs[k + 1] := by simpa using hne
  have hleft : a * xs[k] + b = ys[k] := by
    rw [← hline _ (fun _ => le_rfl) (fun _ => hlt.le), hg.knot]
  have hright : a * xs[k + 1] + b = ys[k + 1] := by
    rw [← hline _ (fun _ => hlt.le) (fun _ => le_rfl), hg.knot]
  rw [hline x hlow hhigh, valueAt_eq_segmentLine hknots two hk, segmentLine,
    lineThrough_eq_of_affine hne.ne (by simpa using hleft) (by simpa using hright)]

/-- Between two neighbouring points the value lies between their ordinates. -/
theorem valueAt_mem_Icc [IsStrictOrderedRing K] (h : xs.Pairwise (· < ·))
    (two : 2 ≤ (xs.zip ys).toArray.size) (hx : k + 1 < xs.length) (hy : k + 1 < ys.length)
    (hlow : xs[k] ≤ x) (hhigh : x ≤ xs[k + 1]) :
    valueAt (xs.zip ys).toArray two x ∈ Set.Icc (min ys[k] ys[k + 1]) (max ys[k] ys[k + 1]) := by
  have hknots : AscendingKnots (xs.zip ys).toArray := ascendingKnots_zip h
  have hk : Covers (xs.zip ys).toArray k x :=
    (covers_zip_iff hx hy).2 ⟨fun _ => hlow, fun _ => hhigh⟩
  have hlt := hknots k (k + 1) (Nat.lt_succ_self k) hk.lt_size
  rw [valueAt_eq_segmentLine hknots two hk, segmentLine]
  simpa using lineThrough_mem_Icc hlt (x := x) (by simpa using hlow) (by simpa using hhigh)

end

/-! ### Checked resampling -/

section

variable {α : Type} [Add α] [Sub α] [Mul α] [Div α] [BEq α]

/-- The line of a segment at `x`, unless an index is out of range or the division fails. -/
def checkedLine (divide : α → α → Option α) (xs ys : List α) (first : Nat) (x : α) : Option α := do
  let x₀ ← xs[first]?
  let x₁ ← xs[first + 1]?
  let y₀ ← ys[first]?
  let y₁ ← ys[first + 1]?
  if x₁ == x₀ then
    return y₀
  else
    return y₀ + (← divide ((x - x₀) * (y₁ - y₀)) (x₁ - x₀))

variable {divide : α → α → Option α} {xs ys : List α} {first : Nat}

theorem checkedLine_eq_some
    (hdivide : ∀ a b c, ¬(b == c) → divide a (b - c) = some (a / (b - c)))
    (hx : first + 1 < xs.length) (hy : first + 1 < ys.length) (x : α) :
    checkedLine divide xs ys first x =
      some (lineThrough (xs[first], ys[first]) (xs[first + 1], ys[first + 1]) x) := by
  have hx₀ := Nat.lt_of_succ_lt hx
  have hy₀ := Nat.lt_of_succ_lt hy
  simp only [checkedLine, List.getElem?_eq_getElem, hx, hy, hx₀, hy₀, Option.bind_eq_bind,
    Option.bind_some, lineThrough]
  split
  · rfl
  · rename_i hne
    rw [hdivide _ _ _ hne]
    rfl

variable [LT α] [DecidableLT α]

/-- The resampled points, unless an index is out of range or a division fails. -/
def checkedResample (divide : α → α → Option α) (targets xs ys : List α) : Option (List α) :=
  let count := min xs.length ys.length
  match count with
  | 0 => some []
  | 1 => ys[0]?.map fun y => targets.map fun _ => y
  | _ => targets.mapM fun x =>
    checkedLine divide xs ys (min (countBelow (xs.zip ys).toArray x - 1) (count - 2)) x

theorem checkedResample_eq_some
    (hdivide : ∀ a b c, ¬(b == c) → divide a (b - c) = some (a / (b - c)))
    (targets xs ys : List α) :
    checkedResample divide targets xs ys = some (resample targets xs ys) := by
  have hsize : (xs.zip ys).toArray.size = min xs.length ys.length := by simp
  by_cases two : 2 ≤ min xs.length ys.length
  · have hvalue : ∀ x, checkedLine divide xs ys
        (min (countBelow (xs.zip ys).toArray x - 1) (min xs.length ys.length - 2)) x =
          some (valueAt (xs.zip ys).toArray (hsize ▸ two) x) := by
      intro x
      rw [checkedLine_eq_some hdivide (by omega) (by omega)]
      simp [valueAt]
    rw [checkedResample, resample, dif_pos (hsize ▸ two)]
    split
    · omega
    · omega
    · simp only [hvalue]
      exact List.mapM_pure
  · match xs, ys with
    | [], ys => simp [checkedResample, resample]
    | _ :: _, [] => simp [checkedResample, resample]
    | [x], y :: ys => simp [checkedResample, resample]
    | x :: xs, [y] => simp [checkedResample, resample]
    | _ :: _ :: _, _ :: _ :: _ => simp at two

end

/-- A quotient, unless the divisor is zero. -/
def quotient? {α : Type} [Div α] [BEq α] [OfNat α 0] (a b : α) : Option α :=
  if b == 0 then none else some (a / b)

/-- Exactly one function interpolates ascending points, and on it lie all resampled points. At a
known point it has the known value, between two points it stays between their values, and if all
points lie on one line, so does it. Whatever the points are, no index is out of range and no divisor
is zero, with doubles neither. -/
theorem resample_interpolates (xs ys : List ℚ) (xs' ys' : List Float) :
    (2 ≤ min xs.length ys.length → xs.Pairwise (· < ·) → ∃ f : ℚ → ℚ,
      (∀ g, Interpolates xs ys g ↔ g = f) ∧
      (∀ targets, resample targets xs ys = targets.map f) ∧
      (∀ k (_ : k < xs.length) (_ : k < ys.length), f xs[k] = ys[k]) ∧
      (∀ k (_ : k + 1 < xs.length) (_ : k + 1 < ys.length), ∀ x, xs[k] ≤ x → x ≤ xs[k + 1] →
        f x ∈ Set.Icc (min ys[k] ys[k + 1]) (max ys[k] ys[k + 1])) ∧
      ∀ a b, (∀ p ∈ xs.zip ys, p.2 = a * p.1 + b) → ∀ x, f x = a * x + b) ∧
    (∀ targets, checkedResample quotient? targets xs ys = some (resample targets xs ys)) ∧
    ∀ targets, checkedResample quotient? targets xs' ys' = some (resample targets xs' ys') := by
  refine ⟨fun two h => ?_, fun targets => checkedResample_eq_some ?_ _ _ _,
    fun targets => checkedResample_eq_some ?_ _ _ _⟩
  · have two : 2 ≤ (xs.zip ys).toArray.size := by simpa using two
    have hf : Interpolates xs ys (valueAt (xs.zip ys).toArray two) := interpolates_valueAt h two
    refine ⟨_, fun g => ⟨fun hg => hg.eq_valueAt h two, fun hg => hg ▸ hf⟩, resample_eq_map two,
      hf.knot, fun k hx hy x => valueAt_mem_Icc h two hx hy, fun a b hline x => ?_⟩
    have hg : Interpolates xs ys fun x => a * x + b := by
      refine ⟨fun k hx hy => ?_, fun k _ _ => ⟨a, b, fun _ _ _ => rfl⟩⟩
      have hmem : (xs[k], ys[k]) ∈ xs.zip ys :=
        List.mem_iff_getElem.2 ⟨k, by simpa using ⟨hx, hy⟩, List.getElem_zip⟩
      exact (hline _ hmem).symm
    exact (congrFun (hg.eq_valueAt h two) x).symm
  · intro a b c hne
    rw [quotient?, if_neg (by simpa [sub_eq_zero] using hne)]
  · intro a b c hne
    rw [quotient?, if_neg (sub_ne_zero_of_ne hne)]

/-- Three points with a bend, and targets before, between, at and after them. -/
theorem resample_interpolates_bend : ∃ f : ℚ → ℚ,
    (∀ g, Interpolates [0, 1, 3] [0, 2, 1] g ↔ g = f) ∧
      [-1, 1 / 2, 1, 2, 5].map f = [-2, 1, 2, 3 / 2, 0] := by
  obtain ⟨f, hunique, hresample, -⟩ :=
    (resample_interpolates [0, 1, 3] [0, 2, 1] [] []).1 (by decide) (by decide)
  refine ⟨f, hunique, (hresample _).symm.trans ?_⟩
  decide +kernel

end Sightline

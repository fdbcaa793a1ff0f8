import Mathlib.Data.List.Basic
import Sightline.Obstruction.Interval

/-!
# Runs of obstructed samples

A run is a longest stretch of consecutive samples with negative margins. The scan reports one
interval for each run, in their order. It starts at the first sample of the run and ends at the
sample after the last one, or at the last sample of all (`exists_runs`).
-/

namespace Sightline

variable {α β : Type}

/-- The sample at which the interval of a run ends: the next one, or the last one of all. -/
def closing (count last : Nat) : Nat := if last + 1 < count then last + 1 else last

/-- The interval of a run, in the positions of its samples. -/
def Interval.ofRun (position : Nat → α) (count : Nat) (run : Interval Nat) : Interval α :=
  ⟨position run.start, position (closing count run.stop)⟩

/-- The gaps of the samples from number `k` on. -/
def gapsFrom (position : Nat → α) (k : Nat) (margins : List β) : List (Gap α β) :=
  margins.mapIdx fun i margin => ⟨position (k + i), margin⟩

theorem gapsFrom_cons (position : Nat → α) (k : Nat) (margin : β) (rest : List β) :
    gapsFrom position k (margin :: rest) =
      ⟨position k, margin⟩ :: gapsFrom position (k + 1) rest := by
  simp [gapsFrom, List.mapIdx_cons, Nat.add_assoc, Nat.add_comm 1]

theorem gapsFrom_nil (position : Nat → α) (k : Nat) :
    gapsFrom position k ([] : List β) = [] := rfl

variable [LT β] [OfNat β 0]

/-- Whether there is a sample with this number, and the link is below the surface there. -/
def Obstructed (margins : List β) (i : Nat) : Prop := ∃ margin ∈ margins[i]?, margin < 0

/-- The samples from `first` to `last` are obstructed, and neither the one before them nor the one
after them is. -/
structure IsRun (margins : List β) (first last : Nat) : Prop where
  first_le_last : first ≤ last
  obstructed : ∀ i, first ≤ i → i ≤ last → Obstructed margins i
  clear_before : ∀ i, i + 1 = first → ¬Obstructed margins i
  clear_after : ¬Obstructed margins (last + 1)

variable {margins : List β} {i k first last first' last' : Nat}

theorem Obstructed.lt_length (h : Obstructed margins i) : i < margins.length := by
  obtain ⟨margin, hmargin, -⟩ := h
  exact (List.getElem?_eq_some_iff.1 hmargin).1

theorem obstructed_iff_of_drop_eq_cons {margin : β} {rest : List β}
    (h : margins.drop k = margin :: rest) : Obstructed margins k ↔ margin < 0 := by
  have hget : margins[k]? = some margin := by
    rw [← List.head?_drop, h, List.head?_cons]
  simp [Obstructed, hget]

/-! ### Runs as parts of the list -/

namespace IsRun

theorem last_lt_length (h : IsRun margins first last) : last < margins.length :=
  (h.obstructed last h.first_le_last (Nat.le_refl _)).lt_length

/-- No run begins after the first sample of another one and up to its last sample. -/
theorem first_le_first (h : IsRun margins first last) (h' : IsRun margins first' last')
    (hle : first' ≤ last) : first' ≤ first := by
  by_contra hlt
  have hbefore : first' - 1 + 1 = first' := by omega
  exact h'.clear_before _ hbefore (h.obstructed _ (by omega) (by omega))

/-- No run that begins up to the last sample of another one ends after it. -/
theorem last_le_last (h : IsRun margins first last) (h' : IsRun margins first' last')
    (hle : first' ≤ last) : last' ≤ last := by
  by_contra hlt
  exact h.clear_after (h'.obstructed _ (by omega) (by omega))

/-- Runs that share a sample are equal. -/
theorem eq_of_overlap (h : IsRun margins first last) (h' : IsRun margins first' last')
    (hle : first ≤ last') (hle' : first' ≤ last) : first = first' ∧ last = last' :=
  ⟨Nat.le_antisymm (h'.first_le_first h hle) (h.first_le_first h' hle'),
    Nat.le_antisymm (h'.last_le_last h hle) (h.last_le_last h' hle')⟩

end IsRun

/-- Up to an obstructed sample, obstructed samples begin at some sample with a clear one before. -/
theorem exists_first_of_obstructed (h : Obstructed margins i) :
    ∃ first ≤ i, (∀ j, first ≤ j → j ≤ i → Obstructed margins j) ∧
      ∀ j, j + 1 = first → ¬Obstructed margins j := by
  induction i with
  | zero => exact ⟨0, (Nat.le_refl _), fun j _ hj => by rwa [Nat.le_zero.1 hj], by omega⟩
  | succ i ih =>
    by_cases hi : Obstructed margins i
    · obtain ⟨first, hle, hall, hbefore⟩ := ih hi
      refine ⟨first, by omega, fun j hfirst hj => ?_, hbefore⟩
      rcases Nat.lt_or_eq_of_le hj with hj | rfl
      · exact hall j hfirst (by omega)
      · exact h
    · refine ⟨i + 1, (Nat.le_refl _), fun j hfirst hj => ?_, fun j hj => ?_⟩
      · rwa [Nat.le_antisymm hj hfirst]
      · obtain rfl : j = i := by omega
        exact hi

/-- From an obstructed sample on, obstructed samples end at some sample with a clear one or none
after it. -/
theorem exists_last_of_obstructed (h : Obstructed margins i) :
    ∃ last, i ≤ last ∧ (∀ j, i ≤ j → j ≤ last → Obstructed margins j) ∧
      ¬Obstructed margins (last + 1) := by
  -- the number of samples after this one decreases
  induction hcount : margins.length - i generalizing i with
  | zero =>
    have := h.lt_length
    omega
  | succ count ih =>
    by_cases hi : Obstructed margins (i + 1)
    · obtain ⟨last, hle, hall, hafter⟩ := ih hi (by omega)
      refine ⟨last, by omega, fun j hj hlast => ?_, hafter⟩
      rcases Nat.lt_or_eq_of_le hj with hj | rfl
      · exact hall j (by omega) hlast
      · exact h
    · exact ⟨i, (Nat.le_refl _), fun j hj hlast => by rwa [Nat.le_antisymm hlast hj], hi⟩

/-- Every obstructed sample belongs to a run. -/
theorem exists_isRun (h : Obstructed margins i) :
    ∃ first last, IsRun margins first last ∧ first ≤ i ∧ i ≤ last := by
  obtain ⟨first, hfirst, hfront, hbefore⟩ := exists_first_of_obstructed h
  obtain ⟨last, hlast, hback, hafter⟩ := exists_last_of_obstructed h
  refine ⟨first, last, ⟨by omega, fun j hj hj' => ?_, hbefore, hafter⟩, hfirst, hlast⟩
  rcases Nat.le_total j i with hle | hle
  · exact hfront j hj hle
  · exact hback j hle hj'

/-! ### Lists of runs -/

/-- The runs that begin at sample `k` or later, in their order. -/
structure ListsRuns (margins : List β) (k : Nat) (runs : List (Interval Nat)) : Prop where
  mem_iff : ∀ run, run ∈ runs ↔ IsRun margins run.start run.stop ∧ k ≤ run.start
  ascending : runs.Pairwise fun a b => a.stop + 1 < b.start

namespace ListsRuns

variable {runs : List (Interval Nat)}

theorem nil (h : margins.length ≤ k) : ListsRuns margins k [] := by
  refine ⟨fun run => ?_, .nil⟩
  simp only [List.not_mem_nil, false_iff, not_and]
  intro hrun hle
  have hlast := hrun.last_lt_length
  have hfirst := hrun.first_le_last
  omega

/-- No run begins at a clear sample. -/
theorem of_clear (h : ListsRuns margins (k + 1) runs) (hclear : ¬Obstructed margins k) :
    ListsRuns margins k runs := by
  refine ⟨fun run => ?_, h.ascending⟩
  rw [h.mem_iff]
  refine and_congr_right fun hrun => ⟨by omega, fun hle => ?_⟩
  have hne : run.start ≠ k := by
    rintro rfl
    exact hclear (hrun.obstructed _ (Nat.le_refl _) hrun.first_le_last)
  omega

/-- The next run after another one begins two samples after its last one or later. -/
theorem cons (h : ListsRuns margins (last + 2) runs) (hrun : IsRun margins first last) :
    ListsRuns margins first (⟨first, last⟩ :: runs) := by
  have hafter := h.of_clear hrun.clear_after
  constructor
  · intro run
    rw [List.mem_cons, hafter.mem_iff]
    constructor
    · rintro (rfl | ⟨hother, hle⟩)
      · exact ⟨hrun, Nat.le_refl _⟩
      · have := hrun.first_le_last
        exact ⟨hother, by omega⟩
    · rintro ⟨hother, hle⟩
      rcases Nat.lt_or_ge last run.start with hlt | hge
      · exact .inr ⟨hother, hlt⟩
      · have := hother.first_le_last
        obtain ⟨hfirst, hlast⟩ := hother.eq_of_overlap hrun hge (by omega)
        exact .inl (by rw [← hfirst, ← hlast])
  · refine .cons (fun run hmem => ?_) h.ascending
    have := ((h.mem_iff run).1 hmem).2
    dsimp only
    omega

end ListsRuns

/-! ### The scan -/

/-- What is known when the samples before `k` are scanned. An open interval starts at the first
sample of a run that reaches up to here, and a sample is left to close it. Without one, the sample
before is clear. -/
def Scanned (margins : List β) (k : Nat) : Option Nat → Prop
  | none => ∀ i, i + 1 = k → ¬Obstructed margins i
  | some first => first < k ∧ k < margins.length ∧
      (∀ i, first ≤ i → i < k → Obstructed margins i) ∧
      ∀ i, i + 1 = first → ¬Obstructed margins i

variable {start : Option Nat}

/-- An obstructed sample continues the open interval, or opens one. -/
theorem Scanned.extend (h : Scanned margins k start) (hk : Obstructed margins k) :
    start.getD k ≤ k ∧ (∀ i, start.getD k ≤ i → i ≤ k → Obstructed margins i) ∧
      ∀ i, i + 1 = start.getD k → ¬Obstructed margins i := by
  cases start with
  | none => exact ⟨Nat.le_refl _, fun i hle hge => Nat.le_antisymm hge hle ▸ hk, h⟩
  | some first =>
    obtain ⟨hlt, -, hall, hbefore⟩ := h
    refine ⟨Nat.le_of_lt hlt, fun i hle hge => ?_, hbefore⟩
    rcases Nat.lt_or_eq_of_le hge with hge | rfl
    · exact hall i hle hge
    · exact hk

variable [DecidableLT β] {gap : Gap α β} {gaps : List (Gap α β)} {origin : Option α}

theorem scanFrom_of_last (h : gap.margin < 0) :
    scanFrom origin [gap] = [⟨origin.getD gap.position, gap.position⟩] := by
  simp [scanFrom, h]

theorem scanFrom_of_lt (h : gap.margin < 0) (hne : gaps ≠ []) :
    scanFrom origin (gap :: gaps) = scanFrom (some (origin.getD gap.position)) gaps := by
  simp [scanFrom, h, hne]

theorem scanFrom_none_of_not_lt (h : ¬gap.margin < 0) :
    scanFrom none (gap :: gaps) = scanFrom none gaps := by
  simp [scanFrom, h]

theorem scanFrom_some_of_not_lt (h : ¬gap.margin < 0) (first : α) :
    scanFrom (some first) (gap :: gaps) = ⟨first, gap.position⟩ :: scanFrom none gaps := by
  simp [scanFrom, h]

/-- The scan of the remaining samples reports the runs that end among them, whatever the positions
of the samples are. -/
theorem exists_runs_scanFrom {rest : List β} (hrest : margins.drop k = rest)
    (h : Scanned margins k start) :
    ∃ runs, ListsRuns margins (start.getD k) runs ∧ ∀ {α : Type} (position : Nat → α),
      scanFrom (start.map position) (gapsFrom position k rest) =
        runs.map (.ofRun position margins.length) := by
  induction rest generalizing k start with
  | nil =>
    have hk : margins.length ≤ k := List.drop_eq_nil_iff.1 hrest
    cases start with
    | none => exact ⟨[], .nil hk, fun _ => rfl⟩
    | some first =>
      have := h.2.1
      omega
  | cons margin rest ih =>
    have hk : k < margins.length := by
      by_contra hge
      rw [List.drop_eq_nil_of_le (by omega)] at hrest
      cases hrest
    have hdrop : margins.drop (k + 1) = rest := by
      rw [← List.tail_drop, hrest, List.tail_cons]
    by_cases hmargin : margin < 0
    · have hobstructed := (obstructed_iff_of_drop_eq_cons hrest).2 hmargin
      obtain ⟨hle, hall, hbefore⟩ := h.extend hobstructed
      by_cases hlast : rest = []
      · -- the last sample closes its run
        subst hlast
        have hlength := List.drop_eq_nil_iff.1 hdrop
        have hclear : ¬Obstructed margins (k + 1) := by
          intro hnext
          have := hnext.lt_length
          omega
        have hclosing : closing margins.length k = k := if_neg (by omega)
        refine ⟨_, .cons (.nil (by omega)) ⟨hle, hall, hbefore, hclear⟩, fun position => ?_⟩
        rw [gapsFrom_cons, gapsFrom_nil, scanFrom_of_last hmargin, Option.getD_map]
        simp [Interval.ofRun, hclosing]
      · have hnext : k + 1 < margins.length := by
          by_contra hge
          exact hlast (hdrop ▸ List.drop_eq_nil_of_le (by omega))
        have hscanned : Scanned margins (k + 1) (some (start.getD k)) :=
          ⟨by omega, hnext, fun i hfirst hi => hall i hfirst (by omega), hbefore⟩
        obtain ⟨runs, hruns, hscan⟩ := ih hdrop hscanned
        refine ⟨runs, hruns, fun position => ?_⟩
        rw [← hscan, gapsFrom_cons, scanFrom_of_lt hmargin (by simpa [gapsFrom] using hlast),
          Option.getD_map, Option.map_some]
    · have hclear := mt (obstructed_iff_of_drop_eq_cons hrest).1 hmargin
      have hscanned : Scanned margins (k + 1) none := by
        intro i hi
        obtain rfl : i = k := by omega
        exact hclear
      obtain ⟨runs, hruns, hscan⟩ := ih hdrop hscanned
      cases start with
      | none =>
        refine ⟨runs, hruns.of_clear hclear, fun position => ?_⟩
        rw [← hscan, gapsFrom_cons, Option.map_none, scanFrom_none_of_not_lt hmargin]
      | some first =>
        -- the clear sample closes the run that ends before it
        obtain ⟨hlt, -, hall, hbefore⟩ := h
        obtain ⟨last, rfl⟩ : ∃ last, k = last + 1 := ⟨k - 1, by omega⟩
        have hrun : IsRun margins first last :=
          ⟨by omega, fun i hfirst hi => hall i hfirst (by omega), hbefore, hclear⟩
        have hclosing : closing margins.length last = last + 1 := if_pos hk
        refine ⟨⟨first, last⟩ :: runs, hruns.cons hrun, fun position => ?_⟩
        rw [gapsFrom_cons, Option.map_some, scanFrom_some_of_not_lt hmargin, List.map_cons,
          ← hscan, Interval.ofRun, hclosing, Option.map_none]

/-- The scan reports one interval for each run, in their order, and nothing else. -/
theorem exists_runs (margins : List β) :
    ∃ runs, ListsRuns margins 0 runs ∧ ∀ {α : Type} (position : Nat → α),
      scan (margins.mapIdx fun i margin => ⟨position i, margin⟩) =
        runs.map (.ofRun position margins.length) := by
  have hscanned : Scanned margins 0 none := by simp [Scanned]
  obtain ⟨runs, hruns, hscan⟩ := exists_runs_scanFrom List.drop_zero hscanned
  refine ⟨runs, hruns, fun position => ?_⟩
  rw [← hscan, gapsFrom]
  simp [scan]

end Sightline

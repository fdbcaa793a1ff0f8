import Mathlib.Data.List.Induction
import Sightline.Coverage.CoverageSet

/-!
# Unions of coverage sets

A union is built by merging one row after the other. What it says of a building depends only on the
records of this building, in the order of the sets (`find?_union`): the statuses are joined and the
last footprint stays. Joining is the least upper bound where `unserviceable` is below `unknown` and
`unknown` below `serviceable`, so neither the order nor the grouping of the sets makes a difference
to it (`union_eq_joined`).
-/

namespace Sightline

/-! ### Joined statuses -/

namespace CoverageStatus

variable {a b : CoverageStatus} {found more : List CoverageStatus}

/-- The verdict of several statuses: one that serves settles it, and without one only a common
refusal does. -/
def join (found : List CoverageStatus) : CoverageStatus :=
  if .serviceable ∈ found then .serviceable
  else if ∀ status ∈ found, status = .unserviceable then .unserviceable
  else .unknown

theorem join_eq_serviceable_iff : join found = .serviceable ↔ .serviceable ∈ found := by
  rw [join]
  split
  · simp [*]
  · split <;> simp [*]

theorem join_eq_unserviceable_iff :
    join found = .unserviceable ↔ ∀ status ∈ found, status = .unserviceable := by
  rw [join]
  split
  · next h =>
    simp only [reduceCtorEq, false_iff]
    intro hall
    exact absurd (hall _ h) (by decide)
  · split
    · next hall => exact iff_of_true rfl hall
    · next hnot => exact iff_of_false (by decide) hnot

/-- A status is told by whether it serves and whether it refuses. -/
theorem eq_of_iff (hserves : a = .serviceable ↔ b = .serviceable)
    (hrefuses : a = .unserviceable ↔ b = .unserviceable) : a = b := by
  cases a <;> cases b <;> simp_all

theorem combine_eq_serviceable_iff :
    a.combine b = .serviceable ↔ a = .serviceable ∨ b = .serviceable := by
  cases a <;> cases b <;> decide

theorem combine_eq_unserviceable_iff :
    a.combine b = .unserviceable ↔ a = .unserviceable ∧ b = .unserviceable := by
  cases a <;> cases b <;> decide

theorem join_append (found more : List CoverageStatus) :
    join (found ++ more) = (join found).combine (join more) := by
  apply eq_of_iff
  · rw [combine_eq_serviceable_iff]
    simp only [join_eq_serviceable_iff, List.mem_append]
  · rw [combine_eq_unserviceable_iff]
    simp only [join_eq_unserviceable_iff, List.forall_mem_append]

theorem join_singleton (a : CoverageStatus) : join [a] = a := by cases a <;> decide

theorem join_eq_of_perm (h : found.Perm more) : join found = join more := by
  apply eq_of_iff
  · rw [join_eq_serviceable_iff, join_eq_serviceable_iff, h.mem_iff]
  · simp only [join_eq_unserviceable_iff, h.mem_iff]

end CoverageStatus

/-! ### Joined records -/

namespace CoverageSet

variable {s t : CoverageSet} {sets more reordered : List CoverageSet} {key : BuildingKey}
  {row : BuildingKey × CoverageRecord} {rows : List (BuildingKey × CoverageRecord)}
  {found others : List CoverageRecord}

/-- The record of a building of which several records are found: the joined status, and the
footprint of the last of them. -/
def joined? (found : List CoverageRecord) : Option CoverageRecord :=
  found.getLast?.map fun last => ⟨last.footprint, .join (found.map (·.status))⟩

theorem joined?_eq_none_iff : joined? found = none ↔ found = [] := by simp [joined?]

/-- Records may be joined in groups. -/
theorem joined?_append (found : List CoverageRecord) {record : CoverageRecord}
    (h : joined? others = some record) :
    joined? (found ++ others) = some (joinRecord (joined? found) record) := by
  obtain ⟨last, hlast, rfl⟩ := Option.map_eq_some_iff.1 h
  cases hfound : found.getLast? with
  | none =>
    obtain rfl : found = [] := List.getLast?_eq_none_iff.1 hfound
    exact h
  | some before =>
    simp [joined?, List.getLast?_append, hlast, hfound, joinRecord, CoverageStatus.join_append]

theorem joined?_singleton (record : CoverageRecord) : joined? [record] = some record := by
  simp [joined?, CoverageStatus.join_singleton]

theorem map_status_joined? (found : List CoverageRecord) :
    (joined? found).map (·.status) =
      if found = [] then none else some (.join (found.map (·.status))) := by
  cases h : found.getLast? with
  | none =>
    obtain rfl : found = [] := List.getLast?_eq_none_iff.1 h
    rfl
  | some last =>
    have hne : found ≠ [] := by
      rintro rfl
      cases h
    simp [joined?, h, hne]

theorem joined?_toList (found : Option CoverageRecord) : joined? found.toList = found := by
  cases found with
  | none => rfl
  | some record => exact joined?_singleton record

/-! ### Rows -/

theorem ext (h : ∀ key, s.find? key = t.find? key) : s = t := by
  obtain ⟨rows, sorted⟩ := s
  obtain ⟨rows', sorted'⟩ := t
  obtain rfl : rows = rows' := sorted.ext sorted' h
  rfl

theorem find?_put (s : CoverageSet) (k : BuildingKey) (record : CoverageRecord)
    (key : BuildingKey) :
    (s.put k record).find? key = if key = k then some record else s.find? key := by
  by_cases h : key = k
  · subst h
    rw [if_pos rfl]
    exact Assoc.find?_insert_self _ _ _
  · rw [if_neg h]
    exact Assoc.find?_insert_of_ne h _ _

theorem find?_addRow (s : CoverageSet) (row : BuildingKey × CoverageRecord) (key : BuildingKey) :
    (s.addRow row).find? key =
      if key = row.1 then some (joinRecord (s.find? key) row.2) else s.find? key := by
  rw [addRow, find?_put]
  split
  · next h => rw [h]
  · rfl

theorem find?_foldl_addRow (h : Assoc.Sorted rows) (s : CoverageSet) (key : BuildingKey) :
    (rows.foldl addRow s).find? key =
      (Assoc.find? key rows).elim (s.find? key) fun r => some (joinRecord (s.find? key) r) := by
  induction rows generalizing s with
  | nil => rfl
  | cons row rest ih =>
    obtain ⟨k, r⟩ := row
    rw [List.foldl_cons, ih (List.pairwise_cons.1 h).2, find?_addRow]
    by_cases hk : key = k
    · subst hk
      -- the keys ascend, so no later row is of the same building
      simp [Assoc.find?, h.find?_rest]
    · have ne : compare key k ≠ .eq := fun eq => hk (Std.LawfulEqCmp.eq_of_compare eq)
      simp [Assoc.find?, ne, hk]

theorem find?_merge (s t : CoverageSet) (key : BuildingKey) :
    (s.merge t).find? key =
      (t.find? key).elim (s.find? key) fun r => some (joinRecord (s.find? key) r) :=
  find?_foldl_addRow t.sorted s key

/-- What a union says of a building is joined from what its sets say of it. -/
theorem find?_union (sets : List CoverageSet) (key : BuildingKey) :
    (union sets).find? key = joined? (sets.filterMap (·.find? key)) := by
  induction sets using List.reverseRecOn with
  | nil => rfl
  | append_singleton sets t ih =>
    have hconcat : union (sets ++ [t]) = (union sets).merge t := by simp [union]
    rw [hconcat, find?_merge, ih, List.filterMap_append]
    cases h : t.find? key with
    | none => simp [h]
    | some record => simp [h, joined?_append _ (joined?_singleton record)]

theorem status_eq_serviceable_iff :
    s.status key = .serviceable ↔
      ∃ record, s.find? key = some record ∧ record.status = .serviceable := by
  rw [status]
  cases s.find? key <;> simp

/-- One set that marks a building serviceable is enough. -/
theorem status_union_eq_serviceable_iff :
    (union sets).status key = .serviceable ↔ ∃ t ∈ sets, t.status key = .serviceable := by
  have hjoined : (union sets).status key = .serviceable ↔
      .serviceable ∈ (sets.filterMap (·.find? key)).map (·.status) := by
    rw [status, find?_union, map_status_joined?]
    split
    · rename_i h
      simp [h]
    · rw [Option.getD_some, CoverageStatus.join_eq_serviceable_iff]
  simp only [hjoined, status_eq_serviceable_iff, List.mem_map, List.mem_filterMap]
  constructor
  · rintro ⟨record, ⟨t, ht, hfind⟩, hstatus⟩
    exact ⟨t, ht, record, hfind, hstatus⟩
  · rintro ⟨t, ht, record, hfind, hstatus⟩
    exact ⟨record, ⟨t, ht, hfind⟩, hstatus⟩

theorem find?_union_pair (s t : CoverageSet) (key : BuildingKey) :
    (union [s, t]).find? key = joined? ((s.find? key).toList ++ (t.find? key).toList) := by
  rw [find?_union]
  cases hs : s.find? key <;> cases ht : t.find? key <;> simp [hs, ht]

/-! ### Grouping and order -/

theorem union_append (sets more : List CoverageSet) :
    union (sets ++ more) = union [union sets, union more] := by
  apply ext
  intro key
  rw [find?_union_pair, find?_union, find?_union, find?_union, List.filterMap_append]
  cases hmore : joined? (more.filterMap (·.find? key)) with
  | none =>
    rw [joined?_eq_none_iff.1 hmore, Option.toList_none, List.append_nil, List.append_nil,
      joined?_toList]
  | some record =>
    rw [joined?_append _ hmore, Option.toList_some, joined?_append _ (joined?_singleton record),
      joined?_toList]

theorem union_pair_empty (s : CoverageSet) : union [s, empty] = s := by
  apply ext
  intro key
  rw [find?_union_pair]
  simp [find?, empty, Assoc.find?, joined?_toList]

theorem union_empty_pair (s : CoverageSet) : union [empty, s] = s := by
  apply ext
  intro key
  rw [find?_union_pair]
  simp [find?, empty, Assoc.find?, joined?_toList]

theorem union_pair_self (s : CoverageSet) : union [s, s] = s := by
  apply ext
  intro key
  rw [find?_union_pair]
  cases h : s.find? key with
  | none => rfl
  | some record =>
    have hself : record.status.combine record.status = record.status := by
      cases record.status <;> rfl
    rw [Option.toList_some, joined?_append _ (joined?_singleton record), joined?_singleton]
    simp only [joinRecord, hself]

/-- The buildings of a set, in the order of its rows. -/
def keys (s : CoverageSet) : List BuildingKey := s.rows.map (·.1)

/-- The buildings of a set with their statuses. -/
def statuses (s : CoverageSet) : List (BuildingKey × CoverageStatus) :=
  s.rows.map fun row => (row.1, row.2.status)

theorem mem_rows_iff {record : CoverageRecord} :
    (key, record) ∈ s.rows ↔ s.find? key = some record :=
  s.sorted.find?_eq_some_iff.symm

theorem mem_keys_iff : key ∈ s.keys ↔ s.find? key ≠ none := by
  rw [Option.ne_none_iff_exists']
  simp only [keys, List.mem_map, Prod.exists, exists_and_right, exists_eq_right, mem_rows_iff]

theorem keys_pairwise (s : CoverageSet) : s.keys.Pairwise fun k k' => compare k k' = .lt :=
  List.pairwise_map.2 s.sorted

theorem mem_keys_union_iff : key ∈ (union sets).keys ↔ ∃ t ∈ sets, key ∈ t.keys := by
  rw [mem_keys_iff, find?_union, Ne, joined?_eq_none_iff, List.filterMap_eq_nil_iff]
  simp only [mem_keys_iff, not_forall, exists_prop]

theorem find?_statuses (s : CoverageSet) (key : BuildingKey) :
    Assoc.find? key s.statuses = (s.find? key).map (·.status) :=
  Assoc.find?_map _ key s.rows

theorem statuses_union_eq_of_perm (h : sets.Perm reordered) :
    (union sets).statuses = (union reordered).statuses := by
  refine Assoc.Sorted.ext (List.pairwise_map.2 (union sets).sorted)
    (List.pairwise_map.2 (union reordered).sorted) fun key => ?_
  have hfound : (sets.filterMap (·.find? key)).Perm (reordered.filterMap (·.find? key)) :=
    h.filterMap _
  have hnil : sets.filterMap (·.find? key) = [] ↔ reordered.filterMap (·.find? key) = [] := by
    rw [← List.length_eq_zero_iff, hfound.length_eq, List.length_eq_zero_iff]
  simp only [find?_statuses, find?_union, map_status_joined?, hnil,
    CoverageStatus.join_eq_of_perm (hfound.map (·.status))]

theorem summary_eq_of_statuses_eq (h : s.statuses = t.statuses) : s.summary = t.summary := by
  have hcount : ∀ (u : CoverageSet) (status : CoverageStatus),
      u.countStatus status = u.statuses.countP fun row => row.2 = status := by
    intro u status
    rw [countStatus, statuses, List.countP_map]
    rfl
  simp only [summary, hcount, h]

/-- Every building is counted under exactly one status. -/
theorem summary_total (s : CoverageSet) :
    s.summary.serviceable + s.summary.unserviceable + s.summary.unknown = s.length := by
  simp only [summary, countStatus, length]
  induction s.rows with
  | nil => rfl
  | cons row rest ih =>
    simp only [List.countP_cons, List.length_cons]
    cases row.2.status <;> simp <;> omega

/-- A union has the buildings of its sets, each once and in the order of the keys. A building has
the joined status of the sets that have it, and the footprint of the last of them. The statuses do
not depend on the order of the sets. Sets may be united in groups, the empty set makes no
difference, and a set united with itself stays as it is. -/
theorem union_eq_joined (hperm : sets.Perm reordered) (more : List CoverageSet)
    (s : CoverageSet) :
    (∀ key, key ∈ (union sets).keys ↔ ∃ t ∈ sets, key ∈ t.keys) ∧
      (union sets).keys.Pairwise (fun k k' => compare k k' = .lt) ∧
      (∀ key record, (key, record) ∈ (union sets).rows ↔
        joined? (sets.filterMap (·.find? key)) = some record) ∧
      (union sets).statuses = (union reordered).statuses ∧
      (union sets).summary = (union reordered).summary ∧
      union (sets ++ more) = union [union sets, union more] ∧
      union [s, empty] = s ∧ union [empty, s] = s ∧ union [s, s] = s ∧
      s.summary.serviceable + s.summary.unserviceable + s.summary.unknown = s.length ∧
      s.length = s.rows.length := by
  have hstatuses := statuses_union_eq_of_perm hperm
  refine ⟨fun _ => mem_keys_union_iff, keys_pairwise _, ?_, hstatuses,
    summary_eq_of_statuses_eq hstatuses, union_append sets more, union_pair_empty s,
    union_empty_pair s, union_pair_self s, summary_total s, rfl⟩
  intro key record
  rw [mem_rows_iff, find?_union]

/-- A building that cannot be served, with its footprint. -/
def refused : CoverageSet := empty.put (.id 1) ⟨some [(0, 0), (1, 0), (1, 1)], .unserviceable⟩

/-- The same building without a verdict or a footprint. -/
def undecided : CoverageSet := empty.put (.id 1) ⟨none, .unknown⟩

theorem union_eq_joined_twoVerdicts :
    [refused, undecided].Perm [undecided, refused] ∧
      (.id 1, ⟨none, .unknown⟩) ∈ (union [refused, undecided]).rows ∧
      (union [refused, undecided]).statuses = (union [undecided, refused]).statuses ∧
      (union [refused, undecided]).summary = (union [undecided, refused]).summary ∧
      union ([refused, undecided] ++ [refused]) =
        union [union [refused, undecided], union [refused]] := by
  have hperm : [refused, undecided].Perm [undecided, refused] := List.Perm.swap _ _ _
  obtain ⟨-, -, hrows, hstatuses, hsummary, hgroups, -⟩ :=
    union_eq_joined hperm [refused] undecided
  have hjoined : joined? ([refused, undecided].filterMap (·.find? (.id 1))) =
      some ⟨none, .unknown⟩ := by
    decide +kernel
  exact ⟨hperm, (hrows _ _).2 hjoined, hstatuses, hsummary, hgroups⟩

end CoverageSet

end Sightline

import Mathlib.Data.List.Induction
import Mathlib.Data.List.Nodup

/-!
# Lists that grow at their end

Runs and histories grow by one action at a time. These lemmas say what such a step adds to what is
read off a list: where it is split, what is first and last in the part that a stream takes, and
what it holds for the first time.
-/

namespace Sightline

variable {α β : Type}

/-- A split of a longer list: at its new end, or where the list was split before. -/
theorem concat_eq_append_cons_iff {xs before after : List α} {x y : α} :
    xs ++ [x] = before ++ y :: after ↔
      (xs = before ∧ x = y ∧ after = []) ∨
        ∃ rest, after = rest ++ [x] ∧ xs = before ++ y :: rest := by
  constructor
  · intro h
    rcases List.eq_nil_or_concat' after with rfl | ⟨rest, last, rfl⟩
    · obtain ⟨rfl, hlast⟩ := List.append_inj' h rfl
      exact .inl ⟨rfl, List.singleton_inj.1 hlast, rfl⟩
    · rw [← List.cons_append, ← List.append_assoc] at h
      obtain ⟨rfl, hlast⟩ := List.append_inj' h rfl
      exact .inr ⟨rest, by rw [hlast], rfl⟩
  · rintro (⟨rfl, rfl, rfl⟩ | ⟨rest, rfl, rfl⟩)
    · rfl
    · simp

theorem getLast?_filterMap_concat (f : α → Option β) (xs : List α) (x : α) :
    ((xs ++ [x]).filterMap f).getLast? = (f x).or (xs.filterMap f).getLast? := by
  cases h : f x <;> simp [h]

theorem head?_filterMap_concat (f : α → Option β) (xs : List α) (x : α) :
    ((xs ++ [x]).filterMap f).head? = (xs.filterMap f).head?.or (f x) := by
  cases h : f x <;> simp [h, List.head?_append]

/-- What a stream takes last comes from the last item that it takes anything from. -/
theorem getLast?_filterMap_eq_some_iff {f : α → Option β} {xs : List α} {y : β} :
    (xs.filterMap f).getLast? = some y ↔
      ∃ before x after, xs = before ++ x :: after ∧ f x = some y ∧ ∀ z ∈ after, f z = none := by
  rw [List.getLast?_filterMap, List.findSome?_eq_some_iff]
  constructor
  · rintro ⟨after, x, before, hreverse, hx, hafter⟩
    refine ⟨before.reverse, x, after.reverse, ?_, hx, by simpa using hafter⟩
    rw [← List.reverse_reverse xs, hreverse]
    simp
  · rintro ⟨before, x, after, rfl, hx, hafter⟩
    exact ⟨after.reverse, x, before.reverse, by simp, hx, by simpa using hafter⟩

/-- What a stream takes depends only on the part of the list that it takes from. -/
theorem filterMap_eq_of_filter_eq {p : α → Bool} {f : α → Option β}
    (hf : ∀ x, p x = false → f x = none) {xs ys : List α} (h : xs.filter p = ys.filter p) :
    xs.filterMap f = ys.filterMap f := by
  have hfilter : ∀ zs : List α, (zs.filter p).filterMap f = zs.filterMap f := by
    intro zs
    rw [List.filterMap_filter]
    congr 1
    funext x
    cases hx : p x with
    | true => rfl
    | false => simp [hf x hx]
  rw [← hfilter xs, h, hfilter ys]

/-! ### First occurrences -/

section FirstOccurrences

variable [DecidableEq α]

theorem eraseDups_concat (xs : List α) (x : α) :
    (xs ++ [x]).eraseDups = if x ∈ xs then xs.eraseDups else xs.eraseDups ++ [x] := by
  rw [List.eraseDups_append]
  by_cases h : x ∈ xs <;> simp [h, List.removeAll, List.eraseDups_cons]

theorem eraseDups_filter (p : α → Bool) (xs : List α) :
    (xs.filter p).eraseDups = xs.eraseDups.filter p := by
  induction xs using List.reverseRecOn with
  | nil => rfl
  | append_singleton xs x ih =>
    rw [List.filter_append, eraseDups_concat]
    cases hp : p x with
    | true =>
      rw [List.filter_cons_of_pos hp, List.filter_nil, eraseDups_concat, ih]
      by_cases h : x ∈ xs <;> simp [h, hp]
    | false => by_cases h : x ∈ xs <;> simp [h, hp, ih]

theorem nodup_eraseDups (xs : List α) : xs.eraseDups.Nodup := by
  induction xs using List.reverseRecOn with
  | nil => exact List.nodup_nil
  | append_singleton xs x ih =>
    rw [eraseDups_concat]
    split
    · exact ih
    · rename_i h
      rw [← List.concat_eq_append]
      exact .concat (mt List.mem_eraseDups.1 h) ih

end FirstOccurrences

end Sightline

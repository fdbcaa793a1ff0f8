import Sightline.Config.Basic

/-!
# Accepted settings

What a reader accepts and what its default is both pass the check of the setting, so every
configuration does: `Config.session_of_parse`.
-/

namespace Sightline.Config

theorem exists_of_bind_eq_ok {ε α β : Type} {first : Except ε α} {next : α → Except ε β} {b : β}
    (h : first >>= next = .ok b) : ∃ a, first = .ok a ∧ next a = .ok b := by
  cases first with
  | error fault => cases h
  | ok a => exact ⟨a, rfl, h⟩

/-- A property of the default and of all that is read holds of a setting. -/
theorem of_setting {α : Type} {P : α → Prop} {doc : Ini.Document} {name key : String}
    {initial value : α} {read : String → Except String α} (hinitial : P initial)
    (hread : ∀ raw found, read raw = .ok found → P found)
    (h : setting doc name key initial read = .ok value) : P value := by
  rw [setting] at h
  split at h
  · cases h
    exact hinitial
  · next raw hraw =>
    cases hfound : read raw with
    | error shown =>
      rw [hfound] at h
      cases h
    | ok found =>
      rw [hfound] at h
      cases h
      exact hread raw _ hfound

theorem isPositive_of_readFrequency {raw : String} {x : Float} (h : readFrequency raw = .ok x) :
    isPositive x = true := by
  rw [readFrequency] at h
  split at h
  · split at h
    · next hx =>
      cases h
      exact hx
    · cases h
  · cases h

theorem ne_zero_of_readZone {raw : String} {n : Nat} (h : readZone raw = .ok n) : n ≠ 0 := by
  rw [readZone] at h
  split at h
  · cases h
  · next hne =>
    rintro rfl
    exact hne h

/-- The frequency and the zone of an accepted configuration are those of a link. -/
theorem session_of_parse {text : String} {config : Config} (h : parse text = .ok config) :
    isPositive config.session.frequency = true ∧ config.session.zone ≠ 0 := by
  rw [parse] at h
  split at h
  · next doc hdoc =>
    obtain ⟨url, -, h⟩ := exists_of_bind_eq_ok h
    obtain ⟨delay, -, h⟩ := exists_of_bind_eq_ok h
    obtain ⟨timeout, -, h⟩ := exists_of_bind_eq_ok h
    obtain ⟨frequency, hfrequency, h⟩ := exists_of_bind_eq_ok h
    obtain ⟨zone, hzone, h⟩ := exists_of_bind_eq_ok h
    obtain ⟨units, -, h⟩ := exists_of_bind_eq_ok h
    cases h
    constructor
    · have hinitial : isPositive SessionConfig.initial.frequency = true := by decide +kernel
      exact of_setting (P := fun x => isPositive x = true) hinitial
        (fun _ _ => isPositive_of_readFrequency) hfrequency
    · have hinitial : SessionConfig.initial.zone ≠ 0 := by decide
      exact of_setting (P := fun n => n ≠ 0) hinitial (fun _ _ => ne_zero_of_readZone) hzone
  · cases h

end Sightline.Config

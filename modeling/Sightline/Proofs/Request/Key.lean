import Mathlib.Data.List.Basic
import Sightline.Request.Basic

/-!
# Keys of link queries

The key of a query is a text, and the token of its request begins with the key and a colon. The
part of the link is the last field of the key and has no colon, so over one link the tokens of
different parts do not begin alike (`token_eq_dedupeKey_append_iff`).
-/

namespace Sightline

/-! ### Plain texts -/

namespace Decimal

/-- The characters of plain texts that are no digits. -/
def plainSigns : List Char := ['-', '.', 'N', 'a', 'i', 'n', 'f']

theorem mem_pointed {digits : List Char} {point : Int} {c : Char}
    (h : c ∈ pointed digits point []) : c ∈ digits ∨ c = '0' ∨ c = '.' := by
  rw [pointed] at h
  split at h
  · rcases List.mem_cons.1 h with h | h
    · exact .inr (.inl h)
    · rcases List.mem_cons.1 h with h | h
      · exact .inr (.inr h)
      · rcases List.mem_append.1 h with h | h
        · exact .inr (.inl (List.mem_replicate.1 h).2)
        · exact .inl h
  · split at h
    · rw [List.append_nil] at h
      rcases List.mem_append.1 h with h | h
      · exact .inl h
      · exact .inr (.inl (List.mem_replicate.1 h).2)
    · rcases List.mem_append.1 h with h | h
      · exact .inl (List.mem_of_mem_take h)
      · rcases List.mem_cons.1 h with h | h
        · exact .inr (.inr h)
        · exact .inl (List.mem_of_mem_drop h)

theorem mem_plain_size {b : Binary} {c : Char} (h : c ∈ Layout.plain.size b) :
    c.isDigit = true ∨ c = '.' := by
  rw [Layout.size] at h
  split at h
  · obtain rfl : c = '0' := by simpa [Layout.plain] using h
    exact .inl rfl
  · rcases mem_pointed h with h | rfl | rfl
    · exact .inl (Nat.isDigit_of_mem_toDigits (by decide) (by decide) h)
    · exact .inl rfl
    · exact .inr rfl

theorem mem_plain {x : Float} {c : Char} (h : c ∈ (plain x).toList) :
    c.isDigit = true ∨ c ∈ plainSigns := by
  have hnan : "NaN".toList ⊆ plainSigns := by decide
  have hinf : ['i', 'n', 'f'] ⊆ plainSigns := by decide
  have hminus : '-' ∈ plainSigns := by decide
  rw [plain] at h
  split at h
  · exact .inr (hnan h)
  · rw [String.toList_ofList] at h
    rcases mem_signed h with rfl | h
    · exact .inr hminus
    · exact .inr (hinf h)
  · rw [String.toList_ofList] at h
    rcases mem_signed h with rfl | h
    · exact .inr hminus
    · rcases mem_plain_size h with h | rfl
      · exact .inl h
      · exact .inr (by decide)

/-- A character that is neither a digit nor one of the signs is in no plain text. -/
theorem notMem_plain {c : Char} (hdigit : c.isDigit = false) (hsign : c ∉ plainSigns) (x : Float) :
    c ∉ (plain x).toList := by
  intro h
  rcases mem_plain h with h | h
  · rw [hdigit] at h
    cases h
  · exact hsign h

end Decimal

/-- The text of a part of the link has no colon. -/
theorem Aoi.colon_notMem_text (a : Aoi) : ':' ∉ a.text.toList := by
  have hplain : ∀ x, ':' ∉ (Decimal.plain x).toList := Decimal.notMem_plain rfl (by decide)
  have hcomma : ':' ∉ ",".toList := by decide
  simp only [text, String.toList_append, List.mem_append, not_or]
  exact ⟨⟨hplain _, hcomma⟩, hplain _⟩

/-! ### Tokens -/

/-- What stands before the first of a character is told by the whole. -/
theorem eq_of_append_cons_eq {c : Char} {x y u v : List Char} (hx : c ∉ x) (hy : c ∉ y)
    (h : x ++ c :: u = y ++ c :: v) : x = y := by
  rcases List.append_eq_append_iff.1 h with ⟨l, rfl, hl⟩ | ⟨l, rfl, hl⟩
  · cases l with
    | nil => simp
    | cons d l =>
      obtain ⟨rfl, -⟩ := List.cons.inj hl
      exact absurd (by simp) hy
  · cases l with
    | nil => simp
    | cons d l =>
      obtain ⟨rfl, -⟩ := List.cons.inj hl
      exact absurd (by simp) hx

namespace LinkQuery

/-- Whether two queries ask for parts of the same link for the same client. -/
def SameLink (a b : LinkQuery) : Prop := a.tx = b.tx ∧ a.rx = b.rx ∧ a.clientId = b.clientId

variable {a b : LinkQuery}

/-- Over one link, only the parts can tell keys apart. -/
theorem SameLink.dedupeKey_eq_iff (h : a.SameLink b) :
    a.dedupeKey = b.dedupeKey ↔ a.aoi.text = b.aoi.text := by
  obtain ⟨htx, hrx, hclient⟩ := h
  simp only [dedupeKey, htx, hrx, hclient, String.append_right_inj]

/-- Over one link, the token of a request begins with a key and a colon only if it is its own. -/
theorem SameLink.token_eq_dedupeKey_append_iff (h : a.SameLink b) (id : RequestId) :
    (∃ rest, (Request.link a).token id = b.dedupeKey ++ ":" ++ rest) ↔
      a.dedupeKey = b.dedupeKey := by
  constructor
  · rintro ⟨rest, htoken⟩
    rw [h.dedupeKey_eq_iff]
    obtain ⟨htx, hrx, hclient⟩ := h
    have hparts : a.aoi.text ++ (":" ++ id.text) = b.aoi.text ++ (":" ++ rest) := by
      simpa only [Request.token, dedupeKey, htx, hrx, hclient, String.append_assoc,
        String.append_right_inj] using htoken
    have hlists := congrArg String.toList hparts
    simp only [String.toList_append] at hlists
    apply String.toList_injective
    exact eq_of_append_cons_eq a.aoi.colon_notMem_text b.aoi.colon_notMem_text hlists
  · intro hkey
    exact ⟨id.text, by rw [← hkey]; rfl⟩

end LinkQuery

end Sightline

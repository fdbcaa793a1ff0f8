import Sightline.Proofs.Decimal.Plain
import Sightline.Proofs.Request.Frame

/-!
# Identity of link queries

The key of a query joins seven fields with commas, and the caller's name for the link stands among
them as it is, commas included. The texts of numbers have no comma and tell the numbers, so the
fields before the name are told from the front and those after it from the end. The token of a
request ends with an identifier of fixed length behind a colon. So a key tells the ends of the link,
its name and its part, and a token tells the key and the identifier (`link_identity`).
-/

namespace Sightline

/-! ### Splitting at a comma -/

section

variable {c : Char} {x y u v : List Char}

/-- What stands on both sides of the first of a character is told by the whole. -/
theorem append_cons_eq_iff_of_notMem_front (hx : c ∉ x) (hy : c ∉ y) :
    x ++ c :: u = y ++ c :: v ↔ x = y ∧ u = v := by
  constructor
  · intro h
    obtain rfl := eq_of_append_cons_eq hx hy h
    exact ⟨rfl, (List.cons.inj (List.append_cancel_left h)).2⟩
  · rintro ⟨rfl, rfl⟩
    rfl

/-- What stands on both sides of the last of a character is told by the whole. -/
theorem append_cons_eq_iff_of_notMem_back (hu : c ∉ u) (hv : c ∉ v) :
    x ++ c :: u = y ++ c :: v ↔ x = y ∧ u = v := by
  constructor
  · intro h
    obtain rfl := eq_of_append_cons_eq_of_notMem hu hv h
    exact ⟨rfl, (List.cons.inj (List.append_cancel_left h)).2⟩
  · rintro ⟨rfl, rfl⟩
    rfl

end

theorem Decimal.comma_notMem_plain (x : Float) : ',' ∉ (plain x).toList :=
  notMem_plain rfl (by decide) x

/-! ### Pairs of numbers -/

theorem Position.toList_text (p : Position) :
    p.text.toList = (Decimal.plain p.lng).toList ++ ',' :: (Decimal.plain p.lat).toList := by
  simp [text]

theorem Aoi.toList_text (a : Aoi) :
    a.text.toList = (Decimal.plain a.start).toList ++ ',' :: (Decimal.plain a.stop).toList := by
  simp [text]

/-- A position has one text, and no other position has it. -/
theorem Position.text_inj {p q : Position} : p.text = q.text ↔ p = q := by
  have hcomma := Decimal.comma_notMem_plain
  rw [← String.toList_inj, toList_text, toList_text,
    append_cons_eq_iff_of_notMem_front (hcomma _) (hcomma _), String.toList_inj, String.toList_inj,
    Decimal.plain_inj, Decimal.plain_inj, mk.injEq]

theorem Aoi.text_inj {a b : Aoi} : a.text = b.text ↔ a = b := by
  have hcomma := Decimal.comma_notMem_plain
  rw [← String.toList_inj, toList_text, toList_text,
    append_cons_eq_iff_of_notMem_front (hcomma _) (hcomma _), String.toList_inj, String.toList_inj,
    Decimal.plain_inj, Decimal.plain_inj, mk.injEq]

/-- A position is told from the front of a text, whatever follows it after a comma. -/
theorem Position.text_append_eq_iff {p q : Position} {u v : List Char} :
    p.text.toList ++ ',' :: u = q.text.toList ++ ',' :: v ↔ p.text = q.text ∧ u = v := by
  have hcomma := Decimal.comma_notMem_plain
  rw [← String.toList_inj, toList_text, toList_text, List.append_assoc, List.append_assoc,
    List.cons_append, List.cons_append,
    append_cons_eq_iff_of_notMem_front (hcomma _) (hcomma _),
    append_cons_eq_iff_of_notMem_front (hcomma _) (hcomma _),
    append_cons_eq_iff_of_notMem_front (hcomma _) (hcomma _), and_assoc]

/-- A part of the link is told from the end of a text, whatever precedes it before a comma. -/
theorem Aoi.append_text_eq_iff {a b : Aoi} {u v : List Char} :
    u ++ ',' :: a.text.toList = v ++ ',' :: b.text.toList ↔ u = v ∧ a.text = b.text := by
  have hcomma := Decimal.comma_notMem_plain
  have hassoc : ∀ (w : List Char) (x y : Float),
      w ++ ',' :: ((Decimal.plain x).toList ++ ',' :: (Decimal.plain y).toList) =
        w ++ ',' :: (Decimal.plain x).toList ++ ',' :: (Decimal.plain y).toList := by
    simp
  rw [← String.toList_inj, toList_text, toList_text, hassoc, hassoc,
    append_cons_eq_iff_of_notMem_back (hcomma _) (hcomma _),
    append_cons_eq_iff_of_notMem_back (hcomma _) (hcomma _),
    append_cons_eq_iff_of_notMem_back (hcomma _) (hcomma _), and_assoc]

/-! ### Keys and tokens -/

namespace LinkQuery

variable {a b : LinkQuery}

theorem toList_dedupeKey (q : LinkQuery) : q.dedupeKey.toList =
    q.tx.text.toList ++ ',' :: (q.rx.text.toList ++ ',' :: (q.clientId.toList ++
      ',' :: q.aoi.text.toList)) := by
  simp [dedupeKey]

/-- A key tells the texts of the two positions, the name and the text of the part. -/
theorem dedupeKey_eq_iff : a.dedupeKey = b.dedupeKey ↔
    a.tx.text = b.tx.text ∧ a.rx.text = b.rx.text ∧ a.clientId = b.clientId ∧
      a.aoi.text = b.aoi.text := by
  rw [← String.toList_inj, toList_dedupeKey, toList_dedupeKey, Position.text_append_eq_iff,
    Position.text_append_eq_iff, Aoi.append_text_eq_iff, String.toList_inj]

end LinkQuery

namespace Request

variable {a b : LinkQuery} {i j : RequestId}

theorem toList_token_link (q : LinkQuery) (id : RequestId) :
    ((link q).encode id).token.toList = q.dedupeKey.toList ++ ':' :: id.render := by
  simp [encode, token, RequestId.text]

/-- A token of a link tells its key and its identifier: all identifiers are equally long. -/
theorem token_link_eq_iff : ((link a).encode i).token = ((link b).encode j).token ↔
    a.dedupeKey = b.dedupeKey ∧ i = j := by
  constructor
  · intro h
    have htext := congrArg String.toList h
    rw [toList_token_link, toList_token_link] at htext
    obtain ⟨hkey, hid⟩ := List.append_inj' htext (by simp [RequestId.length_render])
    exact ⟨String.toList_injective hkey, RequestId.render_inj (List.cons.inj hid).2⟩
  · rintro ⟨hkey, rfl⟩
    simp only [encode, token, hkey]

end Request

/-- Whatever the clients call their links, keys agree only on the same texts of both ends, the same
name and the same text of the part, which are those of the same ends and the same part. Tokens agree
only on the same key and the same identifier. -/
theorem link_identity (a b : LinkQuery) (i j : RequestId) :
    (a.dedupeKey = b.dedupeKey ↔ a.tx.text = b.tx.text ∧ a.rx.text = b.rx.text ∧
      a.clientId = b.clientId ∧ a.aoi.text = b.aoi.text) ∧
    (a.dedupeKey = b.dedupeKey ↔ a.tx = b.tx ∧ a.rx = b.rx ∧ a.clientId = b.clientId ∧
      a.aoi = b.aoi) ∧
    (((Request.link a).encode i).token = ((Request.link b).encode j).token ↔
      a.dedupeKey = b.dedupeKey ∧ i = j) := by
  refine ⟨LinkQuery.dedupeKey_eq_iff, ?_, Request.token_link_eq_iff⟩
  rw [LinkQuery.dedupeKey_eq_iff, Position.text_inj, Position.text_inj, Aoi.text_inj]

end Sightline

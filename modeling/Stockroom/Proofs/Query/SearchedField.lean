import Stockroom.Proofs.Query.Restriction

/-! # Terms and restrictions of searched fields

The same text may stand alone as a term or behind the key of a field. Where it is a term of its own
and no operator is read from it, both readings find the same pattern in it: the term seeks the pattern
in every searched field, the restriction in one. So restricting a term to a searched field can only
narrow what it finds.
-/
namespace Stockroom

/-- A trimmed text that is a term where it stands alone and a value without an operator behind a
key: it begins neither a negation nor a group nor an operator, and holds a colon only between
quotes. -/
structure Text.IsTermValue (t : Text) : Prop where
  trim : t.trim = t
  head : ∀ c ∈ t.head?, c ∉ "-(=<>".toList
  colon : ':' ∈ t → ∃ inner : Text, t = inner.between '"' '"'

def Pattern.ofText (t : Text) : Pattern :=
  match Text.interior? '"' '"' t with
  | some inner => ⟨inner, true⟩
  | none => ⟨t, false⟩

variable {value : Text}

namespace Text.IsTermValue

theorem head?_ne (h : value.IsTermValue) {c : Char} (hc : c ∈ "-(=<>".toList) :
    value.head? ≠ some c := by
  intro he
  exact h.head c he hc

theorem colon_not_mem (h : value.IsTermValue) (hq : Text.interior? '"' '"' value = none) :
    ':' ∉ value := by
  intro hm
  obtain ⟨inner, hi⟩ := h.colon hm
  rw [hi, Text.interior?_between] at hq
  cases hq

end Text.IsTermValue

theorem Node.ofText_termValue (h : value.IsTermValue) (depth : Int) :
    ofText value depth = .term (Pattern.ofText value) := by
  have hdash : value.trim.head? ≠ some '-' := by
    rw [h.trim]
    exact h.head?_ne (by decide)
  have hparenthesis : Text.interior? '(' ')' value.trim = none := by
    rw [h.trim]
    exact Text.interior?_eq_none (h.head?_ne (by decide))
  rw [ofText_bare hdash hparenthesis, h.trim, leaf, Pattern.ofText]
  cases hq : Text.interior? '"' '"' value with
  | some inner => rfl
  | none =>
    have hcut := Text.cutFirst?_eq_none (h.colon_not_mem hq)
    simp only [hcut]

theorem Tag.ofTexts_termValue (h : value.IsTermValue) (key : Text) :
    Tag.ofTexts key value = ⟨Field.keyForm key, Field.ofKey? key, .eq, Pattern.ofText value⟩ := by
  rw [ofTexts, Pattern.ofText]
  cases hq : Text.interior? '"' '"' value with
  | some inner => rfl
  | none =>
    have hsplit := Operator.split_eq_self (h.head?_ne (c := '=') (by decide))
      (h.head?_ne (c := '<') (by decide)) (h.head?_ne (c := '>') (by decide))
    simp only [hsplit]

theorem Record.holds_termValue (r : Record) (h : value.IsTermValue) (depth : Int) :
    (Node.ofText value depth).holds r = (Pattern.ofText value).inSomeField r := by
  rw [Node.ofText_termValue h, Node.holds]

theorem Record.meetsRestriction_termValue (r : Record) {key : Text} {f : TextField}
    (hk : Field.ofKey? key = some (.text f)) (h : value.IsTermValue) (depth : Int) :
    r.meetsRestriction key value depth = (Pattern.ofText value).foundIn (r.text f) := by
  have htrim : value.trimEnd = value := Text.trimEnd_eq_self_of_trim h.trim
  rw [meetsRestriction, Node.ofText_restriction hk, htrim, Tag.ofTexts_termValue h, Node.holds,
    Tag.holds, hk]

/-- Restricting a term to a searched field adds no result, at any depth: a record that meets the
restriction satisfies the term. Where no other searched field has the pattern, it loses none either. -/
theorem restriction_narrows_term (key : Text) (f : TextField)
    (hk : Field.ofKey? key = some (.text f)) (hf : f ∈ TextField.searched) (value : Text)
    (hv : value.IsTermValue) (depth : Int) (r : Record) :
    (r.meetsRestriction key value depth = true → (Node.ofText value depth).holds r = true) ∧
    ((∀ g ∈ TextField.searched, g ≠ f → (Pattern.ofText value).foundIn (r.text g) = false) →
      r.meetsRestriction key value depth = (Node.ofText value depth).holds r) := by
  rw [Record.meetsRestriction_termValue r hk hv, Record.holds_termValue r hv]
  constructor
  · intro h
    exact List.any_eq_true.mpr ⟨f, hf, h⟩
  · intro hother
    rw [Pattern.inSomeField, Bool.eq_iff_iff, List.any_eq_true]
    constructor
    · intro h
      exact ⟨f, hf, h⟩
    · rintro ⟨g, hg, h⟩
      by_cases hgf : g = f
      · rwa [hgf] at h
      · rw [hother g hg hgf] at h
        cases h

def Item.branded (brand : Text) : Item :=
  ⟨[], none, brand, [], none, 0, 0, 0, 1, [], false, none, none, none, none, none, 0⟩

/-- A key to be folded, and a literal value with a colon and an asterisk. -/
theorem restriction_narrows_literal :
    Field.ofKey? "M\u00c1RCA ".toList = some (.text .brand) ∧
    TextField.brand ∈ TextField.searched ∧
    Text.IsTermValue "\"a:B*\"".toList ∧
    (Record.item (.branded "x\u00c1:b* y".toList)).meetsRestriction "M\u00c1RCA ".toList
      "\"a:B*\"".toList 40 = true ∧
    (Node.ofText "\"a:B*\"".toList 40).holds (.item (.branded "x\u00c1:b* y".toList)) = true := by
  have hk : Field.ofKey? "M\u00c1RCA ".toList = some (.text .brand) := by decide +kernel
  have hf : TextField.brand ∈ TextField.searched := by decide
  have hv : Text.IsTermValue "\"a:B*\"".toList := {
    trim := by decide
    head := by
      rintro c ⟨⟩
      decide
    colon := fun _ => ⟨"a:B*".toList, rfl⟩ }
  have hm : (Record.item (.branded "x\u00c1:b* y".toList)).meetsRestriction "M\u00c1RCA ".toList
      "\"a:B*\"".toList 40 = true := by
    rw [Record.meetsRestriction_termValue _ hk hv]
    decide +kernel
  exact ⟨hk, hf, hv, hm, (restriction_narrows_term _ _ hk hf _ hv 40 _).1 hm⟩

end Stockroom

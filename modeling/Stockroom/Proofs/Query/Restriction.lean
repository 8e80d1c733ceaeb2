import Stockroom.Proofs.Number.Comparison
import Stockroom.Proofs.Query.DirectReading
import Stockroom.Proofs.Query.Written
import Stockroom.Proofs.Text.Folding

/-! # Restrictions of a known field

A key that names a field holds none of the characters that structure a clause, because those survive
folding and no listed key has them. So a key, a colon and any text behind it are read as a
restriction of that field, at every depth. For a numeric field the operators then relate the value of
a record to one numeral, and obey the laws of an order whatever text stands for it.
-/
namespace Stockroom

namespace Field

variable {key : Text} {f : Field}

theorem exists_mem_keyTable (h : ofKey? key = some f) :
    ∃ row ∈ keyTable, keyForm key ∈ row.2 := by
  obtain ⟨row, hrow, _⟩ := Option.map_eq_some_iff.mp h
  exact ⟨row, List.mem_of_find?_eq_some hrow, by simpa using List.find?_some hrow⟩

/-- The listed keys are words of small letters. -/
theorem isLower_of_mem_keyTable {row : Field × List Text} (hrow : row ∈ keyTable) {name : Text}
    (hname : name ∈ row.2) : name ≠ [] ∧ ∀ c ∈ name, c.isLower = true := by
  have hall : (keyTable.all fun row => row.2.all fun name =>
      !name.isEmpty && name.all Char.isLower) = true := by decide +kernel
  have hnames := List.all_eq_true.mp hall row hrow
  simpa using List.all_eq_true.mp hnames name hname

theorem trim_ne_nil (h : ofKey? key = some f) : key.trim ≠ [] := by
  obtain ⟨row, hrow, hmem⟩ := exists_mem_keyTable h
  intro ht
  have hnil : keyForm key = [] := by
    rw [keyForm, ht]
    rfl
  exact (isLower_of_mem_keyTable hrow hmem).1 hnil

theorem not_mem_key (h : ofKey? key = some f) {c : Char} (hc : Text.IsPlainAscii c)
    (hb : Character.isBlank c = false) (hl : c.isLower = false) : c ∉ key := by
  obtain ⟨row, hrow, hmem⟩ := exists_mem_keyTable h
  intro hkey
  have htrim : c ∈ key.trim := by
    obtain ⟨w, w', hw, hw', he⟩ := Text.exists_append_trim key
    have hnot {u : Text} (hu : ∀ d ∈ u, Character.isBlank d = true) : c ∉ u := by
      intro hm
      rw [hu c hm] at hb
      cases hb
    rw [he, List.mem_append, List.mem_append] at hkey
    exact (hkey.resolve_left (hnot hw)).resolve_right (hnot hw')
  have hlower := (isLower_of_mem_keyTable hrow hmem).2 c (Text.mem_folded hc htrim)
  rw [hl] at hlower
  cases hlower

end Field

def restriction (key expression : Text) : Text := key ++ ':' :: expression

namespace Tag

theorem ofTexts_trimStart (key expression : Text) :
    ofTexts key.trimStart expression = ofTexts key expression := by
  have hform : Field.keyForm key.trimStart = Field.keyForm key := by
    rw [Field.keyForm, Field.keyForm, Text.trim_trimStart]
  have hfield : Field.ofKey? key.trimStart = Field.ofKey? key := by
    rw [Field.ofKey?, Field.ofKey?, hform]
  rw [ofTexts, ofTexts, hform, hfield]

end Tag

namespace Node

/-- Behind the key of a field everything but the blanks at the end belongs to the expression. -/
theorem ofText_restriction {key : Text} {f : Field} (h : Field.ofKey? key = some f)
    (expression : Text) (depth : Int) :
    ofText (restriction key expression) depth = .tag (Tag.ofTexts key expression.trimEnd) := by
  have htrim : (restriction key expression).trim = key.trimStart ++ ':' :: expression.trimEnd :=
    Text.trim_append_cons (by decide) key expression
  have hne : key.trimStart ≠ [] := by
    intro hnil
    have ht := Field.trim_ne_nil h
    rw [← Text.trim_trimStart, hnil] at ht
    exact ht rfl
  have hsub : key.trimStart.Sublist key := List.dropWhile_sublist _
  have hhead {c : Char} (hc : c ∉ key) : (restriction key expression).trim.head? ≠ some c := by
    rw [htrim, List.head?_append_of_ne_nil _ hne]
    exact fun he => hc (hsub.subset (List.mem_of_mem_head? he))
  have hdash := hhead (Field.not_mem_key h (c := '-') (by decide) (by decide) (by decide))
  have hparenthesis := hhead (Field.not_mem_key h (c := '(') (by decide) (by decide) (by decide))
  have hquote := hhead (Field.not_mem_key h (c := '"') (by decide) (by decide) (by decide))
  have hcolon : ':' ∉ key.trimStart := fun hm =>
    Field.not_mem_key h (by decide) (by decide) (by decide) (hsub.subset hm)
  rw [ofText_bare hdash (Text.interior?_eq_none hparenthesis), leaf, Text.interior?_eq_none hquote,
    htrim, Text.cutFirst?_append hcolon, ← Tag.ofTexts_trimStart]

end Node

def Record.meetsRestriction (r : Record) (key expression : Text) (depth : Int) : Bool :=
  (Node.ofText (restriction key expression) depth).holds r

theorem Operator.trimEnd_symbol_append (op : Operator) (value : Text) :
    (op.symbol ++ value).trimEnd = op.symbol ++ value.trimEnd := by
  cases op with
  | eq => exact Text.trimEnd_append_cons (by decide) [] value
  | gt => exact Text.trimEnd_append_cons (by decide) [] value
  | lt => exact Text.trimEnd_append_cons (by decide) [] value
  | ge => exact Text.trimEnd_append_cons (by decide) ['>'] value
  | le => exact Text.trimEnd_append_cons (by decide) ['<'] value

theorem Operator.interior?_symbol_append (op : Operator) (value : Text) :
    Text.interior? '"' '"' (op.symbol ++ value) = none := by
  apply Text.interior?_eq_none
  cases op <;> exact fun h => absurd (Option.some.inj h) (by decide)

theorem Operator.split_eq_self {t : Text} (he : t.head? ≠ some '=') (hl : t.head? ≠ some '<')
    (hg : t.head? ≠ some '>') : Operator.split t = (.eq, t) := by
  rw [split.eq_def]
  split <;> simp_all

namespace Record

variable {key : Text} {f : NumericField} (h : Field.ofKey? key = some (.number f)) (r : Record)
include h

/-- Behind an operator, the value of the record is compared with the numeral that the rest of the
expression starts with. -/
theorem meetsRestriction_symbol (op : Operator) {value : Text}
    (hv : op = .gt ∨ op = .lt → value.head? ≠ some '=') (depth : Int) :
    r.meetsRestriction key (op.symbol ++ value) depth =
      op.compare (r.number f) (Numeral.leading value.trimEnd) := by
  have hsplit := Operator.split_symbol_append fun ho => Text.head?_trimEnd_ne (hv ho)
  rw [meetsRestriction, Node.ofText_restriction h, Node.holds_tag_ofTexts, agreesWith, h,
    Operator.trimEnd_symbol_append, Operator.interior?_symbol_append]
  simp only [hsplit]

/-- Without an operator and without quotes, equality is meant. -/
theorem meetsRestriction_plain {value : Text} (he : value.head? ≠ some '=')
    (hl : value.head? ≠ some '<') (hg : value.head? ≠ some '>')
    (hq : Text.interior? '"' '"' value.trimEnd = none) (depth : Int) :
    r.meetsRestriction key value depth =
      Operator.eq.compare (r.number f) (Numeral.leading value.trimEnd) := by
  have hsplit := Operator.split_eq_self (Text.head?_trimEnd_ne he) (Text.head?_trimEnd_ne hl)
    (Text.head?_trimEnd_ne hg)
  rw [meetsRestriction, Node.ofText_restriction h, Node.holds_tag_ofTexts, agreesWith, h, hq]
  simp only [hsplit]

end Record

/-- The restrictions of a numeric field by one value text, whatever it is, obey the laws of an order.
A record meets exactly one of "less", "equal" and "greater"; "at least" and "at most" are the
negations of "less" and "greater"; equality is meant where no operator and no quotes are written. As
the value of the field grows, "greater" and "at least" stay true, and as it falls, the other two. -/
theorem numeric_restrictions_order (key : Text) (f : NumericField)
    (h : Field.ofKey? key = some (.number f)) (value : Text) (hv : value.head? ≠ some '=')
    (depth : Int) :
    (∀ r : Record,
      [r.meetsRestriction key ('<' :: value) depth, r.meetsRestriction key ('=' :: value) depth,
        r.meetsRestriction key ('>' :: value) depth].count true = 1 ∧
      r.meetsRestriction key ('>' :: '=' :: value) depth =
        !r.meetsRestriction key ('<' :: value) depth ∧
      r.meetsRestriction key ('<' :: '=' :: value) depth =
        !r.meetsRestriction key ('>' :: value) depth ∧
      (value.head? ≠ some '<' → value.head? ≠ some '>' →
        (∀ inner : Text, value.trimEnd ≠ inner.between '"' '"') →
        r.meetsRestriction key value depth = r.meetsRestriction key ('=' :: value) depth)) ∧
    ∀ r r' : Record, r.number f ≤ r'.number f →
      (r.meetsRestriction key ('>' :: value) depth = true →
        r'.meetsRestriction key ('>' :: value) depth = true) ∧
      (r.meetsRestriction key ('>' :: '=' :: value) depth = true →
        r'.meetsRestriction key ('>' :: '=' :: value) depth = true) ∧
      (r'.meetsRestriction key ('<' :: value) depth = true →
        r.meetsRestriction key ('<' :: value) depth = true) ∧
      (r'.meetsRestriction key ('<' :: '=' :: value) depth = true →
        r.meetsRestriction key ('<' :: '=' :: value) depth = true) := by
  let target := Numeral.leading value.trimEnd
  have hlt (r : Record) : r.meetsRestriction key ('<' :: value) depth =
    Operator.lt.compare (r.number f) target := r.meetsRestriction_symbol h .lt (fun _ => hv) depth
  have heq (r : Record) : r.meetsRestriction key ('=' :: value) depth =
    Operator.eq.compare (r.number f) target := r.meetsRestriction_symbol h .eq (fun _ => hv) depth
  have hgt (r : Record) : r.meetsRestriction key ('>' :: value) depth =
    Operator.gt.compare (r.number f) target := r.meetsRestriction_symbol h .gt (fun _ => hv) depth
  have hge (r : Record) : r.meetsRestriction key ('>' :: '=' :: value) depth =
    Operator.ge.compare (r.number f) target := r.meetsRestriction_symbol h .ge (fun _ => hv) depth
  have hle (r : Record) : r.meetsRestriction key ('<' :: '=' :: value) depth =
    Operator.le.compare (r.number f) target := r.meetsRestriction_symbol h .le (fun _ => hv) depth
  refine ⟨fun r => ?_, fun r r' hr => ?_⟩
  · rw [hlt, heq, hgt, hge, hle]
    refine ⟨Operator.count_compare _ _, Operator.compare_ge _ _, Operator.compare_le _ _, ?_⟩
    intro hl hg hq
    have hnone : Text.interior? '"' '"' value.trimEnd = none :=
      Option.eq_none_iff_forall_ne_some.mpr fun inner hi =>
        hq inner (Text.interior?_eq_some_iff.mp hi)
    exact r.meetsRestriction_plain h hv hl hg hnone depth
  · rw [hlt, hlt, hgt, hgt, hge, hge, hle, hle]
    exact ⟨Operator.compare_of_le (.inl rfl) hr, Operator.compare_of_le (.inr rfl) hr,
      Operator.compare_of_ge (.inl rfl) hr, Operator.compare_of_ge (.inr rfl) hr⟩

def Entry.moved (quantity : ℤ) : Entry := ⟨[], [], [], .inward, [], quantity, [], [], none⟩

/-- The laws at a folded key with blanks around it, and at a value with the digits of another script
behind a sign and text behind them. -/
theorem numeric_restrictions_other_digits :
    Field.ofKey? " Q\u0301TD ".toList = some (.number .quantity) ∧
    "-\u0661\u0662x\"".toList.head? ≠ some '=' ∧
    (∀ r : Record,
      [r.meetsRestriction " Q\u0301TD ".toList ('<' :: "-\u0661\u0662x\"".toList) 40,
        r.meetsRestriction " Q\u0301TD ".toList ('=' :: "-\u0661\u0662x\"".toList) 40,
        r.meetsRestriction " Q\u0301TD ".toList ('>' :: "-\u0661\u0662x\"".toList) 40].count true = 1 ∧
      r.meetsRestriction " Q\u0301TD ".toList "-\u0661\u0662x\"".toList 40 =
        r.meetsRestriction " Q\u0301TD ".toList ('=' :: "-\u0661\u0662x\"".toList) 40) ∧
    (Record.entry (.moved (-12))).number .quantity ≤ (Record.entry (.moved 3)).number .quantity ∧
    ((Record.entry (.moved (-12))).meetsRestriction " Q\u0301TD ".toList
        ('>' :: '=' :: "-\u0661\u0662x\"".toList) 40 = true →
      (Record.entry (.moved 3)).meetsRestriction " Q\u0301TD ".toList
        ('>' :: '=' :: "-\u0661\u0662x\"".toList) 40 = true) := by
  have hk : Field.ofKey? " Q\u0301TD ".toList = some (.number .quantity) := by decide +kernel
  have hv : "-\u0661\u0662x\"".toList.head? ≠ some '=' := by decide
  have hq : ∀ inner : Text, Text.trimEnd "-\u0661\u0662x\"".toList ≠ inner.between '"' '"' := by
    intro inner he
    have hhead := congrArg List.head? he
    rw [Text.head?_between] at hhead
    exact absurd hhead (by decide)
  have hr : (Record.entry (.moved (-12))).number .quantity ≤ (Record.entry (.moved 3)).number .quantity := by
    decide
  have hlaws := numeric_restrictions_order _ _ hk _ hv 40
  exact ⟨hk, hv, fun r => ⟨(hlaws.1 r).1, (hlaws.1 r).2.2.2 (by decide) (by decide) hq⟩, hr,
    (hlaws.2 _ _ hr).2.1⟩

end Stockroom

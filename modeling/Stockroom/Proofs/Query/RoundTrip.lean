import Stockroom.Proofs.Query.Conjunction
import Stockroom.Proofs.Query.Nesting
import Stockroom.Proofs.Query.Written

/-! # Reading back what was written

A canonical node is read back from its written form at every depth that leaves room for its choices,
and the written forms of several, joined by spaces, are read back as the clauses of one query.
-/
namespace Stockroom

namespace Node

/-- A trimmed text that begins neither with a dash nor with a parenthesis is read as a leaf. -/
theorem ofText_eq_leaf {t : Text} (ht : t.trim = t) (hd : t.head? ≠ some '-')
    (hp : t.head? ≠ some '(') (depth : Int) : ofText t depth = leaf t := by
  have hd' : t.trim.head? ≠ some '-' := by rwa [ht]
  have hp' : Text.interior? '(' ')' t.trim = none := by
    rw [ht]
    exact Text.interior?_eq_none hp
  rw [ofText_bare hd' hp', ht]

end Node

namespace Pattern

variable {p : Pattern}

theorem head?_written_ne {c : Char} (h : p.CanonicalTerm) (hc : c = '-' ∨ c = '(') :
    p.written.head? ≠ some c := by
  cases h with
  | literal _ =>
    rw [written, Text.head?_between]
    rcases hc with rfl | rfl <;> decide
  | plain _ hd ha =>
    rcases hc with rfl | rfl
    · exact hd
    · exact ha.head?_ne (by decide)

theorem leaf_written (h : p.CanonicalTerm) : Node.leaf p.written = .term p := by
  cases h with
  | literal _ => simp [Node.leaf, written]
  | @plain body _ _ ha =>
    have hq : Text.interior? '"' '"' body = none := Text.interior?_eq_none (ha.head?_ne (by decide))
    have hc : Text.cutFirst? ':' body = none := Text.cutFirst?_eq_none (ha.not_mem (by decide))
    simp [Node.leaf, written, hq, hc]

end Pattern

namespace Tag

variable {t : Tag}

/-- A restriction begins with its key, or with the colon if the key is empty. -/
theorem head?_written_ne {c : Char} (h : t.Canonical) (hc : c ∈ '-' :: groupMarks) :
    t.written.head? ≠ some c := by
  have hk : t.key.head? ≠ some c := by
    rcases List.mem_cons.mp hc with rfl | hm
    · exact h.key_head
    · exact h.key_marks.of_cons.head?_ne hm
  rw [written]
  cases hkey : t.key with
  | nil =>
    have hcolon : ':' ∉ '-' :: groupMarks := by decide
    rintro ⟨⟩
    exact hcolon hc
  | cons d rest =>
    rw [hkey] at hk
    exact hk

theorem ofTexts_written (h : t.Canonical) :
    Tag.ofTexts t.key (writtenExpression t.operator t.value) = t := by
  obtain ⟨key, field, operator, value⟩ := t
  have hform : Field.keyForm key = key := h.key_form
  have hfield : field = Field.ofKey? key := h.field
  have hv : CanonicalValue operator value := h.value
  cases hv with
  | literal _ => simp [ofTexts, writtenExpression, hform, hfield]
  | @plain _ body _ _ ho =>
    have hq : Text.interior? '"' '"' (operator.symbol ++ body) = none := by
      apply Text.interior?_eq_none
      cases operator <;> simp [Operator.symbol]
    simp [ofTexts, writtenExpression, hq, Operator.split_symbol_append ho, hform, hfield]

theorem leaf_written (h : t.Canonical) : Node.leaf t.written = .tag t := by
  have hq : Text.interior? '"' '"' t.written = none :=
    Text.interior?_eq_none (head?_written_ne h (by decide))
  have hc : Text.cutFirst? ':' t.written = some (t.key, writtenExpression t.operator t.value) :=
    Text.cutFirst?_append (h.key_marks.not_mem (by decide)) _
  simp only [Node.leaf, hq, hc, ofTexts_written h]

end Tag

namespace Node

/-- A canonical node is read back wherever there is room for its choices. -/
theorem ofText_written {n : Node} {depth : Int} (h : n.Canonical)
    (hn : n.nesting + depth ≤ maxNesting) : ofText n.written depth = n := by
  induction h generalizing depth with
  | @term p h =>
    have hl : ofText p.written depth = leaf p.written :=
      ofText_eq_leaf (trim_written (.term h)) (Pattern.head?_written_ne h (.inl rfl))
        (Pattern.head?_written_ne h (.inr rfl)) depth
    rw [written, hl, Pattern.leaf_written h]
  | @tag t h =>
    have hl : ofText t.written depth = leaf t.written :=
      ofText_eq_leaf (Tag.trim_written h) (Tag.head?_written_ne h (by decide))
        (Tag.head?_written_ne h (by decide)) depth
    rw [written, hl, Tag.leaf_written h]
  | @not inner h hi ih =>
    have ht : (not inner).written.trim = '-' :: inner.written := trim_written (.not h hi)
    rw [nesting] at hn
    rw [ofText_dash ht, ih hn, negated_of_ne_not hi]
  | @anyOf branches h2 h ih =>
    have hw : ∀ w ∈ writtenAll branches, Scan.Whole '~' w := by
      intro w hw
      rw [writtenAll_eq_map] at hw
      obtain ⟨b, hb, rfl⟩ := List.mem_map.mp hw
      exact whole_written (h b hb) (.inr rfl) (h b hb).hides_tilde
    have h2' : 2 ≤ (writtenAll branches).length := by rwa [writtenAll_eq_map, List.length_map]
    rw [nesting] at hn
    have hb : ∀ b ∈ branches, ofText b.written (depth + 1) = b := by
      intro b hb
      have hd := deepest_le_iff.mp (le_refl (deepest branches)) b hb
      exact ih b hb (by omega)
    rw [written, ofText_choiceText h2' hw (by omega), writtenAll_eq_map, List.map_map]
    congr 1
    exact (List.map_congr_left hb).trans (List.map_id branches)

theorem written_ne_nil {n : Node} (h : n.Canonical) (hn : n ≠ .term ⟨[], false⟩) :
    n.written ≠ [] := by
  cases h with
  | term h =>
    cases h with
    | literal _ => exact List.cons_ne_nil _ _
    | @plain body _ _ _ =>
      rintro (rfl : body = [])
      exact hn rfl
  | @tag t _ => exact List.append_ne_nil_of_right_ne_nil t.key (List.cons_ne_nil ':' _)
  | not _ _ => exact List.cons_ne_nil '-' _
  | anyOf _ _ => exact List.cons_ne_nil '(' _

/-- A canonical node is written as one clause if there is anything to write and its plain texts,
outside choices, hold no space. -/
theorem clauseTexts_written_iff {n : Node} (h : n.Canonical) :
    clauseTexts n.written = [n.written] ↔ n.Hides ' ' ∧ n ≠ .term ⟨[], false⟩ := by
  rw [clauseTexts_eq_singleton_iff]
  constructor
  · rintro ⟨hne, hw⟩
    refine ⟨hides_of_pieces h Scan.plain_space hw, ?_⟩
    rintro rfl
    exact hne rfl
  · rintro ⟨hs, hn⟩
    exact ⟨written_ne_nil h hn, (whole_written h (.inl rfl) hs).one⟩

end Node

/-- Every canonical node is read back from its written form at every depth that leaves room for its
choices. Canonical nodes with room at depth zero that are written as one clause each are, joined by
spaces, read back as the clauses of a query. -/
theorem written_reads_back :
    (∀ (n : Node) (depth : Int), n.Canonical → n.nesting + depth ≤ maxNesting →
      Node.ofText n.written depth = n) ∧
    (∀ n : Node, n.Canonical →
      (clauseTexts n.written = [n.written] ↔ n.Hides ' ' ∧ n ≠ .term ⟨[], false⟩)) ∧
    ∀ nodes : List Node,
      (∀ n ∈ nodes, n.Canonical ∧ n.nesting ≤ maxNesting ∧ clauseTexts n.written = [n.written]) →
      (Query.ofText ([' '].intercalate (nodes.map Node.written))).clauses = nodes := by
  refine ⟨fun n depth h hn => Node.ofText_written h hn, fun n h => Node.clauseTexts_written_iff h,
    fun nodes h => ?_⟩
  have hc : ∀ w ∈ nodes.map Node.written, clauseTexts w = [w] := by
    intro w hw
    obtain ⟨n, hn, rfl⟩ := List.mem_map.mp hw
    exact (h n hn).2.2
  have hr : ∀ w ∈ (nodes.map Node.written).dropLast, Scan.rest.run w = Scan.rest := by
    intro w hw
    obtain ⟨n, hn, rfl⟩ := List.mem_map.mp ((List.dropLast_sublist _).subset hw)
    exact (Node.whole_written (h n hn).1 (.inr rfl) (h n hn).1.hides_tilde).closed.run_eq
  have hread : ∀ n ∈ nodes, Node.ofText n.written 0 = n := by
    intro n hn
    have hroom := (h n hn).2.1
    exact Node.ofText_written (h n hn).1 (by omega)
  rw [Query.ofText, clauseTexts_intercalate hc hr, List.map_map]
  exact (List.map_congr_left hread).trans (List.map_id nodes)

def Node.sample : Node :=
  .anyOf [.not (.tag ⟨"marca".toList, some (.text .brand), .ge, ⟨"x y".toList, false⟩⟩),
    .anyOf [.term ⟨" a~(".toList, true⟩, .term ⟨[], false⟩]]

theorem Node.sample_canonical : Node.sample.Canonical := by
  have htag : Tag.Canonical ⟨"marca".toList, some (.text .brand), .ge, ⟨"x y".toList, false⟩⟩ :=
    ⟨by decide +kernel, by decide, by decide, by decide, by decide +kernel,
      .plain (by decide) (by decide) (by decide)⟩
  have hliteral : Pattern.CanonicalTerm ⟨" a~(".toList, true⟩ := .literal (by decide)
  have hempty : Pattern.CanonicalTerm ⟨[], false⟩ := .plain (by decide) (by decide) (by decide)
  refine .anyOf (by decide) ?_
  simp only [List.forall_mem_cons]
  refine ⟨.not (.tag htag) (by nofun), .anyOf (by decide) ?_, by simp⟩
  simp only [List.forall_mem_cons]
  exact ⟨.term hliteral, .term hempty, by simp⟩

theorem written_reads_back_sample :
    Node.sample.written = "(-marca:>=x y~(\" a~(\"~))".toList ∧ Node.sample.Canonical ∧
    Node.ofText Node.sample.written 0 = Node.sample ∧
    clauseTexts Node.sample.written = [Node.sample.written] ∧
    (Query.ofText ([' '].intercalate ([Node.sample, Node.sample].map Node.written))).clauses =
      [Node.sample, Node.sample] := by
  have h : Node.sample.Canonical := Node.sample_canonical
  have hone : clauseTexts Node.sample.written = [Node.sample.written] :=
    (written_reads_back.2.1 Node.sample h).mpr ⟨trivial, by nofun⟩
  refine ⟨by decide, h, written_reads_back.1 Node.sample 0 h (by decide), hone,
    written_reads_back.2.2 [Node.sample, Node.sample] ?_⟩
  intro n hn
  obtain rfl : n = Node.sample := by simpa using hn
  exact ⟨h, by decide, hone⟩

end Stockroom

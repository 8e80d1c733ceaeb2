import Stockroom.Proofs.Query.Conjunction
import Stockroom.Proofs.Query.Forms

/-! # Redundant syntax

Blanks around a clause and parentheses around a single alternative leave no trace in the reading,
and a dash in front negates it, so that a second dash undoes the first. A query of one clause is
negated by a dash in front of it, and so is the empty query.
-/
namespace Stockroom
open Scan

namespace Node

/-- A dash negates the reading of what follows it, whatever that is. -/
theorem ofText_cons_dash (t : Text) (depth : Int) :
    ofText ('-' :: t) depth = (ofText t depth).negated := by
  have ht : Text.trim ('-' :: t) = '-' :: t.trimEnd := Text.trim_cons (by decide) t
  rw [ofText_dash ht, ← ofText_trim t.trimEnd, Text.trim_trimEnd, ofText_trim]

theorem ofText_between {t : Text} (h : (alternatives t).length = 1) (depth : Int) :
    ofText (t.between '(' ')') depth = ofText t depth :=
  ofText_wrapped (trim_between_parentheses t) (alternatives_eq_singleton h) depth

theorem ofText_append_blank {w w' : Text} (h : ∀ c ∈ w, Character.isBlank c = true)
    (h' : ∀ c ∈ w', Character.isBlank c = true) (t : Text) (depth : Int) :
    ofText (w ++ (t ++ w')) depth = ofText t depth := by
  rw [← ofText_trim, Text.trim_append_blank h h', ofText_trim]

/-- Nothing is read as a term that every record contains. -/
theorem holds_ofText_nil (r : Record) (depth : Int) : (ofText [] depth).holds r = true := by
  have hd : (Text.trim []).head? ≠ some '-' := by decide
  rw [ofText_bare hd (by decide)]
  have hf : (Pattern.mk [] false).foundIn (r.text .name) = true := by
    have hn : Text.foldedPattern [] = [] := rfl
    simp only [Pattern.foundIn, hn]
    cases (r.text .name).folded <;> rfl
  have hs : (Pattern.mk [] false).inSomeField r = true := by
    rw [Pattern.inSomeField, List.any_eq_true]
    exact ⟨.name, by decide, hf⟩
  exact hs

end Node

/-- A dash in front of a query belongs to its first clause, unless a space parts them. -/
theorem clauseTexts_cons_dash {x : Text} (h : x.head? ≠ some ' ') :
    clauseTexts ('-' :: x) = Text.lengthenHead '-' (clauseTexts x) := by
  have hdash : ¬('-' = ' ' ∧ rest = rest) := fun hc => absurd hc.1 (by decide)
  have hp : rest.pieces ' ' ('-' :: x) = Text.lengthenHead '-' (rest.pieces ' ' x) :=
    pieces_keep hdash x
  rw [clauseTexts, hp, clauseTexts]
  cases x with
  | nil => rfl
  | cons c x =>
    have hc : ¬(c = ' ' ∧ rest = rest) := by
      rintro ⟨rfl, _⟩
      exact h rfl
    rw [pieces_keep hc]
    cases (rest.step c).pieces ' ' x with
    | nil => rfl
    | cons p ps => simp [Text.lengthenHead]

/-- A query that is one clause from its start on is negated by a dash. -/
theorem matchesText_cons_dash {x : Text} (hs : x.head? ≠ some ' ')
    (h1 : (clauseTexts x).length = 1) (r : Record) :
    r.matchesText ('-' :: x) = !r.matchesText x := by
  obtain ⟨c, hc⟩ := List.length_eq_one_iff.mp h1
  rw [matchesText_eq_all, matchesText_eq_all, clauseTexts_cons_dash hs, hc]
  simp [Text.lengthenHead, Node.ofText_cons_dash]

theorem matchesText_dash (r : Record) : r.matchesText ['-'] = !r.matchesText [] := by
  have h1 : clauseTexts ['-'] = [['-']] := by decide
  have h0 : clauseTexts [] = [] := by decide
  rw [matchesText_eq_all, matchesText_eq_all, h1, h0, List.all_cons, List.all_nil,
    Node.ofText_cons_dash, Node.holds_negated, Node.holds_ofText_nil]
  rfl

/-- A dash is undone by a negation that is there already and negates any other reading; parentheses
around one alternative and blanks around a text are not seen in its reading. So a dash in front of
the empty query, or of a query that begins with its only clause, inverts the verdict. -/
theorem redundant_syntax_erased :
    (∀ (t : Text) (depth : Int),
      (∀ n, Node.ofText t depth = .not n → Node.ofText ('-' :: t) depth = n) ∧
      ((∀ n, Node.ofText t depth ≠ .not n) →
        Node.ofText ('-' :: t) depth = .not (Node.ofText t depth))) ∧
    (∀ (t : Text) (depth : Int), (alternatives t).length = 1 →
      Node.ofText (t.between '(' ')') depth = Node.ofText t depth) ∧
    (∀ (w t w' : Text) (depth : Int), (∀ c ∈ w, Character.isBlank c = true) →
      (∀ c ∈ w', Character.isBlank c = true) →
      Node.ofText (w ++ (t ++ w')) depth = Node.ofText t depth) ∧
    ∀ x : Text, x = [] ∨ x.head? ≠ some ' ' ∧ (clauseTexts x).length = 1 →
      ∀ r : Record, r.matchesText ('-' :: x) = !r.matchesText x := by
  refine ⟨fun t depth => ⟨fun n h => ?_, fun h => ?_⟩, fun t depth h => Node.ofText_between h depth,
    fun w t w' depth h h' => Node.ofText_append_blank h h' t depth, ?_⟩
  · rw [Node.ofText_cons_dash, h, Node.negated]
  · rw [Node.ofText_cons_dash, Node.negated_of_ne_not h]
  · rintro x (rfl | ⟨hs, h1⟩) r
    · exact matchesText_dash r
    · exact matchesText_cons_dash hs h1 r

/-- The laws at a choice behind one dash and behind two, at a quote left open, and at a query of one
clause with spaces in it and behind it. -/
theorem redundant_syntax_samples :
    (∀ n, Node.ofText " (a~b) ".toList 0 ≠ .not n) ∧
    Node.ofText "- (a~b) ".toList 0 = .not (Node.ofText " (a~b) ".toList 0) ∧
    Node.ofText "-- (a~b) ".toList 0 = Node.ofText " (a~b) ".toList 0 ∧
    (alternatives "\"a ~b".toList).length = 1 ∧
    Node.ofText (Text.between '(' ')' "\"a ~b".toList) 0 = Node.ofText "\"a ~b".toList 0 ∧
    (∀ c ∈ ['\t'], Character.isBlank c = true) ∧ (∀ c ∈ [' ', '\n'], Character.isBlank c = true) ∧
    Node.ofText (['\t'] ++ ("-a".toList ++ [' ', '\n'])) 0 = Node.ofText "-a".toList 0 ∧
    ("(a b)  ".toList.head? ≠ some ' ' ∧ (clauseTexts "(a b)  ".toList).length = 1) ∧
    ∀ r : Record, r.matchesText ('-' :: "(a b)  ".toList) = !r.matchesText "(a b)  ".toList := by
  have hc : ∀ n, Node.ofText " (a~b) ".toList 0 ≠ .not n := by
    have ht : Text.trim " (a~b) ".toList = Text.between '(' ')' "a~b".toList := by decide
    rw [Node.ofText_choice ht (by decide), if_pos (by decide)]
    nofun
  have hn : Node.ofText "- (a~b) ".toList 0 = .not (Node.ofText " (a~b) ".toList 0) :=
    (redundant_syntax_erased.1 _ 0).2 hc
  have ha : (alternatives "\"a ~b".toList).length = 1 := by decide
  have hw : ∀ c ∈ ['\t'], Character.isBlank c = true := List.all_eq_true.mp (by decide)
  have hw' : ∀ c ∈ [' ', '\n'], Character.isBlank c = true := List.all_eq_true.mp (by decide)
  have hx : "(a b)  ".toList.head? ≠ some ' ' ∧ (clauseTexts "(a b)  ".toList).length = 1 := by decide
  exact ⟨hc, hn, (redundant_syntax_erased.1 _ 0).1 _ hn, ha, redundant_syntax_erased.2.1 _ 0 ha, hw, hw',
    redundant_syntax_erased.2.2.1 ['\t'] "-a".toList [' ', '\n'] 0 hw hw', hx,
    redundant_syntax_erased.2.2.2 _ (.inr hx)⟩

end Stockroom

import Stockroom.Proofs.Query.Forms

/-! # The written form of a node

`Node.written` writes a node down in the syntax that queries are read from. A canonical node is one
whose parts can be written so: its plain texts hold none of the characters that structure a clause.
The written form of a canonical node needs no trimming, and separators in it are protected by quotes
and parentheses unless they stand in its own plain texts.
-/
namespace Stockroom

def Pattern.written : Pattern → Text
  | ⟨body, true⟩ => body.between '"' '"'
  | ⟨body, false⟩ => body

def Tag.writtenExpression (operator : Operator) : Pattern → Text
  | ⟨body, true⟩ => body.between '"' '"'
  | ⟨body, false⟩ => operator.symbol ++ body

def Tag.written (t : Tag) : Text := t.key ++ ':' :: writtenExpression t.operator t.value

namespace Node

mutual

def written : Node → Text
  | term pattern => pattern.written
  | tag t => t.written
  | not inner => '-' :: inner.written
  | anyOf branches => choiceText (writtenAll branches)

def writtenAll : List Node → List Text
  | [] => []
  | branch :: rest => branch.written :: writtenAll rest

end

theorem writtenAll_eq_map (branches : List Node) : writtenAll branches = branches.map written := by
  induction branches with
  | nil => rfl
  | cons branch rest ih => rw [writtenAll, ih, List.map_cons]

end Node

def groupMarks : List Char := ['"', '(', ')', '~']

def Text.Avoids (t : Text) (marks : List Char) : Prop := ∀ c ∈ t, c ∉ marks

instance (t : Text) (marks : List Char) : Decidable (t.Avoids marks) :=
  decidable_of_iff ((t.all fun c => !marks.contains c) = true) (by simp [Text.Avoids])

namespace Text.Avoids

variable {t : Text} {marks : List Char}

theorem not_mem {c : Char} (h : t.Avoids marks) (hc : c ∈ marks) : c ∉ t := fun hm => h c hm hc

theorem head?_ne {c : Char} (h : t.Avoids marks) (hc : c ∈ marks) : t.head? ≠ some c :=
  fun hh => h c (List.mem_of_mem_head? hh) hc

theorem of_cons {m : Char} (h : t.Avoids (m :: marks)) : t.Avoids marks :=
  fun c hc hm => h c hc (List.mem_cons_of_mem m hm)

theorem plain (h : t.Avoids groupMarks) : ∀ c ∈ t, Scan.Plain c := by
  intro c hc
  have hm := h c hc
  simp only [groupMarks, List.mem_cons, List.not_mem_nil, or_false, not_or] at hm
  exact ⟨hm.1, hm.2.1, hm.2.2.1⟩

end Text.Avoids

/-- A literal term holds no quote; a plain one is trimmed and would not be read as anything else. -/
inductive Pattern.CanonicalTerm : Pattern → Prop
  | literal {body : Text} (hq : '"' ∉ body) : CanonicalTerm ⟨body, true⟩
  | plain {body : Text} (ht : body.trim = body) (hd : body.head? ≠ some '-')
      (ha : body.Avoids (':' :: groupMarks)) : CanonicalTerm ⟨body, false⟩

/-- A literal value holds no quote; a plain one ends in no blank and keeps apart from its operator. -/
inductive Tag.CanonicalValue : Operator → Pattern → Prop
  | literal {body : Text} (hq : '"' ∉ body) : CanonicalValue .eq ⟨body, true⟩
  | plain {operator : Operator} {body : Text} (ht : body.trimEnd = body)
      (ha : body.Avoids groupMarks)
      (ho : operator = .gt ∨ operator = .lt → body.head? ≠ some '=') :
      CanonicalValue operator ⟨body, false⟩

structure Tag.Canonical (t : Tag) : Prop where
  key_form : Field.keyForm t.key = t.key
  key_trim : t.key.trim = t.key
  key_head : t.key.head? ≠ some '-'
  key_marks : t.key.Avoids (':' :: groupMarks)
  field : t.field = Field.ofKey? t.key
  value : Tag.CanonicalValue t.operator t.value

namespace Node

inductive Canonical : Node → Prop
  | term {pattern : Pattern} (h : pattern.CanonicalTerm) : Canonical (.term pattern)
  | tag {t : Tag} (h : t.Canonical) : Canonical (.tag t)
  | not {inner : Node} (h : Canonical inner) (hn : ∀ m, inner ≠ .not m) : Canonical (.not inner)
  | anyOf {branches : List Node} (h2 : 2 ≤ branches.length) (h : ∀ b ∈ branches, Canonical b) :
      Canonical (.anyOf branches)

end Node

def Pattern.Hides (separator : Char) (p : Pattern) : Prop := p.literal = true ∨ separator ∉ p.body

def Node.Hides (separator : Char) : Node → Prop
  | .term p => p.Hides separator
  | .tag t => separator ∉ t.key ∧ t.value.Hides separator
  | .not inner => inner.Hides separator
  | .anyOf _ => True

theorem Operator.symbol_ne_nil (op : Operator) : op.symbol ≠ [] := by cases op <;> decide

theorem Operator.trimEnd_symbol (op : Operator) : op.symbol.trimEnd = op.symbol := by
  cases op <;> decide

/-- A plain value keeps what was written behind its operator. -/
theorem Operator.split_symbol_append {op : Operator} {value : Text}
    (h : op = .gt ∨ op = .lt → value.head? ≠ some '=') :
    Operator.split (op.symbol ++ value) = (op, value) := by
  cases op with
  | eq => rfl
  | ge => rfl
  | le => rfl
  | gt =>
    cases value with
    | nil => rfl
    | cons c value =>
      have hc : c ≠ '=' := by simpa using h (.inl rfl)
      simp [symbol, split, hc]
  | lt =>
    cases value with
    | nil => rfl
    | cons c value =>
      have hc : c ≠ '=' := by simpa using h (.inr rfl)
      simp [symbol, split, hc]

namespace Tag

theorem writtenExpression_ne_nil {operator : Operator} {value : Pattern}
    (h : CanonicalValue operator value) : writtenExpression operator value ≠ [] := by
  cases h with
  | literal _ => exact List.cons_ne_nil _ _
  | plain _ _ _ => exact List.append_ne_nil_of_left_ne_nil operator.symbol_ne_nil _

theorem trimEnd_writtenExpression {operator : Operator} {value : Pattern}
    (h : CanonicalValue operator value) :
    (writtenExpression operator value).trimEnd = writtenExpression operator value := by
  cases h with
  | literal _ => exact Text.trimEnd_eq_self_of_trim (Text.trim_between (by decide) (by decide) _)
  | @plain _ body ht _ _ =>
    rw [writtenExpression]
    by_cases hb : body = []
    · rw [hb, List.append_nil]
      exact operator.trimEnd_symbol
    · exact Text.trimEnd_append hb ht _

theorem trim_written {t : Tag} (h : t.Canonical) : t.written.trim = t.written := by
  apply Text.trim_eq_self
  · by_cases hk : t.key = []
    · rw [written, hk, List.nil_append, Text.trimStart_eq_self_iff]
      rintro c ⟨⟩
      decide
    · exact Text.trimStart_append hk (Text.trimStart_eq_self_of_trim h.key_trim) _
  · have he := Text.trimEnd_append (writtenExpression_ne_nil h.value)
      (trimEnd_writtenExpression h.value)
    have hw : t.written = (t.key ++ [':']) ++ writtenExpression t.operator t.value := by
      simp [written]
    rw [hw]
    exact he _

end Tag

namespace Node

theorem trim_written {n : Node} (h : n.Canonical) : n.written.trim = n.written := by
  induction h with
  | term h =>
    cases h with
    | literal _ => exact Text.trim_between (by decide) (by decide) _
    | plain ht _ _ => exact ht
  | tag h => exact Tag.trim_written h
  | @not inner _ _ ih =>
    rw [written]
    apply Text.trim_eq_self
    · rw [Text.trimStart_eq_self_iff]
      rintro c ⟨⟩
      decide
    · by_cases hi : inner.written = []
      · rw [hi]
        decide
      · exact Text.trimEnd_append hi (Text.trimEnd_eq_self_of_trim ih) ['-']
  | anyOf _ _ _ => exact trim_between_parentheses _

end Node

section Separators
open Scan

/-- No plain text of a canonical node holds a tilde. -/
theorem Node.Canonical.hides_tilde {n : Node} (h : n.Canonical) : n.Hides '~' := by
  induction h with
  | term h =>
    cases h with
    | literal _ => exact .inl rfl
    | plain _ _ ha => exact .inr (ha.not_mem (by decide))
  | @tag t h =>
    obtain ⟨key, field, operator, value⟩ := t
    refine ⟨h.key_marks.not_mem (by decide), ?_⟩
    have hv : Tag.CanonicalValue operator value := h.value
    cases hv with
    | literal _ => exact .inl rfl
    | plain _ ha _ => exact .inr (ha.not_mem (by decide))
  | not _ _ ih => exact ih
  | anyOf _ _ _ => trivial

variable {separator : Char}

theorem Pattern.whole_written {p : Pattern} (hp : Plain separator) (h : p.CanonicalTerm)
    (hs : p.Hides separator) : Whole separator p.written := by
  cases h with
  | literal hq => exact .quoted hp hq
  | plain _ _ ha => exact .of_plain hp ha.of_cons.plain (hs.resolve_left nofun)

theorem Operator.whole_symbol (hs : separator = ' ' ∨ separator = '~') (op : Operator) :
    Whole separator op.symbol := by
  rcases hs with rfl | rfl <;> cases op <;> decide

theorem Tag.whole_writtenExpression {operator : Operator} {value : Pattern}
    (hs : separator = ' ' ∨ separator = '~') (hp : Plain separator)
    (h : CanonicalValue operator value) (hv : value.Hides separator) :
    Whole separator (writtenExpression operator value) := by
  cases h with
  | literal hq => exact .quoted hp hq
  | @plain _ body _ ha _ =>
    have hbody : Whole separator body := .of_plain hp ha.plain (hv.resolve_left nofun)
    exact (Operator.whole_symbol hs operator).append hp hbody

theorem Tag.whole_written {t : Tag} (hs : separator = ' ' ∨ separator = '~') (hp : Plain separator)
    (h : t.Canonical) (hk : separator ∉ t.key) (hv : t.value.Hides separator) :
    Whole separator t.written := by
  have hkey : Whole separator t.key := .of_plain hp h.key_marks.of_cons.plain hk
  have hcolon : Whole separator [':'] := by rcases hs with rfl | rfl <;> decide
  exact hkey.append hp (hcolon.append hp (whole_writtenExpression hs hp h.value hv))

/-- The written form of a canonical node is whole for every separator that its plain texts hide. -/
theorem Node.whole_written {n : Node} (h : n.Canonical) (hs : separator = ' ' ∨ separator = '~')
    (hh : n.Hides separator) : Whole separator n.written := by
  have hp : Plain separator := by rcases hs with rfl | rfl <;> decide
  induction h generalizing separator with
  | term h => exact Pattern.whole_written hp h hh
  | tag h => exact Tag.whole_written hs hp h hh.1 hh.2
  | @not inner _ _ ih =>
    have hdash : Whole separator ['-'] := by rcases hs with rfl | rfl <;> decide
    exact hdash.append hp (ih hs hh hp)
  | @anyOf branches _ hb ih =>
    have hc : ∀ w ∈ writtenAll branches, Closed w := by
      intro w hw
      rw [writtenAll_eq_map] at hw
      obtain ⟨b, hm, rfl⟩ := List.mem_map.mp hw
      exact (ih b hm (.inr rfl) (hb b hm).hides_tilde plain_tilde).closed
    exact .parenthesised hp (Closed.intercalate plain_tilde hc)

/-- A separator that a plain text does not hide cuts the written form. -/
theorem Node.hides_of_pieces {n : Node} (h : n.Canonical) (hp : Plain separator)
    (hw : rest.pieces separator n.written = [n.written]) : n.Hides separator := by
  induction h with
  | term h =>
    cases h with
    | literal _ => exact .inl rfl
    | @plain body _ _ ha =>
      have hb : rest.pieces separator ([] ++ (body ++ [])) = [[] ++ (body ++ [])] := by
        simpa [written, Pattern.written] using hw
      exact .inr (not_mem_of_pieces hp (run_nil rest) ha.of_cons.plain [] hb)
  | @tag t h =>
    obtain ⟨key, field, operator, value⟩ := t
    have hkey := h.key_marks.of_cons.plain
    refine ⟨not_mem_of_pieces hp (run_nil rest) hkey _ hw, ?_⟩
    have hv : Tag.CanonicalValue operator value := h.value
    cases hv with
    | literal _ => exact .inl rfl
    | @plain _ body _ ha _ =>
      have hr : rest.run (key ++ ':' :: operator.symbol) = rest := by
        rw [run_append, run_of_plain hkey]
        cases operator <;> decide
      have hb : rest.pieces separator ((key ++ ':' :: operator.symbol) ++ (body ++ [])) =
          [(key ++ ':' :: operator.symbol) ++ (body ++ [])] := by
        simpa [written, Tag.written, Tag.writtenExpression] using hw
      exact .inr (not_mem_of_pieces hp hr ha.plain [] hb)
  | @not inner _ _ ih =>
    apply ih
    rw [pieces_eq_singleton_iff hp] at hw ⊢
    intro u v huv
    exact hw ('-' :: u) v (congrArg ('-' :: ·) huv)
  | anyOf _ _ _ => trivial

end Separators

end Stockroom

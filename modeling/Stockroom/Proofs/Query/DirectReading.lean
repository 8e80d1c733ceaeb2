import Stockroom.Proofs.Query.Conjunction
import Stockroom.Proofs.Query.Forms

/-! # Reading a clause directly

`Record.satisfies` decides on the text of a clause whether a record satisfies it, part by part and
without a tree: it goes into what follows a dash, into the only alternative in parentheses and into
each of several. Reading the text into a node first and evaluating that node gives the same verdict,
on every text, at every depth and for every record.
-/
namespace Stockroom
namespace Record

def agreesWith (r : Record) (key expression : Text) : Bool :=
  match Field.ofKey? key, Text.interior? '"' '"' expression with
  | none, _ => false
  | some (.number f), some inner => Operator.eq.compare (r.number f) (Numeral.leading inner)
  | some (.number f), none =>
    let (operator, value) := Operator.split expression
    operator.compare (r.number f) (Numeral.leading value)
  | some (.text f), some inner => (Pattern.mk inner true).foundIn (r.text f)
  | some (.text f), none => (Pattern.mk (Operator.split expression).2 false).foundIn (r.text f)

def meetsUnquoted (r : Record) (t : Text) : Bool :=
  match t.cutFirst? ':' with
  | some (key, expression) => r.agreesWith key expression
  | none => TextField.searched.any fun f => (Pattern.mk t false).foundIn (r.text f)

def meetsLeaf (r : Record) (t : Text) : Bool :=
  match Text.interior? '"' '"' t with
  | some inner => TextField.searched.any fun f => (Pattern.mk inner true).foundIn (r.text f)
  | none => r.meetsUnquoted t

/-- Whether a record satisfies the text of a clause. Several alternatives in parentheses count as
such only above the greatest depth. -/
def satisfies (r : Record) (t : Text) (depth : Int) : Bool :=
  match hd : Text.afterLead? ['-'] t.trim with
  | some rest =>
    have : rest.length < t.length := length_lt_of_dash (Text.afterLead?_eq_some.mp hd)
    !r.satisfies rest depth
  | none =>
    match hp : Text.interior? '(' ')' t.trim with
    | some inner =>
      have hlt : ∀ b ∈ alternatives inner, b.length < t.length := fun _ hb =>
        length_lt_of_alternative (Text.interior?_eq_some_iff.mp hp) hb
      match ha : alternatives inner with
      | [branch] =>
        have : branch.length < t.length := hlt branch (by rw [ha]; exact List.mem_cons_self)
        r.satisfies branch depth
      | branches =>
        if depth < maxNesting then
          branches.attach.any fun b =>
            have : b.1.length < t.length := hlt b.1 (by rw [ha]; exact b.2)
            r.satisfies b.1 (depth + 1)
        else r.meetsUnquoted t.trim
    | none => r.meetsLeaf t.trim
  termination_by t.length

variable {r : Record} {t inner rest : Text} {depth : Int}

theorem satisfies_dash (ht : t.trim = '-' :: rest) : r.satisfies t depth = !r.satisfies rest depth := by
  rw [satisfies]
  split
  · next hd =>
    rw [ht] at hd
    cases hd
    rfl
  · next hd =>
    rw [ht] at hd
    cases hd

theorem satisfies_wrapped (ht : t.trim = inner.between '(' ')') (ha : alternatives inner = [inner]) :
    r.satisfies t depth = r.satisfies inner depth := by
  rw [satisfies]
  split
  · next hd =>
    rw [ht] at hd
    cases hd
  · split
    · next i hp =>
      rw [ht, Text.interior?_between] at hp
      cases hp
      split
      · next hb =>
        rw [ha] at hb
        cases hb
        rfl
      · next hn => exact absurd ha (hn inner)
    · next hp =>
      rw [ht, Text.interior?_between] at hp
      cases hp

theorem satisfies_choice (ht : t.trim = inner.between '(' ')') (ha : 2 ≤ (alternatives inner).length) :
    r.satisfies t depth =
      if depth < maxNesting then (alternatives inner).any (r.satisfies · (depth + 1))
      else r.meetsUnquoted t.trim := by
  rw [satisfies]
  split
  · next hd =>
    rw [ht] at hd
    cases hd
  · split
    · next i hp =>
      rw [ht, Text.interior?_between] at hp
      cases hp
      split
      · next hb =>
        rw [hb, List.length_singleton] at ha
        omega
      · split
        · rw [List.any_subtype (g := fun b => r.satisfies b (depth + 1)) fun _ _ => rfl,
            List.unattach_attach]
        · rfl
    · next hp =>
      rw [ht, Text.interior?_between] at hp
      cases hp

theorem satisfies_bare (hd : t.trim.head? ≠ some '-') (hp : Text.interior? '(' ')' t.trim = none) :
    r.satisfies t depth = r.meetsLeaf t.trim := by
  rw [satisfies]
  split
  · next hr =>
    rw [Text.afterLead?_eq_some.mp hr] at hd
    exact absurd rfl hd
  · split
    · next hi =>
      rw [hp] at hi
      cases hi
    · rfl

end Record

namespace Node

variable (r : Record)

theorem holds_tag_ofTexts (key expression : Text) :
    (tag (Tag.ofTexts key expression)).holds r = r.agreesWith key expression := by
  rw [holds, Tag.holds, Tag.ofTexts, Record.agreesWith]
  cases Field.ofKey? key with
  | none => cases Text.interior? '"' '"' expression <;> rfl
  | some f => cases f <;> cases Text.interior? '"' '"' expression <;> rfl

/-- A text without a dash and without parentheses around it is evaluated as it is read. -/
theorem holds_leaf (t : Text) : (leaf t).holds r = r.meetsLeaf t := by
  rw [leaf, Record.meetsLeaf]
  cases Text.interior? '"' '"' t with
  | some inner => rfl
  | none =>
    rw [Record.meetsUnquoted]
    cases t.cutFirst? ':' with
    | none => rfl
    | some p => exact holds_tag_ofTexts r p.1 p.2

/-- Parentheses around a text are no quotes. -/
theorem meetsLeaf_between (inner : Text) :
    r.meetsLeaf (inner.between '(' ')') = r.meetsUnquoted (inner.between '(' ')') := by
  have h : Text.interior? '"' '"' (inner.between '(' ')') = none :=
    Text.interior?_eq_none (by rw [Text.head?_between]; decide)
  rw [Record.meetsLeaf, h]

theorem holds_ofText (t : Text) (depth : Int) : (ofText t depth).holds r = r.satisfies t depth := by
  refine ofText_induction (motive := fun t depth n => n.holds r = r.satisfies t depth)
    ?dash ?wrapped ?choice ?deep ?bare t depth
  case dash =>
    intro t rest depth n ht h
    rw [holds_negated, h, Record.satisfies_dash ht]
  case wrapped =>
    intro t inner depth n ht ha h
    rw [h, Record.satisfies_wrapped ht ha]
  case choice =>
    intro t inner depth ht ha hd h
    rw [Record.satisfies_choice ht ha, if_pos hd]
    exact holds_anyOf_map h
  case deep =>
    intro t inner depth ht ha hd
    rw [Record.satisfies_choice ht ha, if_neg hd, holds_leaf, ht, meetsLeaf_between]
  case bare =>
    intro t depth hd hp
    rw [Record.satisfies_bare hd hp, holds_leaf]

end Node

/-- Reading a clause into a node and evaluating the node is deciding on the text directly; so a query
matches exactly the records that satisfy each of its clause texts. -/
theorem reading_agrees_with_text :
    (∀ (r : Record) (t : Text) (depth : Int), (Node.ofText t depth).holds r = r.satisfies t depth) ∧
    ∀ (r : Record) (query : Text),
      r.matchesText query = (clauseTexts query).all fun t => r.satisfies t 0 := by
  refine ⟨Node.holds_ofText, fun r query => ?_⟩
  rw [matchesText_eq_all]
  simp only [Node.holds_ofText]

end Stockroom

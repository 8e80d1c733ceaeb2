import Stockroom.Query.Evaluation
import Stockroom.Proofs.Scan.Closed
import Stockroom.Proofs.Text.Delimiters

/-! # The forms of a clause

A clause text, without the blanks around it, begins with a dash, stands in parentheses around one
alternative or around several, or has none of these forms. How it is read follows its form: each
form has one equation for `Node.ofText`, and later proofs about readings go by these equations and
never look into the peeling.
-/
namespace Stockroom

theorem length_le_of_mem_alternatives {inner branch : Text} (h : branch ∈ alternatives inner) :
    branch.length ≤ inner.length :=
  Scan.length_le_of_mem_pieces h

theorem alternatives_eq_singleton {inner : Text} (h : (alternatives inner).length = 1) :
    alternatives inner = [inner] := by
  obtain ⟨branch, hb⟩ := List.length_eq_one_iff.mp h
  have hi : ['~'].intercalate (alternatives inner) = inner := Scan.intercalate_pieces Scan.rest inner
  rw [hb, List.intercalate_singleton] at hi
  rw [hb, hi]

inductive ClauseForm (t : Text) : Prop
  | dash (rest : Text) (ht : t.trim = '-' :: rest)
  | wrapped (inner : Text) (ht : t.trim = inner.between '(' ')') (ha : alternatives inner = [inner])
  | choice (inner : Text) (ht : t.trim = inner.between '(' ')')
      (ha : 2 ≤ (alternatives inner).length)
  | bare (hd : t.trim.head? ≠ some '-') (hp : Text.interior? '(' ')' t.trim = none)

/-- Every clause text has one of the forms. -/
theorem ClauseForm.of (t : Text) : ClauseForm t := by
  by_cases hd : t.trim.head? = some '-'
  · obtain ⟨rest, hr⟩ := List.head?_eq_some_iff.mp hd
    exact .dash rest hr
  · cases hp : Text.interior? '(' ')' t.trim with
    | none => exact .bare hd hp
    | some inner =>
      have ht := Text.interior?_eq_some_iff.mp hp
      have hn : (alternatives inner).length ≠ 0 := by
        rw [Ne, List.length_eq_zero_iff]
        exact Scan.pieces_ne_nil '~' Scan.rest inner
      by_cases ha : (alternatives inner).length = 1
      · exact .wrapped inner ht (alternatives_eq_singleton ha)
      · exact .choice inner ht (by omega)

/-- The alternatives in parentheses, with `~` between them. -/
def choiceText (branches : List Text) : Text :=
  Text.between '(' ')' (['~'].intercalate branches)

theorem trim_between_parentheses (t : Text) : (t.between '(' ')').trim = t.between '(' ')' :=
  Text.trim_between (by decide) (by decide) t

theorem length_lt_of_dash {t rest : Text} (ht : t.trim = '-' :: rest) : rest.length < t.length := by
  have hl := t.length_trim_le
  rw [ht] at hl
  exact hl

theorem length_lt_of_alternative {t inner branch : Text} (ht : t.trim = inner.between '(' ')')
    (hb : branch ∈ alternatives inner) : branch.length < t.length := by
  have hl := t.length_trim_le
  have hi := length_le_of_mem_alternatives hb
  rw [ht, Text.length_between] at hl
  omega

theorem peel_of_unwrap? {t inner : Text} {dash : Bool} (h : unwrap? t.trim = some (dash, inner)) :
    peel t = (dash ^^ (peel inner).1, (peel inner).2) := by
  rw [peel]
  split
  · next hu =>
    rw [h] at hu
    cases hu
    rfl
  · next hu =>
    rw [h] at hu
    cases hu

theorem peel_of_unwrap?_eq_none {t : Text} (h : unwrap? t.trim = none) : peel t = (false, t.trim) := by
  rw [peel]
  split
  · next hu =>
    rw [h] at hu
    cases hu
  · rfl

theorem peel_trim (t : Text) : peel t.trim = peel t := by
  cases h : unwrap? t.trim with
  | none => rw [peel_of_unwrap?_eq_none h, peel_of_unwrap?_eq_none (by simpa using h), Text.trim_trim]
  | some p =>
    obtain ⟨dash, inner⟩ := p
    rw [peel_of_unwrap? h, peel_of_unwrap? (by simpa using h)]

theorem unwrap?_between (inner : Text) : unwrap? (inner.between '(' ')') =
    if (alternatives inner).length = 1 then some (false, inner) else none := by
  rw [unwrap?, Text.interior?_between]
  · rintro rest h
    cases h

theorem unwrap?_bare {t : Text} (hd : t.head? ≠ some '-') (hp : Text.interior? '(' ')' t = none) :
    unwrap? t = none := by
  rw [unwrap?, hp]
  · rintro rest rfl
    exact hd rfl

namespace Node

def readCore : Nat → Text → Node
  | 0, core => leaf core
  | allowance + 1, core =>
    match groupOf? core with
    | some branches => .anyOf (branches.map (readWithin allowance))
    | none => leaf core

theorem readWithin_eq (allowance : Nat) (t : Text) :
    readWithin allowance t = ofPeeled (readCore allowance) (peel t) := by
  cases allowance with
  | zero => rw [readWithin]; rfl
  | succ allowance => rw [readWithin]; rfl

def negated : Node → Node
  | not inner => inner
  | n => .not n

theorem leaf_ne_not (t : Text) (inner : Node) : leaf t ≠ .not inner := by
  rw [leaf]
  split
  · nofun
  · split <;> nofun

theorem readCore_ne_not (allowance : Nat) (core : Text) (inner : Node) :
    readCore allowance core ≠ .not inner := by
  cases allowance with
  | zero => exact leaf_ne_not core inner
  | succ allowance =>
    rw [readCore]
    split
    · nofun
    · exact leaf_ne_not core inner

theorem negated_of_ne_not {n : Node} (h : ∀ inner, n ≠ .not inner) : n.negated = .not n := by
  cases n with
  | not inner => exact absurd rfl (h inner)
  | term _ => rfl
  | tag _ => rfl
  | anyOf _ => rfl

/-- A dash more in front of what is peeled negates the reading. -/
theorem ofPeeled_toggle (allowance : Nat) (negative : Bool) (core : Text) :
    ofPeeled (readCore allowance) (true ^^ negative, core) =
      (ofPeeled (readCore allowance) (negative, core)).negated := by
  cases negative with
  | true => rfl
  | false => exact (negated_of_ne_not (readCore_ne_not allowance core)).symm

theorem readCore_between (allowance : Nat) {inner : Text} (ha : 2 ≤ (alternatives inner).length) :
    readCore (allowance + 1) (inner.between '(' ')') =
      .anyOf ((alternatives inner).map (readWithin allowance)) := by
  simp only [readCore, groupOf?, Text.interior?_between, if_pos ha]

theorem readCore_of_interior?_eq_none (allowance : Nat) {core : Text}
    (hp : Text.interior? '(' ')' core = none) : readCore allowance core = leaf core := by
  cases allowance with
  | zero => rfl
  | succ allowance => simp only [readCore, groupOf?, hp]

variable {t inner rest : Text}

theorem readWithin_trim (allowance : Nat) (t : Text) :
    readWithin allowance t.trim = readWithin allowance t := by
  rw [readWithin_eq, readWithin_eq, peel_trim]

theorem readWithin_dash (allowance : Nat) (ht : t.trim = '-' :: rest) :
    readWithin allowance t = (readWithin allowance rest).negated := by
  have hu : unwrap? t.trim = some (true, rest) := by rw [ht, unwrap?]
  rw [readWithin_eq, readWithin_eq, peel_of_unwrap? hu, ofPeeled_toggle]

theorem readWithin_wrapped (allowance : Nat) (ht : t.trim = inner.between '(' ')')
    (ha : alternatives inner = [inner]) : readWithin allowance t = readWithin allowance inner := by
  have hu : unwrap? t.trim = some (false, inner) := by
    rw [ht, unwrap?_between, ha]
    rfl
  rw [readWithin_eq, readWithin_eq, peel_of_unwrap? hu, Bool.false_xor]

/-- What peeling leaves untouched is read at once. -/
theorem readWithin_unpeeled (allowance : Nat) (hu : unwrap? t.trim = none) :
    readWithin allowance t = readCore allowance t.trim := by
  rw [readWithin_eq, peel_of_unwrap?_eq_none hu]
  rfl

theorem readWithin_choice_zero (ht : t.trim = inner.between '(' ')')
    (ha : 2 ≤ (alternatives inner).length) : readWithin 0 t = leaf t.trim := by
  have hu : unwrap? t.trim = none := by rw [ht, unwrap?_between, if_neg (by omega)]
  rw [readWithin_unpeeled 0 hu, readCore]

theorem readWithin_choice (allowance : Nat) (ht : t.trim = inner.between '(' ')')
    (ha : 2 ≤ (alternatives inner).length) :
    readWithin (allowance + 1) t = .anyOf ((alternatives inner).map (readWithin allowance)) := by
  have hu : unwrap? t.trim = none := by rw [ht, unwrap?_between, if_neg (by omega)]
  rw [readWithin_unpeeled _ hu, ht, readCore_between allowance ha]

theorem readWithin_bare (allowance : Nat) (hd : t.trim.head? ≠ some '-')
    (hp : Text.interior? '(' ')' t.trim = none) : readWithin allowance t = leaf t.trim := by
  rw [readWithin_unpeeled allowance (unwrap?_bare hd hp), readCore_of_interior?_eq_none allowance hp]

/-- Blanks around a clause text make no difference. -/
theorem ofText_trim (t : Text) (depth : Int) : ofText t.trim depth = ofText t depth :=
  readWithin_trim _ t

theorem ofText_dash (ht : t.trim = '-' :: rest) (depth : Int) :
    ofText t depth = (ofText rest depth).negated :=
  readWithin_dash _ ht

theorem ofText_wrapped (ht : t.trim = inner.between '(' ')') (ha : alternatives inner = [inner])
    (depth : Int) : ofText t depth = ofText inner depth :=
  readWithin_wrapped _ ht ha

theorem ofText_choice (ht : t.trim = inner.between '(' ')') (ha : 2 ≤ (alternatives inner).length)
    (depth : Int) : ofText t depth =
      if depth < maxNesting then .anyOf ((alternatives inner).map (ofText · (depth + 1)))
      else leaf t.trim := by
  split
  · next hd =>
    have hn : (maxNesting - depth).toNat = (maxNesting - (depth + 1)).toNat + 1 := by omega
    rw [ofText, hn, readWithin_choice _ ht ha]
    rfl
  · next hd =>
    have hn : (maxNesting - depth).toNat = 0 := by omega
    rw [ofText, hn, readWithin_choice_zero ht ha]

/-- Above the greatest depth, whole texts are read as the alternatives of their choice. -/
theorem ofText_choiceText {branches : List Text} {depth : Int} (h2 : 2 ≤ branches.length)
    (h : ∀ b ∈ branches, Scan.Whole '~' b) (hd : depth < maxNesting) :
    ofText (choiceText branches) depth = .anyOf (branches.map (ofText · (depth + 1))) := by
  have hne : branches ≠ [] := by
    rintro rfl
    exact absurd h2 (by decide)
  have ha : alternatives (['~'].intercalate branches) = branches :=
    Scan.Whole.pieces_intercalate Scan.plain_tilde hne h
  rw [choiceText, ofText_choice (trim_between_parentheses _) (by rw [ha]; exact h2), ha, if_pos hd]

theorem ofText_bare (hd : t.trim.head? ≠ some '-') (hp : Text.interior? '(' ')' t.trim = none)
    (depth : Int) : ofText t depth = leaf t.trim :=
  readWithin_bare _ hd hp

/-- What every form passes on from the parts of a text to the text holds of all readings. The parts
of a choice stand one choice further in. -/
theorem ofText_induction {motive : Text → Int → Node → Prop}
    (dash : ∀ {t rest depth n}, t.trim = '-' :: rest → motive rest depth n →
      motive t depth n.negated)
    (wrapped : ∀ {t inner depth n}, t.trim = inner.between '(' ')' → alternatives inner = [inner] →
      motive inner depth n → motive t depth n)
    (choice : ∀ {t inner} {depth : Int}, t.trim = inner.between '(' ')' → 2 ≤ (alternatives inner).length →
      depth < maxNesting →
      (∀ b ∈ alternatives inner, motive b (depth + 1) (ofText b (depth + 1))) →
      motive t depth (.anyOf ((alternatives inner).map (ofText · (depth + 1)))))
    (deep : ∀ {t inner} {depth : Int}, t.trim = inner.between '(' ')' → 2 ≤ (alternatives inner).length →
      ¬depth < maxNesting → motive t depth (leaf t.trim))
    (bare : ∀ {t depth}, t.trim.head? ≠ some '-' → Text.interior? '(' ')' t.trim = none →
      motive t depth (leaf t.trim))
    (t : Text) (depth : Int) : motive t depth (ofText t depth) := by
  induction hn : t.length using Nat.strong_induction_on generalizing t depth with
  | _ n ih =>
    subst hn
    cases ClauseForm.of t with
    | dash rest ht =>
      rw [ofText_dash ht]
      exact dash ht (ih rest.length (length_lt_of_dash ht) rest depth rfl)
    | wrapped inner ht ha =>
      have hl : inner.length < t.length :=
        length_lt_of_alternative ht (by rw [ha]; exact List.mem_cons_self)
      rw [ofText_wrapped ht ha]
      exact wrapped ht ha (ih inner.length hl inner depth rfl)
    | choice inner ht ha =>
      rw [ofText_choice ht ha]
      split
      · next hd =>
        refine choice ht ha hd fun b hb => ?_
        exact ih b.length (length_lt_of_alternative ht hb) b (depth + 1) rfl
      · next hd => exact deep ht ha hd
    | bare hd hp =>
      rw [ofText_bare hd hp]
      exact bare hd hp

@[simp] theorem holds_negated (r : Record) (n : Node) : n.negated.holds r = !n.holds r := by
  cases n with
  | not inner => simp only [negated, holds, Bool.not_not]
  | term _ => rfl
  | tag _ => rfl
  | anyOf _ => rfl

/-- A choice between readings holds if one of them does. -/
theorem holds_anyOf_map {r : Record} {read : Text → Node} {verdict : Text → Bool}
    {branches : List Text} (h : ∀ b ∈ branches, (read b).holds r = verdict b) :
    (anyOf (branches.map read)).holds r = branches.any verdict := by
  rw [holds, anyHolds_eq_any, List.any_map, Bool.eq_iff_iff, List.any_eq_true, List.any_eq_true]
  refine exists_congr fun b => and_congr_right fun hb => ?_
  rw [Function.comp_apply, h b hb]

end Node

end Stockroom

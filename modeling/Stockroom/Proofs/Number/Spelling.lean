import Stockroom.Number.Numeral
import Stockroom.Proofs.Text.Trimmed
import Mathlib.Data.Nat.Notation

/-! # Numbers at the start of a text

A text spells a number by blanks, a sign or none, and digits of any script. The number that a text
opens with is spelled by the longest of its leading parts that spell one. Blanks, signs and digits are
three kinds of characters, so every leading part that spells a number ends among the same digits, and
the numeral read off the text is that of all of them.
-/
namespace Stockroom.Numeral
open Character

inductive IsSign : Text → Bool → Prop
  | absent : IsSign [] false
  | plus : IsSign ['+'] false
  | minus : IsSign ['-'] true

/-- The text consists of blanks, a sign or none, and digits of these values, at least one. -/
inductive Spells : Text → Bool → List ℕ → Prop
  | intro {blanks sign figures : Text} {negative : Bool} {digits : List ℕ}
      (hblanks : ∀ c ∈ blanks, isBlank c = true) (hsign : IsSign sign negative)
      (hfigures : figures.map digitValue? = digits.map some) (hne : digits ≠ []) :
      Spells (blanks ++ (sign ++ figures)) negative digits

/-- The sign and the digits of the longest leading part that spells a number, and no digits where
there is no such part. -/
inductive Opens (t : Text) : Bool → List ℕ → Prop
  | spelled {part : Text} {negative : Bool} {digits : List ℕ} (hpart : part <+: t)
      (h : Spells part negative digits)
      (hlongest : ∀ other n ds, other <+: t → Spells other n ds → other.length ≤ part.length) :
      Opens t negative digits
  | unspelled (h : ∀ part n ds, part <+: t → ¬Spells part n ds) : Opens t false []

theorem isBlank_of_digitValue? {c : Char} {d : ℕ} (h : digitValue? c = some d) :
    isBlank c = false := by
  obtain ⟨z, hz, _⟩ := Option.map_eq_some_iff.mp h
  have hc := List.find?_some hz
  have hmem := List.mem_of_find?_eq_some hz
  simp only [Bool.and_eq_true, decide_eq_true_eq] at hc
  have hapart : (zeros.all fun z => decide (0x20 ≤ z) &&
      whiteSpaceTable.all fun i => decide (z + 10 ≤ i.1) || decide (i.2 < z)) = true := by
    decide +kernel
  have hz := List.all_eq_true.mp hapart z hmem
  simp only [Bool.and_eq_true, decide_eq_true_eq, List.all_eq_true, Bool.or_eq_true] at hz
  have hwhite : isWhiteSpace c = false := by
    rw [isWhiteSpace, ← Bool.not_eq_true, Intervals.holds_iff]
    rintro ⟨i, hi, hlow, hhigh⟩
    have := hz.2 i hi
    omega
  simp only [isBlank, hwhite, Bool.false_or, Bool.and_eq_false_iff, decide_eq_false_iff_not]
  omega

theorem ne_sign_of_digitValue? {c : Char} {d : ℕ} (h : digitValue? c = some d) :
    c ≠ '-' ∧ c ≠ '+' := by
  have hminus : digitValue? '-' = none := by decide +kernel
  have hplus : digitValue? '+' = none := by decide +kernel
  constructor
  · rintro rfl
    rw [hminus] at h
    cases h
  · rintro rfl
    rw [hplus] at h
    cases h

theorem exists_cons_of_map_digitValue? {figures : Text} {digits : List ℕ}
    (h : figures.map digitValue? = digits.map some) (hne : digits ≠ []) :
    ∃ c d rest, figures = c :: rest ∧ digitValue? c = some d := by
  cases figures with
  | nil => exact absurd (List.map_eq_nil_iff.mp h.symm) hne
  | cons c rest =>
    cases digits with
    | nil => exact absurd rfl hne
    | cons d digits => exact ⟨c, d, rest, rfl, (List.cons.inj h).1⟩

theorem exists_splitSign (t : Text) :
    ∃ sign, IsSign sign t.splitSign.1 ∧ t = sign ++ t.splitSign.2 := by
  rw [Text.splitSign.eq_def]
  split
  · exact ⟨['-'], .minus, rfl⟩
  · exact ⟨['+'], .plus, rfl⟩
  · exact ⟨[], .absent, rfl⟩

theorem splitSign_append {sign figures : Text} {negative : Bool} {digits : List ℕ}
    (hsign : IsSign sign negative) (hfigures : figures.map digitValue? = digits.map some)
    (hne : digits ≠ []) (more : Text) :
    (sign ++ (figures ++ more)).splitSign = (negative, figures ++ more) := by
  cases hsign with
  | plus => rfl
  | minus => rfl
  | absent =>
    obtain ⟨c, d, rest, rfl, hc⟩ := exists_cons_of_map_digitValue? hfigures hne
    obtain ⟨hminus, hplus⟩ := ne_sign_of_digitValue? hc
    rw [List.nil_append, List.cons_append, Text.splitSign.eq_def]
    split <;> simp_all

theorem leadingDigits_append {figures : Text} {digits : List ℕ}
    (h : figures.map digitValue? = digits.map some) (more : Text) :
    leadingDigits (figures ++ more) = digits ++ leadingDigits more := by
  induction figures generalizing digits with
  | nil =>
    rw [List.map_eq_nil_iff.mp h.symm]
    rfl
  | cons c figures ih =>
    cases digits with
    | nil => cases h
    | cons d digits =>
      obtain ⟨hc, hrest⟩ := List.cons.inj h
      rw [List.cons_append, leadingDigits, hc]
      exact congrArg (d :: ·) (ih hrest)

theorem exists_leadingDigits (t : Text) : ∃ figures more : Text, t = figures ++ more ∧
    figures.map digitValue? = (leadingDigits t).map some := by
  induction t with
  | nil => exact ⟨[], [], rfl, rfl⟩
  | cons c t ih =>
    rw [leadingDigits]
    cases hc : digitValue? c with
    | none => exact ⟨[], c :: t, rfl, rfl⟩
    | some d =>
      obtain ⟨figures, more, ht, hf⟩ := ih
      exact ⟨c :: figures, more, by rw [ht]; rfl, by rw [List.map_cons, hc, hf]; rfl⟩

def unsignedPart (t : Text) : Text := t.trimStart.splitSign.2

/-- A leading part that spells a number has the sign and the first digits that are read; its length
tells how many. -/
theorem Spells.read {part : Text} {negative : Bool} {digits : List ℕ}
    (h : Spells part negative digits) (more : Text) :
    (part ++ more).trimStart.splitSign.1 = negative ∧
      leadingDigits (unsignedPart (part ++ more)) = digits ++ leadingDigits more ∧
      part.length + (unsignedPart (part ++ more)).length = (part ++ more).length + digits.length := by
  obtain @⟨blanks, sign, figures, _, _, hblanks, hsign, hfigures, hne⟩ := h
  have hstart : (blanks ++ (sign ++ figures) ++ more).trimStart = sign ++ (figures ++ more) := by
    rw [List.append_assoc, List.append_assoc, Text.trimStart, List.dropWhile_append_of_pos hblanks]
    refine Text.trimStart_eq_self_iff.mpr ?_
    obtain ⟨c, d, rest, rfl, hc⟩ := exists_cons_of_map_digitValue? hfigures hne
    cases hsign <;> simp [isBlank_of_digitValue? hc] <;> decide
  have hlength : figures.length = digits.length := by
    simpa using congrArg List.length hfigures
  rw [unsignedPart, hstart, splitSign_append hsign hfigures hne]
  refine ⟨rfl, leadingDigits_append hfigures more, ?_⟩
  simp only [List.length_append]
  omega

/-- All digits that are read belong to a leading part that spells a number. -/
theorem exists_spells {t : Text} (h : leadingDigits (unsignedPart t) ≠ []) :
    ∃ part more, t = part ++ more ∧
      Spells part t.trimStart.splitSign.1 (leadingDigits (unsignedPart t)) := by
  obtain ⟨sign, hsign, hs⟩ := exists_splitSign t.trimStart
  obtain ⟨figures, more, hu, hf⟩ := exists_leadingDigits (unsignedPart t)
  have hblanks : ∀ c ∈ t.takeWhile isBlank, isBlank c = true := fun c => List.mem_takeWhile_imp
  refine ⟨_, more, ?_, .intro hblanks hsign hf h⟩
  have ht : t.takeWhile isBlank ++ t.trimStart = t := List.takeWhile_append_dropWhile
  conv_lhs => rw [← ht, hs]
  rw [List.append_assoc, List.append_assoc, ← hu]
  rfl

/-- A number is spelled to its end where no digit follows. -/
theorem opens_of_spells {part more : Text} {negative : Bool} {digits : List ℕ}
    (h : Spells part negative digits) (hmore : leadingDigits more = []) :
    Opens (part ++ more) negative digits := by
  refine .spelled (List.prefix_append part more) h ?_
  rintro other n ds ⟨others, ho⟩ hs
  obtain ⟨_, hread, hlength⟩ := h.read more
  obtain ⟨_, hread', hlength'⟩ := hs.read others
  rw [ho, hread, hmore] at hread'
  have hdigits := congrArg List.length hread'
  rw [ho] at hlength'
  simp only [List.length_append, List.length_nil] at hdigits hlength hlength'
  omega

/-- Every text opens with a number. -/
theorem exists_opens (t : Text) : ∃ negative digits, Opens t negative digits := by
  by_cases h : leadingDigits (unsignedPart t) = []
  · refine ⟨false, [], .unspelled ?_⟩
    rintro part n ds ⟨more, rfl⟩ hs
    obtain ⟨_, hread, _⟩ := hs.read more
    rw [h] at hread
    obtain @⟨_, _, _, _, _, _, _, _, hne⟩ := hs
    exact hne (List.append_eq_nil_iff.mp hread.symm).1
  · obtain ⟨part, more, ht, hs⟩ := exists_spells h
    obtain ⟨_, hread, _⟩ := hs.read more
    rw [← ht] at hread
    have hmore : leadingDigits more = [] := List.append_right_eq_self.mp hread.symm
    rw [ht] at hs ⊢
    exact ⟨_, _, opens_of_spells hs hmore⟩

theorem leading_eq (t : Text) : leading t =
    if leadingDigits (unsignedPart t) = [] then exact 0
    else ofDigits t.trimStart.splitSign.1 (leadingDigits (unsignedPart t)) := by
  rw [leading, unsignedPart]
  rcases t.trimStart.splitSign with ⟨negative, rest⟩
  dsimp only
  cases leadingDigits rest with
  | nil => rfl
  | cons d digits => rw [if_neg (List.cons_ne_nil d digits)]

/-- The numeral of a text is that of the number it opens with. -/
theorem leading_of_opens {t : Text} {negative : Bool} {digits : List ℕ}
    (h : Opens t negative digits) : leading t = ofDigits negative digits := by
  rw [leading_eq]
  cases h with
  | unspelled h =>
    have hnone : leadingDigits (unsignedPart t) = [] := by
      by_contra hsome
      obtain ⟨part, more, ht, hs⟩ := exists_spells hsome
      exact h part _ _ ⟨more, ht.symm⟩ hs
    rw [if_pos hnone]
    rfl
  | @spelled part _ _ hpart h hlongest =>
    obtain ⟨more, rfl⟩ := hpart
    obtain ⟨hsign, hread, hlength⟩ := h.read more
    have hsome : leadingDigits (unsignedPart (part ++ more)) ≠ [] := by
      obtain @⟨_, _, _, _, _, _, _, _, hne⟩ := h
      rw [hread]
      exact List.append_ne_nil_of_left_ne_nil hne _
    obtain ⟨whole, others, ht, hs⟩ := exists_spells hsome
    have hwhole := hlongest whole _ _ ⟨others, ht.symm⟩ hs
    obtain ⟨_, _, hlength'⟩ := hs.read others
    rw [← ht, hread] at hlength'
    have hmore : leadingDigits more = [] := by
      apply List.eq_nil_of_length_eq_zero
      simp only [List.length_append] at hlength hlength'
      omega
    rw [if_neg hsome, hsign, hread, hmore, List.append_nil]

end Stockroom.Numeral

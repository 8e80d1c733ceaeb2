import Stockroom.Text.Quoted
import Stockroom.Document.Reading
import Mathlib.Algebra.Group.Nat.Defs

/-! # Reading quoted texts

`readQuotedChar` reads the first character of what stands between the quotes. It undoes
`quotedChar`, whichever quote surrounds the text, so no two texts have the same quoted form.
-/
namespace Stockroom.Text

def hexNumber (digits : Text) : Nat :=
  digits.foldl (fun n c => 16 * n + (Document.hexValue? c).getD 0) 0

theorem hexValue?_digitChar : ∀ d < 16, Document.hexValue? d.digitChar = some d := by decide

@[simp] theorem hexNumber_concat (digits : Text) (c : Char) :
    hexNumber (digits ++ [c]) = 16 * hexNumber digits + (Document.hexValue? c).getD 0 := by
  simp [hexNumber]

theorem hexNumber_toDigits (n : Nat) : hexNumber (Nat.toDigits 16 n) = n := by
  induction n using Nat.strongRecOn with
  | _ n ih =>
    by_cases hn : n < 16
    · have hone : hexNumber ([] ++ [n.digitChar]) = n := by
        rw [hexNumber_concat, hexValue?_digitChar n hn]
        simp [hexNumber]
      rw [Nat.toDigits_of_lt_base hn]
      exact hone
    · have hlast : n % 16 < 16 := Nat.mod_lt n (by decide)
      rw [Nat.toDigits_of_base_le (by decide) (by omega), hexNumber_concat, ih (n / 16) (by omega),
        hexValue?_digitChar _ hlast, Option.getD_some]
      omega

/-- Zeros in front do not count. -/
theorem hexNumber_hexDigits (width n : Nat) : hexNumber (hexDigits width n) = n := by
  have hzeros (k : Nat) (digits : Text) :
      hexNumber (List.replicate k '0' ++ digits) = hexNumber digits := by
    induction k with
    | zero => rfl
    | succ k ih => exact ih
  rw [hexDigits, hzeros, hexNumber_toDigits]

theorem length_hexDigits {width n : Nat} (hw : 0 < width) (h : n < 16 ^ width) :
    (hexDigits width n).length = width := by
  have hl := (Nat.length_toDigits_le_iff (by decide) hw).mpr h
  rw [hexDigits, List.length_append, List.length_replicate]
  omega

def readHex (width : Nat) (t : Text) : Char × Text :=
  (Char.ofNat (hexNumber (t.take width)), t.drop width)

def readBehindBackslash : Text → Option (Char × Text)
  | [] => none
  | 't' :: rest => some ('\t', rest)
  | 'n' :: rest => some ('\n', rest)
  | 'r' :: rest => some ('\r', rest)
  | 'x' :: rest => some (readHex 2 rest)
  | 'u' :: rest => some (readHex 4 rest)
  | 'U' :: rest => some (readHex 8 rest)
  | c :: rest => some (c, rest)

/-- The first character of a quoted text without its quotes, and what follows it. -/
def readQuotedChar : Text → Option (Char × Text)
  | [] => none
  | c :: rest => if c = '\\' then readBehindBackslash rest else some (c, rest)

theorem readHex_hexDigits (width : Nat) (hw : 0 < width) {c : Char} (h : c.toNat < 16 ^ width)
    (rest : Text) : readHex width (hexDigits width c.toNat ++ rest) = (c, rest) := by
  have hl := length_hexDigits hw h
  rw [readHex, List.take_left' hl, List.drop_left' hl, hexNumber_hexDigits, Char.ofNat_toNat]

theorem toNat_lt_codePoints (c : Char) : c.toNat < 0x110000 := by
  have hv := c.valid
  simp only [UInt32.isValidChar, Nat.isValidChar] at hv
  simp only [Char.toNat]
  omega

theorem readQuotedChar_codeEscape (c : Char) (rest : Text) :
    readQuotedChar (codeEscape c ++ rest) = some (c, rest) := by
  have hmax := toNat_lt_codePoints c
  simp only [codeEscape]
  split
  · next h => exact congrArg some (readHex_hexDigits 2 (by decide) h rest)
  · split
    · next h => exact congrArg some (readHex_hexDigits 4 (by decide) h rest)
    · have h : c.toNat < 16 ^ 8 := by omega
      exact congrArg some (readHex_hexDigits 8 (by decide) h rest)

/-- A character in its quoted form is read back, if the mark is one of the quotes. -/
theorem readQuotedChar_quotedChar {mark : Char} (hm : mark = '\'' ∨ mark = '"') (c : Char)
    (rest : Text) : readQuotedChar (quotedChar mark c ++ rest) = some (c, rest) := by
  rw [quotedChar]
  split
  · next h =>
    have hc : c = '\'' ∨ c = '"' ∨ c = '\\' := by
      rcases h with rfl | h
      · exact hm.imp_right .inl
      · exact .inr (.inr h)
    rcases hc with rfl | rfl | rfl <;> rfl
  · next h =>
    split
    · next hc => rw [hc]; rfl
    · split
      · next hc => rw [hc]; rfl
      · split
        · next hc => rw [hc]; rfl
        · split
          · have hb : c ≠ '\\' := fun hc => h (.inr hc)
            rw [List.singleton_append, readQuotedChar, if_neg hb]
          · exact readQuotedChar_codeEscape c rest

theorem quoteMark_eq (t : Text) : quoteMark t = '\'' ∨ quoteMark t = '"' := by
  rw [quoteMark]
  split
  · exact .inr rfl
  · exact .inl rfl

theorem flatMap_quotedChar_injective {mark : Char} (hm : mark = '\'' ∨ mark = '"') {s t : Text}
    (h : s.flatMap (quotedChar mark) = t.flatMap (quotedChar mark)) : s = t := by
  induction s generalizing t with
  | nil =>
    cases t with
    | nil => rfl
    | cons d t =>
      have hd := readQuotedChar_quotedChar hm d (t.flatMap (quotedChar mark))
      rw [← List.flatMap_cons, ← h] at hd
      cases hd
  | cons c s ih =>
    have hc := readQuotedChar_quotedChar hm c (s.flatMap (quotedChar mark))
    rw [← List.flatMap_cons, h] at hc
    cases t with
    | nil => cases hc
    | cons d t =>
      rw [List.flatMap_cons, readQuotedChar_quotedChar hm, Option.some.injEq, Prod.mk.injEq] at hc
      rw [hc.1, ih hc.2.symm]

theorem quoted_eq_concat (t : Text) : ∃ u, t.quoted = u ++ [quoteMark t] :=
  ⟨quoteMark t :: t.flatMap (quotedChar (quoteMark t)), rfl⟩

theorem quoted_injective : Function.Injective quoted := by
  intro s t h
  have hmark : quoteMark s = quoteMark t := (List.cons.inj h).1
  have hbody := (List.cons.inj h).2
  rw [hmark] at hbody
  exact flatMap_quotedChar_injective (quoteMark_eq t) (List.append_cancel_right hbody)

end Stockroom.Text

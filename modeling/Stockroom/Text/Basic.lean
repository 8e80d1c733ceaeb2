import Stockroom.Character.Blank

/-! # Texts

A text is the list of its characters, so every law about texts is a law about lists. This module
holds trimming, cutting at a separator, search for the leftmost occurrence, the decimal form of
whole numbers, to write and to read, and the order of texts.
-/
namespace Stockroom

abbrev Text := List Char

namespace Text
open Character

def trimStart (t : Text) : Text := t.dropWhile isBlank

def trimEnd (t : Text) : Text := (t.reverse.dropWhile isBlank).reverse

def trim (t : Text) : Text := trimEnd (trimStart t)

private theorem length_dropWhile_le (p : Char → Bool) (t : Text) :
    (t.dropWhile p).length ≤ t.length :=
  (List.dropWhile_sublist p).length_le

theorem length_trimEnd_le (t : Text) : (trimEnd t).length ≤ t.length := by
  simpa [trimEnd] using length_dropWhile_le isBlank t.reverse

theorem length_trim_le (t : Text) : (trim t).length ≤ t.length :=
  Nat.le_trans (length_trimEnd_le _) (length_dropWhile_le isBlank t)

def lengthenHead (c : Char) : List Text → List Text
  | [] => [[c]]
  | piece :: rest => (c :: piece) :: rest

def cut (separator : Char) : Text → List Text
  | [] => [[]]
  | c :: rest =>
    if c = separator then [] :: cut separator rest else lengthenHead c (cut separator rest)

@[simp] theorem lengthenHead_ne_nil (c : Char) (pieces : List Text) :
    lengthenHead c pieces ≠ [] := by
  cases pieces <;> simp [lengthenHead]

def cutFirst? (separator : Char) : Text → Option (Text × Text)
  | [] => none
  | c :: rest =>
    if c = separator then some ([], rest)
    else (cutFirst? separator rest).map fun parts => (c :: parts.1, parts.2)

def afterLead? : Text → Text → Option Text
  | [], t => some t
  | _ :: _, [] => none
  | l :: lead, c :: rest => if l = c then afterLead? lead rest else none

theorem afterLead?_eq_some {lead t rest : Text} :
    afterLead? lead t = some rest ↔ t = lead ++ rest := by
  induction lead generalizing t with
  | nil => simp [afterLead?, eq_comm]
  | cons l lead ih =>
    cases t with
    | nil => simp [afterLead?]
    | cons c t =>
      by_cases h : l = c
      · subst h; simp [afterLead?, ih]
      · simp [afterLead?, h, Ne.symm h]

def afterFirst? (needle : Text) : Text → Option Text
  | [] => afterLead? needle []
  | c :: rest =>
    match afterLead? needle (c :: rest) with
    | some tail => some tail
    | none => afterFirst? needle rest

def occurs (needle t : Text) : Bool := (afterFirst? needle t).isSome

/-- The interior of a text that is at least two characters long, starts with the one given
character and ends with the other. -/
def interior? (first last : Char) : Text → Option Text
  | [] => none
  | c :: rest => if c = first ∧ rest.getLast? = some last then some rest.dropLast else none

theorem interior?_eq_some {first last : Char} {t inner : Text} :
    interior? first last t = some inner ↔ t = first :: (inner ++ [last]) := by
  cases t with
  | nil => simp [interior?]
  | cons c rest =>
    simp only [interior?]
    constructor
    · intro h
      split at h
      · next hc =>
        obtain ⟨rfl, hl⟩ := hc
        obtain ⟨ys, rfl⟩ := List.getLast?_eq_some_iff.mp hl
        simp_all
      · cases h
    · intro h
      injection h with h1 h2
      subst h1 h2
      simp

def digitsValue (digits : Text) : Nat := digits.foldl (fun n c => 10 * n + (c.toNat - 48)) 0

def splitSign : Text → Bool × Text
  | '-' :: rest => (true, rest)
  | '+' :: rest => (false, rest)
  | t => (false, t)

def ofNat (n : Nat) : Text := Nat.toDigits 10 n

def ofInt : Int → Text
  | .ofNat n => ofNat n
  | .negSucc n => '-' :: ofNat (n + 1)

def padded (width n : Nat) : Text :=
  let digits := ofNat n
  List.replicate (width - digits.length) '0' ++ digits

def replaceChar (old new : Char) (t : Text) : Text := t.map fun c => if c = old then new else c

def toLowerAscii (t : Text) : Text := t.map Char.toLower

/-- Whether a text does not stand behind another in the order by code points, character by
character. A text stands before its own continuations. -/
def atMost : Text → Text → Bool
  | [], _ => true
  | _ :: _, [] => false
  | c :: s, d :: t => decide (c.toNat < d.toNat) || (decide (c = d) && atMost s t)

end Text

end Stockroom

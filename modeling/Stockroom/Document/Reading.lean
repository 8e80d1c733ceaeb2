import Stockroom.Document.Basic
import Stockroom.Document.Fault
import Stockroom.Number.Numeral

/-! # Reading documents

A reader for the document format. While reading, a place is known by the number of characters that
are left, so no counter runs along; `ofText` turns it into the number of characters before. The
allowance of the mutually recursive readers bounds the nesting and the number of parts of one
document; a level of nesting uses two of it, so twice the length of the text is always enough.
-/
namespace Stockroom.Document

/-- Where reading stops: what is wrong, and how many characters are left there. -/
inductive Stop
  | malformed (problem : Problem) (left : Nat)
  | tooManyDigits (count : Nat)
  | loneHalf

def isSpace (c : Char) : Bool := c = ' ' || c = '\t' || c = '\n' || c = '\r'

def skipSpace (t : Text) : Text := t.dropWhile isSpace

def hexValue? (c : Char) : Option Nat :=
  if '0' ≤ c ∧ c ≤ '9' then some (c.toNat - 48)
  else if 'a' ≤ c ∧ c ≤ 'f' then some (c.toNat - 87)
  else if 'A' ≤ c ∧ c ≤ 'F' then some (c.toNat - 55)
  else none

def hexCode? (digits : Text) : Option Nat :=
  if digits.length = 4 then digits.foldlM (fun n c => (hexValue? c).map (16 * n + ·)) 0 else none

/-- Half of a pair is no character. -/
def charOfCode (code : Nat) : Except Stop Char :=
  if code.isValidChar then .ok (Char.ofNat code) else .error .loneHalf

/-- The character of a code escape and the characters that the escape takes up, counted from its
`u`. Two escapes that hold the halves of a pair stand for one character. At least one more character
must follow each escape. -/
def readCodeEscape (t : Text) : Except Stop (Char × Nat) :=
  let digits := (t.drop 1).take 4
  let behind := t.drop 5
  match if behind.isEmpty then none else hexCode? digits with
  | none => .error (.malformed .badCodeEscape t.length)
  | some high =>
    let second := behind.drop 1
    if 0xD800 ≤ high ∧ high ≤ 0xDBFF ∧ behind.take 2 = ['\\', 'u'] ∧ 7 ≤ behind.length then
      match hexCode? ((second.drop 1).take 4) with
      | none => .error (.malformed .badCodeEscape second.length)
      | some low =>
        if 0xDC00 ≤ low ∧ low ≤ 0xDFFF then
          (charOfCode (0x10000 + (high - 0xD800) * 0x400 + (low - 0xDC00))).map (·, 11)
        else (charOfCode high).map (·, 5)
    else (charOfCode high).map (·, 5)

def readEscape : Text → Except Stop (Option (Char × Nat))
  | [] => .ok none
  | '"' :: _ => .ok (some ('"', 1))
  | '\\' :: _ => .ok (some ('\\', 1))
  | '/' :: _ => .ok (some ('/', 1))
  | 'b' :: _ => .ok (some ('\x08', 1))
  | 'f' :: _ => .ok (some ('\x0c', 1))
  | 'n' :: _ => .ok (some ('\n', 1))
  | 'r' :: _ => .ok (some ('\r', 1))
  | 't' :: _ => .ok (some ('\t', 1))
  | 'u' :: rest => (readCodeEscape ('u' :: rest)).map some
  | _ :: rest => .error (.malformed .badEscape (rest.length + 2))

/-- Reads up to the closing quote. `read` holds the characters read so far, the last one first.
Nothing is given if the quote is missing. -/
def readQuoted (read : Text) : Text → Except Stop (Option (Text × Text))
  | [] => .ok none
  | '"' :: rest => .ok (some (read.reverse, rest))
  | '\\' :: rest =>
    match readEscape rest with
    | .error stop => .error stop
    | .ok none => .ok none
    | .ok (some (c, used)) => readQuoted (c :: read) (rest.drop used)
  | c :: rest =>
    if c.toNat ≤ 0x1F then .error (.malformed .controlCharacter (rest.length + 1))
    else readQuoted (c :: read) rest
  termination_by t => t.length
  decreasing_by all_goals simp only [List.length_drop, List.length_cons]; omega

def readText (t : Text) : Except Stop (Text × Text) :=
  match readQuoted [] (t.drop 1) with
  | .error stop => .error stop
  | .ok none => .error (.malformed .unterminatedText t.length)
  | .ok (some result) => .ok result

def wholeDigits : Text → Text
  | '0' :: _ => ['0']
  | t => t.takeWhile Char.isDigit

def fractionDigits : Text → Text
  | '.' :: rest => rest.takeWhile Char.isDigit
  | _ => []

def exponentOf (t : Text) : Option (Int × Nat) :=
  match t with
  | [] => none
  | e :: rest =>
    if e = 'e' ∨ e = 'E' then
      let (negative, unsigned) := Text.splitSign rest
      let digits := unsigned.takeWhile Char.isDigit
      if digits.isEmpty then none
      else
        let used := 1 + (rest.length - unsigned.length) + digits.length
        some (signed negative (Text.digitsValue digits), used)
    else none

/-- Reads a number. It is a whole number if it has neither fraction nor exponent. -/
def readNumber (t : Text) : Except Stop (Document × Text) :=
  let (negative, unsigned) := match t with
    | '-' :: rest => (true, rest)
    | t => (false, t)
  let whole := wholeDigits unsigned
  if whole.isEmpty then .error (.malformed .expectedValue t.length)
  else
    let behindWhole := unsigned.drop whole.length
    let fraction := fractionDigits behindWhole
    let behindFraction :=
      if fraction.isEmpty then behindWhole else behindWhole.drop (fraction.length + 1)
    let double (exponent : Int) : Document :=
      .double (Binary64.ofDecimal negative (Text.digitsValue (whole ++ fraction))
        (exponent - fraction.length))
    match exponentOf behindFraction with
    | some (exponent, used) => .ok (double exponent, behindFraction.drop used)
    | none =>
      if fraction.isEmpty then
        if whole.length ≤ Numeral.digitLimit then
          .ok (.integer (signed negative (Text.digitsValue whole)), behindWhole)
        else .error (.tooManyDigits whole.length)
      else .ok (double 0, behindFraction)

def words : List (Text × Document) :=
  [("null".toList, .null), ("true".toList, .bool true), ("false".toList, .bool false),
   ("NaN".toList, .double .nan), ("Infinity".toList, .double (.infinite false)),
   ("-Infinity".toList, .double (.infinite true))]

def readWord? (t : Text) : Option (Document × Text) :=
  words.findSome? fun word => (Text.afterLead? word.1 t).map fun rest => (word.2, rest)

mutual

def readValue : Nat → Text → Except Stop (Document × Text)
  | 0, t => .error (.malformed .expectedValue t.length)
  | allowance + 1, t =>
    match t with
    | '"' :: _ => (readText t).map fun (value, rest) => (.text value, rest)
    | '{' :: rest =>
      match skipSpace rest with
      | '}' :: rest => .ok (.object [], rest)
      | rest => readMembers allowance [] rest
    | '[' :: rest =>
      match skipSpace rest with
      | ']' :: rest => .ok (.list [], rest)
      | rest => readElements allowance [] rest
    | t =>
      match readWord? t with
      | some result => .ok result
      | none => readNumber t

def readElements : Nat → List Document → Text → Except Stop (Document × Text)
  | 0, _, t => .error (.malformed .expectedValue t.length)
  | allowance + 1, read, t =>
    match readValue allowance t with
    | .error stop => .error stop
    | .ok (value, rest) =>
      match skipSpace rest with
      | ']' :: rest => .ok (.list (value :: read).reverse, rest)
      | ',' :: rest => readElements allowance (value :: read) (skipSpace rest)
      | rest => .error (.malformed .expectedComma rest.length)

def readMembers : Nat → List (Text × Document) → Text → Except Stop (Document × Text)
  | 0, _, t => .error (.malformed .expectedName t.length)
  | allowance + 1, read, t =>
    match t with
    | '"' :: _ =>
      match readText t with
      | .error stop => .error stop
      | .ok (name, rest) =>
        match skipSpace rest with
        | ':' :: rest =>
          match readValue allowance (skipSpace rest) with
          | .error stop => .error stop
          | .ok (value, rest) =>
            match skipSpace rest with
            | '}' :: rest => .ok (.object ((name, value) :: read).reverse, rest)
            | ',' :: rest => readMembers allowance ((name, value) :: read) (skipSpace rest)
            | rest => .error (.malformed .expectedComma rest.length)
        | rest => .error (.malformed .expectedColon rest.length)
    | t => .error (.malformed .expectedName t.length)

end

def readWhole (t : Text) : Except Stop Document :=
  match t with
  | '\uFEFF' :: _ => .error (.malformed .byteOrderMark t.length)
  | t =>
    match readValue (2 * t.length + 2) (skipSpace t) with
    | .error stop => .error stop
    | .ok (value, rest) =>
      match skipSpace rest with
      | [] => .ok value
      | rest => .error (.malformed .extraData rest.length)

def ofText (t : Text) : Except Fault Document :=
  match readWhole t with
  | .ok value => .ok value
  | .error (.malformed problem left) => .error (.malformed problem (t.length - left))
  | .error (.tooManyDigits count) => .error (.tooManyDigits count)
  | .error .loneHalf => .error .loneHalf

end Stockroom.Document

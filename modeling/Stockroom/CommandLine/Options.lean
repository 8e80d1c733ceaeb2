import Stockroom.Text.Basic

/-! # Options among arguments

An option is written with two dashes and a name or with one dash and a letter. A value follows a
name behind `=`, follows a letter at once, or is the next argument, whatever that is. Letters of
options without a value may stand together. Two dashes alone end the options, and one dash alone is
an argument like any other.
-/
namespace Stockroom

structure OptionForm (Key : Type) where
  key : Key
  name : Text
  letter : Option Char
  takesValue : Bool

/-- The options of one argument with their values, and the option that still lacks its value. -/
abbrev OptionReading (Key : Type) := List (Key × Text) × Option Key

namespace OptionForm
variable {Key : Type}

def readName? (forms : List (OptionForm Key)) (argument : Text) : Option (OptionReading Key) :=
  let (name, value?) := match argument.cutFirst? '=' with
    | some (name, value) => (name, some value)
    | none => (argument, none)
  match forms.find? fun form => form.name = name, value? with
  | none, _ => none
  | some form, some value => if form.takesValue then some ([(form.key, value)], none) else none
  | some form, none =>
    if form.takesValue then some ([], some form.key) else some ([(form.key, [])], none)

def readLetters? (forms : List (OptionForm Key)) : Text → Option (OptionReading Key)
  | [] => some ([], none)
  | c :: rest =>
    match forms.find? fun form => form.letter = some c with
    | none => none
    | some form =>
      if form.takesValue then
        if rest.isEmpty then some ([], some form.key) else some ([(form.key, rest)], none)
      else (readLetters? forms rest).map fun reading => ((form.key, []) :: reading.1, reading.2)

def read? (forms : List (OptionForm Key)) (argument : Text) : Option (OptionReading Key) :=
  match argument with
  | '-' :: '-' :: _ => readName? forms argument
  | _ => readLetters? forms (argument.drop 1)

/-- Separates options and arguments, each in their order. Unless options may stand between the
arguments, the first argument ends the options. -/
def separate? (forms : List (OptionForm Key)) (between : Bool) :
    List Text → Option (List (Key × Text) × List Text)
  | [] => some ([], [])
  | argument :: rest =>
    if argument = ['-', '-'] then some ([], rest)
    else if argument.head? = some '-' ∧ argument ≠ ['-'] then
      match read? forms argument, rest with
      | none, _ => none
      | some (options, none), rest =>
        (separate? forms between rest).map fun found => (options ++ found.1, found.2)
      | some (_, some _), [] => none
      | some (options, some key), value :: rest =>
        (separate? forms between rest).map fun found => (options ++ (key, value) :: found.1, found.2)
    else if between then
      (separate? forms between rest).map fun found => (found.1, argument :: found.2)
    else some ([], argument :: rest)

end OptionForm

def lastValue? {Key : Type} [DecidableEq Key] (key : Key) (options : List (Key × Text)) :
    Option Text :=
  (options.reverse.find? fun o => o.1 = key).map Prod.snd

end Stockroom

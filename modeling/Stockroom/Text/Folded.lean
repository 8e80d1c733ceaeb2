import Stockroom.Text.Basic
import Stockroom.Character.Decomposition
import Stockroom.Character.CombiningClass
import Stockroom.Character.LowerCase
import Stockroom.Character.CaseFolding
import Stockroom.Character.Casing

/-! # Folded texts

Two texts are compared for searching by their folded forms: the canonical decomposition without the
combining diacritical marks, in lower case. Decomposition sorts each run of marks by combining
class, and lower case depends on the context at a sigma, so folding is not a map over the
characters. `caseFolded`, the form that orders compare by, is such a map.
-/
namespace Stockroom.Text
open Character

/-- Puts a character in front of a sorted text, behind the leading marks of a lower class. -/
def insertMark (c : Char) : Text → Text
  | [] => [c]
  | d :: rest =>
    if 0 < combiningClass d ∧ combiningClass d < combiningClass c then d :: insertMark c rest
    else c :: d :: rest

/-- Sorts every run of marks by combining class; marks of one class keep their order. -/
def reorder (t : Text) : Text := t.foldr insertMark []

def decomposed (t : Text) : Text := reorder (t.flatMap decomposition)

def casedFollows : Text → Bool
  | [] => false
  | c :: rest => if isCaseIgnorable c then casedFollows rest else isCased c

/-- The lower case of a text behind a context, of which only counts whether its last character that
is not ignorable is cased. A capital sigma takes its final form at the end of a word. -/
def lowerAfter (cased : Bool) : Text → Text
  | [] => []
  | c :: rest =>
    (if c = 'Σ' then (if cased && !casedFollows rest then 'ς' else 'σ') else lowerCase c) ::
      lowerAfter (if isCaseIgnorable c then cased else isCased c) rest

def lower (t : Text) : Text := lowerAfter false t

def withoutDiacritics (t : Text) : Text := t.filter fun c => !isDiacritic c

def folded (t : Text) : Text := lower (withoutDiacritics (decomposed t))

/-- A pattern is folded after its underscores have become spaces. -/
def foldedPattern (t : Text) : Text := folded (replaceChar '_' ' ' t)

def caseFolded (t : Text) : Text := t.flatMap caseFolding

@[simp] theorem length_lowerAfter (cased : Bool) (t : Text) :
    (lowerAfter cased t).length = t.length := by
  induction t generalizing cased with
  | nil => rfl
  | cons c rest ih => simp [lowerAfter, ih]

end Stockroom.Text

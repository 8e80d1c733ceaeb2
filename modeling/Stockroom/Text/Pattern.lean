import Stockroom.Text.Folded

/-! # Patterns

A pattern is found in a text when its folded form occurs in the folded text. Unless the pattern is
literal, an asterisk stands for any run of characters: the segments between the asterisks are then
sought one after the other, each at its leftmost place behind the one before.
-/
namespace Stockroom

structure Pattern where
  body : Text
  literal : Bool
  deriving DecidableEq, Repr

namespace Pattern

def segmentsOccur : List Text → Text → Bool
  | [], _ => true
  | segment :: rest, t =>
    match Text.afterFirst? segment t with
    | some tail => segmentsOccur rest tail
    | none => false

def foundIn (p : Pattern) (t : Text) : Bool :=
  let haystack := t.folded
  let needle := p.body.foldedPattern
  if !p.literal && needle.contains '*' then segmentsOccur (needle.cut '*') haystack
  else needle.occurs haystack

end Pattern

end Stockroom

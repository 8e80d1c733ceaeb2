import Stockroom.Text.Quoted

/-! # Choices by name

A word that should name one of a few things of a kind, and names none.
-/
namespace Stockroom

structure UnknownChoice where
  word : Text
  kind : Text
  deriving DecidableEq, Repr

def UnknownChoice.message (u : UnknownChoice) : Text :=
  u.word.quoted ++ " is not a valid ".toList ++ u.kind

end Stockroom

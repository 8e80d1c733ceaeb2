import Stockroom.Character.Interval

/-! # Blank characters

`isBlank` is what stripping removes and what may stand before a number: the white space of the
character standard together with the four information separators U+001C–U+001F. `isWhiteSpace`
is the standard's own set.
-/
namespace Stockroom.Character

def whiteSpaceTable : Intervals :=
  [(0x9, 0xD), (0x20, 0x20), (0x85, 0x85), (0xA0, 0xA0), (0x1680, 0x1680), (0x2000, 0x200A),
   (0x2028, 0x2029), (0x202F, 0x202F), (0x205F, 0x205F), (0x3000, 0x3000)]

def isWhiteSpace (c : Char) : Bool := whiteSpaceTable.holds c.toNat

def isBlank (c : Char) : Bool := isWhiteSpace c || (0x1C ≤ c.toNat && c.toNat ≤ 0x1F)

@[simp] theorem isBlank_space : isBlank ' ' = true := by decide

end Stockroom.Character

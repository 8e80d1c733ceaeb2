import Stockroom.Text.Basic

/-! # Control sequences

An escape character, an opening bracket, parameters and a letter make a control sequence, which a
terminal obeys and does not show. Messages are written without them.
-/
namespace Stockroom.Text

def escape : Char := '\x1b'

def isParameter (c : Char) : Bool := c = ';' || c = '?' || c.isDigit

def orderLength? : Text → Option Nat
  | [] => none
  | c :: rest =>
    if isParameter c then (orderLength? rest).map (· + 1)
    else if c.isAlpha then some 1
    else none

def controlLength? : Text → Option Nat
  | c :: '[' :: rest => if c = escape then (orderLength? rest).map (· + 2) else none
  | _ => none

def dropControls : Nat → Text → Text
  | _, [] => []
  | skipped + 1, _ :: rest => dropControls skipped rest
  | 0, c :: rest =>
    match controlLength? (c :: rest) with
    | some length => dropControls (length - 1) rest
    | none => c :: dropControls 0 rest

def withoutControls (t : Text) : Text := dropControls 0 t

end Stockroom.Text

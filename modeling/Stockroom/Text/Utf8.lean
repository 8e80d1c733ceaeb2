import Stockroom.Text.Basic

/-! # Texts from octets

Decoding of UTF-8. A fault names the first octets that cannot belong to any text: an octet that
starts no sequence, or a sequence that breaks off, at an octet outside the range allowed there or at
the end. The ranges exclude overlong forms, surrogates and codes above U+10FFFF.
-/
namespace Stockroom.Utf8

inductive Reason
  | badStart
  | badContinuation
  | truncated
  deriving DecidableEq, Repr

structure Fault where
  reason : Reason
  position : Nat
  octet : UInt8
  count : Nat
  deriving DecidableEq, Repr

def Reason.message : Reason → Text
  | .badStart => "invalid start byte".toList
  | .badContinuation => "invalid continuation byte".toList
  | .truncated => "unexpected end of data".toList

def Fault.message (f : Fault) : Text :=
  "'utf-8' codec can't decode ".toList ++
    (if f.count = 1 then
      "byte 0x".toList ++ Nat.toDigits 16 f.octet.toNat ++ " in position ".toList ++
        Text.ofNat f.position
    else
      "bytes in position ".toList ++ Text.ofNat f.position ++ ['-'] ++
        Text.ofNat (f.position + f.count - 1)) ++
    ": ".toList ++ f.reason.message

/-- The bits that a first octet contributes and the ranges of the octets that must follow. -/
def lead? (octet : UInt8) : Option (Nat × List (UInt8 × UInt8)) :=
  let code := octet.toNat
  if code < 0x80 then some (code, [])
  else if code < 0xC2 then none
  else if code < 0xE0 then some (code - 0xC0, [(0x80, 0xBF)])
  else if code < 0xF0 then
    some (code - 0xE0,
      [(if code = 0xE0 then 0xA0 else 0x80, if code = 0xED then 0x9F else 0xBF), (0x80, 0xBF)])
  else if code < 0xF5 then
    some (code - 0xF0,
      [(if code = 0xF0 then 0x90 else 0x80, if code = 0xF4 then 0x8F else 0xBF), (0x80, 0xBF),
        (0x80, 0xBF)])
  else none

def continued (code taken : Nat) : List (UInt8 × UInt8) → List UInt8 → Except (Reason × Nat) Nat
  | [], _ => .ok code
  | _ :: _, [] => .error (.truncated, taken)
  | (low, high) :: ranges, octet :: rest =>
    if low ≤ octet ∧ octet ≤ high then
      continued (code * 64 + octet.toNat % 64) (taken + 1) ranges rest
    else .error (.badContinuation, taken)

def decodeFrom (position : Nat) : List UInt8 → Except Fault Text
  | [] => .ok []
  | octet :: rest =>
    match lead? octet with
    | none => .error ⟨.badStart, position, octet, 1⟩
    | some (bits, ranges) =>
      match continued bits 1 ranges rest with
      | .error (reason, count) => .error ⟨reason, position, octet, count⟩
      | .ok code =>
        match decodeFrom (position + 1 + ranges.length) (rest.drop ranges.length) with
        | .error fault => .error fault
        | .ok text => .ok (Char.ofNat code :: text)
  termination_by octets => octets.length
  decreasing_by simp only [List.length_drop, List.length_cons]; omega

def decode (octets : List UInt8) : Except Fault Text := decodeFrom 0 octets

end Stockroom.Utf8

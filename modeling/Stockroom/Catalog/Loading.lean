import Stockroom.Catalog.Basic
import Stockroom.Document.Reading
import Stockroom.Failure
import Stockroom.Text.Quoted
import Stockroom.Text.Utf8

/-! # Loading a catalog

From the octets of a file to a catalog: UTF-8 is decoded, line ends are unified, the text is read as
a document, the document must be an object, and its records are checked. The first stage that fails
gives the fault. A document with half of a pair in a text is not loaded, and what becomes of it is
left open.
-/
namespace Stockroom

/-- Carriage returns, alone or before a line feed, become line feeds. -/
def unifyLineEnds : Text → Text
  | [] => []
  | '\r' :: '\n' :: rest => '\n' :: unifyLineEnds rest
  | c :: rest => (if c = '\r' then '\n' else c) :: unifyLineEnds rest

inductive LoadFault
  | noFile (path : Text)
  | undecodable (fault : Utf8.Fault)
  | malformed (path : Text) (problem : Document.Problem) (shownPlace : Text)
  | tooManyDigits (count : Nat)
  | notObject (path : Text)
  | flawed (flaws : List Flaw)
  | loneHalf
  deriving DecidableEq, Repr

def flawSummary (className : Text) (flaws : List Flaw) : Text :=
  Text.ofNat flaws.length ++ " validation error".toList ++
    (if flaws.length = 1 then [] else ['s']) ++ " for ".toList ++ className

namespace LoadFault

def message : LoadFault → Text
  | noFile path => "[Errno 2] No such file or directory: ".toList ++ path.quoted
  | undecodable fault => fault.message
  | malformed path problem shownPlace =>
    "Invalid catalog JSON in ".toList ++ path ++ ": ".toList ++ problem.message ++ ": ".toList ++
      shownPlace
  | tooManyDigits count =>
    "Exceeds the limit (4300 digits) for integer string conversion: value has ".toList ++
      Text.ofNat count ++
      " digits; use sys.set_int_max_str_digits() to increase the limit".toList
  | notObject path => "Catalog ".toList ++ path ++ " must be a JSON object".toList
  | flawed flaws => flawSummary "Catalog".toList flaws
  | loneHalf => "Half of a pair is no character".toList

/-- The kind of failure that a fault is raised as, which is left open for half of a pair. -/
def kind? : LoadFault → Option FailureKind
  | noFile _ => some .missingFile
  | undecodable _ => some .undecodable
  | malformed _ _ _ => some .value
  | tooManyDigits _ => some .value
  | notObject _ => some .value
  | flawed _ => some .validation
  | loneHalf => none

end LoadFault

namespace Catalog

def ofText (path : Text) (t : Text) : Except LoadFault Catalog :=
  match Document.ofText t with
  | .error (.malformed problem place) =>
    .error (.malformed path problem (Document.placeText t place))
  | .error (.tooManyDigits count) => .error (.tooManyDigits count)
  | .error .loneHalf => .error .loneHalf
  | .ok (.object members) =>
    match ofMembers members with
    | .valid catalog => .ok catalog
    | .flawed flaws => .error (.flawed flaws)
  | .ok _ => .error (.notObject path)

def ofOctets (path : Text) (octets : List UInt8) : Except LoadFault Catalog :=
  match Utf8.decode octets with
  | .error fault => .error (.undecodable fault)
  | .ok t => ofText path (unifyLineEnds t)

def load (path : Text) : Option (List UInt8) → Except LoadFault Catalog
  | none => .error (.noFile path)
  | some octets => ofOctets path octets

end Catalog

end Stockroom

import Stockroom.Text.Basic

/-! # Failures

A failure is known by its kind, and a kind may belong to wider ones: text that cannot be decoded and
records that are flawed are failures of a value, and what goes wrong with files is a failure of the
system. Who deals with a kind of failure deals with all kinds that belong to it.
-/
namespace Stockroom

inductive FailureKind
  | value
  | unicode
  | undecodable
  | validation
  | system
  | missingFile
  | directory
  | permission
  | runtime
  deriving DecidableEq, Repr

namespace FailureKind

def name : FailureKind → Text
  | value => "ValueError".toList
  | unicode => "UnicodeError".toList
  | undecodable => "UnicodeDecodeError".toList
  | validation => "ValidationError".toList
  | system => "OSError".toList
  | missingFile => "FileNotFoundError".toList
  | directory => "IsADirectoryError".toList
  | permission => "PermissionError".toList
  | runtime => "RuntimeError".toList

/-- The kind itself and the wider ones, from the nearest on. -/
def lineage : FailureKind → List FailureKind
  | value => [value]
  | unicode => [unicode, value]
  | undecodable => [undecodable, unicode, value]
  | validation => [validation, value]
  | system => [system]
  | missingFile => [missingFile, system]
  | directory => [directory, system]
  | permission => [permission, system]
  | runtime => [runtime]

def isA (kind wider : FailureKind) : Bool := kind.lineage.contains wider

end FailureKind

end Stockroom

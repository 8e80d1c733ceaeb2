import Stockroom.Settings.Location

/-! # Log levels

Messages are shown from a level on, which is a number. The environment gives it by name, in any
case; an unknown name means warnings.
-/
namespace Stockroom

namespace LogLevel

def debug : Nat := 10

def warning : Nat := 30

def names : List (Text × Nat) :=
  [("CRITICAL".toList, 50), ("FATAL".toList, 50), ("ERROR".toList, 40), ("WARNING".toList, warning),
   ("WARN".toList, warning), ("INFO".toList, 20), ("DEBUG".toList, debug), ("NOTSET".toList, 0)]

/-- Upper case, as far as the names of levels need it. Two letters beyond ASCII have a single ASCII
capital: the dotless `ı` and the long `ſ`. -/
def capital (c : Char) : Char := if c = 'ı' then 'I' else if c = 'ſ' then 'S' else c.toUpper

def ofName (name : Text) : Nat := (names.lookup (name.map capital)).getD warning

end LogLevel

def Surroundings.logLevel (s : Surroundings) (verbose : Bool) : Nat :=
  if verbose then LogLevel.debug
  else match s.logLevelName with
    | some name => LogLevel.ofName name
    | none => LogLevel.warning

end Stockroom

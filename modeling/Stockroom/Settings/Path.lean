import Stockroom.Text.Basic

/-! # Paths

A path is a list of names, counted from the root or from a working directory. Doubled and trailing
slashes and the name `.` say nothing and are dropped on reading; only two slashes in front, no more
and no fewer, stay as they are, though they lead to the root as well. The name `..` stays until the
path is resolved against a working directory. There are no links, so resolving needs no file system.
-/
namespace Stockroom

inductive Start
  | workingDirectory
  | root
  | doubleRoot
  deriving DecidableEq, Repr

namespace Start

def ofText (t : Text) : Start :=
  match (t.takeWhile (· = '/')).length with
  | 0 => workingDirectory
  | 2 => doubleRoot
  | _ => root

def toText : Start → Text
  | workingDirectory => []
  | root => ['/']
  | doubleRoot => ['/', '/']

end Start

structure Path where
  start : Start
  names : List Text
  deriving DecidableEq, Repr

namespace Path

def ofText (t : Text) : Path :=
  ⟨Start.ofText t, (Text.cut '/' t).filter fun name => !name.isEmpty && name ≠ ['.']⟩

def isRelative (p : Path) : Bool := p.start = .workingDirectory

def given? : Option Text → Option Path
  | some (c :: rest) => some (ofText (c :: rest))
  | _ => none

def here : Path := ⟨.workingDirectory, []⟩

def toText (p : Path) : Text :=
  if p = here then ['.'] else p.start.toText ++ ['/'].intercalate p.names

def child (p : Path) (name : Text) : Path := ⟨p.start, p.names ++ [name]⟩

/-- Follows a name: `..` leads to the parent, and from the root nowhere. -/
def follow (names : List Text) (name : Text) : List Text :=
  if name = ['.', '.'] then names.dropLast else names ++ [name]

def resolve (cwd p : Path) : Path :=
  ⟨.root, ((if p.isRelative then cwd.names else []) ++ p.names).foldl follow []⟩

/-- Replaces a leading `~` by a home directory, and a leading `~name` by that of the user of the name.
There is no such path if the home is not known or is itself written with a `~`. -/
def expandHome (homeOf : Text → Option Text) (p : Path) : Option Path :=
  match p.start, p.names with
  | .workingDirectory, ('~' :: user) :: names =>
    match homeOf user with
    | none => none
    | some ('~' :: _) => none
    | some home =>
      let top := if home.all (· = '/') then ⟨.root, []⟩ else ofText home
      some ⟨top.start, top.names ++ names⟩
  | _, _ => some p

def upwards (p : Path) : List Path :=
  (List.range (p.names.length + 1)).map fun k => ⟨p.start, p.names.take (p.names.length - k)⟩

end Path

end Stockroom

import Stockroom.Settings.Path

/-! # Where the catalog lies

The catalog is the file that the environment names, or else a fixed place below the root of the
project. The root is the nearest directory, from a starting point upwards, that holds one of a few
marker names, or the starting point if there is no such directory.
-/
namespace Stockroom

/-- What the settings depend on: the working directory, the home directories of the users, of which
the empty name stands for the one who runs the program, the values of the environment, and which
paths exist. -/
structure Surroundings where
  cwd : Path
  homeOf : Text → Option Text
  catalogOverride : Option Text
  logLevelName : Option Text
  present : Path → Bool

def catalogFolder : Text := ".stockq".toList

def catalogFileName : Text := "catalog.json".toList

def rootMarkers : List Text :=
  [catalogFolder, ".git".toList, "pyproject.toml".toList, "package.json".toList]

namespace Surroundings

def isMarked (s : Surroundings) (directory : Path) : Bool :=
  rootMarkers.any fun marker => s.present (directory.child marker)

/-- The nearest marked directory from a starting point upwards, or the starting point. The search
starts in the working directory if no other point is given. -/
def projectRoot (s : Surroundings) (start : Option Path) : Path :=
  let point := s.cwd.resolve (start.getD .here)
  (point.upwards.find? s.isMarked).getD point

/-- The place of the catalog, unless it lies in a home that is not known. A given root is taken as it
is written. -/
def catalogPath (s : Surroundings) (root : Option Path) : Option Path :=
  match Path.given? s.catalogOverride with
  | some path => (path.expandHome s.homeOf).map s.cwd.resolve
  | none => some (((root.getD (s.projectRoot none)).child catalogFolder).child catalogFileName)

end Surroundings

end Stockroom

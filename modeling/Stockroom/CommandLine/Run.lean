import Stockroom.CommandLine.Arguments
import Stockroom.Catalog.Loading
import Stockroom.Catalog.Search
import Stockroom.Report.Inventory
import Stockroom.Report.History
import Stockroom.Report.Explanation
import Stockroom.Settings.LogLevel
import Stockroom.Text.Control

/-! # Running a command

A run depends on the surroundings and on what stands under a path. Its outcome is an exit code, the
reports printed, and the lines written beside them. A search that cannot load its catalog because of
a failure of a value writes one message and prints nothing, and every other failure ends it. A search
in a loaded catalog prints one report. Of a catalog that texts cannot hold no outcome is given.
-/
namespace Stockroom

/-- What stands under a path. A path may also be too long to be looked up, and it may be forbidden to
look it up or to read the file. -/
inductive FileState
  | missing
  | tooLong
  | denied
  | directory
  | file (octets : List UInt8)

def FileState.failure? : FileState → Option FailureKind
  | tooLong => some .system
  | denied => some .permission
  | directory => some .directory
  | missing => none
  | file _ => none

/-- The exit code, the reports, the lines beside them, and the failure that ended the run if it was
none that is reported by a message. -/
structure Outcome where
  exitCode : Nat
  printed : List Report
  messages : List Text
  failure : Option FailureKind

namespace Outcome

def misused : Outcome := ⟨2, [], [], none⟩

def helped : Outcome := ⟨0, [], [], none⟩

def ended (kind : FailureKind) : Outcome := ⟨1, [], [], some kind⟩

end Outcome

def debugLine (level : Nat) (source message : Text) : List Text :=
  if level ≤ LogLevel.debug then ["DEBUG:".toList ++ source ++ ':' :: message] else []

def catalogSource : Text := "stockq.catalog".toList

def loadedLine (level : Nat) (catalog : Catalog) (path : Text) : List Text :=
  debugLine level catalogSource <|
    "Loaded ".toList ++ Text.ofNat catalog.items.length ++ " item(s) and ".toList ++
      Text.ofNat catalog.history.length ++ " history entries from ".toList ++ path

def parsedLine (level : Nat) (query : Text) : List Text :=
  debugLine level "stockq.query".toList <|
    "Parsed query ".toList ++ query.quoted ++ " into ".toList ++
      Text.ofNat (Query.ofText query).clauses.length ++ " clause(s)".toList

def matchedLine (level : Nat) (query : Text) (found total : Nat) (things : Text) : List Text :=
  debugLine level catalogSource <|
    "Query ".toList ++ query.quoted ++ " matched ".toList ++ Text.ofNat found ++ " of ".toList ++
      Text.ofNat total ++ ' ' :: things

def SearchRequest.answer (request : SearchRequest) (level : Nat) (catalog : Catalog) :
    List Text × Except NegativeLimit Report :=
  let limit := some (request.limit : Int)
  if request.history then
    let found := (catalog.rankHistory request.query).length
    (matchedLine level request.query found catalog.history.length "history entries".toList,
      (catalog.searchHistory request.query limit).map (Report.ofHistory · request.query))
  else
    let found := (catalog.rankItems request.query request.option request.direction).length
    (matchedLine level request.query found catalog.items.length "item(s)".toList,
      (catalog.searchItems request.query request.option request.direction limit).map
        (Report.ofItems · request.query))

/-- The path of the catalog that a search uses: the one given, unless it is empty, or the one from
the settings. -/
def SearchRequest.catalogPath (request : SearchRequest) (s : Surroundings) : Option Path :=
  match Path.given? request.catalog with
  | some path => some path
  | none => s.catalogPath none

def notFoundMessage (path : Text) : Text :=
  "Catalog not found at ".toList ++ path ++
    ". Pass --catalog or set STOCKQ_CATALOG_PATH.".toList

/-- What a failure to load a catalog comes to: a message if it is one of a value. -/
def Outcome.ofLoadFailure (level : Nat) (kind : FailureKind) (message : Text) : Outcome :=
  if kind.isA .value then
    ⟨1, [], debugLine level "stockq.cli".toList "Catalog load failed".toList ++
      [message.withoutControls], none⟩
  else .ended kind

namespace SearchRequest

def runIn (request : SearchRequest) (level : Nat) (path : Text) (catalog : Catalog) : Outcome :=
  let (matched, result) := request.answer level catalog
  let messages := loadedLine level catalog path ++ parsedLine level request.query ++ matched
  match result with
  | .ok report => ⟨0, [report], messages, none⟩
  | .error _ => ⟨1, [], messages, some .value⟩

def run (request : SearchRequest) (level : Nat) (path : Text) : FileState → Option Outcome
  | .missing => some ⟨1, [], [(notFoundMessage path).withoutControls], none⟩
  | .tooLong => some (.ended .system)
  | .denied => some (.ended .permission)
  | .directory => some (.ended .directory)
  | .file octets =>
    match Catalog.ofOctets path octets with
    | .ok catalog => some (request.runIn level path catalog)
    | .error fault => fault.kind?.map fun kind => .ofLoadFailure level kind fault.message

end SearchRequest

def Command.run (command : Command) (level : Nat) (s : Surroundings) (find : Path → FileState) :
    Option Outcome :=
  match command with
  | .search request =>
    match request.catalogPath s with
    | some path => request.run level path.toText (find path)
    | none => some (.ended .runtime)
  | .explain query => some ⟨0, [Report.ofQuery query], parsedLine level query, none⟩
  | .fields => some ⟨0, [keyReport], [], none⟩

def runArguments (arguments : List Text) (s : Surroundings) (find : Path → FileState) :
    Option Outcome :=
  match Request.ofArguments arguments with
  | .misuse => some .misused
  | .help => some .helped
  | .run verbose command => command.run (s.logLevel verbose) s find

end Stockroom

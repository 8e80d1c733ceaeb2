import Stockroom.CommandLine.Options
import Stockroom.Catalog.Order
import Stockroom.Number.WholeNumber

/-! # What the arguments ask for

The arguments name a command and give its options. They ask for a run, for help, or for nothing that
can be done. An option that is not there or lacks its value counts before a request for help, and
help counts before every other mistake.
-/
namespace Stockroom

structure SearchRequest where
  query : Text
  history : Bool
  option : SortOption
  direction : Direction
  limit : Nat
  catalog : Option Text
  deriving DecidableEq, Repr

inductive Command
  | search (request : SearchRequest)
  | explain (query : Text)
  | fields
  deriving DecidableEq, Repr

inductive Request
  | run (verbose : Bool) (command : Command)
  | help
  | misuse
  deriving DecidableEq, Repr

namespace Request

inductive GeneralKey
  | verbose
  | help
  deriving DecidableEq, Repr

def generalForms : List (OptionForm GeneralKey) :=
  [⟨.verbose, "--verbose".toList, some 'v', false⟩, ⟨.help, "--help".toList, none, false⟩]

inductive SearchKey
  | history
  | sort
  | descending
  | limit
  | catalog
  | help
  deriving DecidableEq, Repr

def searchForms : List (OptionForm SearchKey) :=
  [⟨.history, "--history".toList, some 'H', false⟩, ⟨.sort, "--sort".toList, some 's', true⟩,
   ⟨.descending, "--desc".toList, none, false⟩, ⟨.limit, "--limit".toList, some 'n', true⟩,
   ⟨.catalog, "--catalog".toList, some 'c', true⟩, ⟨.help, "--help".toList, none, false⟩]

def helpForms : List (OptionForm Unit) := [⟨(), "--help".toList, none, false⟩]

def limit? (t : Text) : Option Nat :=
  match WholeNumber.ofText t with
  | .ok (.ofNat n) => some n
  | _ => none

def ofSearch (options : List (SearchKey × Text)) (arguments : List Text) :
    Option SearchRequest := do
  let query ← match arguments with
    | [] => some []
    | [query] => some query
    | _ => none
  let option ← match lastValue? .sort options with
    | none => some SortOption.name
    | some label => SortOption.ofLabel? label
  let limit ← match lastValue? .limit options with
    | none => some 0
    | some t => limit? t
  return {
    query := query
    history := (lastValue? .history options).isSome
    option := option
    direction := if (lastValue? .descending options).isSome then .descending else .ascending
    limit := limit
    catalog := lastValue? .catalog options }

/-- The arguments of a command, unless they ask for help or for nothing that can be done. -/
def ofCommand (verbose : Bool) (name : Text) (arguments : List Text) : Request :=
  if name = "search".toList then
    match OptionForm.separate? searchForms true arguments with
    | none => misuse
    | some (options, rest) =>
      if (lastValue? .help options).isSome then help
      else match ofSearch options rest with
        | some request => run verbose (.search request)
        | none => misuse
  else if name = "explain".toList then
    match OptionForm.separate? helpForms true arguments with
    | none => misuse
    | some ([], [query]) => run verbose (.explain query)
    | some ([], _) => misuse
    | some (_ :: _, _) => help
  else if name = "fields".toList then
    match OptionForm.separate? helpForms true arguments with
    | none => misuse
    | some ([], []) => run verbose .fields
    | some ([], _ :: _) => misuse
    | some (_ :: _, _) => help
  else misuse

/-- An argument that looks like an option is no command. It and those behind it are read once more
for a request for help. -/
def ofMisplaced (arguments : List Text) : Request :=
  match OptionForm.separate? generalForms false arguments with
  | none => misuse
  | some (options, _) => if (lastValue? .help options).isSome then help else misuse

def ofArguments (arguments : List Text) : Request :=
  match OptionForm.separate? generalForms false arguments with
  | none => misuse
  | some (options, rest) =>
    if (lastValue? .help options).isSome then help
    else match rest with
      | [] => misuse
      | name :: rest =>
        if name.head? = some '-' then ofMisplaced (name :: rest)
        else ofCommand (lastValue? .verbose options).isSome name rest

end Request

end Stockroom

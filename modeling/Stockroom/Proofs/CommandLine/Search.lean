import Stockroom.CommandLine.Run
import Stockroom.Proofs.Catalog.Loading
import Stockroom.Proofs.Catalog.Top
import Stockroom.Proofs.Settings.Place

/-! # The outcomes of a search

A search gives up with a message and prints nothing if its catalog is missing or cannot be loaded.
In a loaded catalog it prints one report: the note that nothing is found if no record matches, and
otherwise the table of the records that it shows, which no limit empties. A path that cannot be looked
up or read, and one that starts in a home that is not known, end it without a message.
-/
namespace Stockroom

namespace Outcome

/-- The run gave up with a message behind the lines of the log, and printed nothing. -/
structure GaveUp (outcome : Outcome) (message : Text) : Prop where
  exitCode : outcome.exitCode = 1
  printed : outcome.printed = []
  message : outcome.messages.getLast? = some message
  failure : outcome.failure = none

/-- The run printed what a search among records came to: a note, or the table of what is shown. -/
structure Answered {α : Type} (outcome : Outcome) (note : Report) (table : List α → Table)
    (records : List α) (found : α → Bool) (limit : Nat)
    (search : Except NegativeLimit (List α)) : Prop where
  exitCode : outcome.exitCode = 0
  failure : outcome.failure = none
  /-- The note stands for an empty answer, and never for one that a limit has emptied. -/
  noted : outcome.printed = [note] ↔ ∀ a ∈ records, found a = false
  tabled : (∃ a ∈ records, found a = true) → ∃ shown, search = .ok shown ∧
    outcome.printed = [.table (table shown)] ∧
    shown.length = if limit = 0 then records.countP found else min limit (records.countP found)

end Outcome

def inventoryTable (items : List Item) : Table :=
  ⟨"Inventory".toList, inventoryColumns, items.map Item.row⟩

def historyTable (entries : List Entry) : Table :=
  ⟨"History".toList, historyColumns, entries.map Entry.row⟩

section Limits

variable {α : Type}

def upTo (limit : Nat) (ranking : List α) : List α :=
  if limit = 0 then ranking else ranking.take limit

theorem cutAt_eq_upTo (limit : Nat) (ranking : List α) :
    cutAt (some (limit : Int)) ranking = .ok (upTo limit ranking) := by
  rw [upTo]
  split
  · next h =>
    rw [h]
    rfl
  · next h => exact cutAt_natCast (Nat.pos_of_ne_zero h) ranking

theorem length_upTo (limit : Nat) (ranking : List α) :
    (upTo limit ranking).length =
      if limit = 0 then ranking.length else min limit ranking.length := by
  rw [upTo]
  split
  · rfl
  · exact List.length_take

theorem upTo_eq_nil_iff (limit : Nat) {ranking : List α} : upTo limit ranking = [] ↔ ranking = [] := by
  rw [upTo]
  split
  · rfl
  · next h => simp [List.take_eq_nil_iff, h]

end Limits

theorem nothingFound_ne_table (things : String) (query : Text) (t : Table) :
    nothingFound things query ≠ .table t := by
  rw [nothingFound]
  exact Report.noConfusion

/-- How a list of records is reported: by a note if it is empty, and else by a table. -/
structure Reports {α : Type} (report : List α → Report) (note : Report) (table : List α → Table) :
    Prop where
  empty : report [] = note
  full : ∀ shown, shown ≠ [] → report shown = .table (table shown)
  apart : ∀ t, note ≠ .table t

theorem Report.reports_ofItems (query : Text) :
    Reports (Report.ofItems · query) (nothingFound "items" query) inventoryTable where
  empty := rfl
  full shown h := if_neg (by simpa using h)
  apart := nothingFound_ne_table _ _

theorem Report.reports_ofHistory (query : Text) :
    Reports (Report.ofHistory · query) (nothingFound "history entries" query) historyTable where
  empty := rfl
  full shown h := if_neg (by simpa using h)
  apart := nothingFound_ne_table _ _

section Answers

variable {α : Type} {report : List α → Report} {note : Report} {table : List α → Table}
  {records ranking : List α} {found : α → Bool}

theorem Reports.answered (h : Reports report note table)
    (hp : ranking.Perm (records.filter found)) (limit : Nat) (messages : List Text) :
    Outcome.Answered ⟨0, [report (upTo limit ranking)], messages, none⟩ note table records found
      limit (cutAt (some (limit : Int)) ranking) where
  exitCode := rfl
  failure := rfl
  noted := by
    have hnil : ranking = [] ↔ ∀ a ∈ records, found a = false := by
      rw [← List.length_eq_zero_iff, hp.length_eq, List.length_eq_zero_iff]
      simp
    rw [← hnil, ← upTo_eq_nil_iff limit, List.singleton_inj]
    constructor
    · intro hr
      by_contra hne
      rw [h.full _ hne] at hr
      exact h.apart _ hr.symm
    · intro hr
      rw [hr, h.empty]
  tabled := by
    intro ⟨a, ha, hf⟩
    have hmem : a ∈ ranking := hp.mem_iff.mpr (List.mem_filter.mpr ⟨ha, hf⟩)
    have hne : upTo limit ranking ≠ [] := by
      rw [Ne, upTo_eq_nil_iff]
      exact List.ne_nil_of_mem hmem
    refine ⟨upTo limit ranking, cutAt_eq_upTo limit ranking, ?_, ?_⟩
    · rw [h.full _ hne]
    · rw [length_upTo, hp.length_eq, List.countP_eq_length_filter]

end Answers

namespace SearchRequest

variable (request : SearchRequest) (level : Nat) (path : Text) (catalog : Catalog)

theorem catalogPath_eq_none_iff (s : Surroundings) :
    request.catalogPath s = none ↔ Path.given? request.catalog = none ∧
      ∃ path, Path.given? s.catalogOverride = some path ∧ path.HasUnknownHome s.homeOf := by
  rw [catalogPath]
  split
  · next h => simp [h]
  · next h =>
    rw [Surroundings.catalogPath]
    split
    · next path hpath =>
      simp only [Option.map_eq_none_iff, Path.expandHome_eq_none_iff, h, hpath, Option.some.injEq,
        exists_eq_left', true_and]
    · next hpath => simp [hpath]

theorem runIn_of_answer {matched : List Text} {report : Report}
    (h : request.answer level catalog = (matched, .ok report)) :
    request.runIn level path catalog =
      ⟨0, [report], loadedLine level catalog path ++ parsedLine level request.query ++ matched,
        none⟩ := by
  rw [runIn, h]

theorem answer_history (h : request.history = true) :
    request.answer level catalog =
      (matchedLine level request.query (catalog.rankHistory request.query).length
        catalog.history.length "history entries".toList,
      .ok (Report.ofHistory (upTo request.limit (catalog.rankHistory request.query))
        request.query)) := by
  rw [answer, if_pos h, Catalog.searchHistory, cutAt_eq_upTo]
  rfl

theorem answer_items (h : request.history = false) :
    request.answer level catalog =
      (matchedLine level request.query
        (catalog.rankItems request.query request.option request.direction).length
        catalog.items.length "item(s)".toList,
      .ok (Report.ofItems (upTo request.limit
        (catalog.rankItems request.query request.option request.direction)) request.query)) := by
  rw [answer, if_neg (by simp [h]), Catalog.searchItems, cutAt_eq_upTo]
  rfl

theorem answered_history (h : request.history = true) :
    (request.runIn level path catalog).Answered (nothingFound "history entries" request.query)
      historyTable catalog.history (fun entry => (Record.entry entry).matchesText request.query)
      request.limit (catalog.searchHistory request.query (some (request.limit : Int))) := by
  have hp := (newestFirst_ranked (keepEntries request.query catalog.history)).perm
  rw [request.runIn_of_answer level path catalog (request.answer_history level catalog h)]
  exact (Report.reports_ofHistory request.query).answered hp request.limit _

theorem answered_items (h : request.history = false) :
    (request.runIn level path catalog).Answered (nothingFound "items" request.query)
      inventoryTable catalog.items (fun item => (Record.item item).matchesText request.query)
      request.limit (catalog.searchItems request.query request.option request.direction
        (some (request.limit : Int))) := by
  have hp := (sortItems_ranked request.option request.direction
    (keepItems request.query catalog.items)).perm
  rw [request.runIn_of_answer level path catalog (request.answer_items level catalog h)]
  exact (Report.reports_ofItems request.query).answered hp request.limit _

theorem gaveUp_missing :
    ∃ outcome ∈ request.run level path .missing,
      outcome.GaveUp (notFoundMessage path).withoutControls :=
  ⟨_, rfl, ⟨rfl, rfl, rfl, rfl⟩⟩

theorem run_of_failure {state : FileState} {kind : FailureKind} (h : state.failure? = some kind) :
    request.run level path state = some (.ended kind) := by
  cases state with
  | missing | file => cases h
  | tooLong | denied | directory =>
    cases h
    rfl

theorem gaveUp_unloadable {octets : List UInt8} {fault : LoadFault}
    (h : Catalog.load path (some octets) = .error fault) (hhalf : fault ≠ .loneHalf) :
    ∃ outcome ∈ request.run level path (.file octets),
      outcome.GaveUp fault.message.withoutControls := by
  have ho : Catalog.ofOctets path octets = .error fault := h
  obtain ⟨kind, hkind, hvalue⟩ := Catalog.isA_value_of_load_eq_error h hhalf
  refine ⟨.ofLoadFailure level kind fault.message, ?_, ?_⟩
  · rw [run, ho]
    simp only [hkind, Option.map_some, Option.mem_some_iff]
  · rw [Outcome.ofLoadFailure, if_pos hvalue]
    exact ⟨rfl, rfl, List.getLast?_concat, rfl⟩

theorem run_loaded {octets : List UInt8} (h : Catalog.load path (some octets) = .ok catalog) :
    request.run level path (.file octets) = some (request.runIn level path catalog) := by
  have ho : Catalog.ofOctets path octets = .ok catalog := h
  rw [run, ho]

end SearchRequest

/-- What a search comes to, whatever stands under its path. Only a path that cannot be looked up or
read, or that starts in a home that is not known, lets it end without a message and without an answer.
Of a file that holds half of a pair nothing is said. -/
theorem search_gives_up_or_answers (request : SearchRequest) (level : Nat) (s : Surroundings)
    (find : Path → FileState) :
    let result := (Command.search request).run level s find
    (request.catalogPath s = none ↔ Path.given? request.catalog = none ∧
      ∃ path, Path.given? s.catalogOverride = some path ∧ path.HasUnknownHome s.homeOf) ∧
    (request.catalogPath s = none → result = some (.ended .runtime)) ∧
    ∀ path, request.catalogPath s = some path →
      (find path = .missing →
        ∃ outcome ∈ result, outcome.GaveUp (notFoundMessage path.toText).withoutControls) ∧
      (∀ kind, (find path).failure? = some kind → result = some (.ended kind)) ∧
      ∀ octets, find path = .file octets →
        (∀ fault, Catalog.load path.toText (some octets) = .error fault → fault ≠ .loneHalf →
          Unloadable path.toText octets fault ∧
          (∃ kind, fault.kind? = some kind ∧ kind.isA .value = true) ∧
          ∃ outcome ∈ result, outcome.GaveUp fault.message.withoutControls) ∧
        ∀ catalog, Catalog.load path.toText (some octets) = .ok catalog →
          (∃ members, HoldObject octets members ∧ Catalog.ofMembers members = .valid catalog) ∧
          ∃ outcome ∈ result,
            if request.history then
              outcome.Answered (nothingFound "history entries" request.query) historyTable
                catalog.history (fun entry => (Record.entry entry).matchesText request.query)
                request.limit (catalog.searchHistory request.query (some (request.limit : Int)))
            else
              outcome.Answered (nothingFound "items" request.query) inventoryTable
                catalog.items (fun item => (Record.item item).matchesText request.query)
                request.limit (catalog.searchItems request.query request.option request.direction
                  (some (request.limit : Int))) := by
  intro result
  refine ⟨request.catalogPath_eq_none_iff s, fun hnone => ?_, fun path hpath => ?_⟩
  · simp only [result, Command.run, hnone]
  have hrun : result = request.run level path.toText (find path) := by
    simp only [result, Command.run, hpath]
  refine ⟨fun h => ?_, fun kind h => ?_, fun octets h => ⟨fun fault hl hhalf => ?_, fun catalog hl => ?_⟩⟩
  · rw [hrun, h]
    exact request.gaveUp_missing level path.toText
  · rw [hrun]
    exact request.run_of_failure level path.toText h
  · rw [hrun, h]
    exact ⟨Catalog.load_eq_error_iff.mp hl, Catalog.isA_value_of_load_eq_error hl hhalf,
      request.gaveUp_unloadable level path.toText hl hhalf⟩
  · rw [hrun, h, request.run_loaded level path.toText catalog hl]
    refine ⟨Catalog.load_eq_ok_iff.mp hl, _, rfl, ?_⟩
    split
    · next hh => exact request.answered_history level path.toText catalog hh
    · next hh => exact request.answered_items level path.toText catalog (Bool.eq_false_iff.mpr hh)

/-- A file that holds an empty list is no catalog. -/
theorem search_gives_up_on_list :
    ∃ outcome ∈ (Command.search
        ⟨[], false, .name, .ascending, 1, some "c.json".toList⟩).run LogLevel.warning
        ⟨.here, fun _ => none, none, none, fun _ => false⟩ fun _ => .file [0x5B, 0x5D],
      outcome.GaveUp "Catalog c.json must be a JSON object".toList := by
  have h := (search_gives_up_or_answers ⟨[], false, .name, .ascending, 1, some "c.json".toList⟩
    LogLevel.warning ⟨.here, fun _ => none, none, none, fun _ => false⟩
    fun _ => .file [0x5B, 0x5D]).2.2 (Path.ofText "c.json".toList) rfl
  have hload : Catalog.load "c.json".toList (some [0x5B, 0x5D]) =
      .error (.notObject "c.json".toList) := by decide +kernel
  have hlist := (h.2.2 [0x5B, 0x5D] rfl).1 (.notObject "c.json".toList) hload LoadFault.noConfusion
  exact hlist.2.2

end Stockroom

import Stockroom.Report.Basic
import Stockroom.Record.Basic

/-! # The history table

One row for each entry. Underscores in a reason are shown as spaces, and the time is shown as it was
written, without regard to its offset.
-/
namespace Stockroom

def whenText : Option Timestamp → Text
  | some t => t.minuteText
  | none => ['-']

def Movement.cell : Movement → Markup
  | .inward => Markup.within "green" (Markup.ofLiteral "in".toList)
  | .outward => Markup.within "red" (Markup.ofLiteral "out".toList)

def Entry.row (entry : Entry) : List Markup :=
  [Markup.ofLiteral (whenText entry.timestamp), shownOrDash entry.batteryName, entry.movement.cell,
   Markup.ofLiteral (Text.ofInt entry.quantity), shownOrDash entry.location,
   shownOrDash (Text.replaceChar '_' ' ' entry.reason), shownOrDash entry.source]

def historyColumns : List Column :=
  [.fixed "When" 16, .styled "Battery" "cyan", .fixed "Move" 4, .rightSet "Qty", .plain "Location",
   .plain "Reason", .styled "Source" "dim"]

def Report.ofHistory (entries : List Entry) (query : Text) : Report :=
  if entries.isEmpty then nothingFound "history entries" query
  else .table ⟨"History".toList, historyColumns, entries.map Entry.row⟩

end Stockroom

import Stockroom.Report.History
import Stockroom.Proofs.Calendar.Order
import Stockroom.Proofs.Calendar.Written
import Stockroom.Proofs.Catalog.Undated
import Stockroom.Proofs.Text.Delimiters

/-! # The first column of the history table

The rows of the history table are ranked by instants, and its first column shows what a clock showed
where the entry was written. The column reads newest first exactly if no clock was ahead of that of
a newer entry by more minutes than lie between the two, and none was ahead of that of an entry of the
same instant which stands above it. So it does if all clocks were equally far ahead of UTC.
-/
namespace Stockroom

namespace Text

theorem ofNat_eq_padded (n : Nat) : ofNat n = padded 0 n := by
  rw [padded, Nat.zero_sub]
  rfl

theorem padded_injective (width : Nat) : Function.Injective (padded width) :=
  Function.LeftInverse.injective (digitsValue_padded width)

theorem not_mem_padded {c : Char} (h : c.isDigit = false) (width n : Nat) : c ∉ padded width n := by
  intro hc
  rw [isDigit_of_mem_padded hc] at h
  cases h

end Text

namespace Timestamp

variable {t u : Timestamp}

theorem clock_eq_of_minuteText_eq (h : t.minuteText = u.minuteText) : t.clock = u.clock := by
  have hdash := Text.not_mem_padded (c := '-') rfl
  have hspace := Text.not_mem_padded (c := ' ') rfl
  have hcolon := Text.not_mem_padded (c := ':') rfl
  rw [minuteText, minuteText, Text.ofNat_eq_padded, Text.ofNat_eq_padded] at h
  obtain ⟨hyear, h⟩ := Text.append_cons_inj (hdash _ _) (hdash _ _) h
  obtain ⟨hmonth, h⟩ := Text.append_cons_inj (hdash _ _) (hdash _ _) h
  obtain ⟨hday, h⟩ := Text.append_cons_inj (hspace _ _) (hspace _ _) h
  obtain ⟨hhour, hminute⟩ := Text.append_cons_inj (hcolon _ _) (hcolon _ _) h
  rw [clock, clock, Text.padded_injective _ hyear, Text.padded_injective _ hmonth,
    Text.padded_injective _ hday, Text.padded_injective _ hhour, Text.padded_injective _ hminute]

/-- The text of a minute is the text of what the clock shows. -/
theorem minuteText_eq_iff : t.minuteText = u.minuteText ↔ t.clock = u.clock := by
  refine ⟨clock_eq_of_minuteText_eq, fun h => ?_⟩
  simp only [clock, List.cons.injEq] at h
  obtain ⟨hyear, hmonth, hday, hhour, hminute, -⟩ := h
  rw [minuteText, minuteText, hyear, hmonth, hday, hhour, hminute]

theorem minuteText_ne_dash (t : Timestamp) : t.minuteText ≠ ['-'] := by
  intro h
  have hlength := congrArg List.length h
  simp only [minuteText, List.length_append, List.length_cons, List.length_nil] at hlength
  omega

/-- Clocks at one instant are shown by one text exactly if they are equally far ahead. -/
theorem whenText_eq_iff_of_instant_eq (h : t.instant = u.instant) :
    whenText (some t) = whenText (some u) ↔ t.ahead = u.ahead :=
  minuteText_eq_iff.trans (clock_eq_iff_of_instant_eq h)

end Timestamp

def Report.rows : Report → List (List Markup)
  | .table t => t.rows
  | .line _ | .tree _ => []

theorem Report.rows_ofHistory (entries : List Entry) (query : Text) :
    (Report.ofHistory entries query).rows = entries.map Entry.row := by
  cases entries with
  | nil => rfl
  | cons entry entries => rfl

def ShowsClock (row : List Markup) (parts : List Nat) : Prop :=
  ∃ t : Timestamp, row.head? = some (Markup.ofLiteral t.minuteText) ∧ t.clock = parts

theorem Entry.showsClock_row_iff {entry : Entry} {parts : List Nat} :
    ShowsClock entry.row parts ↔ ∃ t, entry.timestamp = some t ∧ t.clock = parts := by
  have hhead : entry.row.head? = some (Markup.ofLiteral (whenText entry.timestamp)) := rfl
  simp only [ShowsClock, hhead, Option.some.injEq, Markup.ofLiteral, List.cons.injEq,
    Piece.literal.injEq, and_true]
  cases entry.timestamp with
  | none =>
    constructor
    · rintro ⟨t, ht, -⟩
      exact absurd ht.symm t.minuteText_ne_dash
    · rintro ⟨t, ht, -⟩
      cases ht
  | some t =>
    constructor
    · rintro ⟨u, hu, hparts⟩
      exact ⟨t, rfl, (Timestamp.minuteText_eq_iff.mp hu).trans hparts⟩
    · rintro ⟨u, hu, hparts⟩
      cases hu
      exact ⟨t, rfl, hparts⟩

/-- No clock in the first column is earlier than one further down. -/
def Report.ReadsNewestFirst (report : Report) : Prop :=
  report.rows.Pairwise fun above below =>
    ∀ p q, ShowsClock above p → ShowsClock below q → q ≤ p

theorem readsNewestFirst_ofHistory_iff {entries : List Entry} {query : Text} :
    (Report.ofHistory entries query).ReadsNewestFirst ↔
      entries.Pairwise fun a b => ∀ t u, a.timestamp = some t → b.timestamp = some u →
        u.clock ≤ t.clock := by
  rw [Report.ReadsNewestFirst, Report.rows_ofHistory, List.pairwise_map]
  refine List.Pairwise.iff fun a b => ?_
  simp only [Entry.showsClock_row_iff]
  constructor
  · intro h t u ht hu
    exact h _ _ ⟨t, ht, rfl⟩ ⟨u, hu, rfl⟩
  · rintro h _ _ ⟨t, ht, rfl⟩ ⟨u, hu, rfl⟩
    exact h t u ht hu

theorem readsNewestFirst_newestFirst_iff (entries : List Entry) (query : Text) :
    (Report.ofHistory (newestFirst entries) query).ReadsNewestFirst ↔
      (∀ a ∈ entries, ∀ b ∈ entries, ∀ t u, a.timestamp = some t → b.timestamp = some u →
        u.instant < t.instant →
          u.ahead - t.ahead ≤ Timestamp.minuteOf t.instant - Timestamp.minuteOf u.instant) ∧
      entries.Pairwise fun a b => ∀ t u, a.timestamp = some t → b.timestamp = some u →
        t.instant = u.instant → u.ahead ≤ t.ahead := by
  rw [readsNewestFirst_ofHistory_iff, (newestFirst_ranked entries).pairwise_iff]
  refine and_congr ?_ ?_
  · constructor
    · intro h a ha b hb t u ht hu hlt
      have hbefore : b.instant < a.instant := by
        rwa [Entry.instant_dated ht, Entry.instant_dated hu]
      exact Timestamp.clock_le_iff.mp (h a ha b hb hbefore t u ht hu)
    · intro h a ha b hb hbefore t u ht hu
      have hlt : b.instant < a.instant := hbefore
      rw [Entry.instant_dated ht, Entry.instant_dated hu] at hlt
      exact Timestamp.clock_le_iff.mpr (h a ha b hb t u ht hu hlt)
  · refine List.Pairwise.iff fun a b => ?_
    constructor
    · intro h t u ht hu heq
      have htie : a.instant = b.instant := by rwa [Entry.instant_dated ht, Entry.instant_dated hu]
      exact (Timestamp.clock_le_iff_of_instant_eq heq).mp (h htie t u ht hu)
    · intro h htie t u ht hu
      rw [Entry.instant_dated ht, Entry.instant_dated hu] at htie
      exact (Timestamp.clock_le_iff_of_instant_eq htie).mpr (h t u ht hu htie)

theorem readsNewestFirst_of_ahead {entries : List Entry} (query : Text) {minutes : Int}
    (h : ∀ e ∈ entries, ∀ t, e.timestamp = some t → t.ahead = minutes) :
    (Report.ofHistory (newestFirst entries) query).ReadsNewestFirst := by
  rw [readsNewestFirst_newestFirst_iff]
  constructor
  · intro a ha b hb t u ht hu hlt
    have hminute : Timestamp.minuteOf u.instant ≤ Timestamp.minuteOf t.instant :=
      Int.ediv_le_ediv (by decide) hlt.le
    rw [h a ha t ht, h b hb u hu]
    omega
  · refine List.pairwise_of_forall_mem_list fun a ha b hb t u ht hu _ => ?_
    rw [h a ha t ht, h b hb u hu]

/-- The first column reads newest first exactly if no clock is ahead of that of a newer entry by more
minutes than lie between the two, and none is ahead of that of an entry of the same instant which was
listed before it. Clocks at one instant are shown by one text exactly if they are equally far ahead of
UTC, and if all clocks are, the column reads newest first. -/
theorem history_reads_newest_first_iff (entries : List Entry) (query : Text) :
    let report := Report.ofHistory (newestFirst entries) query
    (report.ReadsNewestFirst ↔
      (∀ a ∈ entries, ∀ b ∈ entries, ∀ t u, a.timestamp = some t → b.timestamp = some u →
        u.instant < t.instant →
          u.ahead - t.ahead ≤ Timestamp.minuteOf t.instant - Timestamp.minuteOf u.instant) ∧
      entries.Pairwise fun a b => ∀ t u, a.timestamp = some t → b.timestamp = some u →
        t.instant = u.instant → u.ahead ≤ t.ahead) ∧
    (∀ t u : Timestamp, t.instant = u.instant →
      (whenText (some t) = whenText (some u) ↔ t.ahead = u.ahead)) ∧
    ∀ minutes, (∀ e ∈ entries, ∀ t, e.timestamp = some t → t.ahead = minutes) →
      report.ReadsNewestFirst := by
  intro report
  refine ⟨readsNewestFirst_newestFirst_iff entries query, ?_, ?_⟩
  · exact fun t u h => Timestamp.whenText_eq_iff_of_instant_eq h
  · exact fun minutes h => readsNewestFirst_of_ahead query h

def Timestamp.tenInUtc : Timestamp :=
  ⟨⟨2026, 1, 10, by decide, by decide, by decide⟩,
    { TimeOfDay.midnight with hour := 10, hour_lt := by decide }, some .utc⟩

def Timestamp.tenNaive : Timestamp := { tenInUtc with offset := none }

def Timestamp.noonEast : Timestamp :=
  { tenInUtc with
    time := { TimeOfDay.midnight with hour := 12, hour_lt := by decide }
    offset := Offset.of? false 2 0 }

def Entry.bothDated (t u : Timestamp) : List Entry :=
  [⟨[], [], [], .inward, [], 0, [], [], some t⟩, ⟨[], [], [], .inward, [], 0, [], [], some u⟩]

theorem history_reads_newest_first_naive :
    whenText (some .tenNaive) = whenText (some .tenInUtc) ∧
    (Report.ofHistory (newestFirst (Entry.bothDated .tenNaive .tenInUtc)) []).ReadsNewestFirst := by
  have h := (history_reads_newest_first_iff (Entry.bothDated .tenNaive .tenInUtc) []).2
  constructor
  · exact (h.1 .tenNaive .tenInUtc (by decide)).mpr (by decide)
  · refine h.2 0 fun e he t ht => ?_
    simp only [Entry.bothDated, List.mem_cons, List.not_mem_nil, or_false] at he
    rcases he with rfl | rfl
    · cases ht
      decide
    · cases ht
      decide

/-- Two entries of one instant are shown at two hours, the earlier one on top. -/
theorem one_instant_shown_at_two_hours :
    Timestamp.tenInUtc.instant = Timestamp.noonEast.instant ∧
    whenText (some .tenInUtc) = "2026-01-10 10:00".toList ∧
    whenText (some .noonEast) = "2026-01-10 12:00".toList ∧
    ¬(Report.ofHistory (newestFirst (Entry.bothDated .tenInUtc .noonEast)) []).ReadsNewestFirst := by
  refine ⟨by decide, by decide, by decide, fun h => ?_⟩
  have htie := ((readsNewestFirst_newestFirst_iff _ _).mp h).2
  have hstood := List.rel_of_pairwise_cons htie List.mem_cons_self
  exact absurd (hstood .tenInUtc .noonEast rfl rfl (by decide)) (by decide)

end Stockroom

import Stockroom.Proofs.Calendar.Order
import Stockroom.Proofs.Catalog.Keys

/-! # Undated entries

An undated entry is ranked by the start of year 1 in UTC. Undated entries come last exactly if no
dated entry lies before that instant and those that lie at it were in front of the undated ones
already. East of Greenwich a timestamp of 1 January of year 1 may lie before it; from the second day
on none does, whatever its offset.
-/
namespace Stockroom

theorem daysInMonth_pos (year month : Nat) : 0 < daysInMonth year month := by
  unfold daysInMonth
  split
  · split <;> decide
  all_goals decide

namespace Date

theorem daysBeforeMonth_pos {year month : Nat} (h : 2 ≤ month) : 0 < daysBeforeMonth year month := by
  obtain ⟨m, rfl⟩ := Nat.exists_eq_add_of_le' h
  rw [daysBeforeMonth_succ (Nat.le_add_left 1 m)]
  exact Nat.add_pos_right _ (daysInMonth_pos year (m + 1))

theorem dayNumber_pos {d : Date} (h : d ≠ Timestamp.start.date) : 0 < d.dayNumber := by
  have hmonth := d.day_exists.1
  have hday := d.day_exists.2.2.1
  have hfirst : ¬(d.year = 1 ∧ d.month = 1 ∧ d.day = 1) := by
    rintro ⟨hy, hm, hd⟩
    apply h
    cases d
    simp_all [Timestamp.start]
  have hlater : 2 ≤ d.month → 0 < daysBeforeMonth d.year d.month := daysBeforeMonth_pos
  have hyear := d.one_le_year
  simp only [dayNumber, daysBeforeYear]
  omega

end Date

theorem Offset.toMinutes_lt (o : Offset) : o.toMinutes < 1440 := by
  have hh := o.hours_lt
  have hm := o.minutes_lt
  simp only [toMinutes]
  split <;> omega

/-- No offset takes a later day to the start of year 1. -/
theorem Timestamp.firstInstant_lt {t : Timestamp} (h : t.date ≠ start.date) :
    firstInstant < t.instant := by
  have hday := Date.dayNumber_pos h
  simp only [instant, firstInstant]
  cases t.offset with
  | none =>
    dsimp only
    omega
  | some o =>
    have ho := o.toMinutes_lt
    dsimp only
    omega

def UndatedLast (entries : List Entry) : Prop :=
  entries.Pairwise fun a b => a.timestamp = none → b.timestamp = none

instance (entries : List Entry) : Decidable (UndatedLast entries) :=
  inferInstanceAs (Decidable (entries.Pairwise fun a b => a.timestamp = none → b.timestamp = none))

theorem Entry.instant_undated {entry : Entry} (h : entry.timestamp = none) :
    entry.instant = Timestamp.firstInstant := by
  rw [instant, h]

theorem Entry.instant_dated {entry : Entry} {t : Timestamp} (h : entry.timestamp = some t) :
    entry.instant = t.instant := by
  rw [instant, h]

theorem undatedLast_newestFirst_iff (entries : List Entry) :
    UndatedLast (newestFirst entries) ↔
      (∀ a ∈ entries, a.timestamp = none → ∀ b ∈ entries, ∀ t, b.timestamp = some t →
        Timestamp.firstInstant ≤ t.instant) ∧
      UndatedLast (entries.filter fun e => e.instant = Timestamp.firstInstant) := by
  rw [UndatedLast, (newestFirst_ranked entries).pairwise_iff, UndatedLast, List.pairwise_filter]
  refine and_congr ?_ (List.Pairwise.iff fun a b => ?_)
  · constructor
    · intro h a ha hundated b hb t hdated
      by_contra hlt
      have hbefore : b.instant < a.instant := by
        rw [Entry.instant_undated hundated, Entry.instant_dated hdated]
        exact not_le.mp hlt
      have hb' := h a ha b hb hbefore hundated
      rw [hdated] at hb'
      cases hb'
    · intro hfloor a ha b hb hbefore hundated
      by_contra hdated
      obtain ⟨t, ht⟩ := Option.ne_none_iff_exists'.mp hdated
      have hlt : b.instant < a.instant := hbefore
      rw [Entry.instant_undated hundated, Entry.instant_dated ht] at hlt
      exact absurd (hfloor a ha hundated b hb t ht) (not_le.mpr hlt)
  · simp only [decide_eq_true_eq]
    constructor
    · intro h ha hb
      exact h (ha.trans hb.symm)
    · intro h htie hundated
      have ha := Entry.instant_undated hundated
      exact h ha (htie.symm.trans ha) hundated

theorem undatedLast_of_later_days {entries : List Entry}
    (h : ∀ e ∈ entries, ∀ t, e.timestamp = some t → t.date ≠ Timestamp.start.date) :
    UndatedLast (newestFirst entries) := by
  rw [undatedLast_newestFirst_iff]
  constructor
  · intro _ _ _ b hb t hdated
    exact (Timestamp.firstInstant_lt (h b hb t hdated)).le
  · refine List.pairwise_of_forall_mem_list fun _ _ b hb _ => ?_
    obtain ⟨hmem, hfirst⟩ := List.mem_filter.mp hb
    cases hdated : b.timestamp with
    | none => rfl
    | some t =>
      have hlater := Timestamp.firstInstant_lt (h b hmem t hdated)
      have hfirst' : t.instant = Timestamp.firstInstant :=
        (Entry.instant_dated hdated).symm.trans (of_decide_eq_true hfirst)
      omega

/-- Undated entries come last exactly if no dated entry lies before the start of year 1 in UTC and
those that lie at it were in front already. So they do if nothing is dated on the first day. -/
theorem undated_last_iff (entries : List Entry) :
    (UndatedLast (newestFirst entries) ↔
      (∀ a ∈ entries, a.timestamp = none → ∀ b ∈ entries, ∀ t, b.timestamp = some t →
        Timestamp.firstInstant ≤ t.instant) ∧
      UndatedLast (entries.filter fun e => e.instant = Timestamp.firstInstant)) ∧
    ((∀ e ∈ entries, ∀ t, e.timestamp = some t → t.date ≠ Timestamp.start.date) →
      UndatedLast (newestFirst entries)) :=
  ⟨undatedLast_newestFirst_iff entries, undatedLast_of_later_days⟩

def Entry.undatedThen (t : Timestamp) : List Entry :=
  [⟨[], [], [], .inward, [], 0, [], [], none⟩, ⟨[], [], [], .inward, [], 0, [], [], some t⟩]

def Timestamp.secondDay : Timestamp :=
  ⟨{ Timestamp.start.date with day := 2, day_exists := by decide }, .midnight,
    some ⟨false, 23, 59, by decide, by decide, by decide⟩⟩

theorem undated_last_second_day :
    (∀ e ∈ Entry.undatedThen .secondDay, ∀ t, e.timestamp = some t →
      t.date ≠ Timestamp.start.date) ∧
    UndatedLast (newestFirst (Entry.undatedThen .secondDay)) := by
  have h : ∀ e ∈ Entry.undatedThen .secondDay, ∀ t, e.timestamp = some t →
      t.date ≠ Timestamp.start.date := by
    simp [Entry.undatedThen, Timestamp.secondDay, Timestamp.start]
  exact ⟨h, (undated_last_iff _).2 h⟩

def Timestamp.firstMidnightEast : Timestamp :=
  ⟨Timestamp.start.date, .midnight,
    some { Offset.utc with hours := 5, hours_lt := by decide, west_ne_zero := by decide }⟩

/-- An undated entry goes in front of one from before the start of year 1 in UTC, and stays in front
of one from that very instant. -/
theorem undated_first_at_start :
    ¬UndatedLast (newestFirst (Entry.undatedThen .firstMidnightEast)) ∧
    ¬UndatedLast (newestFirst (Entry.undatedThen .start)) := by
  rw [undatedLast_newestFirst_iff, undatedLast_newestFirst_iff]
  constructor
  · rintro ⟨hfloor, -⟩
    have hstart := hfloor _ List.mem_cons_self rfl _ (List.mem_cons_of_mem _ List.mem_cons_self) _ rfl
    exact absurd hstart (by decide)
  · rintro ⟨-, htie⟩
    exact absurd htie (by decide)

end Stockroom

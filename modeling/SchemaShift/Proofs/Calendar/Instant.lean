import Mathlib.Data.Int.Init
import Mathlib.Data.Nat.Init
import SchemaShift.Calendar.Moment

/-!
# Instants

The days of the calendar are counted without a gap, so the instant of a moment can be counted in
seconds. Dates are in the order of their numbers, and reading a moment in a zone moves its instant
by the offset of the zone, across the ends of days, months and years.
-/

namespace SchemaShift.Calendar

namespace Date

/-- The date is one of the calendar, in whatever year. -/
structure InCalendar (d : Date) : Prop where
  month_pos : 1 ≤ d.month
  month_le : d.month ≤ 12
  day_pos : 1 ≤ d.day
  day_le : d.day ≤ daysInMonth d.year d.month

theorem inCalendar_of_isValid {d : Date} (valid : d.isValid = true) : d.InCalendar := by
  simp only [isValid, Bool.and_eq_true, decide_eq_true_eq] at valid
  obtain ⟨⟨⟨⟨-, month_pos⟩, month_le⟩, day_pos⟩, day_le⟩ := valid
  exact ⟨month_pos, month_le, day_pos, day_le⟩

/-! ### Months and years -/

theorem daysInMonth_bounds (year : Int) (month : Nat) :
    28 ≤ daysInMonth year month ∧ daysInMonth year month ≤ 31 := by
  unfold daysInMonth
  split
  · split <;> omega
  · split <;> omega

theorem daysBeforeMonth_succ (year : Int) {month : Nat} (pos : 1 ≤ month) :
    daysBeforeMonth year (month + 1) = daysBeforeMonth year month + daysInMonth year month := by
  obtain ⟨n, rfl⟩ := Nat.exists_eq_add_of_le' pos
  rfl

theorem daysBeforeMonth_lt {month later : Nat} (pos : 1 ≤ month) (lt : month < later) (year : Int) :
    daysBeforeMonth year month + daysInMonth year month ≤ daysBeforeMonth year later := by
  induction later, lt using Nat.le_induction with
  | base => exact Nat.le_of_eq (daysBeforeMonth_succ year pos).symm
  | succ later le ih =>
    rw [daysBeforeMonth_succ year (Nat.le_trans pos (Nat.le_of_succ_le le))]
    omega

def yearLength (year : Int) : Nat :=
  if isLeap year then 366 else 365

theorem daysBeforeMonth_thirteen (year : Int) : daysBeforeMonth year 13 = yearLength year := by
  simp only [daysBeforeMonth, daysInMonth, yearLength]
  cases isLeap year <;> rfl

theorem isLeap_iff (year : Int) :
    isLeap year = true ↔ year % 4 = 0 ∧ (year % 100 ≠ 0 ∨ year % 400 = 0) := by
  simp [isLeap]

theorem daysBeforeYear_succ (year : Int) :
    daysBeforeYear (year + 1) = daysBeforeYear year + yearLength year := by
  unfold daysBeforeYear yearLength
  dsimp only
  by_cases leap : isLeap year = true
  · rw [if_pos leap]
    rw [isLeap_iff] at leap
    omega
  · rw [if_neg leap]
    rw [isLeap_iff] at leap
    omega

theorem daysBeforeYear_lt {year later : Int} (lt : year < later) :
    daysBeforeYear year + yearLength year ≤ daysBeforeYear later := by
  induction later, lt using Int.leInduction with
  | base => exact Int.le_of_eq (daysBeforeYear_succ year).symm
  | succ later le ih =>
    rw [daysBeforeYear_succ]
    omega

/-- The days of the year before a date. -/
def dayOfYear (d : Date) : Nat :=
  daysBeforeMonth d.year d.month + (d.day - 1)

theorem InCalendar.dayOfYear_lt {d : Date} (calendar : d.InCalendar) :
    d.dayOfYear < yearLength d.year := by
  obtain ⟨month_pos, month_le, day_pos, day_le⟩ := calendar
  have whole := daysBeforeMonth_lt month_pos (Nat.lt_succ_of_le month_le) d.year
  rw [daysBeforeMonth_thirteen] at whole
  rw [dayOfYear]
  omega

theorem InCalendar.number_eq {d : Date} (calendar : d.InCalendar) :
    d.number = daysBeforeYear d.year + d.dayOfYear := by
  have pos := calendar.day_pos
  rw [number, dayOfYear]
  omega

/-! ### The order of dates -/

/-- An earlier year, month of the year or day of the month. -/
def Before (d e : Date) : Prop :=
  d.year < e.year ∨ d.year = e.year ∧ (d.month < e.month ∨ d.month = e.month ∧ d.day < e.day)

theorem before_trichotomy (d e : Date) : d.Before e ∨ d = e ∨ e.Before d := by
  obtain ⟨year, month, day⟩ := d
  obtain ⟨year', month', day'⟩ := e
  simp only [Before, mk.injEq]
  omega

theorem InCalendar.number_lt {d e : Date} (hd : d.InCalendar) (he : e.InCalendar)
    (before : d.Before e) : d.number < e.number := by
  rw [hd.number_eq, he.number_eq]
  rcases before with year | ⟨year, inYear⟩
  · have past := daysBeforeYear_lt year
    have inside := hd.dayOfYear_lt
    omega
  · have days : d.dayOfYear < e.dayOfYear := by
      have pos := hd.day_pos
      unfold dayOfYear
      rw [← year]
      rcases inYear with month | ⟨month, day⟩
      · have past := daysBeforeMonth_lt hd.month_pos month d.year
        have last := hd.day_le
        omega
      · rw [← month]
        omega
    rw [← year]
    omega

theorem InCalendar.number_lt_iff {d e : Date} (hd : d.InCalendar) (he : e.InCalendar) :
    d.number < e.number ↔ d.Before e := by
  refine ⟨fun lt => ?_, hd.number_lt he⟩
  rcases before_trichotomy d e with before | rfl | after
  · exact before
  · omega
  · have gt := he.number_lt hd after
    omega

theorem InCalendar.eq_of_number {d e : Date} (hd : d.InCalendar) (he : e.InCalendar)
    (same : d.number = e.number) : d = e := by
  rcases before_trichotomy d e with before | equal | after
  · have lt := hd.number_lt he before
    omega
  · exact equal
  · have gt := he.number_lt hd after
    omega

/-! ### Adjacent days -/

theorem InCalendar.next {d : Date} (calendar : d.InCalendar) :
    d.next.InCalendar ∧ d.next.number = d.number + 1 := by
  obtain ⟨month_pos, month_le, day_pos, day_le⟩ := calendar
  unfold Date.next
  split
  · exact ⟨⟨month_pos, month_le, Nat.succ_pos _, by dsimp only; omega⟩,
      by simp only [number]; omega⟩
  · have last : d.day = daysInMonth d.year d.month := by omega
    split
    · have bounds := daysInMonth_bounds d.year (d.month + 1)
      have past := daysBeforeMonth_succ d.year month_pos
      refine ⟨⟨Nat.succ_pos _, by dsimp only; omega, Nat.le_refl 1, by dsimp only; omega⟩, ?_⟩
      simp only [number]
      omega
    · have december : d.month = 12 := by omega
      have bounds := daysInMonth_bounds (d.year + 1) 1
      have past := daysBeforeMonth_succ d.year (by decide : 1 ≤ 12)
      rw [daysBeforeMonth_thirteen] at past
      refine ⟨⟨Nat.le_refl 1, Nat.succ_pos _, Nat.le_refl 1, by dsimp only; omega⟩, ?_⟩
      simp only [number, daysBeforeYear_succ, daysBeforeMonth]
      rw [december] at last ⊢
      omega

theorem InCalendar.previous {d : Date} (calendar : d.InCalendar) :
    d.previous.InCalendar ∧ d.previous.number = d.number - 1 := by
  obtain ⟨month_pos, month_le, day_pos, day_le⟩ := calendar
  unfold Date.previous
  split
  · exact ⟨⟨month_pos, month_le, by dsimp only; omega, by dsimp only; omega⟩,
      by simp only [number]; omega⟩
  · have first : d.day = 1 := by omega
    split
    · have bounds := daysInMonth_bounds d.year (d.month - 1)
      have past := daysBeforeMonth_succ d.year (by omega : 1 ≤ d.month - 1)
      rw [Nat.sub_add_cancel month_pos] at past
      refine ⟨⟨by dsimp only; omega, by dsimp only; omega, by dsimp only; omega, Nat.le_refl _⟩, ?_⟩
      simp only [number]
      omega
    · have january : d.month = 1 := by omega
      have december : daysInMonth (d.year - 1) 12 = 31 := rfl
      have past := daysBeforeMonth_succ (d.year - 1) (by decide : 1 ≤ 12)
      have year := daysBeforeYear_succ (d.year - 1)
      rw [daysBeforeMonth_thirteen] at past
      rw [Int.sub_add_cancel] at year
      refine ⟨⟨Nat.succ_pos _, Nat.le_refl 12, Nat.succ_pos _, Nat.le_of_eq december.symm⟩, ?_⟩
      simp only [number]
      rw [january, first]
      simp only [daysBeforeMonth] at past ⊢
      omega

theorem year_next (d : Date) : d.next.year ≤ d.year + 1 := by
  unfold next
  split
  · dsimp only
    omega
  · split <;> dsimp only <;> omega

theorem year_previous (d : Date) : d.previous.year ≤ d.year := by
  unfold previous
  split
  · dsimp only
    omega
  · split <;> dsimp only <;> omega

end Date

namespace Moment

/-- The seconds from the beginning of the year 0, leap seconds apart. -/
def instant (m : Moment) : Int :=
  m.date.number * secondsPerDay + m.second

/-- A second of a day of the calendar. -/
structure OnClock (m : Moment) : Prop where
  date : m.date.InCalendar
  second : m.second < secondsPerDay

/-! ### The order of moments -/

/-- An earlier instant, or less of the same second. A leap second comes after the second it
stretches. -/
def Before (m n : Moment) : Prop :=
  m.instant < n.instant ∨ m.instant = n.instant ∧ m.nano < n.nano

theorem OnClock.eq_of_instant {m n : Moment} (hm : m.OnClock) (hn : n.OnClock)
    (instant : m.instant = n.instant) (nano : m.nano = n.nano) : m = n := by
  have room := hm.second
  have room' := hn.second
  simp only [Moment.instant, secondsPerDay] at *
  have date : m.date = n.date := hm.date.eq_of_number hn.date (by omega)
  have second : m.second = n.second := by
    rw [date] at instant
    omega
  obtain ⟨_, _, _⟩ := m
  obtain ⟨_, _, _⟩ := n
  rw [mk.injEq]
  exact ⟨date, second, nano⟩

theorem OnClock.before_trichotomy {m n : Moment} (hm : m.OnClock) (hn : n.OnClock) :
    m.Before n ∨ m = n ∨ n.Before m := by
  unfold Before
  rcases Int.lt_trichotomy m.instant n.instant with lt | instant | gt
  · exact .inl (.inl lt)
  · rcases Nat.lt_trichotomy m.nano n.nano with lt | nano | gt
    · exact .inl (.inr ⟨instant, lt⟩)
    · exact .inr (.inl (hm.eq_of_instant hn instant nano))
    · exact .inr (.inr (.inr ⟨instant.symm, gt⟩))
  · exact .inr (.inr (.inl gt))

theorem OnClock.cases_of_before {m n : Moment} (hm : m.OnClock) (hn : n.OnClock)
    (before : m.Before n) :
    m.date.Before n.date ∨ m.date = n.date ∧
      (m.second < n.second ∨ m.second = n.second ∧ m.nano < n.nano) := by
  have room := hm.second
  have room' := hn.second
  unfold Before at before
  simp only [instant, secondsPerDay] at *
  rcases Int.lt_trichotomy m.date.number n.date.number with earlier | same | later
  · exact .inl ((hm.date.number_lt_iff hn.date).1 earlier)
  · exact .inr ⟨hm.date.eq_of_number hn.date same, by omega⟩
  · omega

/-! ### Zones -/

theorem OnClock.atOffset {m : Moment} (clock : m.OnClock) {offset : Int}
    (near : -secondsPerDay < offset ∧ offset < secondsPerDay) :
    (m.atOffset offset).OnClock ∧ (m.atOffset offset).instant = m.instant - offset := by
  obtain ⟨date, second⟩ := clock
  unfold Moment.atOffset
  dsimp only
  split
  · obtain ⟨calendar, number⟩ := date.previous
    refine ⟨⟨calendar, by dsimp only; omega⟩, ?_⟩
    simp only [instant, number]
    simp only [secondsPerDay] at *
    omega
  · split
    · exact ⟨⟨date, by dsimp only; omega⟩, by simp only [instant]; omega⟩
    · obtain ⟨calendar, number⟩ := date.next
      refine ⟨⟨calendar, by dsimp only; omega⟩, ?_⟩
      simp only [instant, number]
      simp only [secondsPerDay] at *
      omega

theorem nano_atOffset (m : Moment) (offset : Int) : (m.atOffset offset).nano = m.nano := by
  unfold atOffset
  dsimp only
  split
  · rfl
  · split <;> rfl

theorem year_atOffset (m : Moment) (offset : Int) :
    (m.atOffset offset).date.year ≤ m.date.year + 1 := by
  have next := m.date.year_next
  have previous := m.date.year_previous
  unfold atOffset
  dsimp only
  split
  · exact Int.le_trans previous (by omega)
  · split
    · dsimp only
      omega
    · exact next

/-- Two clocks of one zone are in the order of universal time. -/
theorem before_atOffset {m n : Moment} (hm : m.OnClock) (hn : n.OnClock) {offset : Int}
    (near : -secondsPerDay < offset ∧ offset < secondsPerDay) :
    (m.atOffset offset).Before (n.atOffset offset) ↔ m.Before n := by
  unfold Before
  rw [(hm.atOffset near).2, (hn.atOffset near).2, nano_atOffset, nano_atOffset]
  omega

end Moment

end SchemaShift.Calendar

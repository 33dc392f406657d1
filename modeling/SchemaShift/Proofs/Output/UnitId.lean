import SchemaShift.Output.UnitSource
import SchemaShift.Proofs.Calendar.Instant
import SchemaShift.Proofs.Migration.Registry
import SchemaShift.Proofs.Text.Integer

/-!
# Ids of units

A unit gets its id from the clock at the place where it is made: the date and the time of day, read
as one number. The ids of one place are in the order of the moments. That the year is written with
zeros in front, or with a sign once it has five digits, does not show in the number.
-/

namespace SchemaShift

namespace Calendar

open Text

namespace Civil

/-- The fields after the year fit two digits. -/
structure Brief (t : Civil) : Prop where
  month : t.month < 100
  day : t.day < 100
  hour : t.hour < 100
  minute : t.minute < 100
  second : t.second < 100

/-- The fields side by side, as one number. -/
def key (t : Civil) : Nat :=
  100 * (100 * (100 * (100 * (100 * t.year.toNat + t.month) + t.day) + t.hour) + t.minute) +
    t.second

def digits (t : Civil) : String :=
  padded 4 t.year.toNat ++ padded 2 t.month ++ padded 2 t.day ++ padded 2 t.hour ++
    padded 2 t.minute ++ padded 2 t.second

theorem stamp_cases {t : Civil} (year : 0 ≤ t.year) :
    t.stamp.toList = t.digits.toList ∨ t.stamp.toList = '+' :: t.digits.toList := by
  unfold stamp yearText digits
  split
  · exact .inl rfl
  · have sign : ¬t.year < 0 := by omega
    have magnitude : t.year.natAbs = t.year.toNat := by omega
    rw [if_neg sign, magnitude]
    simp only [String.append_assoc, String.toList_append]
    exact .inr rfl

theorem Brief.digits?_digits {t : Civil} (brief : t.Brief) :
    digits? t.digits.toList = some t.key := by
  obtain ⟨month, day, hour, minute, second⟩ := brief
  have shown : t.digits.toList ≠ [] := by
    intro empty
    have last := length_padded Nat.zero_lt_two second
    simp only [digits, String.toList_append, List.append_eq_nil_iff] at empty
    rw [empty.2] at last
    cases last
  have field (width n : Nat) : ∀ c ∈ (padded width n).toList, c.isDigit = true :=
    fun _ => isDigit_of_mem_padded
  have all : ∀ c ∈ t.digits.toList, c.isDigit = true := by
    simp only [digits, String.toList_append, List.forall_mem_append]
    exact ⟨⟨⟨⟨⟨field 4 _, field 2 _⟩, field 2 _⟩, field 2 _⟩, field 2 _⟩, field 2 _⟩
  rw [digits?_eq_some shown all]
  simp only [digits, String.toList_append, Nat.ofDigitChars_append]
  rw [ofDigitChars_padded (by decide) second, ofDigitChars_padded (by decide) minute,
    ofDigitChars_padded (by decide) hour, ofDigitChars_padded (by decide) day,
    ofDigitChars_padded (by decide) month, ofDigitChars_padded_zero]
  rfl

end Civil

namespace Moment

/-- No part of a second has passed. A leap second is the one after the last second of a minute. -/
def OnSecond (m : Moment) : Prop :=
  m.nano = 0 ∨ m.nano = nanosPerSecond ∧ m.second % 60 = 59

def dateKey (m : Moment) : Nat :=
  100 * (100 * m.date.year.toNat + m.date.month) + m.date.day

def clockKey (m : Moment) : Nat :=
  100 * (100 * (m.second / 3600) + m.second / 60 % 60) + (m.second % 60 + m.nano / nanosPerSecond)

theorem key_civil (m : Moment) : m.civil.key = 1000000 * m.dateKey + m.clockKey := by
  simp only [Civil.key, civil, dateKey, clockKey]
  omega

theorem OnClock.brief {m : Moment} (clock : m.OnClock) (whole : m.OnSecond) : m.civil.Brief := by
  obtain ⟨⟨month_pos, month_le, day_pos, day_le⟩, second⟩ := clock
  have bounds := Date.daysInMonth_bounds m.date.year m.date.month
  unfold OnSecond at whole
  simp only [secondsPerDay, nanosPerSecond] at *
  constructor <;> simp only [civil, nanosPerSecond] <;> omega

theorem dateKey_lt {m n : Moment} (hm : m.date.InCalendar) (hn : n.date.InCalendar)
    (year : 0 ≤ m.date.year) (before : m.date.Before n.date) : m.dateKey < n.dateKey := by
  have bounds := Date.daysInMonth_bounds m.date.year m.date.month
  obtain ⟨month_pos, month_le, day_pos, day_le⟩ := hm
  have day_pos' := hn.day_pos
  unfold Date.Before at before
  unfold dateKey
  omega

theorem clockKey_lt {m n : Moment} (whole : m.OnSecond)
    (before : m.second < n.second ∨ m.second = n.second ∧ m.nano < n.nano) (whole' : n.OnSecond) :
    m.clockKey < n.clockKey := by
  have hours (s : Nat) : s / 3600 = s / 60 / 60 := (Nat.div_div_eq_div_mul s 60 60).symm
  unfold OnSecond at whole whole'
  unfold clockKey
  rw [hours, hours]
  simp only [nanosPerSecond] at *
  -- The seconds of one minute are in their own order; a leap second does not reach the next minute.
  rcases Nat.lt_or_ge (m.second / 60) (n.second / 60) with minute | sameMinute
  · omega
  · have minute : m.second / 60 = n.second / 60 := by omega
    rw [minute]
    omega

theorem clockKey_small {m : Moment} (clock : m.OnClock) (whole : m.OnSecond) :
    m.clockKey < 1000000 := by
  have second := clock.second
  unfold OnSecond at whole
  unfold clockKey
  simp only [secondsPerDay, nanosPerSecond] at *
  omega

theorem key_civil_lt {m n : Moment} (hm : m.OnClock) (hn : n.OnClock) (whole : m.OnSecond)
    (whole' : n.OnSecond) (year : 0 ≤ m.date.year) (before : m.Before n) :
    m.civil.key < n.civil.key := by
  rw [key_civil, key_civil]
  rcases hm.cases_of_before hn before with date | ⟨date, clock⟩
  · have lt := dateKey_lt hm.date hn.date year date
    have small := clockKey_small hm whole
    omega
  · have lt := clockKey_lt whole clock whole'
    have same : m.dateKey = n.dateKey := by
      unfold dateKey
      rw [date]
    omega

theorem key_civil_small {m : Moment} (clock : m.OnClock) (whole : m.OnSecond)
    (year : m.date.year ≤ lastYear + 1) : m.civil.key < signedLimit := by
  have small := clockKey_small clock whole
  have bounds := Date.daysInMonth_bounds m.date.year m.date.month
  have month := clock.date.month_le
  have day := clock.date.day_le
  rw [key_civil, dateKey]
  simp only [lastYear, signedLimit] at *
  omega

/-- A clock `offset` seconds ahead of universal time shows the moment, without a rest, in a year
that is not negative. -/
structure Shown (m : Moment) (offset : Int) : Prop where
  valid : m.date.isValid = true
  second : m.second < secondsPerDay
  whole : (m.atOffset (-offset)).OnSecond
  year : 0 ≤ (m.atOffset (-offset)).date.year

/-- The time on a clock `offset` seconds ahead of universal time. -/
def shown (m : Moment) (offset : Int) : Civil :=
  (m.atOffset (-offset)).civil

namespace Shown

variable {m n : Moment} {offset : Int} (hm : m.Shown offset) (hn : n.Shown offset)
  (near : -secondsPerDay < offset ∧ offset < secondsPerDay)

include hm

theorem onClock : m.OnClock :=
  ⟨Date.inCalendar_of_isValid hm.valid, hm.second⟩

include near

theorem onClock_atOffset : (m.atOffset (-offset)).OnClock :=
  (hm.onClock.atOffset (by omega)).1

theorem brief : (m.shown offset).Brief :=
  (hm.onClock_atOffset near).brief hm.whole

theorem key_small : (m.shown offset).key < signedLimit := by
  have valid := hm.valid
  have reached := year_atOffset m (-offset)
  simp only [Date.isValid, Bool.and_eq_true, decide_eq_true_eq] at valid
  exact key_civil_small (hm.onClock_atOffset near) hm.whole (by omega)

include hn

theorem key_lt (before : m.Before n) : (m.shown offset).key < (n.shown offset).key :=
  key_civil_lt (hm.onClock_atOffset near) (hn.onClock_atOffset near) hm.whole hn.whole hm.year
    ((before_atOffset hm.onClock hn.onClock (by omega)).2 before)

end Shown

end Moment

end Calendar

namespace Output

open Text Calendar Moment

theorem toNat_idFromTime {t : Civil} (year : 0 ≤ t.year) (brief : t.Brief)
    (small : t.key < signedLimit) : (idFromTime t).toNat = t.key := by
  have word : t.key < wordLimit := Nat.lt_trans small (by decide)
  have read := uint64?_of_digits brief.digits?_digits word
  have value : (UInt64.ofNat t.key).toNat = t.key := UInt64.toNat_ofNat_of_lt' word
  rw [idFromTime]
  rcases Civil.stamp_cases year with plain | plus
  · rw [plain, read.1, Option.getD_some, value]
  · rw [plus, read.2, Option.getD_some, value]

section

variable {m n : Moment} {offset : Int} (near : -secondsPerDay < offset ∧ offset < secondsPerDay)
  (hm : m.Shown offset) (hn : n.Shown offset)

include near hm

theorem toNat_idFromTime_shown :
    (idFromTime (m.shown offset)).toNat = (m.shown offset).key :=
  toNat_idFromTime hm.year (hm.brief near) (hm.key_small near)

include hn

theorem idFromTime_lt (before : m.Before n) :
    idFromTime (m.shown offset) < idFromTime (n.shown offset) := by
  rw [UInt64.lt_iff_toNat_lt, toNat_idFromTime_shown near hm, toNat_idFromTime_shown near hn]
  exact hm.key_lt hn near before

/-- In one place, the ids of units are in the order of the moments they are made at, and two units
have one id just when they are made in the same second. The registry has room for every such id. -/
theorem idFromTime_chronological :
    (idFromTime (m.shown offset) < idFromTime (n.shown offset) ↔ m.Before n) ∧
      (idFromTime (m.shown offset) = idFromTime (n.shown offset) ↔ m = n) ∧
      (idFromTime (m.shown offset)).toNat < signedLimit ∧
      ∀ (r : Registry) (u : MigrationUnit), u.id = idFromTime (m.shown offset) → u.id ∉ r.ids →
        ∃ t, r.register u = .ok t := by
  have fits : (idFromTime (m.shown offset)).toNat < signedLimit := by
    rw [toNat_idFromTime_shown near hm]
    exact hm.key_small near
  have trichotomy := hm.onClock.before_trichotomy hn.onClock
  refine ⟨?order, ?same, fits, ?accepted⟩
  case order =>
    refine ⟨fun lt => ?_, idFromTime_lt near hm hn⟩
    rcases trichotomy with before | rfl | after
    · exact before
    · exact absurd lt (UInt64.lt_irrefl _)
    · exact absurd lt (UInt64.lt_asymm (idFromTime_lt near hn hm after))
  case same =>
    refine ⟨fun same => ?_, fun same => by rw [same]⟩
    rcases trichotomy with before | equal | after
    · exact absurd same (UInt64.ne_of_lt (idFromTime_lt near hm hn before))
    · exact equal
    · exact absurd same.symm (UInt64.ne_of_lt (idFromTime_lt near hn hm after))
  case accepted =>
    intro r u id free
    rcases Registry.register_cases r u with ⟨above, -⟩ | ⟨-, held, -⟩ | ⟨-, -, answer⟩
    · rw [id] at above
      omega
    · exact absurd held free
    · exact ⟨_, answer⟩

end

/-- The leap second with which the year 9999 ends two hours east of universal time. -/
def lastSecond : Moment :=
  { date := { year := 9999, month := 12, day := 31 }, second := 79199, nano := nanosPerSecond }

def nextSecond : Moment :=
  { date := { year := 9999, month := 12, day := 31 }, second := 79200, nano := 0 }

theorem newYear_chronological :
    lastSecond.Shown 7200 ∧ nextSecond.Shown 7200 ∧
      lastSecond.shown 7200 =
        { year := 9999, month := 12, day := 31, hour := 23, minute := 59, second := 60 } ∧
      nextSecond.shown 7200 =
        { year := 10000, month := 1, day := 1, hour := 0, minute := 0, second := 0 } ∧
      idFromTime (lastSecond.shown 7200) < idFromTime (nextSecond.shown 7200) := by
  have last : lastSecond.Shown 7200 := ⟨by decide, by decide, .inr (by decide), by decide⟩
  have next : nextSecond.Shown 7200 := ⟨by decide, by decide, .inl (by decide), by decide⟩
  have before : lastSecond.Before nextSecond := .inl (by decide)
  exact ⟨last, next, by decide, by decide,
    (idFromTime_chronological (by decide) last next).1.2 before⟩

end Output

end SchemaShift

import SchemaShift.Migration.History
import SchemaShift.Proofs.Calendar.Instant
import SchemaShift.Proofs.Schema.DeclaredTypes
import SchemaShift.Proofs.Text.Integer

/-!
# Spellings of a time

A time of day on a day of the calendar is written with a blank or a `T` after the date, with or
without a fraction of the second, and after a `T` with or without its zone. The readers that are
tried in turn refuse each other's spellings, so that each of them is read to the instant that it
means, and the fraction is kept to its last digit.
-/

namespace SchemaShift

open Text

theorem Text.strip_framed {front core back before after : List Char} {c d : Char}
    (first : front.all isBlank = true) (last : back.all isBlank = true)
    (opening : core = c :: after) (solid : isBlank c = false)
    (closing : core = before ++ [d]) (solid' : isBlank d = false) :
    strip (front ++ (core ++ back)) = core := by
  have start : stripStart (core ++ back) = core ++ back := by
    rw [opening]
    exact stripStart_cons_of_not_blank _ solid
  rw [strip, stripStart_append _ _ first, start, stripEnd_append _ _ last, closing,
    stripEnd_concat_of_not_blank _ solid']

namespace Calendar

/-! ### Civil times -/

namespace Civil

def date (t : Civil) : Date :=
  { year := t.year, month := t.month, day := t.day }

def secondOfDay (t : Civil) : Nat :=
  t.hour * 3600 + t.minute * 60 + t.second

/-- The seconds from the beginning of the year 0 on a clock that shows universal time. -/
def instant (t : Civil) : Int :=
  t.date.number * Moment.secondsPerDay + t.secondOfDay

/-- The fields are those of a calendar and a clock, with four digits for the year and without a
leap second. -/
structure Ordinary (t : Civil) : Prop where
  year_nonneg : 0 ≤ t.year
  year_le : t.year ≤ 9999
  date : t.date.InCalendar
  hour : t.hour < 24
  minute : t.minute < 60
  second : t.second < 60

/-- The date and the time of day with `between` in between. -/
def written (t : Civil) (between : Char) : String :=
  yearText t.year ++ "-" ++ padded 2 t.month ++ "-" ++ padded 2 t.day ++
    String.singleton between ++ padded 2 t.hour ++ ":" ++ padded 2 t.minute ++ ":" ++
    padded 2 t.second

def moment (t : Civil) (nano : Nat) : Moment :=
  { date := t.date, second := t.secondOfDay, nano }

variable {t : Civil}

theorem Ordinary.onClock (ordinary : t.Ordinary) (nano : Nat) : (t.moment nano).OnClock where
  date := ordinary.date
  second := by
    obtain ⟨-, -, -, hour, minute, second⟩ := ordinary
    show t.hour * 3600 + t.minute * 60 + t.second < 86400
    omega

theorem Ordinary.moment_eq (ordinary : t.Ordinary) (nano : Nat) :
    Calendar.moment t.date t.hour t.minute t.second nano = some (t.moment nano) := by
  obtain ⟨year_nonneg, year_le, ⟨month_pos, month_le, day_pos, day_le⟩, hour, minute, second⟩ :=
    ordinary
  have valid : t.date.isValid = true := by
    have first : firstYear ≤ t.date.year := Int.le_trans (by decide) year_nonneg
    have last : t.date.year ≤ lastYear := Int.le_trans year_le (by decide)
    simp [Date.isValid, first, last, month_pos, month_le, day_pos, day_le]
  have unleaped : ¬t.second = 60 := by omega
  have counted : t.second ≤ 60 := by omega
  simp [Calendar.moment, Civil.moment, secondOfDay, valid, hour, minute, counted, unleaped]

end Civil

/-! ### Fractions -/

def fractionText (digits : List Char) : String :=
  if digits = [] then "" else "." ++ String.ofList digits

/-- The nanoseconds that the digits after the point stand for. -/
def fractionNanos (digits : List Char) : Nat :=
  Nat.ofDigitChars 10 digits 0 * Nat.pow 10 (9 - digits.length)

theorem toList_fractionText {digits : List Char} (some_digit : digits ≠ []) :
    (fractionText digits).toList = '.' :: digits := by
  rw [fractionText, if_neg some_digit, String.toList_append]
  exact congrArg (['.'] ++ ·) String.toList_ofList

/-- What comes after a fraction, so that the fraction does not go on with it. -/
def EndsFraction (rest : List Char) : Prop :=
  ∀ c ∈ rest.head?, c.isDigit = false ∧ c ≠ '.'

variable {digits rest : List Char}

theorem fractionNanos_exact (short : digits.length ≤ 9) :
    fractionNanos digits * 10 ^ digits.length =
      Nat.ofDigitChars 10 digits 0 * Moment.nanosPerSecond := by
  have whole : 10 ^ (9 - digits.length) * 10 ^ digits.length = Moment.nanosPerSecond := by
    rw [← Nat.pow_add, Nat.sub_add_cancel short]
    rfl
  rw [fractionNanos, Nat.mul_assoc]
  exact congrArg _ whole

theorem EndsFraction.take (ends : EndsFraction rest) (n : Nat) : EndsFraction (rest.take n) := by
  intro c first
  rw [List.head?_take] at first
  split at first
  · cases first
  · exact ends c first

theorem EndsFraction.takeWhile (ends : EndsFraction rest) : rest.takeWhile Char.isDigit = [] := by
  cases rest with
  | nil => rfl
  | cons c rest => simp [(ends c rfl).1]

theorem EndsFraction.dropWhile (ends : EndsFraction rest) :
    rest.dropWhile Char.isDigit = rest := by
  cases rest with
  | nil => rfl
  | cons c rest => simp [(ends c rfl).1]

theorem fraction_text (decimal : ∀ c ∈ digits, c.isDigit = true) (short : digits.length ≤ 9)
    (ends : EndsFraction rest) :
    fraction ((fractionText digits).toList ++ rest) = some (fractionNanos digits, rest) := by
  by_cases none : digits = []
  · subst none
    cases rest with
    | nil => rfl
    | cons c rest =>
      obtain ⟨-, other⟩ := ends c rfl
      show fraction (c :: rest) = _
      rw [fraction]
      · rfl
      · rintro cs same
        exact other (List.cons.inj same).1
  · have first : ((digits ++ rest).take 9).takeWhile Char.isDigit = digits := by
      rw [List.take_append, List.take_of_length_le short, List.takeWhile_append_of_pos decimal,
        (ends.take _).takeWhile, List.append_nil]
    rw [toList_fractionText none, List.cons_append]
    simp [fraction, first, none, ends.dropWhile, fractionNanos]

/-! ### Numbers in their columns -/

theorem digits_padded {least width n : Nat} (least_pos : 0 < width) (le : least ≤ width)
    (fits : n < 10 ^ width) (rest : List Char) :
    Calendar.digits least width ((padded width n).toList ++ rest) = some (n, rest) := by
  have length := length_padded least_pos fits
  have first : ((padded width n).toList ++ rest).take width = (padded width n).toList :=
    List.take_left' length
  have all : (padded width n).toList.takeWhile Char.isDigit = (padded width n).toList :=
    List.takeWhile_eq_self_iff.2 fun _ => isDigit_of_mem_padded
  rw [Calendar.digits]
  simp only [first, all]
  rw [length, if_pos le, List.drop_left' length, ofDigitChars_padded_zero]

theorem stripStart_padded {width n : Nat} (least_pos : 0 < width) (fits : n < 10 ^ width)
    (rest : List Char) :
    stripStart ((padded width n).toList ++ rest) = (padded width n).toList ++ rest := by
  have length := length_padded least_pos fits
  cases shown : (padded width n).toList with
  | nil =>
    rw [shown] at length
    exact absurd length (Nat.ne_of_lt least_pos)
  | cons c cs =>
    have digit : c.isDigit = true := isDigit_of_mem_padded (shown ▸ List.mem_cons_self)
    exact stripStart_cons_of_not_blank _ (isBlank_of_isDigit digit)

theorem padded_ne_nil {width n : Nat} (pos : 0 < width) (fits : n < 10 ^ width) :
    (padded width n).toList ≠ [] := by
  intro empty
  have length := length_padded pos fits
  rw [empty] at length
  exact absurd length (Nat.ne_of_lt pos)

theorem closes_of_digits {cs : List Char} (some_digit : cs ≠ [])
    (decimal : ∀ c ∈ cs, c.isDigit = true) (front : List Char) :
    ∃ before d, front ++ cs = before ++ [d] ∧ isBlank d = false := by
  refine ⟨front ++ cs.dropLast, cs.getLast some_digit, ?_, ?_⟩
  · rw [List.append_assoc, List.dropLast_append_getLast]
  · exact isBlank_of_isDigit (decimal _ (List.getLast_mem some_digit))

theorem short_padded {n : Nat} (fits : n < 100) (rest : List Char) :
    short ((padded 2 n).toList ++ rest) = some (n, rest) := by
  rw [short, stripStart_padded Nat.zero_lt_two fits]
  exact digits_padded Nat.zero_lt_two (by decide) fits rest

theorem year_padded {n : Nat} (fits : n < 10 ^ 4) (rest : List Char) :
    year ((padded 4 n).toList ++ rest) = some ((n : Int), rest) := by
  have unsigned : ∀ sign, sign.isDigit = false →
      ∀ cs, (padded 4 n).toList ++ rest ≠ sign :: cs := by
    intro sign other cs same
    have length := length_padded (by decide) fits
    obtain ⟨c, shown, digits⟩ := List.exists_cons_of_length_eq_add_one length
    rw [digits, List.cons_append] at same
    have digit : c.isDigit = true := isDigit_of_mem_padded (digits ▸ List.mem_cons_self)
    rw [(List.cons.inj same).1, other] at digit
    cases digit
  rw [year.eq_def, stripStart_padded (by decide) fits]
  split
  · rename_i cs same
    exact absurd same (unsigned '-' rfl cs)
  · rename_i cs same
    exact absurd same (unsigned '+' rfl cs)
  · rw [digits_padded (by decide) (by decide) fits]
    rfl

theorem mark_cons {marks : List Char} {c : Char} (marked : marks.contains c = true)
    (cs : List Char) : mark marks (c :: cs) = some cs :=
  if_pos marked

theorem mark_self (c : Char) (cs : List Char) : mark [c] (c :: cs) = some cs :=
  mark_cons (by simp) cs

/-! ### The readers -/

namespace Civil

variable {t : Civil}

/-- The text of a time, column by column. -/
theorem Ordinary.toList_written (ordinary : t.Ordinary) (between : Char) (rest : List Char) :
    (t.written between).toList ++ rest =
      (padded 4 t.year.toNat).toList ++ '-' :: ((padded 2 t.month).toList ++ '-' ::
        ((padded 2 t.day).toList ++ between :: ((padded 2 t.hour).toList ++ ':' ::
          ((padded 2 t.minute).toList ++ ':' :: ((padded 2 t.second).toList ++ rest))))) := by
  have dash : "-".toList = ['-'] := rfl
  have colon : ":".toList = [':'] := rfl
  have year : yearText t.year = padded 4 t.year.toNat :=
    if_pos ⟨ordinary.year_nonneg, ordinary.year_le⟩
  simp only [written, year, String.toList_append, dash, colon, String.toList_singleton,
    List.append_assoc, List.cons_append, List.nil_append]

/-- Every field fits its columns. -/
theorem Ordinary.fits (ordinary : t.Ordinary) : t.year.toNat < 10 ^ 4 ∧ t.month < 100 ∧
    t.day < 100 ∧ t.hour < 100 ∧ t.minute < 100 ∧ t.second < 100 := by
  obtain ⟨year_nonneg, year_le, date, hour, minute, second⟩ := ordinary
  have month := date.month_le
  have day := date.day_le
  have most := (Date.daysInMonth_bounds t.date.year t.date.month).2
  simp only [Civil.date] at month day most
  omega

theorem Ordinary.opens (ordinary : t.Ordinary) (between : Char) (rest : List Char) :
    ∃ c after, (t.written between).toList ++ rest = c :: after ∧ isBlank c = false := by
  obtain ⟨year, -⟩ := ordinary.fits
  have length := length_padded (by decide) year
  obtain ⟨c, shown, digits⟩ := List.exists_cons_of_length_eq_add_one length
  have digit : c.isDigit = true := isDigit_of_mem_padded (digits ▸ List.mem_cons_self)
  rw [ordinary.toList_written, digits]
  exact ⟨c, _, rfl, isBlank_of_isDigit digit⟩

theorem Ordinary.closes (ordinary : t.Ordinary) (between : Char)
    (decimal : ∀ c ∈ digits, c.isDigit = true) :
    ∃ before d, (t.written between).toList ++ (fractionText digits).toList = before ++ [d] ∧
      isBlank d = false := by
  by_cases none : digits = []
  · obtain ⟨-, -, -, -, -, second⟩ := ordinary.fits
    subst none
    show ∃ before d, (t.written between).toList ++ [] = before ++ [d] ∧ isBlank d = false
    rw [List.append_nil, written, String.toList_append]
    exact closes_of_digits (padded_ne_nil Nat.zero_lt_two second)
      (fun _ => isDigit_of_mem_padded) _
  · rw [toList_fractionText none, ← List.singleton_append, ← List.append_assoc]
    exact closes_of_digits none decimal _

theorem bind_read {α β : Type} {r : Option α} {a : α} (read : r = some a) (f : α → Option β) :
    (r >>= f) = f a := by
  rw [read]
  rfl

/-- With the blank or the `T` in its place the zone decides. -/
theorem Ordinary.zoned?_written (ordinary : t.Ordinary) {between : Char}
    (divides : ['T', 't', ' '].contains between = true)
    (decimal : ∀ c ∈ digits, c.isDigit = true) (short : digits.length ≤ 9)
    (ends : EndsFraction rest) :
    zoned? ((t.written between).toList ++ ((fractionText digits).toList ++ rest)) =
      (zone rest).bind fun found =>
        if found.2.isEmpty then some ((t.moment (fractionNanos digits)).atOffset found.1)
        else none := by
  obtain ⟨year, month, day, hour, minute, second⟩ := ordinary.fits
  have whole {n : Nat} (small : n < 100) (rest : List Char) :
      Calendar.digits 2 2 ((padded 2 n).toList ++ rest) = some (n, rest) :=
    digits_padded Nat.zero_lt_two (Nat.le_refl 2) small rest
  have four := digits_padded (by decide) (Nat.le_refl 4) year
  have checked := ordinary.moment_eq (fractionNanos digits)
  have nonneg : (t.year.toNat : Int) = t.year := Int.toNat_of_nonneg ordinary.year_nonneg
  rw [ordinary.toList_written]
  unfold zoned?
  refine (bind_read (four _) _).trans ((bind_read (mark_self '-' _) _).trans ?_)
  refine (bind_read (whole month _) _).trans ((bind_read (mark_self '-' _) _).trans ?_)
  refine (bind_read (whole day _) _).trans ((bind_read (mark_cons divides _) _).trans ?_)
  refine (bind_read (whole hour _) _).trans ((bind_read (mark_self ':' _) _).trans ?_)
  refine (bind_read (whole minute _) _).trans ((bind_read (mark_self ':' _) _).trans ?_)
  refine (bind_read (whole second _) _).trans ?_
  refine (bind_read (fraction_text decimal short ends) _).trans ?_
  refine congrArg (zone rest).bind (funext fun found => ?_)
  have named : ({ year := t.year, month := t.month, day := t.day } : Date) = t.date := rfl
  dsimp only
  rw [nonneg, named, checked]
  cases found.2.isEmpty <;> rfl

/-- Without a zone, `apart` only has to get from the date to the time of day. -/
theorem Ordinary.unzoned?_written (ordinary : t.Ordinary) {between : Char}
    {apart : List Char → Option (List Char)}
    (passes : ∀ cs, apart (between :: ((padded 2 t.hour).toList ++ cs)) =
      some ((padded 2 t.hour).toList ++ cs))
    (decimal : ∀ c ∈ digits, c.isDigit = true) (short : digits.length ≤ 9) :
    unzoned? apart ((t.written between).toList ++ (fractionText digits).toList) =
      some (t.moment (fractionNanos digits)) := by
  obtain ⟨year, month, day, hour, minute, second⟩ := ordinary.fits
  have nonneg : (t.year.toNat : Int) = t.year := Int.toNat_of_nonneg ordinary.year_nonneg
  have ends : EndsFraction [] := fun c none => by cases none
  have read := fraction_text decimal short ends
  rw [List.append_nil] at read
  rw [ordinary.toList_written]
  unfold unzoned?
  refine (bind_read (year_padded year _) _).trans ((bind_read (mark_self '-' _) _).trans ?_)
  refine (bind_read (short_padded month _) _).trans ((bind_read (mark_self '-' _) _).trans ?_)
  refine (bind_read (short_padded day _) _).trans ((bind_read (passes _) _).trans ?_)
  refine (bind_read (short_padded hour _) _).trans ((bind_read (mark_self ':' _) _).trans ?_)
  refine (bind_read (short_padded minute _) _).trans ((bind_read (mark_self ':' _) _).trans ?_)
  refine (bind_read (short_padded second _) _).trans ((bind_read read _).trans ?_)
  dsimp only
  rw [nonneg]
  exact ordinary.moment_eq (fractionNanos digits)

theorem Ordinary.unzoned?_refused (ordinary : t.Ordinary) (rest : List Char) :
    unzoned? (fun cs => some (stripStart cs)) ((t.written 'T').toList ++ rest) = none := by
  obtain ⟨year, month, day, -⟩ := ordinary.fits
  rw [ordinary.toList_written]
  unfold unzoned?
  refine (bind_read (year_padded year _) _).trans ((bind_read (mark_self '-' _) _).trans ?_)
  refine (bind_read (short_padded month _) _).trans ((bind_read (mark_self '-' _) _).trans ?_)
  exact bind_read (short_padded day _) _

/-- A text that stops before its zone is none for the first reader. -/
theorem Ordinary.zoned?_bare (ordinary : t.Ordinary) {between : Char}
    (divides : ['T', 't', ' '].contains between = true)
    (decimal : ∀ c ∈ digits, c.isDigit = true) (short : digits.length ≤ 9) :
    zoned? ((t.written between).toList ++ (fractionText digits).toList) = none := by
  have ends : EndsFraction [] := fun c none => by cases none
  have read := ordinary.zoned?_written divides decimal short ends
  rw [List.append_nil] at read
  exact read

theorem Ordinary.moment?_spaced (ordinary : t.Ordinary)
    (decimal : ∀ c ∈ digits, c.isDigit = true) (short : digits.length ≤ 9) :
    moment? ((t.written ' ').toList ++ (fractionText digits).toList) =
      some (t.moment (fractionNanos digits)) := by
  have hour := ordinary.fits.2.2.2.1
  have passes : ∀ cs, some (stripStart (' ' :: ((padded 2 t.hour).toList ++ cs))) =
      some ((padded 2 t.hour).toList ++ cs) := by
    intro cs
    rw [← List.singleton_append, stripStart_append [' '] _ rfl,
      stripStart_padded Nat.zero_lt_two hour cs]
  have read : unzoned? (fun cs => some (stripStart cs))
      ((t.written ' ').toList ++ (fractionText digits).toList) =
        some (t.moment (fractionNanos digits)) :=
    ordinary.unzoned?_written passes decimal short
  rw [moment?, ordinary.zoned?_bare rfl decimal short, read]
  rfl

theorem Ordinary.moment?_joined (ordinary : t.Ordinary)
    (decimal : ∀ c ∈ digits, c.isDigit = true) (short : digits.length ≤ 9) :
    moment? ((t.written 'T').toList ++ (fractionText digits).toList) =
      some (t.moment (fractionNanos digits)) := by
  rw [moment?, ordinary.zoned?_bare rfl decimal short, ordinary.unzoned?_refused,
    ordinary.unzoned?_written (fun cs => mark_self 'T' _) decimal short]
  rfl

theorem Ordinary.moment?_zoned (ordinary : t.Ordinary)
    (decimal : ∀ c ∈ digits, c.isDigit = true) (short : digits.length ≤ 9)
    (ends : EndsFraction rest) {offset : Int} (named : zone rest = some (offset, [])) :
    moment? ((t.written 'T').toList ++ ((fractionText digits).toList ++ rest)) =
      some ((t.moment (fractionNanos digits)).atOffset offset) := by
  rw [moment?, ordinary.zoned?_written rfl decimal short ends, named]
  rfl

end Civil

/-! ### Zones -/

theorem zone_shifted {hours minutes : Nat} (hour : hours < 24) (minute : minutes < 60)
    (ahead : Bool) :
    zone ((if ahead then '+' else '-') :: ((padded 2 hours).toList ++ ':' ::
        (padded 2 minutes).toList)) =
      some ((if ahead then 1 else -1) * ((hours : Int) * 3600 + minutes * 60), []) := by
  have read {n : Nat} (small : n < 100) (rest : List Char) :
      Calendar.digits 2 2 ((padded 2 n).toList ++ rest) = some (n, rest) :=
    digits_padded Nat.zero_lt_two (Nat.le_refl 2) small rest
  have last := read (Nat.lt_trans minute (by decide)) []
  rw [List.append_nil] at last
  have inside : ¬(24 ≤ hours ∨ 60 ≤ minutes) := by omega
  cases ahead
  all_goals
    simp [zone, read (Nat.lt_trans hour (by decide)), last, mark_self, inside]

theorem Moment.OnClock.atOffset_zero {m : Moment} (clock : m.OnClock) : m.atOffset 0 = m := by
  have near : -(Moment.secondsPerDay : Int) < 0 ∧ (0 : Int) < Moment.secondsPerDay := by decide
  obtain ⟨moved, instant⟩ := clock.atOffset near
  exact moved.eq_of_instant clock (by omega) (m.nano_atOffset 0)

/-! ### Spellings -/

inductive Spelling where
  /-- A blank after the date, and no zone. -/
  | spaced
  | joined
  | universal
  /-- The zone is some hours and minutes ahead of universal time, or behind it. -/
  | shifted (ahead : Bool) (hours minutes : Nat)

namespace Spelling

def text (t : Civil) (digits : List Char) : Spelling → String
  | .spaced => t.spaced ++ fractionText digits
  | .joined => t.written 'T' ++ fractionText digits
  | .universal => t.written 'T' ++ fractionText digits ++ "Z"
  | .shifted ahead hours minutes =>
    t.written 'T' ++ fractionText digits ++ (if ahead then "+" else "-") ++
      padded 2 hours ++ ":" ++ padded 2 minutes

/-- How far the zone is ahead of universal time, in seconds. -/
def offset : Spelling → Int
  | .shifted ahead hours minutes => (if ahead then 1 else -1) * (hours * 3600 + minutes * 60)
  | _ => 0

def Valid : Spelling → Prop
  | .shifted _ hours minutes => hours < 24 ∧ minutes < 60
  | _ => True

variable {t : Civil} {s : Spelling}

theorem Valid.near (valid : s.Valid) :
    -Moment.secondsPerDay < s.offset ∧ s.offset < Moment.secondsPerDay := by
  simp only [Moment.secondsPerDay]
  cases s with
  | shifted ahead hours minutes =>
    obtain ⟨hour, minute⟩ := valid
    cases ahead
    all_goals
      simp only [offset, Bool.false_eq_true, if_true, if_false]
      omega
  | spaced => decide
  | joined => decide
  | universal => decide

theorem moment?_text (ordinary : t.Ordinary) (decimal : ∀ c ∈ digits, c.isDigit = true)
    (short : digits.length ≤ 9) (valid : s.Valid) :
    moment? (s.text t digits).toList =
      some ((t.moment (fractionNanos digits)).atOffset s.offset) := by
  have still := (ordinary.onClock (fractionNanos digits)).atOffset_zero
  have ends {c : Char} (other : c.isDigit = false ∧ c ≠ '.') (rest : List Char) :
      EndsFraction (c :: rest) := by
    intro d first
    cases first
    exact other
  cases s with
  | spaced =>
    rw [text, String.toList_append]
    exact (ordinary.moment?_spaced decimal short).trans (congrArg some still.symm)
  | joined =>
    rw [text, String.toList_append]
    exact (ordinary.moment?_joined decimal short).trans (congrArg some still.symm)
  | universal =>
    rw [text, String.toList_append, String.toList_append, List.append_assoc]
    exact ordinary.moment?_zoned decimal short (ends (by decide) []) rfl
  | shifted ahead hours minutes =>
    obtain ⟨hour, minute⟩ := valid
    have sign : (if ahead then "+" else "-").toList = [if ahead then '+' else '-'] := by
      cases ahead <;> rfl
    have colon : ":".toList = [':'] := rfl
    have other : (if ahead then '+' else '-').isDigit = false ∧
        (if ahead then '+' else '-') ≠ '.' := by
      cases ahead <;> decide
    simp only [text, String.toList_append, sign, colon, List.append_assoc, List.cons_append,
      List.nil_append]
    exact ordinary.moment?_zoned decimal short (ends other _) (zone_shifted hour minute ahead)

theorem text_opens (ordinary : t.Ordinary) (s : Spelling) (digits : List Char) :
    ∃ c after, (s.text t digits).toList = c :: after ∧ isBlank c = false := by
  cases s with
  | spaced =>
    rw [text, String.toList_append]
    exact ordinary.opens ' ' _
  | joined =>
    rw [text, String.toList_append]
    exact ordinary.opens 'T' _
  | universal =>
    simp only [text, String.toList_append, List.append_assoc]
    exact ordinary.opens 'T' _
  | shifted ahead hours minutes =>
    simp only [text, String.toList_append, List.append_assoc]
    exact ordinary.opens 'T' _

theorem text_closes (ordinary : t.Ordinary) (decimal : ∀ c ∈ digits, c.isDigit = true)
    (valid : s.Valid) :
    ∃ before d, (s.text t digits).toList = before ++ [d] ∧ isBlank d = false := by
  cases s with
  | spaced =>
    rw [text, String.toList_append]
    exact ordinary.closes ' ' decimal
  | joined =>
    rw [text, String.toList_append]
    exact ordinary.closes 'T' decimal
  | universal =>
    rw [text, String.toList_append]
    exact ⟨_, 'Z', rfl, by decide⟩
  | shifted ahead hours minutes =>
    rw [text, String.toList_append]
    exact closes_of_digits (padded_ne_nil Nat.zero_lt_two (Nat.lt_trans valid.2 (by decide)))
      (fun _ => isDigit_of_mem_padded) _

/-- Whatever the spelling and the blanks around it, the time is read to its instant. -/
theorem readTime_text (ordinary : t.Ordinary) (decimal : ∀ c ∈ digits, c.isDigit = true)
    (short : digits.length ≤ 9) (valid : s.Valid) {front back : String}
    (first : allBlank front = true) (last : allBlank back = true) :
    ∃ m, MigrationRecord.readTime (front ++ s.text t digits ++ back) = .ok m ∧ m.OnClock ∧
      m.instant = t.instant - s.offset ∧
      m.nano * 10 ^ digits.length = Nat.ofDigitChars 10 digits 0 * Moment.nanosPerSecond := by
  obtain ⟨c, after, opening, solid⟩ := text_opens ordinary s digits
  obtain ⟨before, d, closing, solid'⟩ := text_closes ordinary decimal valid
  have stripped : strip (front ++ s.text t digits ++ back).toList = (s.text t digits).toList := by
    rw [String.toList_append, String.toList_append, List.append_assoc]
    exact strip_framed first last opening solid closing solid'
  obtain ⟨clock, instant⟩ := (ordinary.onClock (fractionNanos digits)).atOffset valid.near
  refine ⟨_, ?_, clock, instant, ?_⟩
  · rw [MigrationRecord.readTime, stripped, moment?_text ordinary decimal short valid]
  · rw [Moment.nano_atOffset]
    exact fractionNanos_exact short

def newYearsEve : Civil :=
  { year := 2023, month := 12, day := 31, hour := 23, minute := 30, second := 15 }

/-- The clock is behind, so the instant is one of the new year. -/
theorem newYearsEve_read :
    newYearsEve.Ordinary ∧ (Spelling.shifted false 2 30).Valid ∧
      (Spelling.shifted false 2 30).text newYearsEve ['2', '5'] = "2023-12-31T23:30:15.25-02:30" ∧
      ∃ m, MigrationRecord.readTime
          (" " ++ (Spelling.shifted false 2 30).text newYearsEve ['2', '5'] ++ "\n") = .ok m ∧
        m.OnClock ∧ m.instant = newYearsEve.instant - -9000 ∧
        m.nano * 10 ^ 2 = 25 * Moment.nanosPerSecond := by
  have ordinary : newYearsEve.Ordinary :=
    ⟨by decide, by decide, ⟨by decide, by decide, by decide, by decide⟩, by decide, by decide,
      by decide⟩
  have valid : (Spelling.shifted false 2 30).Valid := ⟨by decide, by decide⟩
  have decimal : ∀ c ∈ ['2', '5'], c.isDigit = true := List.all_eq_true.1 rfl
  exact ⟨ordinary, valid, by decide +kernel,
    readTime_text ordinary decimal (Nat.le_of_ble_eq_true rfl) valid rfl rfl⟩

end Spelling

end Calendar

end SchemaShift

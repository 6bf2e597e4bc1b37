/-
  BoardRelay.Proofs.Clock.Calendar
  ────────────────────────────────
  The calendar, told day by day, and that dates worked out from a number of days
  follow it: each is the date after the one before (`Date.ofDays_succ`).  So the
  instant of a second is found by counting from the start of 1970:

      ofSeconds count   =   next^[count] epoch

  Later seconds are later instants, so no instant has two (`ofSeconds_injective`),
  and those of the years that are written make one interval (`isWritable_iff`).
-/
import BoardRelay.Clock.Date
import Mathlib.Algebra.Order.Ring.Int
import Mathlib.Algebra.Order.SuccPred
import Mathlib.Logic.Function.Iterate
import Mathlib.Tactic.SplitIfs

namespace BoardRelay.Clock

/-! ## §1. The calendar, day by day. -/

/-- The leap years. -/
def isLeap (year : Int) : Bool :=
  year % 4 = 0 && (year % 100 != 0 || year % 400 = 0)

/-- The days of a month, in a leap year or another. -/
def monthLength (leap : Bool) (month : Nat) : Nat :=
  if month = 2 then 28 + leap.toNat
  else if month ∈ [4, 6, 9, 11] then 30
  else 31

/-- The day after a day, in a leap year or another. -/
def Date.nextIn (leap : Bool) (date : Date) : Date :=
  if date.day < monthLength leap date.month then { date with day := date.day + 1 }
  else if date.month < 12 then ⟨date.year, date.month + 1, 1⟩
  else ⟨date.year + 1, 1, 1⟩

/-- The day after a day. -/
def Date.next (date : Date) : Date :=
  date.nextIn (isLeap date.year)

/-- The second after a second. -/
def Instant.next (instant : Instant) : Instant :=
  if instant.second < 59 then { instant with second := instant.second + 1 }
  else if instant.minute < 59 then { instant with minute := instant.minute + 1, second := 0 }
  else if instant.hour < 23 then ⟨instant.date, instant.hour + 1, 0, 0⟩
  else ⟨instant.date.next, 0, 0, 0⟩

/-- The start of 1970. -/
def epoch : Instant :=
  ⟨⟨1970, 1, 1⟩, 0, 0, 0⟩

/-! ## §2. Years from March to February. -/

/-- The days of a year that is counted from March: its leap day, if it has one, is
that of the calendar year in which it ends. -/
def yearLength (year : Int) : Nat :=
  365 + (isLeap (year + 1)).toNat

/-- The date of a day of such a year. -/
def Date.ofYear (year : Int) (day : Nat) : Date :=
  let month := monthOfYear day
  let calendarMonth := if month < 10 then month + 3 else month - 9
  ⟨year + (if calendarMonth ≤ 2 then 1 else 0), calendarMonth, day - daysBeforeMonth month + 1⟩

/-- Every fourth year is a leap year, but of the centuries only every fourth. -/
theorem isLeap_iff {year : Int} :
    isLeap year = true ↔ year % 4 = 0 ∧ (year % 100 ≠ 0 ∨ year % 400 = 0) := by
  simp [isLeap]

/-- A year from March has 366 days when the calendar year in which it ends is a
leap year, and 365 otherwise. -/
theorem yearLength_cases (year : Int) :
    (year + 1) % 4 = 0 ∧ ((year + 1) % 100 ≠ 0 ∨ (year + 1) % 400 = 0) ∧ yearLength year = 366 ∨
      ((year + 1) % 4 ≠ 0 ∨ (year + 1) % 100 = 0 ∧ (year + 1) % 400 ≠ 0) ∧
        yearLength year = 365 := by
  rw [yearLength]
  cases hleap : isLeap (year + 1) with
  | true =>
    obtain ⟨hfour, hcentury⟩ := isLeap_iff.mp hleap
    exact .inl ⟨hfour, hcentury, rfl⟩
  | false =>
    have hnot := mt isLeap_iff.mpr (Bool.eq_false_iff.mp hleap)
    refine .inr ⟨?_, rfl⟩
    omega

/-- The lengths of years repeat after 400 of them. -/
theorem yearLength_era (era year : Int) : yearLength (400 * era + year) = yearLength year := by
  have hfour : (400 * era + year + 1) % 4 = (year + 1) % 4 := by omega
  have hcentury : (400 * era + year + 1) % 100 = (year + 1) % 100 := by omega
  have hera : (400 * era + year + 1) % 400 = (year + 1) % 400 := by omega
  rw [yearLength, isLeap, hfour, hcentury, hera]
  rfl

/-- The days of the first year after a number of years, all of them in one era. -/
theorem daysBeforeYear_succ {year : Nat} (h : year < 399) :
    daysBeforeYear (year + 1) = daysBeforeYear year + yearLength year := by
  rw [daysBeforeYear, daysBeforeYear]
  rcases yearLength_cases year with ⟨hfour, hcentury, hlength⟩ | ⟨hcommon, hlength⟩ <;> omega

/-- The year of an era that a day is in. -/
theorem yearOfEra_eq {year day : Nat} (hyear : year < 400) (hday : day < yearLength year) :
    yearOfEra (daysBeforeYear year + day) = year := by
  -- the last day of a leap year is the only one beyond 365; it ends in the fourth year, but not in
  -- a century except the fourth
  have hlong : day < 365 ∨ day = 365 ∧ year % 4 = 3 ∧ (year = 399 ∨ year % 100 ≠ 99) := by
    rcases yearLength_cases year with ⟨hfour, hcentury, hlength⟩ | ⟨-, hlength⟩ <;> omega
  generalize hn : daysBeforeYear year + day = n
  have hfours : year / 100 ≤ year / 4 := Nat.div_le_div_left (by decide) (by decide)
  have hdays : n = 365 * year + (year / 4 - year / 100) + day := by
    rw [← hn, daysBeforeYear, Nat.add_sub_assoc hfours]
  -- every 36524 days are a century, and the last day is beyond the fourth
  have hcenturies : n / 36524 = year / 100 + n / 146096 := by
    have hsplit : n = 36524 * (year / 100) + (365 * (year % 100) + year % 100 / 4 + day) := by
      omega
    by_cases hlast : n = 146096
    · have hfourth : year / 100 = 3 := by omega
      rw [hlast, hfourth]
    · have hwithin : 365 * (year % 100) + year % 100 / 4 + day < 36524 := by omega
      have hera : n / 146096 = 0 := by omega
      rw [hera, hsplit]
      omega
  -- every 1460 days have a leap day more than four times 365
  have hleaps : n / 1460 = year / 4 +
      if 1460 ≤ 365 * (year % 4) + (year / 4 - year / 100) + day then 1 else 0 := by
    split <;> omega
  have hwithin : n / 1460 ≤ year / 4 + day ∧ year / 4 + day < n / 1460 + 365 := by
    rw [hleaps]
    split <;> omega
  have hrest : n - n / 1460 + n / 36524 - n / 146096 =
      365 * year + (year / 4 + day - n / 1460) := by
    generalize n / 1460 = leaps at hwithin
    rw [hcenturies, hdays]
    omega
  rw [yearOfEra, hrest]
  omega

/-- Every day of an era is one of a year. -/
theorem exists_year {n : Nat} (h : n < daysOfEra) :
    ∃ year day : Nat, year < 400 ∧ day < yearLength year ∧ n = daysBeforeYear year + day := by
  -- Induction on the day: the next one is in the same year, or the first of the next year.
  induction n with
  | zero => exact ⟨0, 0, by decide, by decide, rfl⟩
  | succ n ih =>
    obtain ⟨year, day, hyear, hday, hn⟩ := ih (by omega)
    by_cases hmore : day + 1 < yearLength year
    · exact ⟨year, day + 1, hyear, hmore, by omega⟩
    · by_cases hlast : year = 399
      · subst hlast
        have hend : daysBeforeYear 399 + yearLength (399 : Nat) = daysOfEra := by decide
        omega
      · refine ⟨year + 1, 0, by omega, ?_, ?_⟩
        · rcases yearLength_cases (year + 1 : Nat) with ⟨-, -, hlength⟩ | ⟨-, hlength⟩ <;> omega
        · rw [daysBeforeYear_succ (by omega)]
          omega

/-- The date of a day, by the March year that the day is in. -/
theorem Date.ofDays_eq {days era : Int} {year day : Nat} (hyear : year < 400)
    (hday : day < yearLength year)
    (h : days + daysBefore1970 = era * daysOfEra + (daysBeforeYear year + day : Nat)) :
    Date.ofDays days = Date.ofYear (400 * era + year) day := by
  -- a day of a year of an era is a day of the era, so dividing by the length of an era finds this
  -- era
  have hlt : daysBeforeYear year + day < daysOfEra := by
    rw [daysBeforeYear, daysOfEra]
    rcases yearLength_cases year with ⟨hfour, hcentury, hlength⟩ | ⟨hcommon, hlength⟩ <;> omega
  have hera : Int.fdiv (days + daysBefore1970) daysOfEra = era := by
    rw [Int.fdiv_eq_ediv_of_nonneg _ (by decide), h]
    rw [daysOfEra] at hlt ⊢
    omega
  have hrest : (days + daysBefore1970 - era * daysOfEra).toNat = daysBeforeYear year + day := by
    omega
  simp only [Date.ofDays, hera, hrest, yearOfEra_eq hyear hday, Nat.add_sub_cancel_left,
    Date.ofYear]

/-! ## §3. From a day to the next. -/

/-- A date of another year. -/
def Date.later (years : Int) (date : Date) : Date :=
  { date with year := date.year + years }

/-- The day after does not depend on the year, once it is known to be a leap
year or not. -/
theorem Date.nextIn_later (leap : Bool) (years : Int) (date : Date) :
    (date.later years).nextIn leap = (date.nextIn leap).later years := by
  unfold Date.nextIn Date.later
  dsimp only
  split_ifs with hday hmonth
  · rfl
  · rfl
  · exact congrArg (Date.mk · 1 1) (Int.add_right_comm date.year years 1)

/-- Days have the same month and day of month in every year from March; only
the year differs. -/
theorem Date.ofYear_eq_later (year : Int) (day : Nat) :
    Date.ofYear year day = (Date.ofYear 0 day).later year := by
  simp only [Date.ofYear, Date.later, Int.zero_add, Int.add_comm]

/-- The day after a day of a year from March to February. -/
theorem Date.next_ofYear (year : Int) (day : Nat) :
    (Date.ofYear year day).next =
      ((Date.ofYear 0 day).nextIn (isLeap (year + 1))).later year := by
  rw [← Date.nextIn_later, ← Date.ofYear_eq_later, Date.next]
  by_cases hmonth : (Date.ofYear year day).month = 2
  · -- February is in the calendar year in which the year from March ends
    have hyear : (Date.ofYear year day).year = year + 1 := by
      simp only [Date.ofYear] at hmonth ⊢
      rw [hmonth]
      rfl
    rw [hyear]
  · simp only [Date.nextIn, monthLength, if_neg hmonth]

/-- One pass over the days of a year but for the last. -/
theorem Date.nextIn_within : ∀ day < 365, ∀ leap : Bool, day + 1 < 365 + leap.toNat →
    (Date.ofYear 0 day).nextIn leap = Date.ofYear 0 (day + 1) := by
  decide +kernel

/-- The last day of February is followed by the first of March. -/
theorem Date.nextIn_last : ∀ leap : Bool,
    (Date.ofYear 0 (364 + leap.toNat)).nextIn leap = Date.ofYear 1 0 := by
  decide

/-- Within a year from March, each day's date is the one after the date of the
day before. -/
theorem Date.ofYear_succ {year : Int} {day : Nat} (h : day + 1 < yearLength year) :
    Date.ofYear year (day + 1) = (Date.ofYear year day).next := by
  rw [yearLength] at h
  have hday : day < 365 := by
    have := Bool.toNat_le (isLeap (year + 1))
    omega
  rw [Date.next_ofYear, Date.nextIn_within day hday _ h, ← Date.ofYear_eq_later]

/-- So is the first day of a year from March the one after the last of the year
before. -/
theorem Date.ofYear_of_last {year : Int} {day : Nat} (h : day + 1 = yearLength year) :
    Date.ofYear (year + 1) 0 = (Date.ofYear year day).next := by
  obtain rfl : day = 364 + (isLeap (year + 1)).toNat := by
    rw [yearLength] at h
    omega
  rw [Date.next_ofYear, Date.nextIn_last, Date.ofYear_eq_later, Date.ofYear_eq_later 1, Date.later,
    Date.later, Date.later, Int.add_comm year 1, Int.add_assoc]

/-- Every day is one of a year of an era. -/
theorem exists_ofYear (days : Int) : ∃ (era : Int) (year day : Nat), year < 400 ∧
    day < yearLength year ∧
    days + daysBefore1970 = era * daysOfEra + (daysBeforeYear year + day : Nat) := by
  have hmod := Int.emod_nonneg (days + daysBefore1970) (b := daysOfEra) (by decide)
  have hlt := Int.emod_lt_of_pos (days + daysBefore1970) (b := daysOfEra) (by decide)
  have hdiv := Int.mul_ediv_add_emod (days + daysBefore1970) daysOfEra
  obtain ⟨year, day, hyear, hday, hn⟩ :=
    exists_year (n := ((days + daysBefore1970) % daysOfEra).toNat) (by omega)
  refine ⟨(days + daysBefore1970) / daysOfEra, year, day, hyear, hday, ?_⟩
  rw [← hn, Int.toNat_of_nonneg hmod, Int.mul_comm, hdiv]

/-- Each day's date is the one after the date of the day before. -/
theorem Date.ofDays_succ (days : Int) : Date.ofDays (days + 1) = (Date.ofDays days).next := by
  obtain ⟨era, year, day, hyear, hday, hdays⟩ := exists_ofYear days
  have hlength := yearLength_era era year
  rw [Date.ofDays_eq hyear hday hdays]
  by_cases hmore : day + 1 < yearLength year
  · have hnext : days + 1 + daysBefore1970 =
        era * daysOfEra + (daysBeforeYear year + (day + 1) : Nat) := by omega
    rw [Date.ofDays_eq hyear hmore hnext]
    exact Date.ofYear_succ (by omega)
  · rw [← Date.ofYear_of_last (by omega)]
    by_cases hlast : year = 399
    · -- the last day of an era is followed by the first of the next
      subst hlast
      have hend : daysBeforeYear 399 + yearLength (399 : Nat) = daysOfEra := by decide
      have hnext : days + 1 + daysBefore1970 =
          (era + 1) * daysOfEra + (daysBeforeYear 0 + 0 : Nat) := by
        rw [Int.add_mul, Int.one_mul, daysBeforeYear]
        omega
      rw [Date.ofDays_eq (by decide) (by decide) hnext]
      congr 1
      omega
    · -- the last day of any other year is followed by the first of the next in the same era
      have hstart : daysBeforeYear (year + 1) = daysBeforeYear year + yearLength year :=
        daysBeforeYear_succ (by omega)
      have hnext : days + 1 + daysBefore1970 =
          era * daysOfEra + (daysBeforeYear (year + 1) + 0 : Nat) := by omega
      have hnonempty : 0 < yearLength (year + 1 : Nat) := by
        rw [yearLength]
        omega
      rw [Date.ofDays_eq (by omega) hnonempty hnext]
      congr 1
      omega

/-- The instant of a second, by its day and what is gone of it. -/
theorem Instant.ofSeconds_eq {seconds days : Int} {gone : Nat} (hgone : gone < 86400)
    (h : seconds = days * 86400 + gone) :
    Instant.ofSeconds seconds = ⟨Date.ofDays days, gone / 3600, gone / 60 % 60, gone % 60⟩ := by
  have hdays : Int.fdiv seconds 86400 = days := by
    rw [Int.fdiv_eq_ediv_of_nonneg _ (by decide)]
    omega
  have hrest : (seconds - days * 86400).toNat = gone := by omega
  simp only [Instant.ofSeconds, hdays, hrest]

theorem exists_day (seconds : Int) :
    ∃ (days : Int) (gone : Nat), gone < 86400 ∧ seconds = days * 86400 + gone :=
  ⟨seconds / 86400, (seconds % 86400).toNat, by omega, by omega⟩

/-- Each second's instant is the one after the instant of the second before. -/
theorem Instant.ofSeconds_succ (seconds : Int) :
    Instant.ofSeconds (seconds + 1) = (Instant.ofSeconds seconds).next := by
  obtain ⟨days, gone, hgone, hseconds⟩ := exists_day seconds
  rw [Instant.ofSeconds_eq hgone hseconds, Instant.next]
  by_cases hlast : gone = 86399
  · -- the last second of a day is followed by the first of the next
    subst hlast
    have hnext : seconds + 1 = (days + 1) * 86400 + (0 : Nat) := by omega
    rw [Instant.ofSeconds_eq (by decide) hnext, Date.ofDays_succ]
    rfl
  · have hnext : seconds + 1 = days * 86400 + (gone + 1 : Nat) := by omega
    rw [Instant.ofSeconds_eq (by omega) hnext]
    dsimp only
    -- within a day the seconds, the minutes and the hours are carried
    split_ifs with hsecond hminute hhour
    · simp only [Instant.mk.injEq, true_and]
      omega
    · simp only [Instant.mk.injEq, true_and]
      omega
    · simp only [Instant.mk.injEq, true_and]
      omega
    · omega

/-- Going on by some seconds is taking the next instant so often. -/
theorem Instant.ofSeconds_add (seconds : Int) (count : Nat) :
    Instant.ofSeconds (seconds + count) = Instant.next^[count] (Instant.ofSeconds seconds) := by
  induction count with
  | zero => rw [Int.natCast_zero, Int.add_zero, Function.iterate_zero_apply]
  | succ count ih =>
    rw [Function.iterate_succ_apply', ← ih, ← Instant.ofSeconds_succ, Int.natCast_succ,
      Int.add_assoc]

theorem Instant.ofSeconds_zero : Instant.ofSeconds 0 = epoch := by
  decide

/-- Seconds are counted from the start of 1970. -/
theorem Instant.ofSeconds_natCast (count : Nat) :
    Instant.ofSeconds count = Instant.next^[count] epoch := by
  rw [← Instant.ofSeconds_zero, ← Instant.ofSeconds_add, Int.zero_add]

/-! ## §4. The order of instants. -/

/-- A number that grows with a date. -/
def Date.rank (date : Date) : Int :=
  (date.year * 12 + date.month) * 31 + date.day

/-- A number that grows with an instant. -/
def Instant.rank (instant : Instant) : Int :=
  ((instant.date.rank * 24 + instant.hour) * 60 + instant.minute) * 60 + instant.second

theorem Date.ofYear_bounds : ∀ day < 366, 1 ≤ (Date.ofYear 0 day).month ∧
    (Date.ofYear 0 day).month ≤ 12 ∧ 1 ≤ (Date.ofYear 0 day).day ∧
    (Date.ofYear 0 day).day ≤ 31 := by
  decide +kernel

/-- Months run from 1 to 12, and days of a month from 1 to 31. -/
theorem Date.ofDays_bounds (days : Int) : 1 ≤ (Date.ofDays days).month ∧
    (Date.ofDays days).month ≤ 12 ∧ 1 ≤ (Date.ofDays days).day ∧ (Date.ofDays days).day ≤ 31 := by
  obtain ⟨era, year, day, hyear, hday, hdays⟩ := exists_ofYear days
  rw [Date.ofDays_eq hyear hday hdays, Date.ofYear_eq_later]
  refine Date.ofYear_bounds day ?_
  rcases yearLength_cases year with ⟨-, -, hlength⟩ | ⟨-, hlength⟩ <;> omega

/-- The day after has the greater rank, and is of no earlier year. -/
theorem Date.rank_next {date : Date} (hmonth : date.month ≤ 12) (hday : date.day ≤ 31) :
    date.rank < date.next.rank ∧ date.year ≤ date.next.year := by
  unfold Date.next Date.nextIn Date.rank
  -- 31 days and 12 months are enough room for each carry
  split_ifs with hwithin hyear
  · exact ⟨by dsimp only; omega, Int.le_refl _⟩
  · exact ⟨by dsimp only; omega, Int.le_refl _⟩
  · exact ⟨by dsimp only; omega, by dsimp only; omega⟩

/-- Where an instant of a second is in its day. -/
theorem Instant.ofSeconds_bounds (seconds : Int) : (Instant.ofSeconds seconds).hour < 24 ∧
    (Instant.ofSeconds seconds).minute < 60 ∧ (Instant.ofSeconds seconds).second < 60 := by
  obtain ⟨days, gone, hgone, hseconds⟩ := exists_day seconds
  rw [Instant.ofSeconds_eq hgone hseconds]
  dsimp only
  omega

theorem Instant.date_ofSeconds (seconds : Int) :
    (Instant.ofSeconds seconds).date = Date.ofDays (Int.fdiv seconds 86400) :=
  rfl

/-- A later second is a later instant, and of no earlier year. -/
theorem Instant.ofSeconds_lt (seconds : Int) :
    (Instant.ofSeconds seconds).rank < (Instant.ofSeconds (seconds + 1)).rank ∧
      (Instant.ofSeconds seconds).date.year ≤ (Instant.ofSeconds (seconds + 1)).date.year := by
  obtain ⟨hhour, hminute, hsecond⟩ := Instant.ofSeconds_bounds seconds
  obtain ⟨-, hmonth, -, hday⟩ := Date.ofDays_bounds (Int.fdiv seconds 86400)
  obtain ⟨hdate, hyear⟩ := Date.rank_next hmonth hday
  rw [← Instant.date_ofSeconds] at hdate hyear
  rw [Instant.ofSeconds_succ, Instant.next]
  unfold Instant.rank
  -- the last second of a minute, of an hour, of a day; a day that ends is where the date moves
  split_ifs with hlast hlast' hlast''
  · exact ⟨by dsimp only; omega, Int.le_refl _⟩
  · exact ⟨by dsimp only; omega, Int.le_refl _⟩
  · exact ⟨by dsimp only; omega, Int.le_refl _⟩
  · exact ⟨by dsimp only; omega, hyear⟩

/-- **No instant has two seconds**: the rank of instants grows with each
second. -/
theorem Instant.ofSeconds_injective : Function.Injective Instant.ofSeconds := by
  have hmono : StrictMono fun seconds => (Instant.ofSeconds seconds).rank :=
    strictMono_int_of_lt_succ fun seconds => (Instant.ofSeconds_lt seconds).1
  exact fun seconds seconds' h => hmono.injective (congrArg Instant.rank h)

/-- A later second is of no earlier year. -/
theorem Instant.year_le_of_le {seconds later : Int} (h : seconds ≤ later) :
    (Instant.ofSeconds seconds).date.year ≤ (Instant.ofSeconds later).date.year := by
  have hmono : Monotone fun seconds => (Instant.ofSeconds seconds).date.year :=
    monotone_int_of_le_succ fun seconds => (Instant.ofSeconds_lt seconds).2
  exact hmono h

/-- The last second of the last year that is written. -/
theorem Instant.year_le_iff {seconds : Int} :
    (Instant.ofSeconds seconds).date.year ≤ 262142 ↔ seconds ≤ 8210266876799 := by
  have hlast : (Instant.ofSeconds 8210266876799).date.year = 262142 := by decide
  have hbehind : (Instant.ofSeconds 8210266876800).date.year = 262143 := by decide
  constructor
  · intro hyear
    -- the year grows with the seconds, and the first second behind is of the next year
    by_contra hlate
    have hyears := Instant.year_le_of_le (show (8210266876800 : Int) ≤ seconds by omega)
    omega
  · intro hseconds
    have hyears := Instant.year_le_of_le hseconds
    omega

/-- The first second of the first year that is written. -/
theorem Instant.le_year_iff {seconds : Int} :
    -262143 ≤ (Instant.ofSeconds seconds).date.year ↔ -8334601228800 ≤ seconds := by
  have hfirst : (Instant.ofSeconds (-8334601228800)).date.year = -262143 := by decide
  have hbefore : (Instant.ofSeconds (-8334601228801)).date.year = -262144 := by decide
  constructor
  · intro hyear
    by_contra hearly
    have hyears := Instant.year_le_of_le (show seconds ≤ -8334601228801 by omega)
    omega
  · intro hseconds
    have hyears := Instant.year_le_of_le hseconds
    omega

/-- The seconds that are written as dates. -/
theorem isWritable_iff {seconds : Int} :
    isWritable (Instant.ofSeconds seconds).date.year = true ↔
      -8334601228800 ≤ seconds ∧ seconds ≤ 8210266876799 := by
  rw [isWritable, Bool.and_eq_true, decide_eq_true_eq, decide_eq_true_eq, Instant.le_year_iff,
    Instant.year_le_iff]

end BoardRelay.Clock

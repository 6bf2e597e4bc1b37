/-
  BoardRelay.Clock.Date
  ────────────────────────────────
  Days and seconds since the start of 1970 as dates of the Gregorian
  calendar, also before its introduction.  The calendar repeats after 400
  years, which have 146097 days; years are counted from March, so that the
  leap day comes last.
-/

namespace BoardRelay.Clock

/-- A day of the calendar. -/
structure Date where
  year : Int
  month : Nat
  day : Nat
  deriving Repr, DecidableEq

/-- An instant, to the second, in universal time. -/
structure Instant where
  date : Date
  hour : Nat
  minute : Nat
  second : Nat
  deriving Repr, DecidableEq

/-- The days of 400 years. -/
def daysOfEra : Nat :=
  146097

/-- The days from the first of March of the year 0 to the start of 1970. -/
def daysBefore1970 : Nat :=
  719468

/-- The year of an era that a day of it is in, counted from March. -/
def yearOfEra (day : Nat) : Nat :=
  (day - day / 1460 + day / 36524 - day / 146096) / 365

/-- The days of an era before a year of it. -/
def daysBeforeYear (year : Nat) : Nat :=
  365 * year + year / 4 - year / 100

/-- The month that a day of the year is in; both are counted from March. -/
def monthOfYear (day : Nat) : Nat :=
  (5 * day + 2) / 153

/-- The days of a year before a month of it, counted from March. -/
def daysBeforeMonth (month : Nat) : Nat :=
  (153 * month + 2) / 5

/-- The date of a day since the start of 1970. -/
def Date.ofDays (days : Int) : Date :=
  let shifted := days + daysBefore1970
  let era := Int.fdiv shifted daysOfEra
  let dayOfEra := (shifted - era * daysOfEra).toNat
  let year := yearOfEra dayOfEra
  let dayOfYear := dayOfEra - daysBeforeYear year
  let month := monthOfYear dayOfYear
  let calendarMonth := if month < 10 then month + 3 else month - 9
  ⟨400 * era + year + (if calendarMonth ≤ 2 then 1 else 0), calendarMonth,
    dayOfYear - daysBeforeMonth month + 1⟩

/-- The instant of a second since the start of 1970. -/
def Instant.ofSeconds (seconds : Int) : Instant :=
  let days := Int.fdiv seconds 86400
  let rest := (seconds - days * 86400).toNat
  ⟨Date.ofDays days, rest / 3600, rest / 60 % 60, rest % 60⟩

/-- The years that dates are written for. -/
def isWritable (year : Int) : Bool :=
  -262143 ≤ year && year ≤ 262142

/-- A number with zeros in front up to a width. -/
def padded (width value : Nat) : String :=
  let digits := Nat.toDigits 10 value
  String.ofList (List.replicate (width - digits.length) '0' ++ digits)

/-- A year in at least four digits; one that needs more, or comes before the
year 0, has a sign. -/
def yearText (year : Int) : String :=
  if 0 ≤ year ∧ year ≤ 9999 then padded 4 year.toNat
  else (if year < 0 then "-" else "+") ++ padded 4 year.natAbs

/-- An instant as text. -/
def Instant.text (instant : Instant) : String :=
  yearText instant.date.year ++ "-" ++ padded 2 instant.date.month ++ "-" ++
    padded 2 instant.date.day ++ "T" ++ padded 2 instant.hour ++ ":" ++
    padded 2 instant.minute ++ ":" ++ padded 2 instant.second ++ "+00:00"

/-- The text of a second since the start of 1970, if its year is one that
dates are written for. -/
def textOfSeconds? (seconds : Int) : Option String :=
  let instant := Instant.ofSeconds seconds
  if isWritable instant.date.year then some instant.text else none

end BoardRelay.Clock

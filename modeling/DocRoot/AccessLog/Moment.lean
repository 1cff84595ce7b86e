/-!
# Moments

A moment is a count of seconds since 1970 with the offset of the local clock and the
nanoseconds of the second; a billion and more of them mean a leap second. The date is
that of the local clock in the Gregorian calendar.
-/

set_option autoImplicit false

namespace DocRoot

structure Moment where
  seconds : Int
  nanos : Nat
  offset : Int
  deriving DecidableEq, Repr

/-- A day of the Gregorian calendar. -/
structure CivilDate where
  year : Int
  month : Nat
  day : Nat
  deriving DecidableEq, Repr

namespace CivilDate

/-- The date that is `days` days after the first of January 1970. Years are counted from
March, so that the leap day is the last of its year, and in eras of 400 years. -/
def ofDays (days : Int) : CivilDate :=
  let z := days + 719468
  let era := z.fdiv 146097
  let dayOfEra := (z - era * 146097).toNat
  let yearOfEra :=
    (dayOfEra - dayOfEra / 1460 + dayOfEra / 36524 - dayOfEra / 146096) / 365
  let dayOfYear := dayOfEra - (365 * yearOfEra + yearOfEra / 4 - yearOfEra / 100)
  let m := (5 * dayOfYear + 2) / 153
  let month := if m < 10 then m + 3 else m - 9
  { year := Int.ofNat yearOfEra + era * 400 + (if month ≤ 2 then 1 else 0)
    month
    day := dayOfYear - (153 * m + 2) / 5 + 1 }

end CivilDate

namespace Moment

/-- At least `width` digits. -/
def padded (width n : Nat) : String :=
  let s := toString n
  String.ofList (List.replicate (width - s.length) '0') ++ s

def monthNames : List String :=
  ["Jan", "Feb", "Mar", "Apr", "May", "Jun", "Jul", "Aug", "Sep", "Oct", "Nov", "Dec"]

def monthName (month : Nat) : String := (monthNames[month - 1]?).getD ""

/-- A year outside the four-digit ones carries its sign. -/
def yearText (y : Int) : String :=
  if 0 ≤ y ∧ y ≤ 9999 then padded 4 y.toNat
  else (if y < 0 then "-" else "+") ++ padded 4 y.natAbs

/-- The offset to the nearest minute, with `mark` between hours and minutes. -/
def offsetText (mark : String) (offset : Int) : String :=
  let minutes := (offset.natAbs + 30) / 60
  (if offset < 0 then "-" else "+") ++ padded 2 (minutes / 60) ++ mark ++ padded 2 (minutes % 60)

def localSeconds (t : Moment) : Int := t.seconds + t.offset

def date (t : Moment) : CivilDate := .ofDays (t.localSeconds.fdiv 86400)

def clock (t : Moment) : String :=
  let s := (t.localSeconds.fmod 86400).toNat
  padded 2 (s / 3600) ++ ":" ++ padded 2 (s / 60 % 60) ++ ":"
    ++ padded 2 (s % 60 + t.nanos / 1000000000)

/-- The fraction of the second in as many groups of three digits as it needs. -/
def fraction (t : Moment) : String :=
  let n := t.nanos % 1000000000
  if n = 0 then ""
  else if n % 1000000 = 0 then "." ++ padded 3 (n / 1000000)
  else if n % 1000 = 0 then "." ++ padded 6 (n / 1000)
  else "." ++ padded 9 n

/-- As in `02/Jan/2006:15:04:05 -0700`. -/
def logText (t : Moment) : String :=
  padded 2 t.date.day ++ "/" ++ monthName t.date.month ++ "/" ++ yearText t.date.year ++ ":"
    ++ t.clock ++ " " ++ offsetText "" t.offset

/-- As in `2006-01-02T15:04:05.123-07:00`. -/
def isoText (t : Moment) : String :=
  yearText t.date.year ++ "-" ++ padded 2 t.date.month ++ "-" ++ padded 2 t.date.day ++ "T"
    ++ t.clock ++ t.fraction ++ offsetText ":" t.offset

end Moment

end DocRoot

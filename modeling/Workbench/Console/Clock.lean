/-!
Times as the command line shows them. A span is written in the greatest unit of which it has at least
one, without zeros at the end of its fraction. An instant is written as date and time of day in
universal time, with as many groups of three fractional digits as it needs.
-/

namespace Workbench.Console

/-- A number in decimal digits, filled up with zeros in front to a width. -/
def zeroPadded (width n : Nat) : List Char :=
  let digits := Nat.toDigits 10 n
  List.replicate (width - digits.length) '0' ++ digits

/-! ### Spans -/

/-- The digits of a fraction with so many places, without zeros at the end. -/
def fractionDigits (places fraction : Nat) : List Char :=
  ((zeroPadded places fraction).reverse.dropWhile (· = '0')).reverse

/-- A decimal number with so many places at most. -/
def decimal (whole places fraction : Nat) : String :=
  match fractionDigits places fraction with
  | [] => toString whole
  | digits => toString whole ++ "." ++ String.ofList digits

/-- A span of whole seconds and less than a second of nanoseconds. -/
def spanText (seconds nanos : Nat) : String :=
  if 0 < seconds then decimal seconds 9 nanos ++ "s"
  else if 1000000 ≤ nanos then decimal (nanos / 1000000) 6 (nanos % 1000000) ++ "ms"
  else if 1000 ≤ nanos then decimal (nanos / 1000) 3 (nanos % 1000) ++ "µs"
  else toString nanos ++ "ns"

/-! ### Instants -/

/-- A day of the calendar. -/
structure Day where
  year : Nat
  month : Nat
  day : Nat
  deriving DecidableEq

/-- The day that follows the first of January 1970 by so many days. Years are counted from the first
of March, so that the day of a leap year comes last; 146097 days make four centuries. -/
def Day.ofEpochDay (days : Nat) : Day :=
  let shifted := days + 719468
  let era := shifted / 146097
  let dayOfEra := shifted % 146097
  let yearOfEra :=
    (dayOfEra - dayOfEra / 1460 + dayOfEra / 36524 - dayOfEra / 146096) / 365
  let dayOfYear := dayOfEra - (365 * yearOfEra + yearOfEra / 4 - yearOfEra / 100)
  let monthFromMarch := (5 * dayOfYear + 2) / 153
  let month := if monthFromMarch < 10 then monthFromMarch + 3 else monthFromMarch - 9
  { year := yearOfEra + 400 * era + (if month ≤ 2 then 1 else 0)
    month := month
    day := dayOfYear - (153 * monthFromMarch + 2) / 5 + 1 }

/-- The fraction of a second in as many groups of three digits as it needs. -/
def secondFraction (nanos : Nat) : List Char :=
  if nanos = 0 then []
  else if nanos % 1000000 = 0 then '.' :: zeroPadded 3 (nanos / 1000000)
  else if nanos % 1000 = 0 then '.' :: zeroPadded 6 (nanos / 1000)
  else '.' :: zeroPadded 9 nanos

/-- The instant that follows the start of 1970 by so many nanoseconds. -/
def instantText (sinceEpoch : Nat) : String :=
  let nanos := sinceEpoch % 1000000000
  let seconds := sinceEpoch / 1000000000
  let day := Day.ofEpochDay (seconds / 86400)
  let time := seconds % 86400
  String.ofList (zeroPadded 4 day.year ++ '-' :: zeroPadded 2 day.month ++ '-' ::
    zeroPadded 2 day.day ++ 'T' :: zeroPadded 2 (time / 3600) ++ ':' ::
    zeroPadded 2 (time / 60 % 60) ++ ':' :: zeroPadded 2 (time % 60) ++ secondFraction nanos ++ ['Z'])

end Workbench.Console

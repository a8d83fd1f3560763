/-
# Points in time and their ISO text

A `datetime` by its fields, with the UTC offset in seconds when it is aware, and
the text `isoformat()` gives it: the fraction is left out when it is zero and
the offset when the value is naive.
-/

import Mathlib.Tactic.Common

namespace Python

/-- A `datetime.datetime`; `utcOffset` is in seconds and absent when naive. -/
structure DateTime where
  year : ℕ
  month : ℕ
  day : ℕ
  hour : ℕ
  minute : ℕ
  second : ℕ
  microsecond : ℕ
  utcOffset : Option Int
  deriving DecidableEq, Repr

/-- A number in decimal, filled up with leading zeros. -/
def zeroPad (width n : ℕ) : String :=
  String.ofList (List.replicate (width - (Nat.toDigits 10 n).length) '0' ++ Nat.toDigits 10 n)

namespace DateTime

/-- The offset part, such as `+02:00` or `-03:30:15`. -/
def offsetText (offset : Int) : String :=
  let seconds := offset.natAbs
  (if offset < 0 then "-" else "+") ++ zeroPad 2 (seconds / 3600) ++ ":" ++
    zeroPad 2 (seconds / 60 % 60) ++
      (if seconds % 60 = 0 then "" else ":" ++ zeroPad 2 (seconds % 60))

/-- `datetime.isoformat()`. -/
def isoformat (dt : DateTime) : String :=
  zeroPad 4 dt.year ++ "-" ++ zeroPad 2 dt.month ++ "-" ++ zeroPad 2 dt.day ++ "T" ++
    zeroPad 2 dt.hour ++ ":" ++ zeroPad 2 dt.minute ++ ":" ++ zeroPad 2 dt.second ++
      (if dt.microsecond = 0 then "" else "." ++ zeroPad 6 dt.microsecond) ++
        dt.utcOffset.elim "" offsetText

/-- A leap year of the proleptic Gregorian calendar. -/
def isLeap (year : ℕ) : Bool :=
  year % 4 = 0 && (year % 100 ≠ 0 || year % 400 = 0)

/-- The days of a common year before each month. -/
def daysBeforeMonth : ℕ → ℕ
  | 2 => 31
  | 3 => 59
  | 4 => 90
  | 5 => 120
  | 6 => 151
  | 7 => 181
  | 8 => 212
  | 9 => 243
  | 10 => 273
  | 11 => 304
  | 12 => 334
  | _ => 0

/-- `date.toordinal()`: the first day of the year 1 has the number 1. -/
def toordinal (dt : DateTime) : Int :=
  let years := dt.year - 1
  365 * years + years / 4 - years / 100 + years / 400 + daysBeforeMonth dt.month +
    (if dt.month > 2 ∧ isLeap dt.year then 1 else 0) + dt.day

/-- Microseconds since the first of January 1970. -/
def epochMicroseconds (dt : DateTime) : Int :=
  ((dt.toordinal - 719163) * 86400 + dt.hour * 3600 + dt.minute * 60 + dt.second -
    dt.utcOffset.getD 0) * 1000000 + dt.microsecond

example : epochMicroseconds ⟨2026, 6, 13, 12, 0, 0, 5, some 0⟩ = 1781352000000005 := by decide

example : isoformat ⟨2026, 6, 13, 12, 0, 0, 0, some 0⟩ = "2026-06-13T12:00:00+00:00" := by
  decide

end DateTime

end Python

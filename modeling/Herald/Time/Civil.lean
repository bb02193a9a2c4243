set_option autoImplicit false

/-!
The proleptic Gregorian calendar as day counts.

`daysFromCivil` and `civilFromDays` convert between a calendar date and the
number of days since 1970-01-01, for every year, by counting whole
400-year eras (146097 days each) and the days inside one era, where the
year is taken to start on March 1 so that the leap day falls last.
-/

namespace Herald.Time

/-- Whether a year is a leap year. -/
def isLeapYear (y : Int) : Bool :=
  (y % 4 == 0 && y % 100 != 0) || y % 400 == 0

/-- The number of days in a month of a year (`month` from 1 to 12). -/
def daysInMonth (y : Int) (month : Nat) : Nat :=
  match month with
  | 1 | 3 | 5 | 7 | 8 | 10 | 12 => 31
  | 4 | 6 | 9 | 11 => 30
  | 2 => if isLeapYear y then 29 else 28
  | _ => 0

/-- Days since 1970-01-01 of a calendar date. -/
def daysFromCivil (y : Int) (month day : Nat) : Int :=
  let y := if month ≤ 2 then y - 1 else y
  let era := y / 400
  let yoe := y - era * 400
  let mp : Int := if month > 2 then (month : Int) - 3 else (month : Int) + 9
  let doy := (153 * mp + 2) / 5 + (day : Int) - 1
  let doe := yoe * 365 + yoe / 4 - yoe / 100 + doy
  era * 146097 + doe - 719468

/-- The calendar date `(year, month, day)` of a day count since 1970-01-01. -/
def civilFromDays (z : Int) : Int × Nat × Nat :=
  let z := z + 719468
  let era := z / 146097
  let doe := z - era * 146097
  let yoe := (doe - doe / 1460 + doe / 36524 - doe / 146096) / 365
  let y := yoe + era * 400
  let doy := doe - (365 * yoe + yoe / 4 - yoe / 100)
  let mp := (5 * doy + 2) / 153
  let d := doy - (153 * mp + 2) / 5 + 1
  let m := if mp < 10 then mp + 3 else mp - 9
  ((if m ≤ 2 then y + 1 else y), m.toNat, d.toNat)

end Herald.Time

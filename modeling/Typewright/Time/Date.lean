/-
Calendar dates of the years 1 to 9999, and weeks of the year.
-/
import Typewright.Number.Digits

namespace Typewright.Time

/-- Whether a year has 366 days. -/
def isLeap (year : Nat) : Bool := year % 4 == 0 && (year % 100 != 0 || year % 400 == 0)

/-- The number of days of a month. -/
def daysInMonth (year month : Nat) : Nat :=
  match month with
  | 2 => if isLeap year then 29 else 28
  | 4 => 30
  | 6 => 30
  | 9 => 30
  | 11 => 30
  | _ => 31

/-- Whether a year, a month and a day make a date. -/
def isDate (year month day : Nat) : Bool :=
  1 ≤ year && year ≤ 9999 && 1 ≤ month && month ≤ 12 && 1 ≤ day && day ≤ daysInMonth year month

/-- A calendar date. -/
structure Date where
  year : Nat
  month : Nat
  day : Nat
  valid : isDate year month day = true
deriving DecidableEq

namespace Date

/-- The date of a year, a month and a day. -/
def of? (year month day : Nat) : Option Date :=
  if h : isDate year month day = true then some ⟨year, month, day, h⟩ else none

/-- The date as `YYYY-MM-DD`. -/
def chars (d : Date) : List Char :=
  Number.padded 4 d.year ++ '-' :: Number.padded 2 d.month ++ '-' :: Number.padded 2 d.day

/-- The date as `YYYY-MM-DD`. -/
def text (d : Date) : String := String.ofList d.chars

end Date

/-! ## Counting days -/

/-- The number of days of the years before a year. -/
def daysBeforeYear (year : Nat) : Nat :=
  let y := year - 1
  y * 365 + y / 4 - y / 100 + y / 400

/-- The number of days of a year before a month. -/
def daysBeforeMonth (year month : Nat) : Nat :=
  (List.range (month - 1)).foldl (fun n m => n + daysInMonth year (m + 1)) 0

/-- The number of a day, where the first day of the year 1 is day 1. -/
def dayNumber (year month day : Nat) : Nat :=
  daysBeforeYear year + daysBeforeMonth year month + day

/-- The day of the week of a date, where Monday is 0. -/
def weekday (year month day : Nat) : Nat := (dayNumber year month day + 6) % 7

/-- The number of the Monday of the first week of a year: the week that holds its first
Thursday. -/
def firstMonday (year : Nat) : Int :=
  let first : Int := dayNumber year 1 1
  let w : Int := weekday year 1 1
  if w ≤ 3 then first - w else first - w + 7

/-- The number of weeks of a year. -/
def weeksInYear (year : Nat) : Nat :=
  let w := weekday year 1 1
  if w == 3 || (w == 2 && isLeap year) then 53 else 52

/-- The month and the day of the month of a day of a year, counted from 0. -/
def monthOfDay (year : Nat) : Nat → Nat → Nat → Nat × Nat
  | 0, month, rest => (month, rest + 1)
  | months + 1, month, rest =>
    let n := daysInMonth year month
    if rest < n then (month, rest + 1) else monthOfDay year months (month + 1) (rest - n)

/-- The date of a day number. -/
def ofDayNumber? (n : Int) : Option Date :=
  if n < 1 then none
  else
    let guess := n.toNat / 366 + 1
    let year := ((List.range 40).map (guess + ·)).foldl
      (fun y c => if daysBeforeYear c < n.toNat then c else y) guess
    let (month, day) := monthOfDay year 11 1 (n.toNat - daysBeforeYear year - 1)
    Date.of? year month day

/-- The date of a day of a week of a year. -/
def ofWeek? (year week day : Nat) : Option Date :=
  if year < 1 || 9999 < year || week < 1 || weeksInYear year < week || day < 1 || 7 < day then none
  else ofDayNumber? (firstMonday year + ((week - 1) * 7 + (day - 1) : Nat))

end Typewright.Time

/-
Moments: a date and a time of day, with or without an offset from universal time.
-/
import Typewright.Time.Date

namespace Typewright.Time

/-- The microseconds of a second. -/
def second : Nat := 1000000

/-- The microseconds of a day. -/
def day : Nat := 86400 * second

/-- Whether the parts make a time of day. -/
def isTime (hour minute sec micro : Nat) : Bool :=
  hour < 24 && minute < 60 && sec < 60 && micro < second

/-- Whether an offset is less than a day either way. -/
def isOffset (offset : Option Int) : Bool := offset.all fun x => x.natAbs < day

/-- A date and a time of day; `offset` is how far its clock is ahead of universal time, in
microseconds. -/
structure Moment where
  date : Date
  hour : Nat
  minute : Nat
  sec : Nat
  micro : Nat
  offset : Option Int
  validTime : isTime hour minute sec micro = true
  validOffset : isOffset offset = true
deriving DecidableEq

namespace Moment

/-- The moment of a date, a time of day and an offset. -/
def of? (date : Date) (hour minute sec micro : Nat) (offset : Option Int) : Option Moment :=
  if h : isTime hour minute sec micro = true then
    if k : isOffset offset = true then some ⟨date, hour, minute, sec, micro, offset, h, k⟩
    else none
  else none

/-- Microseconds from the start of the year 1, by the clock of the moment. -/
def clock (m : Moment) : Int :=
  dayNumber m.date.year m.date.month m.date.day * day +
    ((m.hour * 3600 + m.minute * 60 + m.sec) * second + m.micro : Nat)

/-- Two moments are the same: both without an offset and with one clock, or both with an offset
and at one point of universal time. -/
def same (a b : Moment) : Bool :=
  match a.offset, b.offset with
  | none, none => a.clock == b.clock
  | some x, some y => a.clock - x == b.clock - y
  | _, _ => false

/-- Hours, minutes and, where they are not zero, seconds and microseconds. -/
def offsetChars (offset : Int) : List Char :=
  let n := offset.natAbs
  let secs := n / second
  let micro := n % second
  let body := Number.padded 2 (secs / 3600) ++ ':' :: Number.padded 2 (secs / 60 % 60)
  let body := if secs % 60 == 0 && micro == 0 then body else body ++ ':' :: Number.padded 2 (secs % 60)
  let body := if micro == 0 then body else body ++ '.' :: Number.padded 6 micro
  (if offset < 0 then '-' else '+') :: body

/-- The time of day, with microseconds where they are not zero. -/
def timeChars (m : Moment) : List Char :=
  Number.padded 2 m.hour ++ ':' :: Number.padded 2 m.minute ++ ':' :: Number.padded 2 m.sec ++
    (if m.micro == 0 then [] else '.' :: Number.padded 6 m.micro)

/-- The moment with a character between date and time. -/
def chars (separator : Char) (m : Moment) : List Char :=
  m.date.chars ++ separator :: m.timeChars ++ (m.offset.map offsetChars).getD []

/-- The moment in the notation of ISO 8601. -/
def iso (m : Moment) : String := String.ofList (m.chars 'T')

/-- The moment with a space between date and time. -/
def text (m : Moment) : String := String.ofList (m.chars ' ')

end Moment

end Typewright.Time

/-
Dates and moments as YAML writes them.

A date is `YYYY-M-D`; a time of day may follow after a `T` or blanks, with a fraction of any length
and an offset. The parts are read before they are judged.
-/
import Typewright.Time.Moment

namespace Typewright.Yaml

/-- The offset at the end of a time: none, universal time, or a sign with hours and minutes. -/
inductive Offset where
  | none
  | universal
  | shift (neg : Bool) (hour minute : Nat)
deriving Repr, DecidableEq

/-- The time of day of a timestamp, with the digits of its fraction. -/
structure Clock where
  hour : Nat
  minute : Nat
  sec : Nat
  fraction : List Char
  offset : Offset
deriving Repr, DecidableEq

/-- A date as it is written, with the time of day if there is one. -/
structure Timestamp where
  year : Nat
  month : Nat
  day : Nat
  clock : Option Clock
deriving Repr, DecidableEq

namespace Timestamp

/-- Takes exactly `n` digits. -/
def digits? (n : Nat) (s : List Char) : Option (Nat × List Char) :=
  let ds := (s.take n).takeWhile Text.isAsciiDigit
  if ds.length == n then some (Number.decimalValue ds, s.drop n) else none

/-- Takes one or two digits. -/
def oneOrTwo? (s : List Char) : Option (Nat × List Char) :=
  let ds := (s.take 2).takeWhile Text.isAsciiDigit
  if ds.isEmpty then none else some (Number.decimalValue ds, s.drop ds.length)

/-- Takes a character. -/
def mark? (c : Char) : List Char → Option (List Char)
  | [] => none
  | d :: r => if d == c then some r else none

/-- A space or a tab. -/
def isSpace (c : Char) : Bool := c == ' ' || c == '\t'

/-- Reads the offset that ends a text. -/
def offset? (s : List Char) : Option Offset :=
  if s.isEmpty then some .none
  else match s.dropWhile isSpace with
    | ['Z'] => some .universal
    | sign :: r =>
      if sign == '-' || sign == '+' then
        match oneOrTwo? r with
        | some (hour, []) => some (.shift (sign == '-') hour 0)
        | some (hour, ':' :: r) =>
          match digits? 2 r with
          | some (minute, []) => some (.shift (sign == '-') hour minute)
          | _ => none
        | _ => none
      else none
    | [] => none

/-- Reads the time of day that ends a text. -/
def clock? (s : List Char) : Option Clock := do
  let (hour, s) ← oneOrTwo? s
  let (minute, s) ← digits? 2 (← mark? ':' s)
  let (sec, s) ← digits? 2 (← mark? ':' s)
  let (fraction, s) := match s with
    | '.' :: r => (r.takeWhile Text.isAsciiDigit, r.dropWhile Text.isAsciiDigit)
    | r => ([], r)
  some ⟨hour, minute, sec, fraction, ← offset? s⟩

/-- Reads the date of a timestamp; answers also the text after it. -/
def date? (s : List Char) : Option (Nat × Nat × Nat × List Char) := do
  let (year, s) ← digits? 4 s
  let (month, s) ← oneOrTwo? (← mark? '-' s)
  let (day, s) ← oneOrTwo? (← mark? '-' s)
  some (year, month, day, s)

/-- Takes what stands between date and time: a `T`, or blanks. -/
def gap? : List Char → Option (List Char)
  | [] => none
  | c :: r =>
    if c == 'T' || c == 't' then some r
    else if isSpace c then some (r.dropWhile isSpace)
    else none

/-- Reads a timestamp. -/
def read? (s : List Char) : Option Timestamp := do
  let (year, month, day, s) ← date? s
  if s.isEmpty then some ⟨year, month, day, none⟩
  else some ⟨year, month, day, some (← clock? (← gap? s))⟩

/-- The microseconds of a fraction of a second; digits after the sixth are passed over. -/
def micros (fraction : List Char) : Nat :=
  let ds := fraction.take 6
  Number.decimalValue (ds ++ List.replicate (6 - ds.length) '0')

/-- An offset in microseconds. -/
def shift : Offset → Option Int
  | .none => none
  | .universal => some 0
  | .shift neg hour minute =>
    let size : Int := (hour * 3600 + minute * 60) * Time.second
    some (if neg then -size else size)

/-- The date of a timestamp. -/
def toDate? (t : Timestamp) : Option Time.Date := Time.Date.of? t.year t.month t.day

/-- The moment of a date with a time of day. -/
def toMoment? (t : Timestamp) (c : Clock) : Option Time.Moment := do
  Time.Moment.of? (← t.toDate?) c.hour c.minute c.sec (micros c.fraction) (shift c.offset)

end Timestamp

end Typewright.Yaml

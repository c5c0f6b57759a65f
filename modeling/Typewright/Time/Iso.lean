/-
Reading moments in the notations of ISO 8601.

The date is `YYYY-MM-DD`, `YYYYMMDD` or a day of a week, `YYYY-Www-D` and its shorter forms; any
character may stand between date and time. The time is `HH`, `HH:MM` or `HH:MM:SS`, with or without
the colons, and a fraction after a point or comma; digits after the sixth are passed over. The text
is read as its bytes, past whose end every byte is zero.
-/
import Typewright.Time.Moment

namespace Typewright.Time.Iso

/-- The bytes of a text. -/
abbrev Bytes := List Nat

/-- The byte at a position; behind the end it is zero. -/
def byteAt (s : Bytes) (i : Nat) : Nat := s.getD i 0

/-- The byte of an ASCII character. -/
def code (c : Char) : Nat := c.toNat

/-- Whether a byte is one of the digits `0` to `9`. -/
def isDigitByte (b : Nat) : Bool := 48 ≤ b && b ≤ 57

/-- Reads exactly `n` digits as a number. -/
def digits? : Nat → Bytes → Option (Nat × Bytes)
  | n, s => go n 0 s
where
  go : Nat → Nat → Bytes → Option (Nat × Bytes)
    | 0, v, s => some (v, s)
    | n + 1, v, b :: s => if isDigitByte b then go n (v * 10 + (b - 48)) s else none
    | _ + 1, _, [] => none

/-! ## Where the date ends -/

/-- The length of a date with a week number and no dashes: with an even number of digits up to the
first other byte the last digit is no day. -/
def compactWeekEnd (s : Bytes) : Nat :=
  let pos := 7 + ((s.drop 7).takeWhile isDigitByte).length
  if pos < 9 then pos else if pos % 2 == 0 then 7 else 8

/-- The length of the date at the start of a text of at least seven bytes. -/
def dateEnd? (s : Bytes) : Option Nat :=
  let n := s.length
  if n == 7 then some 7
  else if byteAt s 4 == code '-' then
    if byteAt s 5 == code 'W' then
      if n < 8 then none
      else if byteAt s 8 == code '-' then
        if n == 9 then none
        else if isDigitByte (byteAt s 10) then some 8
        else some 10
      else some 8
    else some 10
  else if byteAt s 4 == code 'W' then some (compactWeekEnd s)
  else some 8

/-! ## Dates -/

/-- Reads the date that takes the first `len` bytes. -/
def date? (s : Bytes) (len : Nat) : Option Date := do
  let (year, r) ← digits? 4 s
  let dashed := byteAt r 0 == code '-'
  let r := if dashed then r.drop 1 else r
  if byteAt r 0 == code 'W' then
    let (week, r) ← digits? 2 (r.drop 1)
    if s.length - r.length < len then
      if dashed && byteAt r 0 != code '-' then none
      let (d, _) ← digits? 1 (if dashed then r.drop 1 else r)
      ofWeek? year week d
    else ofWeek? year week 1
  else
    let (month, r) ← digits? 2 r
    if dashed && byteAt r 0 != code '-' then none
    let (d, r) ← digits? 2 (if dashed then r.drop 1 else r)
    if s.length - r.length == len then Date.of? year month d else none

/-! ## Times -/

/-- A time of day as it is written, before its range is checked. -/
structure Clock where
  hour : Nat
  minute : Nat
  sec : Nat
  micro : Nat
  /-- Whether bytes of another kind follow. -/
  more : Bool

/-- The part of a clock with an index. -/
def Clock.set (c : Clock) (i v : Nat) : Clock :=
  match i with
  | 0 => { c with hour := v }
  | 1 => { c with minute := v }
  | _ => { c with sec := v }

/-- Reads the fraction of a second that ends `left` bytes further on. -/
def fraction? (c : Clock) (left : Nat) (s : Bytes) : Option Clock := do
  let n := min left 6
  let (v, r) ← digits? n s
  let rest := r.dropWhile isDigitByte
  some { c with micro := v * Number.tenTo (6 - n), more := byteAt rest 0 != 0 }

/-- Reads the parts of a clock from index `i` on; `left` is the number of bytes up to its end. -/
def clockParts? (parts i : Nat) (colons : Bool) (c : Clock) (left : Nat) (s : Bytes) : Option Clock :=
  match parts with
  | 0 => fraction? c left s
  | parts + 1 => do
    let (v, r) ← digits? 2 s
    let c := c.set i v
    let b := byteAt r 0
    let colons := if i == 0 then b == code ':' else colons
    if left ≤ 3 then some { c with more := b != 0 }
    else if colons && b == code ':' then clockParts? parts (i + 1) colons c (left - 3) (r.drop 1)
    else if b == code '.' || b == code ',' then fraction? c (left - 3) (r.drop 1)
    else if !colons then clockParts? parts (i + 1) colons c (left - 2) r
    else none

/-- Reads a clock that takes the first `left` bytes. -/
def clock? (left : Nat) (s : Bytes) : Option Clock := clockParts? 3 0 true ⟨0, 0, 0, 0, false⟩ left s

/-- Whether a byte starts an offset. -/
def startsOffset (b : Nat) : Bool := b == code '+' || b == code '-' || b == code 'Z'

/-- Reads a time of day with or without an offset. -/
def time? (s : Bytes) : Option (Clock × Option Int) := do
  let first := match s with
    | [] => []
    | b :: r => if startsOffset b then [] else b :: r.takeWhile (!startsOffset ·)
  let left := if s.isEmpty then 1 else first.length
  let c ← clock? left s
  match s.drop first.length with
  | [] => if c.more then none else some (c, none)
  | b :: r =>
    if b == code 'Z' then
      if r.isEmpty then some (c, some 0) else none
    else
      let o ← clock? r.length r
      if o.more then none
      let secs := o.hour * 3600 + o.minute * 60 + o.sec
      let size : Int := secs * second + o.micro
      some (c, some (if secs == 0 then 0 else if b == code '-' then -size else size))

/-- The number of bytes of the character that starts with a byte. -/
def charLength (b : Nat) : Nat :=
  if b < 0x80 then 1 else if b / 16 == 0xE then 3 else if b / 16 == 0xF then 4 else 2

/-- Reads a moment. -/
def read? (text : String) : Option Moment := do
  let s := text.toUTF8.toList.map UInt8.toNat
  if s.length < 7 then none
  let len ← dateEnd? s
  let date ← date? s len
  if s.length ≤ len then Moment.of? date 0 0 0 0 none
  else
    let (c, offset) ← time? (s.drop (len + charLength (byteAt s len)))
    Moment.of? date c.hour c.minute c.sec c.micro offset

end Typewright.Time.Iso

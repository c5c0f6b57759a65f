/-
Literals: the values of scalars, by their tags.

A tag can be given to any text, so each reader says what becomes of a text that is none of its kind.
-/
import Typewright.Number.Read
import Typewright.Text.Base64
import Typewright.Value.Basic
import Typewright.Yaml.Error
import Typewright.Yaml.Timestamp

namespace Typewright.Yaml.Literal

/-- A reader of texts. -/
abbrev Reader := List Char → Except Fault Value

/-- The truth value of a word, in either case. -/
def bool : Reader := fun s =>
  let word := String.ofList (Number.plainLower s)
  if ["yes", "true", "on"].contains word then .ok (.bool true)
  else if ["no", "false", "off"].contains word then .ok (.bool false)
  else .error .key

/-- A text without underscores. -/
def withoutGaps (s : List Char) : List Char := s.filter (· != '_')

/-- The sign of a non-empty text and the text after it. -/
def signed (s : List Char) : Except Fault (Bool × List Char) :=
  if s.isEmpty then .error .index else .ok (Number.takeSign s)

/-- A number where there is one. -/
def known {α : Type} (x : Option α) : Except Fault α :=
  match x with
  | some a => .ok a
  | none => .error .value

/-- A text without the mark of a base, a zero and a letter of either case, in front of digits. -/
def withoutMark (letter : Char) : List Char → List Char
  | '0' :: c :: d :: r => if Number.plainLower [c] == [letter] then d :: r else '0' :: c :: d :: r
  | s => s

/-- The integer that a text writes in a base whose mark has a given letter. -/
def integer (base : Nat) (letter : Char) (s : List Char) : Except Fault Int := do
  let (neg, r) := Number.takeSign (Number.plainDigits (Text.trimWhile Text.isBlank s))
  let n ← known (Number.readNat? base (withoutMark letter r))
  .ok (if neg then -(n : Int) else n)

/-- The decimal integer that a text writes. -/
def decimalInteger (s : List Char) : Except Fault Int := known (Number.readInt? 10 s)

/-- The number of digits in base sixty, the first of them first. -/
def sixties (digits : List Int) : Int := digits.foldl (fun n d => n * 60 + d) 0

/-- The integer that a text writes without its sign. -/
def magnitude (s : List Char) : Except Fault Int :=
  match s with
  | [] => .error .index
  | '0' :: 'b' :: r => integer 2 'b' r
  | '0' :: 'x' :: r => integer 16 'x' r
  | '0' :: r => if r.isEmpty then .ok 0 else integer 8 'o' s
  | _ =>
    if s.contains ':' then ((Text.splitChar ':' s).mapM decimalInteger).map sixties
    else decimalInteger s

/-- The integer that a text writes. -/
def int : Reader := fun s => do
  let (neg, r) ← signed (withoutGaps s)
  let n ← magnitude r
  .ok (.int (if neg then -n else n))

/-- The double precision number that a text writes. -/
def binary64 (s : List Char) : Except Fault Number.Binary64 :=
  known (Number.Binary64.read? (Number.plainDigits (Text.trimWhile Text.isBlank s)))

/-- The number of digits in base sixty, the last of them first; each step rounds. -/
def sixtiesFrom (sum : Number.Binary64) (weight : Nat) : List Number.Binary64 → Number.Binary64
  | [] => sum
  | d :: ds => sixtiesFrom (sum.add (d.scale weight)) (weight * 60) ds

/-- The double precision number that a text writes without its sign. -/
def floatMagnitude (s : List Char) : Except Fault Number.Binary64 :=
  if s == ".inf".toList then .ok (.inf false)
  else if s == ".nan".toList then .ok .nan
  else if s.contains ':' then do
    let ds ← (Text.splitChar ':' s).mapM binary64
    .ok (sixtiesFrom (.zero false) 1 ds.reverse)
  else binary64 s

/-- The double precision number that a text writes. -/
def float : Reader := fun s => do
  let (neg, r) ← signed (Number.plainLower (withoutGaps s))
  let x ← floatMagnitude r
  .ok (.float (if neg then x.neg else x))

/-- The date or moment that a text writes. -/
def timestamp : Reader := fun s => do
  let line := if s.getLast? == some '\n' then s.dropLast else s
  match Timestamp.read? line with
  | none => .error .attribute
  | some t =>
    match t.clock with
    | none => (known t.toDate?).map Value.date
    | some c => (known (t.toMoment? c)).map Value.moment

/-- The first characters in a row that are not ASCII: how many come before them, and they. -/
def foreign (s : List Char) : Option (Nat × List Char) :=
  let before := (s.takeWhile fun c => c.toNat < 0x80).length
  match (s.drop before).takeWhile fun c => 0x80 ≤ c.toNat with
  | [] => none
  | cs => some (before, cs)

/-- Why characters that are not ASCII cannot be used, in words. -/
def foreignMessage (before : Nat) (cs : List Char) : String :=
  "'ascii' codec can't encode " ++
    (match cs with
    | [c] => "character '" ++ String.ofList (Text.codePointEscape c) ++ "' in position " ++
        Nat.repr before
    | _ => "characters in position " ++ Nat.repr before ++ "-" ++
        Nat.repr (before + cs.length - 1)) ++
    ": ordinal not in range(128)"

/-- The bytes that a text writes in base 64. -/
def bytes (s : List Char) : Except Problem Value :=
  match foreign s with
  | some (before, cs) => .error (.notAscii (foreignMessage before cs))
  | none =>
    match Text.Base64.decode s with
    | .ok bs => .ok (.bytes bs)
    | .error e => .error (.notBase64 e.message)

end Typewright.Yaml.Literal

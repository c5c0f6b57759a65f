/-
Reading JSON.

Each reader takes the text that is left and answers what it read with the text after it, so that
the place of an error is the text left there. Besides the standard's numbers the words `NaN`,
`Infinity` and `-Infinity` are read. Of the entries of an object with one name the last one
counts, at the place of the first.
-/
import Typewright.Json.Error
import Typewright.Number.Read
import Typewright.Value.Basic

namespace Typewright.Json

/-- White space between tokens. -/
def isSpace (c : Char) : Bool := c == ' ' || c == '\t' || c == '\n' || c == '\r'

/-- The text after white space. -/
def skipSpace (s : List Char) : List Char := s.dropWhile isSpace

/-! ## Strings -/

/-- Reads four hexadecimal digits that are followed by something. -/
def codeUnit? : List Char → Option (Nat × List Char)
  | a :: b :: c :: d :: e :: r => (Number.readNat? 16 [a, b, c, d]).map fun n => (n, e :: r)
  | _ => none

/-- The character of a pair of code units. -/
def joinUnits (high low : Nat) : Nat := 0x10000 + (high - 0xD800) * 0x400 + (low - 0xDC00)

/-- Reads the code units of an escape after its letter: one of them, or two that form a pair. -/
def escapedChar? (s : List Char) : Option (Char × List Char) :=
  match codeUnit? s with
  | none => none
  | some (n, r) =>
    let alone := some (Char.ofNat n, r)
    if 0xD800 ≤ n && n ≤ 0xDBFF then
      match r with
      | '\\' :: 'u' :: r =>
        match codeUnit? r with
        | some (low, r) =>
          if 0xDC00 ≤ low && low ≤ 0xDFFF then some (Char.ofNat (joinUnits n low), r) else alone
        | none => alone
      | _ => alone
    else alone

/-- The character that a letter stands for after a backslash. -/
def simpleEscape? : Char → Option Char
  | '"' => some '"'
  | '\\' => some '\\'
  | '/' => some '/'
  | 'b' => some '\x08'
  | 'f' => some '\x0c'
  | 'n' => some '\n'
  | 'r' => some '\r'
  | 't' => some '\t'
  | _ => none

/-- Reads the rest of a string; `start` is the text from its opening quote on, and `done` holds
the characters read so far in reverse. -/
def stringRest (start : List Char) : Nat → List Char → List Char → Except Stop (String × List Char)
  | 0, _, _ => .error (.malformed .unterminated start)
  | fuel + 1, done, s =>
    match s with
    | [] => .error (.malformed .unterminated start)
    | '"' :: r => .ok (String.ofList done.reverse, r)
    | ['\\'] => .error (.malformed .unterminated start)
    | '\\' :: 'u' :: r =>
      match escapedChar? r with
      | some (c, r) => stringRest start fuel (c :: done) r
      | none => .error (.malformed .codeUnit ('u' :: r))
    | '\\' :: c :: r =>
      match simpleEscape? c with
      | some d => stringRest start fuel (d :: done) r
      | none => .error (.malformed .escape s)
    | c :: r =>
      if c.toNat < 0x20 then .error (.malformed .control s)
      else stringRest start fuel (c :: done) r

/-! ## Numbers -/

/-- Reads the digits of an integer without its sign: a zero, or digits of which the first is not
zero. -/
def wholePart? : List Char → Option (List Char × List Char)
  | [] => none
  | c :: r =>
    if c == '0' then some (['0'], r)
    else if Text.isAsciiDigit c then
      some (c :: r.takeWhile Text.isAsciiDigit, r.dropWhile Text.isAsciiDigit)
    else none

/-- Reads the digits after a point, if there are any. -/
def fractionPart : List Char → List Char × List Char
  | '.' :: r =>
    match r.takeWhile Text.isAsciiDigit with
    | [] => ([], '.' :: r)
    | ds => (ds, r.dropWhile Text.isAsciiDigit)
  | s => ([], s)

/-- Reads an exponent, if there is one. -/
def exponentPart? : List Char → Option (Int × List Char)
  | e :: r =>
    if e == 'e' || e == 'E' then
      let (neg, r) :=
        match r with
        | '+' :: r => (false, r)
        | '-' :: r => (true, r)
        | r => (false, r)
      match r.takeWhile Text.isAsciiDigit with
      | [] => none
      | ds =>
        let n : Int := Number.decimalValue ds
        some (if neg then -n else n, r.dropWhile Text.isAsciiDigit)
    else none
  | [] => none

/-- Reads a number after its sign, if there is one. -/
def unsigned? (neg : Bool) (s : List Char) : Option (Except Stop (Value × List Char)) := do
  let (whole, r) ← wholePart? s
  let (fraction, r) := fractionPart r
  let float (exponent : Int) : Value :=
    .float (.ofDecimal neg (Number.decimalValue (whole ++ fraction)) (exponent - fraction.length))
  match exponentPart? r with
  | some (e, r) => some (.ok (float e, r))
  | none =>
    if !fraction.isEmpty then some (.ok (float 0, r))
    else if Number.maxDigits < whole.length then some (.error .longNumeral)
    else
      let n : Int := Number.decimalValue whole
      some (.ok (.int (if neg then -n else n), r))

/-! ## Values -/

/-- The words that stand for values. -/
def words : List (String × Value) :=
  [("null", .null), ("true", .bool true), ("false", .bool false), ("NaN", .float .nan),
    ("Infinity", .float (.inf false)), ("-Infinity", .float (.inf true))]

/-- Reads a word, if one is there. -/
def word? (s : List Char) : Option (Value × List Char) :=
  (words.find? fun w => w.1.toList.isPrefixOf s).map fun w => (w.2, s.drop w.1.length)

/-- Reads a value that has no parts. -/
def scalar (s : List Char) : Except Stop (Value × List Char) :=
  match word? s with
  | some r => .ok r
  | none =>
    let number :=
      match s with
      | '-' :: r => unsigned? true r
      | r => unsigned? false r
    number.getD (.error (.malformed .value s))

/-- How deeply values may be nested. -/
def maxDepth : Nat := 980

mutual

/-- Reads a value. The first number bounds the length of the text and the second one how deeply
values may still be nested. -/
def value : Nat → Nat → List Char → Except Stop (Value × List Char)
  | 0, _, s => .error (.malformed .value s)
  | fuel + 1, depth, s =>
    match s with
    | '"' :: r => do
      let (t, r) ← stringRest s (r.length + 1) [] r
      return (.text t, r)
    | '[' :: r =>
      match depth with
      | 0 => .error .tooDeep
      | depth + 1 =>
        match skipSpace r with
        | ']' :: r => .ok (.list [], r)
        | r => do
          let (vs, r) ← items fuel depth [] r
          return (.list vs, r)
    | '\x7b' :: r =>
      match depth with
      | 0 => .error .tooDeep
      | depth + 1 =>
        match skipSpace r with
        | '\x7d' :: r => .ok (.map [], r)
        | r => do
          let (es, r) ← entries fuel depth [] r
          return (.map es, r)
    | s => scalar s

/-- Reads the items of an array, up to its closing bracket. -/
def items : Nat → Nat → List Value → List Char → Except Stop (List Value × List Char)
  | 0, _, _, s => .error (.malformed .value s)
  | fuel + 1, depth, done, s => do
    let (v, r) ← value fuel depth s
    match skipSpace r with
    | ']' :: r => return ((v :: done).reverse, r)
    | ',' :: r => items fuel depth (v :: done) (skipSpace r)
    | r => throw (.malformed .comma r)

/-- Reads the entries of an object, up to its closing bracket. -/
def entries : Nat → Nat → List (Value × Value) → List Char →
    Except Stop (List (Value × Value) × List Char)
  | 0, _, _, s => .error (.malformed .value s)
  | fuel + 1, depth, done, s =>
    match s with
    | '"' :: r => do
      let (name, r) ← stringRest s (r.length + 1) [] r
      match skipSpace r with
      | ':' :: r =>
        let (v, r) ← value fuel depth (skipSpace r)
        let done := Value.insert (.text name) v done
        match skipSpace r with
        | '\x7d' :: r => return (done, r)
        | ',' :: r => entries fuel depth done (skipSpace r)
        | r => throw (.malformed .comma r)
      | r => throw (.malformed .colon r)
    | s => .error (.malformed .name s)

end

/-- Reads a text that is one value with white space around it. -/
def document (s : List Char) : Except Stop Value :=
  match s with
  | '\uFEFF' :: _ => .error (.malformed .byteOrderMark s)
  | _ => do
    let (v, r) ← value (2 * s.length + 2) maxDepth (skipSpace s)
    match skipSpace r with
    | [] => return v
    | r => throw (.malformed .extra r)

/-- Reads a JSON document. -/
def read (text : String) : Except Error Value :=
  match document text.toList with
  | .ok v => .ok v
  | .error (.malformed cause rest) => .error (.malformed (.at text.toList rest cause))
  | .error .longNumeral => .error .longNumeral
  | .error .tooDeep => .error .tooDeep

end Typewright.Json

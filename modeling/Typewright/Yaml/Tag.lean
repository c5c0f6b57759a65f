/-
Tags: what kind of value a node of a YAML document stands for.

A plain scalar without a tag gets one from its text. A text with one line feed at its end is judged
without that line feed.
-/
import Typewright.Text.Edit
import Typewright.Yaml.Timestamp

namespace Typewright.Yaml

/-- What a node stands for. -/
inductive Tag where
  | null
  | bool
  | int
  | float
  | binary
  | timestamp
  | orderedMap
  | pairs
  | set
  | text
  | sequence
  | mapping
  | merge
  | value
  | yaml
  | other (name : String)
deriving Repr, DecidableEq

namespace Tag

/-- What the names of the known tags start with. -/
def standard : String := "tag:yaml.org,2002:"

/-- The known tags with the ends of their names. -/
def known : List (String × Tag) :=
  [("null", .null), ("bool", .bool), ("int", .int), ("float", .float), ("binary", .binary),
    ("timestamp", .timestamp), ("omap", .orderedMap), ("pairs", .pairs), ("set", .set),
    ("str", .text), ("seq", .sequence), ("map", .mapping), ("merge", .merge), ("value", .value),
    ("yaml", .yaml)]

/-- The tag of a name. -/
def ofName (name : String) : Tag :=
  ((known.find? fun k => standard ++ k.1 == name).map (·.2)).getD (.other name)

/-- The name of a tag. -/
def name : Tag → String
  | .other name => name
  | t => ((known.find? fun k => k.2 == t).map fun k => standard ++ k.1).getD standard

/-! ## Tags from texts -/

/-- A text without the sign in front of it. -/
def unsigned : List Char → List Char
  | '-' :: r => r
  | '+' :: r => r
  | s => s

/-- A digit or an underscore. -/
def isDigitOrGap (c : Char) : Bool := Text.isAsciiDigit c || c == '_'

/-- Whether a text is a number below sixty in one or two digits. -/
def isSixtieth : List Char → Bool
  | [c] => Text.isAsciiDigit c
  | [c, d] => '0' ≤ c && c ≤ '5' && Text.isAsciiDigit d
  | _ => false

/-- Whether a text is one or more numbers below sixty with a colon before each of them. -/
def areSixtieths (s : List Char) : Bool :=
  match Text.splitChar ':' s with
  | [] :: first :: more => (first :: more).all isSixtieth
  | _ => false

/-- Whether a text is a truth value. -/
def isBool (s : List Char) : Bool :=
  ["yes", "Yes", "YES", "no", "No", "NO", "true", "True", "TRUE", "false", "False", "FALSE",
    "on", "On", "ON", "off", "Off", "OFF"].contains (String.ofList s)

/-- Whether a text is not empty and all of its characters pass a test. -/
def isRun (p : Char → Bool) (s : List Char) : Bool := !s.isEmpty && s.all p

/-- Whether a text is an integer: binary, octal, hexadecimal, decimal or in base sixty. -/
def isInt (s : List Char) : Bool :=
  match unsigned s with
  | '0' :: 'b' :: r => isRun (fun c => c == '0' || c == '1' || c == '_') r
  | '0' :: 'x' :: r => isRun (fun c => (Number.digitIn? 16 c).isSome || c == '_') r
  | '0' :: r => r.all fun c => (Number.digitIn? 8 c).isSome || c == '_'
  | c :: r =>
    let rest := r.dropWhile isDigitOrGap
    Text.isAsciiDigit c && (rest.isEmpty || areSixtieths rest)
  | [] => false

/-- Whether a text is empty or an exponent with a sign. -/
def isExponent : List Char → Bool
  | [] => true
  | e :: sign :: digits =>
    (e == 'e' || e == 'E') && (sign == '-' || sign == '+') && isRun Text.isAsciiDigit digits
  | _ => false

/-- Whether a text is a number with a point. -/
def isFloat (s : List Char) : Bool :=
  match unsigned s with
  | '.' :: r =>
    ["inf", "Inf", "INF"].contains (String.ofList r) ||
      (s.head? == some '.' &&
        (["nan", "NaN", "NAN"].contains (String.ofList r) ||
          ((r.head?.any Text.isAsciiDigit) && isExponent (r.dropWhile isDigitOrGap))))
  | c :: r =>
    Text.isAsciiDigit c &&
      match r.dropWhile isDigitOrGap with
      | '.' :: r => isExponent (r.dropWhile isDigitOrGap)
      | r =>
        areSixtieths (r.takeWhile (· != '.')) &&
          match r.dropWhile (· != '.') with
          | '.' :: r => r.all isDigitOrGap
          | _ => false
  | [] => false

/-- Whether a text stands for nothing. -/
def isNull (s : List Char) : Bool := ["~", "null", "Null", "NULL"].contains (String.ofList s)

/-- Whether a text is a date in ten characters, or a date with a time. -/
def isTimestamp (s : List Char) : Bool :=
  (Timestamp.read? s).any fun t => t.clock.isSome || s.length == 10

/-- The tag of a text without a line feed at its end. -/
def ofLine (s : List Char) : Tag :=
  if isBool s then .bool
  else if isFloat s then .float
  else if isInt s then .int
  else if s == ['<', '<'] then .merge
  else if isNull s then .null
  else if isTimestamp s then .timestamp
  else if s == ['='] then .value
  else if s == ['!'] || s == ['&'] || s == ['*'] then .yaml
  else .text

/-- A text without the line feed at its end. -/
def dropLineFeed (s : List Char) : List Char :=
  if s.getLast? == some '\n' then s.dropLast else s

/-- The tag of a plain scalar. -/
def ofPlain (s : List Char) : Tag := if s.isEmpty then .null else ofLine (dropLineFeed s)

end Tag

end Typewright.Yaml

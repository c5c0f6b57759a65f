/-
Texts of values.

`Value.display` shows a value so that its kind can be seen: texts are quoted and dates are named.
`Value.plain` is the plain text of a value, which for a text is the text itself.
-/
import Typewright.Text.Edit
import Typewright.Value.Basic

namespace Typewright

namespace Time

/-- The days, seconds and microseconds of an offset that are not zero. -/
def offsetParts (offset : Int) : List String :=
  let days := offset.fdiv day
  let rest := (offset.fmod day).toNat
  let part (name : String) (n : Int) : List String :=
    if n == 0 then [] else [name ++ "=" ++ Number.intText n]
  part "days" days ++ part "seconds" (rest / second : Nat) ++ part "microseconds" (rest % second : Nat)

/-- An offset, shown with its kind. -/
def displayOffset (offset : Int) : String :=
  if offset == 0 then "datetime.timezone.utc"
  else "datetime.timezone(datetime.timedelta(" ++ Text.join ", " (offsetParts offset) ++ "))"

/-- A date, shown with its kind. -/
def Date.display (d : Date) : String :=
  "datetime.date(" ++ Text.join ", " ([d.year, d.month, d.day].map Nat.repr) ++ ")"

/-- A moment, shown with its kind; seconds and microseconds are left out from the end while they
are zero. -/
def Moment.display (m : Moment) : String :=
  let parts := [m.date.year, m.date.month, m.date.day, m.hour, m.minute] ++
    (if m.micro != 0 then [m.sec, m.micro] else if m.sec != 0 then [m.sec] else [])
  let offset := (m.offset.map fun x => ["tzinfo=" ++ displayOffset x]).getD []
  "datetime.datetime(" ++ Text.join ", " (parts.map Nat.repr ++ offset) ++ ")"

end Time

namespace Value

/-- A truth value as a word. -/
def boolText (b : Bool) : String := if b then "True" else "False"

mutual

/-- A value, shown with its kind. -/
def display : Value → String
  | .null => "None"
  | .bool b => boolText b
  | .num n => n.display
  | .text s => Text.quoted s
  | .bytes bs => Text.quotedBytes bs
  | .date d => d.display
  | .moment m => m.display
  | .list items => "[" ++ Text.join ", " (displays items) ++ "]"
  | .tuple items =>
    match displays items with
    | [one] => "(" ++ one ++ ",)"
    | many => "(" ++ Text.join ", " many ++ ")"
  | .set items =>
    match displays items with
    | [] => "set()"
    | many => "\x7b" ++ Text.join ", " many ++ "\x7d"
  | .map entries => "\x7b" ++ Text.join ", " (displayEntries entries) ++ "\x7d"
  | .object _ content => "<" ++ content.display ++ ">"

/-- Values, shown with their kinds. -/
def displays : List Value → List String
  | [] => []
  | v :: vs => v.display :: displays vs

/-- Entries of a mapping, shown with their kinds. -/
def displayEntries : List (Value × Value) → List String
  | [] => []
  | (k, v) :: r => (k.display ++ ": " ++ v.display) :: displayEntries r

end

mutual

/-- Whether a value has a text: all numbers in it have one. -/
def hasText : Value → Bool
  | .num n => n.hasText
  | .list items => haveTexts items
  | .tuple items => haveTexts items
  | .set items => haveTexts items
  | .map entries => entriesHaveTexts entries
  | .object _ content => content.hasText
  | _ => true

/-- Whether values have texts. -/
def haveTexts : List Value → Bool
  | [] => true
  | v :: vs => v.hasText && haveTexts vs

/-- Whether the keys and values of a mapping have texts. -/
def entriesHaveTexts : List (Value × Value) → Bool
  | [] => true
  | (k, v) :: r => k.hasText && v.hasText && entriesHaveTexts r

end

/-- The plain text of a value. -/
def plain : Value → String
  | .text s => s
  | .num n => n.text
  | .date d => d.text
  | .moment m => m.text
  | v => v.display

end Value

end Typewright

/-
# The grammar of JSON texts

Which texts write which values, told without saying how they are read.  A value that has no parts is a
string, a word or a number; on top of these, one level of lists and mappings is described for values of
any kind (`Level`), and what a text may write with a number of levels follows by recursion on it
(`Writes`).

The tokens are read one way only.  For each of them it is shown that reading takes a token of the
grammar from the front of a text, and that it takes all of it; for a number this needs that nothing
follows that could belong to it (`Apart`).
-/
import Typewright.Json.Reader
import Mathlib.Data.List.Basic

namespace Typewright.Json

/-! ## White space -/

/-- White space between tokens. -/
def Blank (s : List Char) : Prop := ∀ c ∈ s, isSpace c = true

/-! ## Strings -/

/-- A code unit and the four hexadecimal digits that write it. -/
structure CodeUnit (n : Nat) (digits : List Char) : Prop where
  length : digits.length = 4
  value : Number.readNat? 16 digits = some n

/-- The first code unit of a pair. -/
def IsHigh (n : Nat) : Prop := 0xD800 ≤ n ∧ n ≤ 0xDBFF

/-- The second code unit of a pair. -/
def IsLow (n : Nat) : Prop := 0xDC00 ≤ n ∧ n ≤ 0xDFFF

/-- A text that goes on with the second code unit of a pair. -/
def StartsLow (s : List Char) : Prop :=
  ∃ n digits r, CodeUnit n digits ∧ IsLow n ∧ s = '\\' :: 'u' :: (digits ++ r)

/-- What stands between the quotes of a string, and the characters that it writes. -/
inductive Body : List Char → List Char → Prop
  | done : Body [] []
  | plain {c : Char} {s cs : List Char} : c ≠ '"' → c ≠ '\\' → 0x20 ≤ c.toNat → Body s cs →
      Body (c :: s) (c :: cs)
  | escape {c d : Char} {s cs : List Char} : simpleEscape? c = some d → Body s cs →
      Body ('\\' :: c :: s) (d :: cs)
  | unit {n : Nat} {digits s cs : List Char} : CodeUnit n digits → (IsHigh n → ¬ StartsLow s) →
      Body s cs → Body ('\\' :: 'u' :: (digits ++ s)) (Char.ofNat n :: cs)
  | pair {high low : Nat} {digits digits' s cs : List Char} : CodeUnit high digits → IsHigh high →
      CodeUnit low digits' → IsLow low → Body s cs →
      Body ('\\' :: 'u' :: (digits ++ '\\' :: 'u' :: (digits' ++ s)))
        (Char.ofNat (joinUnits high low) :: cs)

/-! ## Numbers -/

/-- Decimal digits. -/
def Digits (s : List Char) : Prop := ∀ c ∈ s, Text.isAsciiDigit c = true

/-- The digits of an integer: a zero, or digits of which the first is not zero. -/
inductive Whole : List Char → Prop
  | zero : Whole ['0']
  | digits {c : Char} {s : List Char} : Text.isAsciiDigit c = true → c ≠ '0' → Digits s →
      Whole (c :: s)

/-- A point with digits after it, or nothing; and these digits. -/
inductive Fraction : List Char → List Char → Prop
  | none : Fraction [] []
  | point {s : List Char} : s ≠ [] → Digits s → Fraction ('.' :: s) s

/-- The sign of an exponent. -/
inductive Sign : List Char → Bool → Prop
  | none : Sign [] false
  | plus : Sign ['+'] false
  | minus : Sign ['-'] true

/-- An exponent, or nothing; and its value. -/
inductive Exponent : List Char → Int → Prop
  | none : Exponent [] 0
  | power {e : Char} {sign s : List Char} {neg : Bool} : e = 'e' ∨ e = 'E' → Sign sign neg →
      s ≠ [] → Digits s →
      Exponent (e :: (sign ++ s))
        (if neg then -(Number.decimalValue s : Int) else Number.decimalValue s)

/-- A number without its sign, and the value that it writes with the sign. -/
inductive Unsigned (neg : Bool) : List Char → Value → Prop
  | int {w : List Char} : Whole w → w.length ≤ Number.maxDigits →
      Unsigned neg w (.int (if neg then -(Number.decimalValue w : Int) else Number.decimalValue w))
  | float {w f ds e : List Char} {n : Int} : Whole w → Fraction f ds → Exponent e n →
      f ≠ [] ∨ e ≠ [] →
      Unsigned neg (w ++ (f ++ e))
        (.float (.ofDecimal neg (Number.decimalValue (w ++ ds)) (n - ds.length)))

/-! ## Values -/

/-- A word or a number. -/
inductive Atom : List Char → Value → Prop
  | word {w : String × Value} : w ∈ words → Atom w.1.toList w.2
  | positive {s : List Char} {v : Value} : Unsigned false s v → Atom s v
  | negative {s : List Char} {v : Value} : Unsigned true s v → Atom ('-' :: s) v

/-- A value that has no parts. -/
inductive Scalar : List Char → Value → Prop
  | text {s cs : List Char} : Body s cs → Scalar ('"' :: (s ++ ['"'])) (.text (String.ofList cs))
  | atom {s : List Char} {v : Value} : Atom s v → Scalar s v

/-- Members with commas between them, up to a closing bracket. -/
inductive Members {α : Type} (P : List Char → α → Prop) (close : Char) : List Char → List α → Prop
  | last {s b : List Char} {a : α} : P s a → Blank b → Members P close (s ++ (b ++ [close])) [a]
  | more {s b b' t : List Char} {a : α} {as : List α} : P s a → Blank b → Blank b' →
      Members P close t as → Members P close (s ++ (b ++ ',' :: (b' ++ t))) (a :: as)

/-- An entry of a mapping. -/
inductive Entry (P : List Char → Value → Prop) : List Char → String × Value → Prop
  | named {n cs b b' s : List Char} {v : Value} : Body n cs → Blank b → Blank b' → P s v →
      Entry P ('"' :: (n ++ '"' :: (b ++ ':' :: (b' ++ s)))) (String.ofList cs, v)

/-- The entries of a mapping: of those with one name the last one counts. -/
def collect (done : List (Value × Value)) (es : List (String × Value)) : List (Value × Value) :=
  es.foldl (fun done e => Value.insert (.text e.1) e.2 done) done

/-- One level of values: values without parts, and lists and mappings of given values. -/
inductive Level (P : List Char → Value → Prop) : List Char → Value → Prop
  | scalar {s : List Char} {v : Value} : Scalar s v → Level P s v
  | emptyList {b : List Char} : Blank b → Level P ('[' :: (b ++ [']'])) (.list [])
  | list {b s : List Char} {vs : List Value} : Blank b → Members P ']' s vs →
      Level P ('[' :: (b ++ s)) (.list vs)
  | emptyMap {b : List Char} : Blank b → Level P ('\x7b' :: (b ++ ['\x7d'])) (.map [])
  | map {b s : List Char} {es : List (String × Value)} : Blank b → Members (Entry P) '\x7d' s es →
      Level P ('\x7b' :: (b ++ s)) (.map (collect [] es))

/-- Texts that write values with no more than a number of levels of lists and mappings. -/
def Writes : Nat → List Char → Value → Prop
  | 0 => Scalar
  | depth + 1 => Level (Writes depth)

/-- A text that writes one value, with white space around it. -/
def Written (s : List Char) (v : Value) : Prop :=
  ∃ b t b', s = b ++ (t ++ b') ∧ Blank b ∧ Blank b' ∧ Writes maxDepth t v

end Typewright.Json

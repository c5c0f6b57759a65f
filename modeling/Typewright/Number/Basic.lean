/-
Numbers of the three kinds that documents and options hold: integers, double precision numbers
and decimals.

Numbers of different kinds are compared by the rationals they denote, never by rounding one to the
kind of the other.
-/
import Typewright.Number.Binary64
import Typewright.Number.Shortest
import Typewright.Number.Decimal

namespace Typewright

/-- A number: an integer, a double precision number or a decimal. -/
inductive Number where
  | int (n : Int)
  | float (x : Number.Binary64)
  | decimal (d : Number.Decimal)
deriving Repr, DecidableEq

namespace Number

/-- Where a number lies on the line of the rationals with its two ends. -/
inductive Place where
  | below
  | at (x : Rat)
  | above
  | nowhere
deriving Repr, DecidableEq

/-- The place of a number. -/
def place : Number → Place
  | .int n => .at n
  | .float .nan => .nowhere
  | .float (.inf s) => if s then .below else .above
  | .float x => (x.toRat?.map Place.at).getD .nowhere
  | .decimal (.nan ..) => .nowhere
  | .decimal (.inf s) => if s then .below else .above
  | .decimal d => (d.toRat?.map Place.at).getD .nowhere

namespace Place

/-- Strictly smaller on the line. -/
def lt : Place → Place → Bool
  | .nowhere, _ => false
  | _, .nowhere => false
  | .below, .below => false
  | .below, _ => true
  | .at _, .below => false
  | .at x, .at y => x < y
  | .at _, .above => true
  | .above, _ => false

/-- The same place on the line. -/
def same : Place → Place → Bool
  | .below, .below => true
  | .at x, .at y => x == y
  | .above, .above => true
  | _, _ => false

end Place

/-- The rational that a number denotes, if it denotes one. -/
def toRat? (n : Number) : Option Rat :=
  match n.place with
  | .at x => some x
  | _ => none

/-- One number is smaller than another. -/
def lt (a b : Number) : Bool := a.place.lt b.place

/-- Two numbers are equal. -/
def same (a b : Number) : Bool := a.place.same b.place

/-- Whether a number is a decimal that cannot be ordered. -/
def unordered : Number → Bool
  | .decimal d => d.isNaN
  | _ => false

/-- Whether a number is zero. -/
def isZero (n : Number) : Bool := n.place.same (.at 0)

/-- The text of a number. -/
def text : Number → String
  | .int n => intText n
  | .float x => x.text
  | .decimal d => d.text

/-- Whether a number has a text: an integer has none where its numeral would be too long. -/
def hasText : Number → Bool
  | .int n => n.natAbs < tenTo maxDigits
  | _ => true

/-- The first integer without a text. -/
theorem hasText_tenTo : (int (tenTo maxDigits)).hasText = false := by
  rw [hasText, Int.natAbs_natCast]
  exact decide_eq_false (Nat.lt_irrefl _)

/-- The text of a number in which a decimal shows that it is one. -/
def display : Number → String
  | .decimal d => "Decimal('" ++ d.text ++ "')"
  | n => n.text

end Number

end Typewright

/-
Regular expressions as trees, and how long the texts are that they match.
-/
import Typewright.Regex.Error

namespace Typewright.Regex

/-- Least and greatest length of what an expression matches. -/
structure Width where
  least : Nat
  greatest : Nat
deriving Repr, DecidableEq

/-- Lengths from this one on are not told apart. -/
def maxWidth : Nat := 0x10000000000000000

/-- The number that stands for no limit on repetitions. -/
def noLimit : Nat := 0xFFFFFFFF

/-- How a repetition goes on. -/
inductive Greed where
  | greedy
  | lazy
  | possessive
deriving Repr, DecidableEq

/-- The operator of a repetition. -/
def Greed.operator : Greed → String
  | .greedy => "MAX_REPEAT"
  | .lazy => "MIN_REPEAT"
  | .possessive => "POSSESSIVE_REPEAT"

/-- A part of an expression. `anchor` matches a place, `unit` one character, and `back` what a
group of a width matched. -/
inductive Node where
  | anchor
  | unit
  | back (width : Width)
  | group (body : List Node)
  | choice (branches : List (List Node))
  | look (behind : Bool) (body : List Node)
  | condition (yes : List Node) (no : Option (List Node))
  | repetition (greed : Greed) (least greatest : Nat) (body : List Node)

namespace Width

/-- The width of nothing. -/
def zero : Width := ⟨0, 0⟩

/-- The width of one thing after another. -/
def append (a b : Width) : Width := ⟨a.least + b.least, a.greatest + b.greatest⟩

/-- The width of one thing or another. -/
def either (a b : Width) : Width := ⟨min a.least b.least, max a.greatest b.greatest⟩

/-- A width without lengths that are not told apart. -/
def capped (w : Width) : Width := ⟨min w.least maxWidth, min w.greatest maxWidth⟩

/-- The width of a repetition. -/
def times (w : Width) (least greatest : Nat) : Width :=
  ⟨w.least * least,
    if greatest == noLimit && w.greatest != 0 then maxWidth else w.greatest * greatest⟩

end Width

mutual

/-- The width of a part. -/
def Node.width : Node → Width
  | .anchor => .zero
  | .unit => ⟨1, 1⟩
  | .back w => w
  | .group body => (widthOf body).capped
  | .choice branches => choiceWidth branches
  | .look .. => .zero
  | .condition yes no =>
    match no with
    | some b => (widthOf yes).capped.either (widthOf b).capped
    | none => ⟨0, (widthOf yes).capped.greatest⟩
  | .repetition _ least greatest body => (widthOf body).capped.times least greatest

/-- The width of parts after each other. -/
def widthOf : List Node → Width
  | [] => .zero
  | n :: r => n.width.append (widthOf r)

/-- The width of one of several branches. -/
def choiceWidth : List (List Node) → Width
  | [] => ⟨maxWidth, 0⟩
  | b :: r => (widthOf b).capped.either (choiceWidth r)

end

/-! ## What can be compiled -/

/-- The greatest length that can be looked behind. -/
def maxLookBehind : Nat := 0xFFFFFFFF

mutual

/-- The first part that cannot be compiled; `template` expressions repeat nothing. -/
def Node.unfit? (template : Bool) : Node → Option Cause
  | .anchor => none
  | .unit => none
  | .back _ => none
  | .group body => unfitIn? template body
  | .choice branches => unfitBranch? template branches
  | .look behind body =>
    let w := (widthOf body).capped
    if behind && maxLookBehind < w.least then some .longLookBehind
    else if behind && w.least != w.greatest then some .variableLookBehind
    else unfitIn? template body
  | .condition yes no =>
    (unfitIn? template yes).or
      (match no with
        | some b => unfitIn? template b
        | none => none)
  | .repetition greed _ _ body =>
    if template then some (.template greed.operator) else unfitIn? template body

/-- The first among parts after each other that cannot be compiled. -/
def unfitIn? (template : Bool) : List Node → Option Cause
  | [] => none
  | n :: r => (n.unfit? template).or (unfitIn? template r)

/-- The first part of branches that cannot be compiled. -/
def unfitBranch? (template : Bool) : List (List Node) → Option Cause
  | [] => none
  | b :: r => (unfitIn? template b).or (unfitBranch? template r)

end

end Typewright.Regex

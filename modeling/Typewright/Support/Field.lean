/-
Building validated fields from raw values, and taking them apart again.
-/
import Typewright.Fault
import Typewright.Value.Text

namespace Typewright.Support

/-- What makes a validated value from a raw one, if it is valid. -/
abbrev Factory := Value → Option Value

/-- A field as it is given: its name and raw value, what makes its value, and whether it may be
null or is a collection. -/
structure RawField where
  name : String
  raw : Value
  factory : Factory
  nullable : Bool
  collection : Bool := false

/-- Why a field is refused. -/
inductive Refusal where
  | required (field : String)
  | notList (field kind : String)
  | invalid (field : String) (value : Value)
  | invalidItem (field : String) (index : Nat) (value : Value)

/-- A refusal in words. -/
def Refusal.message : Refusal → String
  | .required f => f ++ ": value is required"
  | .notList f kind => f ++ ": expected a list, got " ++ kind
  | .invalid f v => f ++ ": invalid value " ++ v.display
  | .invalidItem f i v => f ++ "[" ++ Nat.repr i ++ "]: invalid value " ++ v.display

/-- The values and refusals of the items of a collection, counting from an index. -/
def buildItems (field : String) (factory : Factory) : Nat → List Value → List Value × List Refusal
  | _, [] => ([], [])
  | i, v :: r =>
    let (built, refusals) := buildItems field factory (i + 1) r
    match factory v with
    | some b => (b :: built, refusals)
    | none => (.null :: built, .invalidItem field i v :: refusals)

/-- The value of a field and why it is refused. The value is of use only if the field is not
refused. -/
def RawField.build (f : RawField) : Value × List Refusal :=
  let items (vs : List Value) : Value × List Refusal :=
    let (built, refusals) := buildItems f.name f.factory 0 vs
    (.tuple built, refusals)
  match f.raw, f.collection with
  | .null, _ => (.null, if f.nullable then [] else [.required f.name])
  | .list vs, true => items vs
  | .tuple vs, true => items vs
  | v, true => (.null, [.notList f.name v.kindName])
  | v, false =>
    match f.factory v with
    | some built => (built, [])
    | none => (.null, [.invalid f.name v])

/-- The values of fields in turn, each with the refusals of all fields up to it. -/
def buildAll : List Refusal → List RawField → List (Value × List Refusal)
  | _, [] => []
  | before, f :: r =>
    let (v, refusals) := f.build
    (v, before ++ refusals) :: buildAll (before ++ refusals) r

mutual

/-- The raw value of a validated field. -/
def unwrap : Value → Except Fault Value
  | .null => .ok .null
  | .tuple items => (unwrapItems items).map .list
  | .object .model v => .ok v
  | .object .wrapper v => .ok v
  | _ => .error .attribute

/-- The raw values of the items of a collection. -/
def unwrapItems : List Value → Except Fault (List Value)
  | [] => .ok []
  | v :: r => do
    let raw ← unwrap v
    return raw :: (← unwrapItems r)

end

/-! ## Refused values -/

/-- A value that a validated type refuses. -/
structure ValidationError where
  typeName : String
  value : Value
  reasons : List String := []

/-- A refused value in words. -/
def ValidationError.message (e : ValidationError) : String :=
  let reasons := if e.reasons.isEmpty then "" else " (" ++ Text.join "; " e.reasons ++ ")"
  "Invalid " ++ e.typeName ++ ": " ++ e.value.display ++ reasons

/-! ## Marks of validated types -/

/-- The mark of a validated type, with the boundary type that it is built from. -/
structure Mark where
  dto : Option String := none
deriving Repr, DecidableEq

/-- How a class is marked: not at all, plainly, or with a call that may name a boundary type. -/
inductive Marking where
  | none
  | bare
  | call (dto : Option String)
deriving Repr, DecidableEq

/-- The mark that a class gets. -/
def Marking.mark? : Marking → Option Mark
  | .none => Option.none
  | .bare => some {}
  | .call dto => some ⟨dto⟩

end Typewright.Support

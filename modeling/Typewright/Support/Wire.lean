/-
Values on the wire: what is decoded from JSON and encoded to it.

Nothing is validated here. Values of another shape are kept as they are.
-/
import Typewright.Time.Iso
import Typewright.Value.Basic

namespace Typewright.Support

/-- A timestamp with the letter for no offset written out. -/
def withOffset (s : List Char) : List Char :=
  match s.getLast? with
  | some c => if c == 'Z' || c == 'z' then s.dropLast ++ "+00:00".toList else s
  | none => s

/-- The moment that a text tells, or the text. -/
def parseMoment (s : String) : Value :=
  match Time.Iso.read? (String.ofList (withOffset s.toList)) with
  | some m => .moment m
  | none => .text s

mutual

/-- The value of a boundary field from the wire: mappings become boundary objects if there is a
type for them, and texts become moments where moments are meant. -/
def fromWire (hasDto isMoment : Bool) : Value → Value
  | .list items => .list (itemsFromWire hasDto isMoment items)
  | .map entries => if hasDto then .object .boundary (.map entries) else .map entries
  | .text s => if isMoment then parseMoment s else .text s
  | v => v

/-- The values of several boundary fields from the wire. -/
def itemsFromWire (hasDto isMoment : Bool) : List Value → List Value
  | [] => []
  | v :: r => fromWire hasDto isMoment v :: itemsFromWire hasDto isMoment r

end

mutual

/-- The value of a boundary field for the wire. -/
def toWire : Value → Value
  | .list items => .list (itemsToWire items)
  | .object .boundary v => v
  | .moment m => .text m.iso
  | v => v

/-- The values of several boundary fields for the wire. -/
def itemsToWire : List Value → List Value
  | [] => []
  | v :: r => toWire v :: itemsToWire r

end

end Typewright.Support

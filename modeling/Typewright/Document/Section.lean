/-
The sections of a document that are worked on.
-/
import Typewright.Fault
import Typewright.Value.Text

namespace Typewright.Document

/-- The value of a key; only mappings have keys. -/
def member (v : Value) (key : String) : Except Fault Value :=
  if v.isMap then .ok (v.get key) else .error .attribute

/-- The value of a key, or an empty mapping where it is not given. -/
def sectionOf (v : Value) (key : String) : Except Fault Value :=
  (member v key).map fun s => if s.isGiven then s else .map []

/-- The members that a collection is gone through by: the items of a list, the keys of a mapping, the
characters of a text, the numbers of a byte string. -/
def members : Value → Except Fault (List Value)
  | .list items => .ok items
  | .tuple items => .ok items
  | .set items => .ok items
  | .map entries => .ok (entries.map (·.1))
  | .text s => .ok (s.toList.map fun c => .text c.toString)
  | .bytes bs => .ok (bs.map fun b => .int b.toNat)
  | _ => .error .type

/-- The component schemas of a document, in document order. -/
def schemas (document : Value) : Except Fault (List (String × Value)) := do
  match ← sectionOf (← sectionOf document "components") "schemas" with
  | .map entries => return entries.map fun (k, v) => (k.plain, v)
  | v =>
    let _ ← members v
    throw .attribute

/-- The paths of a document, in document order. -/
def paths (document : Value) : Except Fault (List (Value × Value)) := do
  match ← sectionOf document "paths" with
  | .map entries => return entries
  | _ => throw .attribute

end Typewright.Document

/-
References inside a document.

A reference is a path from the root of the document through mappings, with `~1` for a slash and
`~0` for a tilde inside of a key.
-/
import Typewright.Fault
import Typewright.Text.Edit
import Typewright.Value.Basic

namespace Typewright

/-- A reference that leads nowhere. -/
inductive BrokenReference where
  | unsupported (ref : Value)
  | unresolvable (ref : String)
  | notMapping (ref : String)

namespace Document

/-- A key as it was before slashes and tildes were escaped. -/
def unescape (part : List Char) : List Char :=
  Text.replaceChars ['~', '0'] ['~'] (Text.replaceChars ['~', '1'] ['/'] part)

/-- The keys of a path that has slashes between them. -/
def keys (path : List Char) : List String :=
  (Text.splitChar '/' path).map fun part => String.ofList (unescape part)

/-- The value that some keys lead to, one mapping deeper with each of them. -/
def follow? : Value → List String → Option Value
  | v, [] => some v
  | v, k :: ks => (v.get? k).bind (follow? · ks)

/-- The mapping that a reference leads to. -/
def resolve (document ref : Value) : Except BrokenReference Value :=
  match ref with
  | .text s =>
    match s.toList with
    | '#' :: '/' :: path =>
      match follow? document (keys path) with
      | some target => if target.isMap then .ok target else .error (.notMapping s)
      | none => .error (.unresolvable s)
    | _ => .error (.unsupported ref)
  | _ => .error (.unsupported ref)

/-- The characters after the last slash. -/
def lastSegment (s : List Char) : List Char := (s.reverse.takeWhile (· != '/')).reverse

/-- The name that a reference ends with. -/
def targetName : Value → Except Fault String
  | .text s => .ok (String.ofList (unescape (lastSegment s.toList)))
  | .bytes _ => .error .type
  | _ => .error .attribute

end Document

end Typewright

/-
Names of operations, from their method and path.

A name is a verb, the segments of the path that are not parameters, and the resource in singular
or plural. A `get` on a path that ends with a parameter gets one resource; any other lists them.
-/
import Typewright.Name.Case

namespace Typewright.Name

/-! ## Singular and plural -/

/-- A list without its last `n` elements. -/
def dropLast (n : Nat) (w : List Char) : List Char := w.take (w.length - n)

/-- Whether a word ends with a text. -/
def endsWith (w : List Char) (ending : String) : Bool := ending.toList.isSuffixOf w

/-- The singular of a resource name. -/
def singular (w : List Char) : List Char :=
  if endsWith w "ies" then dropLast 3 w ++ ['y']
  else if ["sses", "xes", "ches", "shes"].any (endsWith w) then dropLast 2 w
  else if endsWith w "s" && !endsWith w "ss" then dropLast 1 w
  else w

/-- Whether a word ends with a vowel and a `y`. -/
def endsVowelY (w : List Char) : Bool := ["ay", "ey", "iy", "oy", "uy"].any (endsWith w)

/-- The plural of a resource name. -/
def plural (w : List Char) : List Char :=
  if endsWith w "s" then w
  else if endsWith w "y" && !endsVowelY w then dropLast 1 w ++ "ies".toList
  else w ++ ['s']

/-! ## Operation names -/

/-- The verbs of methods other than `get`. -/
def verbs : List (String × String) :=
  [("post", "create"), ("put", "update"), ("delete", "delete"), ("patch", "update"),
    ("head", "head"), ("options", "options"), ("trace", "trace")]

/-- The verb of a method in lower case; `one` tells whether a single resource is meant. -/
def verb (method : String) (one : Bool) : String :=
  if method == "get" then if one then "get" else "list"
  else (verbs.lookup method).getD method

/-- The segments of a path that are neither empty nor parameters. -/
def resources (path : List Char) : List (List Char) :=
  (Text.splitChar '/' path).filter fun p => !p.isEmpty && p.head? != some '\x7b'

/-- Whether a path ends with a parameter. -/
def endsWithParameter (path : List Char) : Bool :=
  (Text.dropEndWhile (· == '/') path).getLast? == some '\x7d'

/-- A resource name in the number that goes with a verb. -/
def inflect (verb : String) (w : List Char) : List Char :=
  if verb == "list" then plural w
  else if ["get", "create", "update", "delete"].contains verb then singular w
  else w

/-- The words of a list with the last of them changed. -/
def mapLast (f : List Char → List Char) : List (List Char) → List (List Char)
  | [] => []
  | [w] => [f w]
  | w :: v :: r => w :: mapLast f (v :: r)

/-- The name of an operation. -/
def operation (method path : String) : String :=
  let path := path.toList
  let v := verb (Text.lower method) (endsWithParameter path)
  match (resources path).map snakeChars with
  | [] => v ++ "_root"
  | parts => String.ofList (joinWords (v.toList :: mapLast (inflect v) parts))

end Typewright.Name

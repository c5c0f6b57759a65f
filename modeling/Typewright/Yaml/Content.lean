/-
What nodes contain: the values that they stand for.

Scalars are read as soon as their node is reached, the inside of a collection only after everything
that stands beside the collection. So of several errors the one inside the fewest collections comes
first, and among these the leftmost.
-/
import Typewright.Yaml.Literal
import Typewright.Yaml.Node

namespace Typewright.Yaml

/-- A value, or why there is none with the number of collections around the reason. -/
abbrev Outcome (α : Type) := Except (Nat × Stop) α

namespace Outcome

/-- The outcome of an error. -/
def fail {α : Type} (context : Option (Context × Option Mark)) (problem : Problem) (place : Mark) :
    Outcome α :=
  .error (0, .error ⟨context, problem, place⟩)

/-- An outcome inside one more collection. -/
def inside {α : Type} (x : Outcome α) : Outcome α := x.mapError fun e => (e.1 + 1, e.2)

/-- Two outcomes beside each other. -/
def both {α β : Type} : Outcome α → Outcome β → Outcome (α × β)
  | .ok a, .ok b => .ok (a, b)
  | .ok _, .error f => .error f
  | .error e, .ok _ => .error e
  | .error e, .error f => .error (if f.1 < e.1 then f else e)

/-- Outcomes beside each other. -/
def all {α : Type} : List (Outcome α) → Outcome (List α)
  | [] => .ok []
  | x :: xs => (both x (all xs)).map fun p => p.1 :: p.2

/-- The outcome of work that may meet a fault. -/
def ofFault {α : Type} (x : Except Fault α) : Outcome α := x.mapError fun f => (0, .fault f)

end Outcome

namespace Node

/-! ## How deep nodes are -/

mutual

/-- How many collections are nested in a node, itself included. -/
def depth : Node → Nat
  | .scalar .. => 0
  | .sequence _ _ items => depthAll items + 1
  | .mapping _ _ entries => depthPairs entries + 1

/-- The depth of the deepest of some nodes. -/
def depthAll : List Node → Nat
  | [] => 0
  | n :: ns => max (depth n) (depthAll ns)

/-- The depth of the deepest of the keys and values of some entries. -/
def depthPairs : List (Node × Node) → Nat
  | [] => 0
  | (k, v) :: es => max (max (depth k) (depth v)) (depthPairs es)

end

/-! ## Merging -/

/-- A key that stands for the default value is the text that it is. -/
def retag : Node → Node
  | .scalar .value place text => .scalar .text place text
  | .sequence .value place items => .sequence .text place items
  | .mapping .value place entries => .mapping .text place entries
  | n => n

/-- The entries that a value lends to the mapping at a place; of several mappings the last one lends
first. -/
def lent (entriesOf : Mark → List (Node × Node) → Outcome (List (Node × Node))) (outer : Mark) :
    Node → Outcome (List (Node × Node))
  | .mapping _ place entries => entriesOf place entries
  | .sequence _ _ items => do
    let lists ← items.mapM fun
      | .mapping _ place entries => entriesOf place entries
      | n => .fail (some (.mapping, some outer)) (.expectedNode "a mapping for merging" n.form) n.place
    .ok lists.reverse.flatten
  | n =>
    .fail (some (.mapping, some outer))
      (.expectedNode "a mapping or list of mappings for merging" n.form) n.place

/-- The entries of the mapping at a place, after those that its merge keys lend it. -/
def merged : Nat → Mark → List (Node × Node) → Outcome (List (Node × Node))
  | 0, _, entries => .ok entries
  | fuel + 1, place, entries => do
    let lists ← (entries.filter (·.1.tag == .merge)).mapM fun e => lent (merged fuel) place e.2
    let own := (entries.filter (·.1.tag != .merge)).map fun (k, v) => (retag k, v)
    .ok (lists.flatten ++ own)

/-! ## Scalars -/

/-- The text of a scalar. A mapping with a default value stands for the text of that. -/
def scalarText : Nat → Node → Outcome (List Char)
  | 0, n => .fail none (.expectedNode "a scalar node" n.form) n.place
  | _ + 1, .scalar _ _ text => .ok text.toList
  | fuel + 1, .mapping tag place entries =>
    match entries.find? (·.1.tag == .value) with
    | some (_, v) => scalarText fuel v
    | none =>
      .fail none (.expectedNode "a scalar node" (Node.mapping tag place entries).form) place
  | _ + 1, n => .fail none (.expectedNode "a scalar node" n.form) n.place

/-! ## Collections -/

/-- Whether a tag is that of a collection, which cannot be a key. -/
def isCollection : Tag → Bool
  | .sequence => true
  | .mapping => true
  | .set => true
  | .orderedMap => true
  | .pairs => true
  | _ => false

/-- The values of the items of a sequence. -/
def itemValues (value : Node → Outcome Value) : Node → Outcome (List Value)
  | .sequence _ _ items => .all (items.map value)
  | n => .fail none (.expectedNode "a sequence node" n.form) n.place

/-- The values of the entries of a mapping; of entries with one key the last one counts, at the place
of the first. -/
def entryValues (value : Node → Outcome Value) (fuel : Nat) : Node → Outcome (List (Value × Value))
  | .mapping _ place entries => do
    let pairs ← Outcome.all ((← merged fuel place entries).map fun (k, v) =>
      Outcome.both
        (if isCollection k.tag then .fail (some (.mapping, some place)) .unhashableKey k.place
          else value k)
        (value v))
    .ok (pairs.foldl (fun es (k, v) => Value.insert k v es) [])
  | n => .fail none (.expectedNode "a mapping node" n.form) n.place

/-- The values of a sequence of mappings with one entry each. -/
def pairValues (value : Node → Outcome Value) (context : Context) : Node → Outcome (List Value)
  | .sequence _ place items =>
    .all (items.map fun
      | .mapping _ _ [(k, v)] => (Outcome.both (value k) (value v)).map fun (k, v) => .tuple [k, v]
      | .mapping _ inner entries => .fail (some (context, some place)) (.itemCount entries.length) inner
      | n => .fail (some (context, some place))
          (.expectedNode "a mapping of length 1" n.form) n.place)
  | n => .fail (some (context, some n.place)) (.expectedNode "a sequence" n.form) n.place

/-! ## Values -/

/-- The value of a node that is nested to at most a depth. -/
def value : Nat → Node → Outcome Value
  | 0, _ => .error (0, .fault .nesting)
  | fuel + 1, n =>
    let literal (read : Literal.Reader) : Outcome Value := do
      .ofFault (read (← scalarText (fuel + 1) n))
    match n.tag with
    | .null => (scalarText (fuel + 1) n).map fun _ => .null
    | .bool => literal Literal.bool
    | .int => literal Literal.int
    | .float => literal Literal.float
    | .binary => do
      match Literal.bytes (← scalarText (fuel + 1) n) with
      | .ok v => .ok v
      | .error p => .fail none p n.place
    | .timestamp => do
      let text ← scalarText (fuel + 1) n
      if n.form == .scalar then .ofFault (Literal.timestamp text) else .error (0, .fault .type)
    | .text => literal fun s => .ok (.text (String.ofList s))
    | .orderedMap => .inside ((pairValues (value fuel) .orderedMap n).map .list)
    | .pairs => .inside ((pairValues (value fuel) .pairs n).map .list)
    | .set => .inside ((entryValues (value fuel) (fuel + 1) n).map fun es => .set (es.map (·.1)))
    | .sequence => .inside ((itemValues (value fuel) n).map .list)
    | .mapping => .inside ((entryValues (value fuel) (fuel + 1) n).map .map)
    | t => .fail none (.unknownTag t.name) n.place

/-- The value that a document stands for. -/
def toValue (root : Node) : Except Stop Value :=
  (value (root.depth + 1) root).mapError (·.2)

end Node

/-- Reads a text that holds one document at most; no document stands for null. -/
def read (text : String) : Except Stop Value := do
  match ← Node.ofText text.toList with
  | none => .ok .null
  | some root => root.toValue

end Typewright.Yaml

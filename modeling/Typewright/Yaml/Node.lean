/-
Nodes: the tree of a YAML document before its scalars are read.

An alias stands for the node of its anchor; the tree holds that node at both places. Inside of itself
a collection is taken to be empty, so that there is always a tree.
-/
import Typewright.Yaml.Scan
import Typewright.Yaml.Tag

namespace Typewright.Yaml

/-- A node with its tag and the place where it starts. -/
inductive Node where
  | scalar (tag : Tag) (place : Mark) (text : String)
  | sequence (tag : Tag) (place : Mark) (items : List Node)
  | mapping (tag : Tag) (place : Mark) (entries : List (Node × Node))

namespace Node

instance : Inhabited Node := ⟨.scalar .null ⟨0, 0, 0⟩ ""⟩

/-- The tag of a node. -/
def tag : Node → Tag
  | .scalar t .. => t
  | .sequence t .. => t
  | .mapping t .. => t

/-- The place where a node starts. -/
def place : Node → Mark
  | .scalar _ m _ => m
  | .sequence _ m _ => m
  | .mapping _ m _ => m

/-- The kind of a node. -/
def form : Node → Form
  | .scalar .. => .scalar
  | .sequence .. => .sequence
  | .mapping .. => .mapping

/-- The node of a text that is left out. -/
def empty (m : Mark) : Node := .scalar .null m ""

end Node

/-! ## Reading tokens -/

/-- A name given to a node; while a collection is open the node is that collection without items. -/
structure Anchor where
  name : String
  node : Node

/-- The tokens that are left and why there are no more of them, with the handles of tags and the
anchors that are known. -/
structure Source where
  tokens : List Token
  stop : Option Stop
  handles : List (String × String) := []
  anchors : List Anchor := []

/-- Work on a source. -/
abbrev Reading := StateT Source (Except Stop)

namespace Reading

/-- The next token. -/
def peek : Reading Token := do
  let s ← get
  match s.tokens with
  | t :: _ => return t
  | [] => throw (s.stop.getD (.fault .index))

/-- Passes over the next token. -/
def drop : Reading Unit := modify fun s => { s with tokens := s.tokens.drop 1 }

/-- A bound on the steps that the tokens left admit. -/
def bound : Reading Nat := do return (← get).tokens.length + 1

/-- Stops with an error. -/
def fail {α : Type} (context : Option (Context × Option Mark)) (problem : Problem) (place : Mark) :
    Reading α :=
  throw (.error ⟨context, problem, place⟩)

/-- Stops because the next token is not the one that the context admits. -/
def failAt {α : Type} (context : Context) (start : Mark) (problem : Mold → Problem) : Reading α := do
  let t ← peek
  fail (some (context, some start)) (problem t.mold) t.start

/-! ## Classes of tokens -/

/-- Ends an entry of a block sequence that has no text. -/
def endsItem : Mold → Bool
  | .blockEntry => true
  | .blockEnd => true
  | _ => false

/-- Ends a key or a value of a block mapping that has no text. -/
def endsPart : Mold → Bool
  | .key => true
  | .value => true
  | .blockEnd => true
  | _ => false

/-- Ends an entry of a block sequence that is not indented and has no text. -/
def endsLooseItem : Mold → Bool
  | .blockEntry => true
  | m => endsPart m

/-- Ends a value in a flow collection, which the given token closes, that has no text. -/
def endsFlowValue (close m : Mold) : Bool := m == .flowEntry || m == close

/-- Ends a key in a flow collection, which the given token closes, that has no text. -/
def endsFlowKey (close m : Mold) : Bool := m == .value || endsFlowValue close m

/-- Ends a document that has no text. -/
def endsDocument : Mold → Bool
  | .directive _ => true
  | .documentStart => true
  | .documentEnd => true
  | .streamEnd => true
  | _ => false

/-! ## Collections -/

/-- Passes over a mark and reads the node after it; without one it is an empty scalar. -/
def nodeAfterMark (ends : Mold → Bool) (node : Reading Node) : Reading Node := do
  let mark ← peek
  drop
  if ends (← peek).mold then return Node.empty mark.stop else node

/-- Reads the value after a key; without a colon it is an empty scalar. -/
def valueNode (ends : Mold → Bool) (node : Reading Node) : Reading Node := do
  let t ← peek
  if t.mold == .value then nodeAfterMark ends node else return Node.empty t.start

/-- Reads the entries of a block sequence. -/
def blockItems (node : Reading Node) (start : Mark) : Nat → Reading (List Node)
  | 0 => return []
  | fuel + 1 => do
    match (← peek).mold with
    | .blockEntry =>
      let item ← nodeAfterMark endsItem node
      return item :: (← blockItems node start fuel)
    | .blockEnd =>
      drop
      return []
    | _ => failAt .blockCollection start (.expectedToken "<block end>")

/-- Reads the entries of a block sequence that is not indented. -/
def looseItems (node : Reading Node) : Nat → Reading (List Node)
  | 0 => return []
  | fuel + 1 => do
    if (← peek).mold == .blockEntry then
      let item ← nodeAfterMark endsLooseItem node
      return item :: (← looseItems node fuel)
    else return []

/-- Reads the entries of a block mapping. -/
def blockEntries (node : Reading Node) (start : Mark) : Nat → Reading (List (Node × Node))
  | 0 => return []
  | fuel + 1 => do
    match (← peek).mold with
    | .key =>
      let key ← nodeAfterMark endsPart node
      let value ← valueNode endsPart node
      return (key, value) :: (← blockEntries node start fuel)
    | .blockEnd =>
      drop
      return []
    | _ => failAt .blockMapping start (.expectedToken "<block end>")

/-- Passes over the comma before an entry of a flow collection. -/
def flowComma (isFirst : Bool) (context : Context) (start : Mark) (what : String) : Reading Unit := do
  if !isFirst then
    if (← peek).mold == .flowEntry then drop else failAt context start (.gotToken what)

/-- Reads the key and the value of an entry in a flow collection that the given token closes. -/
def flowPair (close : Mold) (node : Reading Node) : Reading (Node × Node) := do
  let key ← nodeAfterMark (endsFlowKey close) node
  let value ← valueNode (endsFlowValue close) node
  return (key, value)

/-- Reads the entries of a flow sequence; an entry with a colon is a mapping of its own. -/
def flowItems (node : Reading Node) (start : Mark) : Bool → Nat → Reading (List Node)
  | _, 0 => return []
  | isFirst, fuel + 1 => do
    if (← peek).mold == .flowSequenceEnd then
      drop
      return []
    flowComma isFirst .flowSequence start "',' or ']'"
    let t ← peek
    if t.mold == .flowSequenceEnd then
      drop
      return []
    let item ← if t.mold == .key then
        (do return .mapping .mapping t.start [← flowPair .flowSequenceEnd node] : Reading Node)
      else node
    return item :: (← flowItems node start false fuel)

/-- Reads the entries of a flow mapping; an entry without a colon has an empty value. -/
def flowEntries (node : Reading Node) (start : Mark) : Bool → Nat → Reading (List (Node × Node))
  | _, 0 => return []
  | isFirst, fuel + 1 => do
    if (← peek).mold == .flowMappingEnd then
      drop
      return []
    flowComma isFirst .flowMapping start "',' or '\x7d'"
    let t ← peek
    if t.mold == .flowMappingEnd then
      drop
      return []
    let entry ← if t.mold == .key then flowPair .flowMappingEnd node
      else (do
        let key ← node
        return (key, Node.empty (← peek).start) : Reading (Node × Node))
    return entry :: (← flowEntries node start false fuel)

/-! ## Properties of nodes -/

/-- What stands before the content of a node: an anchor and a tag, with the places where they and the
tag start. -/
structure Properties where
  start : Option Mark := none
  anchor : Option String := none
  tag : Option (Option String × String) := none
  tagPlace : Option Mark := none

/-- Reads the properties of a node, in either order. -/
def properties (p : Properties) : Nat → Reading Properties
  | 0 => return p
  | fuel + 1 => do
    let t ← peek
    match t.mold, p.anchor, p.tag with
    | .anchor name, none, _ =>
      drop
      properties { p with anchor := some name, start := some (p.start.getD t.start) } fuel
    | .tag handle suffix, _, none =>
      drop
      properties
        { p with
          tag := some (handle, suffix), tagPlace := some t.start,
          start := some (p.start.getD t.start) } fuel
    | _, _, _ => return p

/-- The name of a tag with its handle spelled out. -/
def tagName (p : Properties) (start : Mark) : Reading (Option String) := do
  match p.tag with
  | none => return none
  | some (none, suffix) => return some suffix
  | some (some handle, suffix) =>
    match (← get).handles.lookup handle with
    | some target => return some (target ++ suffix)
    | none =>
      fail (some (.node, some start)) (.undefinedHandle handle) (p.tagPlace.getD start)

/-- The tag of a collection, unless it is given. -/
def collectionTag (given : Option String) (usual : Tag) : Tag :=
  match given with
  | none => usual
  | some "!" => usual
  | some name => Tag.ofName name

/-- The tag of a scalar. -/
def scalarTag (given : Option String) (plain : Bool) (text : String) : Tag :=
  match given with
  | none => if plain then Tag.ofPlain text.toList else .text
  | some "!" => Tag.ofPlain text.toList
  | some name => Tag.ofName name

/-! ## Nodes -/

/-- Notes that an anchor names a node that is open. -/
def openAnchor (name : Option String) (node : Node) : Reading Unit := do
  match name with
  | none => return ()
  | some name =>
    match (← get).anchors.find? (·.name == name) with
    | some first =>
      fail (some (.duplicateAnchor name, some first.node.place)) .secondOccurrence node.place
    | none => modify fun s => { s with anchors := ⟨name, node⟩ :: s.anchors }

/-- Notes that the node of an anchor is complete. -/
def closeAnchor (name : Option String) (node : Node) : Reading Node := do
  match name with
  | none => return node
  | some name =>
    modify fun s => { s with
      anchors := s.anchors.map fun a => if a.name == name then { a with node := node } else a }
    return node

/-- The node that an alias stands for. -/
def aliasNode (name : String) (place : Mark) : Reading Node := do
  match (← get).anchors.find? (·.name == name) with
  | none => fail none (.undefinedAlias name) place
  | some a => return a.node

/-- Where a node may stand: in a flow collection, in a block, or in a mapping of a block, where a
sequence need not be indented. -/
inductive Position where
  | flow
  | block
  | entry
deriving Repr, DecidableEq

/-- Reads the content of a node whose properties have been read; `node` reads the nodes inside. -/
def content (node : Position → Reading Node) (position : Position) (p : Properties) (start : Mark)
    (tag : Option String) : Reading Node := do
  let t ← peek
  let isBlock := position != .flow
  let scalar (plain : Bool) (text : String) : Reading Node := do
    let n := Node.scalar (scalarTag tag plain text) start text
    openAnchor p.anchor n
    closeAnchor p.anchor n
  let sequence (items : Reading (List Node)) : Reading Node := do
    let made := Node.sequence (collectionTag tag .sequence) start
    openAnchor p.anchor (made [])
    closeAnchor p.anchor (made (← items))
  let mapping (entries : Reading (List (Node × Node))) : Reading Node := do
    let made := Node.mapping (collectionTag tag .mapping) start
    openAnchor p.anchor (made [])
    closeAnchor p.anchor (made (← entries))
  match t.mold, position, isBlock with
  | .blockEntry, .entry, _ => sequence (do looseItems (node .block) (← bound))
  | .scalar text plain, _, _ =>
    drop
    scalar plain text
  | .flowSequence, _, _ =>
    drop
    sequence (do flowItems (node .flow) t.start true (← bound))
  | .flowMapping, _, _ =>
    drop
    mapping (do flowEntries (node .flow) t.start true (← bound))
  | .blockSequence, _, true =>
    drop
    sequence (do blockItems (node .block) t.start (← bound))
  | .blockMapping, _, true =>
    drop
    mapping (do blockEntries (node .entry) t.start (← bound))
  | _, _, _ =>
    if p.anchor.isNone && p.tag.isNone then
      failAt (if isBlock then .blockNode else .flowNode) start (.expectedToken "the node content")
    else scalar true ""

/-- Reads a node that is nested to at most a depth. -/
def node : Nat → Position → Reading Node
  | 0, _ => throw (.fault .nesting)
  | depth + 1, position => do
    let t ← peek
    match t.mold with
    | .aliasOf name =>
      drop
      aliasNode name t.start
    | _ =>
      let p ← properties {} 3
      let tag ← tagName p t.start
      content (node depth) position p t.start tag

/-! ## Documents -/

/-- How deeply nodes may be nested. -/
def maxDepth : Nat := 488

/-- The handles of tags that every document knows. -/
def standardHandles : List (String × String) := [("!", "!"), ("!!", Tag.standard)]

/-- Reads the directives before a document; `hasVersion` says whether one of them gave a version. -/
def directives (hasVersion : Bool) (handles : List (String × String)) : Nat → Reading Unit
  | 0 => return ()
  | fuel + 1 => do
    let t ← peek
    match t.mold with
    | .directive d =>
      drop
      match d with
      | .version major _ =>
        if hasVersion then fail none .duplicateVersion t.start
        if major != 1 then fail none .incompatibleVersion t.start
        directives true handles fuel
      | .tag handle target =>
        if (handles.lookup handle).isSome then fail none (.duplicateHandle handle) t.start
        directives hasVersion (handles ++ [(handle, target)]) fuel
      | .other => directives hasVersion handles fuel
    | _ => modify fun s => { s with handles := handles ++ standardHandles }

/-- Passes over the marks that end a document. -/
def skipDocumentEnds : Nat → Reading Unit
  | 0 => return ()
  | fuel + 1 => do
    if (← peek).mold == .documentEnd then
      drop
      skipDocumentEnds fuel

/-- Reads the start of a document that is marked; answers its place, or nothing at the end of the
text. -/
def documentStart : Reading (Option Mark) := do
  skipDocumentEnds (← bound)
  let first ← peek
  if first.mold == .streamEnd then return none
  directives false [] (← bound)
  let t ← peek
  if t.mold != .documentStart then
    fail none (.expectedToken "'<document start>'" t.mold) t.start
  drop
  return some first.start

/-- Reads the first document, if there is one. -/
def firstDocument : Reading (Option Node) := do
  drop
  match (← peek).mold with
  | .directive _ => marked
  | .documentStart => marked
  | .streamEnd => marked
  | _ =>
    modify fun s => { s with handles := standardHandles }
    return some (← node maxDepth .block)
where
  /-- Reads a document whose start is marked. -/
  marked : Reading (Option Node) := do
    match ← documentStart with
    | none => return none
    | some _ =>
      let t ← peek
      if endsDocument t.mold then return some (Node.empty t.start)
      else return some (← node maxDepth .block)

/-- Reads the only document of a text. -/
def onlyDocument : Reading (Option Node) := do
  match ← firstDocument with
  | none => return none
  | some root =>
    match ← documentStart with
    | none => return some root
    | some place => fail (some (.singleDocument, some root.place)) .anotherDocument place

end Reading

/-- The root of the only document of a text. -/
def Node.ofText (text : List Char) : Except Stop (Option Node) :=
  let (tokens, stop) := Token.ofText text
  (Reading.onlyDocument.run { tokens, stop }).map (·.1)

end Typewright.Yaml

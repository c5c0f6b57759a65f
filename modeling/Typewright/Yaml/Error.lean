/-
Why a text is not YAML, or not a document of plain values.
-/
import Typewright.Fault
import Typewright.Text.Edit
import Typewright.Text.Quoted
import Typewright.Yaml.Token

namespace Typewright.Yaml

/-- What kind of node a node is. -/
inductive Form where
  | scalar
  | sequence
  | mapping
deriving Repr, DecidableEq

/-- The name of a kind of nodes. -/
def Form.name : Form → String
  | .scalar => "scalar"
  | .sequence => "sequence"
  | .mapping => "mapping"

/-- What was going on when something was found to be wrong. -/
inductive Context where
  | nextToken
  | simpleKey
  | directive
  | aliasName
  | anchorName
  | scanning (what : String)
  | parsing (what : String)
  | blockScalar
  | quotedScalar
  | doubleQuoted
  | node
  | blockNode
  | flowNode
  | blockCollection
  | blockMapping
  | flowSequence
  | flowMapping
  | singleDocument
  | duplicateAnchor (name : String)
  | mapping
  | orderedMap
  | pairs
deriving Repr, DecidableEq

/-- A context in words. -/
def Context.message : Context → String
  | .nextToken => "while scanning for the next token"
  | .simpleKey => "while scanning a simple key"
  | .directive => "while scanning a directive"
  | .aliasName => "while scanning an alias"
  | .anchorName => "while scanning an anchor"
  | .scanning what => "while scanning a " ++ what
  | .parsing what => "while parsing a " ++ what
  | .blockScalar => "while scanning a block scalar"
  | .quotedScalar => "while scanning a quoted scalar"
  | .doubleQuoted => "while scanning a double-quoted scalar"
  | .node => "while parsing a node"
  | .blockNode => "while parsing a block node"
  | .flowNode => "while parsing a flow node"
  | .blockCollection => "while parsing a block collection"
  | .blockMapping => "while parsing a block mapping"
  | .flowSequence => "while parsing a flow sequence"
  | .flowMapping => "while parsing a flow mapping"
  | .singleDocument => "expected a single document in the stream"
  | .duplicateAnchor name => "found duplicate anchor " ++ Text.quoted name ++ "; first occurrence"
  | .mapping => "while constructing a mapping"
  | .orderedMap => "while constructing an ordered map"
  | .pairs => "while constructing pairs"

/-- What is wrong. `expected` names what should have been there and what was found instead. -/
inductive Problem where
  | noStart (c : Char)
  | noColon
  | sequenceHere
  | keyHere
  | valueHere
  | expected (what : String) (found : Char)
  | zeroIndent
  | unknownEscape (c : Char)
  | endOfStream
  | separator
  | encoding (reason : String)
  | expectedToken (what : String) (found : Mold)
  | gotToken (what : String) (found : Mold)
  | duplicateVersion
  | incompatibleVersion
  | duplicateHandle (handle : String)
  | undefinedHandle (handle : String)
  | undefinedAlias (name : String)
  | secondOccurrence
  | anotherDocument
  | expectedNode (what : String) (found : Form)
  | itemCount (n : Nat)
  | unhashableKey
  | unknownTag (tag : String)
  | notAscii (reason : String)
  | notBase64 (reason : String)
deriving Repr, DecidableEq

/-- A problem in words. -/
def Problem.message : Problem → String
  | .noStart c => "found character " ++ char c ++ " that cannot start any token"
  | .noColon => "could not find expected ':'"
  | .sequenceHere => "sequence entries are not allowed here"
  | .keyHere => "mapping keys are not allowed here"
  | .valueHere => "mapping values are not allowed here"
  | .expected what found => "expected " ++ what ++ ", but found " ++ char found
  | .zeroIndent => "expected indentation indicator in the range 1-9, but found 0"
  | .unknownEscape c => "found unknown escape character " ++ char c
  | .endOfStream => "found unexpected end of stream"
  | .separator => "found unexpected document separator"
  | .encoding reason => reason
  | .expectedToken what found => "expected " ++ what ++ ", but found " ++ Text.quoted found.name
  | .gotToken what found => "expected " ++ what ++ ", but got " ++ Text.quoted found.name
  | .duplicateVersion => "found duplicate YAML directive"
  | .incompatibleVersion => "found incompatible YAML document (version 1.* is required)"
  | .duplicateHandle handle => "duplicate tag handle " ++ Text.quoted handle
  | .undefinedHandle handle => "found undefined tag handle " ++ Text.quoted handle
  | .undefinedAlias name => "found undefined alias " ++ Text.quoted name
  | .secondOccurrence => "second occurrence"
  | .anotherDocument => "but found another document"
  | .expectedNode what found => "expected " ++ what ++ ", but found " ++ found.name
  | .itemCount n => "expected a single mapping item, but found " ++ Nat.repr n ++ " items"
  | .unhashableKey => "found unhashable key"
  | .unknownTag tag => "could not determine a constructor for the tag " ++ Text.quoted tag
  | .notAscii reason => "failed to convert base64 data into ascii: " ++ reason
  | .notBase64 reason => "failed to decode base64 data: " ++ reason
where
  char (c : Char) : String := String.ofList (Text.quotedChars [c])

/-- A problem at a place, in the context of another place. -/
structure Error where
  context : Option (Context × Option Mark)
  problem : Problem
  place : Mark
deriving Repr, DecidableEq

namespace Error

/-- The place of the context, unless it is that of the problem. -/
def contextPlace (e : Error) : Option Mark :=
  (e.context.bind (·.2)).filter fun m => m.line != e.place.line || m.column != e.place.column

/-- An error in words, with the lines of its places. -/
def message (text : List Char) (e : Error) : String :=
  Text.join "\n"
    ((e.context.map (·.1.message)).toList ++ (e.contextPlace.map (Mark.text text)).toList ++
      [e.problem.message, e.place.text text])

end Error

/-- A character that no text may hold, in words. -/
def characterMessage (c : Char) (offset : Nat) : String :=
  "unacceptable character #x" ++ String.ofList (Number.hexPadded 4 c.toNat) ++
    ": special characters are not allowed\n  in \"<unicode string>\", position " ++ Nat.repr offset

/-- Why reading stops: an error, a character that no text may hold, or a fault. -/
inductive Stop where
  | error (e : Error)
  | character (c : Char) (offset : Nat)
  | fault (f : Fault)
deriving Repr, DecidableEq

end Typewright.Yaml

/-
Kinds: what a data type holds and what a model is for.
-/
import Typewright.Text.Case

namespace Typewright

/-- What the values of a data type are; `object` refers to a model by its name. -/
inductive Kind where
  | string
  | int32
  | int64
  | float32
  | float64
  | decimal
  | boolean
  | datetime
  | byte
  | object
deriving Repr, DecidableEq

namespace Kind

/-- Every kind. -/
def all : List Kind :=
  [string, int32, int64, float32, float64, decimal, boolean, datetime, byte, object]

/-- The name of a kind. -/
def name : Kind → String
  | string => "string"
  | int32 => "int32"
  | int64 => "int64"
  | float32 => "float32"
  | float64 => "float64"
  | decimal => "decimal"
  | boolean => "boolean"
  | datetime => "datetime"
  | byte => "byte"
  | object => "object"

/-- The kind of a name. -/
def ofName? (s : String) : Option Kind := all.find? (·.name == s)

/-- Whether the values are numbers. -/
def isNumeric : Kind → Bool
  | int32 | int64 | float32 | float64 | decimal => true
  | _ => false

/-- Whether the values are texts that patterns and lengths apply to. -/
def isTextual : Kind → Bool
  | string | byte => true
  | _ => false

/-- Whether the values are integers. -/
def isInteger : Kind → Bool
  | int32 | int64 => true
  | _ => false

end Kind

/-- What a model is for. -/
inductive ModelKind where
  | entity
  | request
  | response
  | dto
  | event
deriving Repr, DecidableEq

namespace ModelKind

/-- Every purpose of a model. -/
def all : List ModelKind := [entity, request, response, dto, event]

/-- The name of a purpose. -/
def name : ModelKind → String
  | entity => "entity"
  | request => "request"
  | response => "response"
  | dto => "dto"
  | event => "event"

/-- The purpose of a name. -/
def ofName? (s : String) : Option ModelKind := all.find? (·.name == s)

/-- The endings of names that tell the purpose of a model. -/
def endings : List (String × ModelKind) :=
  [("request", request), ("command", request), ("response", response), ("result", response),
    ("dto", dto), ("event", event)]

/-- The purpose that the ending of a model's name suggests. -/
def infer (modelName : String) : ModelKind :=
  let s := Text.lowerChars modelName.toList
  ((endings.find? fun e => e.1.toList.isSuffixOf s).map (·.2)).getD entity

end ModelKind

end Typewright

/-
Values of documents and options.

A specification, a configuration file or a bound in a schema is a tree of such values. Mappings
keep the order in which their entries were written, and their keys are values themselves, since a
document may use numbers, truth values or dates as keys.
-/
import Typewright.Number.Basic
import Typewright.Time.Moment
import Typewright.Text.Quoted

namespace Typewright

/-- What an instance of a generated class is: a wrapped scalar, a validated model or a boundary
object. -/
inductive Role where
  | wrapper
  | model
  | boundary
deriving Repr, DecidableEq

/-- A value. -/
inductive Value where
  | null
  | bool (b : Bool)
  | num (n : Number)
  | text (s : String)
  | bytes (bs : List UInt8)
  | date (d : Time.Date)
  | moment (m : Time.Moment)
  | list (items : List Value)
  | tuple (items : List Value)
  | set (items : List Value)
  | map (entries : List (Value × Value))
  | object (role : Role) (content : Value)

namespace Value

instance : Inhabited Value := ⟨.null⟩

/-- An integer as a value. -/
abbrev int (n : Int) : Value := .num (.int n)

/-- A double precision number as a value. -/
abbrev float (x : Number.Binary64) : Value := .num (.float x)

/-- A mapping with text keys. -/
def record (entries : List (String × Value)) : Value :=
  .map (entries.map fun (k, v) => (.text k, v))

/-! ## Kinds of values -/

/-- The name of the kind of a value, as it appears in messages. -/
def kindName : Value → String
  | .null => "NoneType"
  | .bool _ => "bool"
  | .num (.int _) => "int"
  | .num (.float _) => "float"
  | .num (.decimal _) => "Decimal"
  | .text _ => "str"
  | .bytes _ => "bytes"
  | .date _ => "date"
  | .moment _ => "datetime"
  | .list _ => "list"
  | .tuple _ => "tuple"
  | .set _ => "set"
  | .map _ => "dict"
  | .object .. => "object"

/-- Whether a value counts as given: it is not null, false, zero or empty. -/
def isGiven : Value → Bool
  | .null => false
  | .bool b => b
  | .num n => !n.isZero
  | .text s => s != ""
  | .bytes bs => !bs.isEmpty
  | .list items => !items.isEmpty
  | .tuple items => !items.isEmpty
  | .set items => !items.isEmpty
  | .map entries => !entries.isEmpty
  | _ => true

/-- Whether a value is null. -/
def isNull : Value → Bool
  | .null => true
  | _ => false

/-- Whether a value is a mapping. -/
def isMap : Value → Bool
  | .map _ => true
  | _ => false

/-- Whether a value is the truth value true. -/
def isTrue : Value → Bool
  | .bool b => b
  | _ => false

/-- Whether a value is a given text. -/
def isText (s : String) : Value → Bool
  | .text t => t == s
  | _ => false

/-- The text of a text value. -/
def text? : Value → Option String
  | .text s => some s
  | _ => none

/-- The entries of a mapping. -/
def entries? : Value → Option (List (Value × Value))
  | .map entries => some entries
  | _ => none

/-- Whether a value is an integer or a double precision number. -/
def isPlainNumber : Value → Bool
  | .num (.int _) => true
  | .num (.float _) => true
  | _ => false

/-! ## Keys -/

mutual

/-- The part of a value that keeps it from being a key: a list, a set or a mapping. -/
def keyFault? : Value → Option Value
  | .list items => some (.list items)
  | .set items => some (.set items)
  | .map entries => some (.map entries)
  | .tuple items => keyFaultIn? items
  | _ => none

/-- The first part of several values that keeps them from being keys. -/
def keyFaultIn? : List Value → Option Value
  | [] => none
  | v :: vs => (keyFault? v).or (keyFaultIn? vs)

end

/-- A truth value or number as a number: true is one and false is zero. -/
def asNumber? : Value → Option Number
  | .bool b => some (.int (if b then 1 else 0))
  | .num n => some n
  | _ => none

/-- Whether a number is a double precision `nan`. -/
def isNaN : Number → Bool
  | .float .nan => true
  | _ => false

mutual

/-- Two keys are the same. Truth values are the numbers one and zero here, and numbers are compared
by what they denote. -/
def sameKey : Value → Value → Bool
  | .null, .null => true
  | .text a, .text b => a == b
  | .bytes a, .bytes b => a == b
  | .date a, .date b => a == b
  | .moment a, .moment b => a.same b
  | .tuple a, .tuple b => sameKeys a b
  | a, b =>
    match a.asNumber?, b.asNumber? with
    | some x, some y => x.same y || (isNaN x && isNaN y)
    | _, _ => false

/-- Two lists of keys are the same. -/
def sameKeys : List Value → List Value → Bool
  | [], [] => true
  | a :: as, b :: bs => sameKey a b && sameKeys as bs
  | _, _ => false

end

/-! ## Entries of mappings -/

/-- The value of a key among entries. -/
def find? (key : Value) (entries : List (Value × Value)) : Option Value :=
  (entries.find? fun e => sameKey e.1 key).map (·.2)

/-- Entries with the value of a key replaced, or with the key added at the end. -/
def insert (key value : Value) : List (Value × Value) → List (Value × Value)
  | [] => [(key, value)]
  | (k, v) :: r => if sameKey k key then (k, value) :: r else (k, v) :: insert key value r

/-- The value of a text key of a mapping. -/
def get? (v : Value) (key : String) : Option Value :=
  match v with
  | .map entries => (entries.find? fun e => e.1.isText key).map (·.2)
  | _ => none

/-- The value of a text key of a mapping, null where there is none. -/
def get (v : Value) (key : String) : Value := (v.get? key).getD .null

/-- Whether a mapping has a text key. -/
def has (v : Value) (key : String) : Bool := (v.get? key).isSome

end Value

end Typewright

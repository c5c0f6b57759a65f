/-
Metadata: the data types and models that code is generated for.

A data type is a named scalar with constraints, or refers to a model by its name. A model is a
named list of fields. The field of a collection gives the type of the items twice, as its data type
and as its element type.
-/
import Typewright.Metadata.Constraint
import Typewright.Metadata.Kind

namespace Typewright

/-- A data type. -/
structure DataType where
  name : String
  kind : Kind
  constraints : List Constraint := []
  description : Option String := none
  format : Option String := none
  default : Value := .null

namespace DataType

/-- What is declared as a constraint: one that is known, or any other value. -/
inductive Declared where
  | known (c : Constraint)
  | unknown (v : Value)

/-- The constraints among those declared for a type; the first unknown one is a flaw. -/
def constraintsOf (typeName : String) : List Declared → Except Flaw (List Constraint)
  | [] => .ok []
  | .known c :: r => (constraintsOf typeName r).map (c :: ·)
  | .unknown v :: _ => .error (.unknownConstraint typeName v)

/-- A data type as it is declared. A type needs a name. -/
def declare (name : String) (kind : Kind) (constraints : List Declared)
    (description format : Option String) (default : Value) : Except Flaw DataType :=
  if name == "" then .error .unnamedType
  else (constraintsOf name constraints).map fun cs => ⟨name, kind, cs, description, format, default⟩

/-- Whether the values of a type are constrained. -/
def isValidated (t : DataType) : Bool := !t.constraints.isEmpty

/-- Whether a type refers to a model. -/
def isReference (t : DataType) : Bool := t.kind == .object

/-- The first constraint of a kind. -/
def constraint? (t : DataType) (kindName : String) : Option Constraint :=
  t.constraints.find? (·.name == kindName)

end DataType

/-- A field of a model. -/
structure Field where
  name : String
  dataType : DataType
  isRequired : Bool := false
  isNullable : Bool := true
  isReadOnly : Bool := false
  isCollection : Bool := false
  element : Option DataType := none
  description : Option String := none
  wireName : String := ""
  default : Value := .null

namespace Field

/-- A field that goes by its own name on the wire where it has no other name there. -/
def withWireName (f : Field) : Field :=
  if f.wireName == "" then { f with wireName := f.name } else f

/-- A field as it is declared. Exactly the collections have an element type. -/
def declare (f : Field) : Except Flaw Field :=
  match f.isCollection, f.element with
  | true, none => .error (.missingElement f.name)
  | false, some _ => .error (.strayElement f.name)
  | _, _ => .ok f.withWireName

end Field

/-- A model. -/
structure Model where
  name : String
  fields : List Field
  kind : ModelKind := .entity
  description : Option String := none
  namespaceHint : Option String := none

namespace Model

/-- A model as it is declared. A model needs a field. -/
def declare (m : Model) : Except Flaw Model :=
  if m.fields.isEmpty then .error (.noFields m.name) else .ok m

/-- The first field of a name. -/
def field? (m : Model) (name : String) : Option Field := m.fields.find? (·.name == name)

end Model

/-- Data types and models, in the order in which code is generated for them. -/
structure Metadata where
  dataTypes : List DataType := []
  models : List Model := []

end Typewright

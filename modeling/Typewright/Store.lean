/-
A store of metadata by name.

What is registered last under a name is what the store holds under it. Data types and models have
names of their own each. Everything is listed sorted by name.
-/
import Typewright.Metadata.Basic

namespace Typewright

namespace Named

/-- Entries with one more under a name, which replaces an earlier one. -/
def put {α : Type} (name : String) (a : α) : List (String × α) → List (String × α)
  | [] => [(name, a)]
  | (n, b) :: r => if n == name then (n, a) :: r else (n, b) :: put name a r

/-- Entries sorted by name. -/
def sorted {α : Type} (entries : List (String × α)) : List (String × α) :=
  entries.mergeSort fun a b => !(b.1 < a.1)

end Named

/-- A store of metadata by name. -/
structure Store where
  types : List (String × DataType) := []
  models : List (String × Model) := []

namespace Store

/-- Registers a data type. -/
def registerType (s : Store) (t : DataType) : Store := { s with types := Named.put t.name t s.types }

/-- Registers a model. -/
def registerModel (s : Store) (m : Model) : Store := { s with models := Named.put m.name m s.models }

/-- Registers data types and models, in turn. -/
def register (s : Store) (m : Metadata) : Store :=
  m.models.foldl registerModel (m.dataTypes.foldl registerType s)

/-- The data type of a name. -/
def type? (s : Store) (name : String) : Option DataType := s.types.lookup name

/-- The model of a name. -/
def model? (s : Store) (name : String) : Option Model := s.models.lookup name

/-- The names of the data types, sorted. -/
def typeNames (s : Store) : List String := (Named.sorted s.types).map (·.1)

/-- The names of the models, sorted. -/
def modelNames (s : Store) : List String := (Named.sorted s.models).map (·.1)

/-- Everything that is registered, sorted by name. -/
def snapshot (s : Store) : Metadata :=
  ⟨(Named.sorted s.types).map (·.2), (Named.sorted s.models).map (·.2)⟩

/-- Whether something is registered under a name. -/
def contains (s : Store) (name : String) : Bool := (s.type? name).isSome || (s.model? name).isSome

/-- How many data types and models are registered. -/
def size (s : Store) : Nat := s.types.length + s.models.length

/-- A store without anything. -/
def clear (_ : Store) : Store := {}

end Store

end Typewright

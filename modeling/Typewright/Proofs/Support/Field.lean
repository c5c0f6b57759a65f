/-
# Fields that are built in turn

The fields of a model are built one after the other, and their refusals end up in one list.  What a
field adds to it is described field by field (`RawField.refusals`), and `build_refusals` says that
this is what building it gives.  From there `fields_built` describes a whole run: the list, when it
stays empty, and that taking the built fields apart gives back what they were built from.
-/
import Typewright.Support.Field

namespace Typewright.Support

/-! ## Fields on their own -/

/-- The items of a value that a collection may be given as. -/
def itemsOf? : Value → Option (List Value)
  | .list items => some items
  | .tuple items => some items
  | _ => none

/-- Why an item with its index is refused, if it is. -/
def refusedItem? (name : String) (factory : Factory) (item : Value × Nat) : Option Refusal :=
  if (factory item.1).isSome then none else some (.invalidItem name item.2 item.1)

namespace RawField

/-- Why a field is refused on its own: for a collection each item that is refused is one reason. -/
def refusals (f : RawField) : List Refusal :=
  if f.raw.isNull then if f.nullable then [] else [.required f.name]
  else if f.collection then
    match itemsOf? f.raw with
    | some items => items.zipIdx.filterMap (refusedItem? f.name f.factory)
    | none => [.notList f.name f.raw.kindName]
  else if (f.factory f.raw).isSome then [] else [.invalid f.name f.raw]

/-- The values of a field that its factory is for. -/
def parts (f : RawField) : List Value :=
  if f.collection then (itemsOf? f.raw).getD [] else [f.raw]

/-- What a field gives back when it is taken apart: what it was built from, a collection as a list. -/
def givenBack (f : RawField) : Value :=
  if f.collection then ((itemsOf? f.raw).map Value.list).getD f.raw else f.raw

end RawField

/-- What a factory makes of a value, if it makes anything of it, gives the value back. -/
def Exposes (factory : Factory) (v : Value) : Prop :=
  ∀ built, factory v = some built → built = .object .wrapper v ∨ built = .object .model v

variable {f : RawField} {name : String} {factory : Factory} {v built : Value}

theorem Exposes.unwrap (h : Exposes factory v) (hbuilt : factory v = some built) :
    unwrap built = .ok v := by
  rcases h built hbuilt with rfl | rfl <;> rfl

/-! ### Items -/

end Typewright.Support

/-
# Extraction, run

One equation for each piece of work says what it gives from a state and what the state is then.
Later proofs read these equations and never open the monad.

What a property's type depends on besides the state is split off first: `typeSource` is the schema
that decides the type, which is the schema of the items for an array, and `hint` is the name that an
inline type is made from.
-/
import Typewright.Extraction.Run
import Typewright.Proofs.Name.Fresh
import Typewright.Proofs.Schema.Facets
import Typewright.Proofs.Schema.Shape
import Typewright.Proofs.Value.Text

namespace Typewright.Extraction

/-! ## The monad -/

section Monad

variable {α β : Type} (s : State)

theorem run_bind (x : Extracting α) (f : α → Extracting β) :
    (x >>= f).run.run s =
      match x.run.run s with
      | (.ok a, s') => (f a).run.run s'
      | (.error e, s') => (.error e, s') := by
  simp only [bind, ExceptT.bind, ExceptT.mk, ExceptT.run, StateT.bind, StateT.run]
  rcases x s with ⟨_ | _, _⟩ <;> rfl

theorem run_pure (a : α) : (pure a : Extracting α).run.run s = (.ok a, s) := rfl

theorem run_get : (get : Extracting State).run.run s = (.ok s, s) := rfl

theorem run_modify (f : State → State) :
    (modify f : Extracting Unit).run.run s = (.ok (), f s) := rfl

theorem run_tryCatch (x : Extracting α) (f : Failure → Extracting α) :
    (tryCatch x f : Extracting α).run.run s =
      match x.run.run s with
      | (.ok a, s') => (.ok a, s')
      | (.error e, s') => (f e).run.run s' := by
  simp only [tryCatch, tryCatchThe, MonadExceptOf.tryCatch, ExceptT.tryCatch, ExceptT.mk,
    ExceptT.run, bind, StateT.bind, StateT.run]
  rcases x s with ⟨_ | _, _⟩ <;> rfl

theorem run_ofExcept (x : Except Failure α) : (ofExcept x).run.run s = (x, s) := by
  cases x <;> rfl

end Monad

/-! ## What changes a state -/

namespace State

/-- The state with more warnings. -/
def noted (s : State) (ws : List Warning) : State := { s with warnings := s.warnings ++ ws }

/-- The state in which a name is known to stand for a type. -/
def learned (s : State) (name : String) (t : DataType) : State :=
  { s with known := (name, t) :: s.known }

/-- The state in which a name is taken. -/
def took (s : State) (name : String) : State := { s with taken := name :: s.taken }

/-- The state with one more type that is pending. -/
def pended (s : State) (t : DataType) : State :=
  { s with pendingTypes := s.pendingTypes ++ [t] }

/-- The state with one more model that is pending. -/
def pendedModel (s : State) (m : Model) : State :=
  { s with pendingModels := s.pendingModels ++ [m] }

end State

/-! ## Names and scalars -/

variable (s : State) (scope : Scope)

theorem run_inlineName (hint : String) :
    (inlineName hint).run.run s =
      (.ok (Name.fresh s.taken (Name.pascal hint)),
        s.took (Name.fresh s.taken (Name.pascal hint))) := rfl

theorem run_noting {α : Type} {work : Noting α} (h : NotesFacets work) :
    (noting work).run.run s = (outcome work, s.noted (notes work)) := by
  have hrun := h.run s.warnings
  unfold noting
  simp only [run_bind, run_get, hrun]
  cases outcome work <;> rfl

/-- Work on a schema that is read as a scalar under a name. -/
abbrev scalar (name : String) (schema : Value) : Noting DataType :=
  Schema.scalarType name schema (Schema.kind schema)

theorem scalar_notes (name : String) (schema : Value) : NotesFacets (scalar name schema) :=
  Schema.scalarType_notes name schema _

theorem run_scalar (name : String) (schema : Value) :
    (noting (scalar name schema)).run.run s =
      (outcome (scalar name schema), s.noted (notes (scalar name schema))) :=
  run_noting s (scalar_notes name schema)

theorem run_namedType (name : String) (schema : Value) :
    (namedType name schema).run.run s =
      match s.known.lookup name with
      | some t => (.ok t, s)
      | none =>
        match outcome (scalar name schema) with
        | .ok t => (.ok t, (s.noted (notes (scalar name schema))).learned name t)
        | .error e => (.error e, s.noted (notes (scalar name schema))) := by
  unfold namedType
  simp only [run_bind, run_get]
  cases s.known.lookup name with
  | some t => rfl
  | none =>
      simp only [run_bind, run_scalar]
      cases outcome (scalar name schema) <;> rfl

/-- A type that is found under a name is known under it from then on. -/
theorem namedType_ok {name : String} {schema : Value} {t : DataType} {s s' : State}
    (h : (namedType name schema).run.run s = (.ok t, s')) :
    s'.known.lookup name = some t ∧
      (s' = s ∨ s' = (s.noted (notes (scalar name schema))).learned name t) := by
  rw [run_namedType] at h
  split at h
  · rename_i hknown
    cases h
    exact ⟨hknown, .inl rfl⟩
  · split at h
    · cases h
      exact ⟨by simp [State.learned], .inr rfl⟩
    · exact nomatch h

/-! ## References -/

theorem run_resolve (ref : Value) :
    (resolve scope ref).run.run s =
      match Document.resolve scope.document ref with
      | .ok target => (.ok target, s)
      | .error broken => (.error (.ofReference broken), s) := by
  unfold resolve
  cases Document.resolve scope.document ref <;> rfl

/-- The name that a reference ends with and the schema that it leads to. -/
def referent (document ref : Value) : Except Failure (String × Value) :=
  match Document.targetName ref with
  | .error f => .error (.fault f)
  | .ok name =>
    match Document.resolve document ref with
    | .error broken => .error (.ofReference broken)
    | .ok target => .ok (name, target)

/-- Work on a plain scalar that a reference leads to. -/
def plainType (name : String) (target : Value) : Extracting (Option DataType) := do
  let t ← namedType name target
  if (← get).isEmitted t.name then return some t
  else
    modify fun s => { s with pendingTypes := s.pendingTypes ++ [t] }
    return some t

theorem run_plainType (name : String) (target : Value) :
    (plainType name target).run.run s =
      match (namedType name target).run.run s with
      | (.ok t, s') => (.ok (some t), if s'.isEmitted t.name then s' else s'.pended t)
      | (.error e, s') => (.error e, s') := by
  unfold plainType
  simp only [run_bind]
  rcases (namedType name target).run.run s with ⟨_ | t, s'⟩
  · rfl
  · dsimp only
    rw [run_get]
    dsimp only
    split <;> rfl

theorem plainType_ok {name : String} {target : Value} {t : DataType} {s s' : State}
    (h : (plainType name target).run.run s = (.ok (some t), s')) :
    ∃ s₁, (namedType name target).run.run s = (.ok t, s₁) ∧
      s' = if s₁.isEmitted t.name then s₁ else s₁.pended t := by
  rw [run_plainType] at h
  split at h
  · rename_i hnamed
    cases h
    exact ⟨_, hnamed, rfl⟩
  · exact nomatch h

theorem run_referenceType (ref : Value) :
    (referenceType scope ref).run.run s =
      match referent scope.document ref with
      | .error e => (.error e, s)
      | .ok (name, target) =>
        if Schema.isSimple target then
          match (namedType name target).run.run s with
          | (.ok t, s') => (.ok (some t), s')
          | (.error e, s') => (.error e, s')
        else match Schema.isComplex scope.document target with
          | .error e => (.error e, s)
          | .ok true =>
            if scope.unavailable.contains name then (.error (.problem (.unavailable name)), s)
            else match Schema.modelReference name target with
              | .ok t => (.ok (some t), s)
              | .error e => (.error e, s)
          | .ok false =>
            if Schema.isPlain target then (plainType name target).run.run s
            else (.ok none, s) := by
  unfold referenceType referent
  cases Document.targetName ref with
  | error f => rfl
  | ok name =>
      simp only [run_bind, run_pure, run_resolve]
      cases Document.resolve scope.document ref with
      | error broken => rfl
      | ok target =>
          dsimp only
          split
          · rw [run_bind]
            rcases (namedType name target).run.run s with ⟨_ | t, s'⟩ <;> rfl
          · rw [run_bind, run_ofExcept]
            cases Schema.isComplex scope.document target with
            | error e => rfl
            | ok complex =>
                cases complex with
                | true =>
                    dsimp only
                    rw [if_pos rfl]
                    split
                    · rfl
                    · rw [run_bind, run_ofExcept]
                      cases Schema.modelReference name target <;> rfl
                | false =>
                    dsimp only
                    rw [if_neg Bool.false_ne_true]
                    split <;> rfl

/-! ## Types of properties -/

theorem run_typeOf (build : Builder) (hint : String) (schema : Value) :
    (typeOf build scope hint schema).run.run s =
      match Schema.ref? schema with
      | some ref => (referenceType scope ref).run.run s
      | none =>
        let name := Name.fresh s.taken (Name.pascal hint)
        if Schema.isScalar schema then
          match outcome (scalar name schema) with
          | .ok t => (.ok (some t), ((s.took name).noted (notes (scalar name schema))).pended t)
          | .error e => (.error e, (s.took name).noted (notes (scalar name schema)))
        else match Schema.isComplex scope.document schema with
          | .error e => (.error e, s)
          | .ok false => (.ok none, s)
          | .ok true =>
            match (build name schema).run.run (s.took name) with
            | (.error e, s') => (.error e, s')
            | (.ok m, s') => ((Schema.modelReference name schema).map some, s'.pendedModel m) := by
  unfold typeOf
  cases Schema.ref? schema with
  | some ref => rfl
  | none =>
      dsimp only
      split
      · rw [run_bind, run_inlineName]
        dsimp only
        rw [run_bind, run_scalar]
        cases outcome (scalar (Name.fresh s.taken (Name.pascal hint)) schema) <;> rfl
      · rw [run_bind, run_ofExcept]
        cases Schema.isComplex scope.document schema with
        | error e => rfl
        | ok complex =>
            cases complex with
            | false => rfl
            | true =>
                dsimp only
                rw [if_pos rfl, run_bind, run_inlineName]
                dsimp only
                rw [run_bind]
                rcases (build (Name.fresh s.taken (Name.pascal hint)) schema).run.run
                  (s.took (Name.fresh s.taken (Name.pascal hint))) with ⟨_ | m, s'⟩
                · rfl
                · dsimp only
                  rw [run_bind, run_modify]
                  dsimp only
                  rw [run_bind, run_ofExcept]
                  cases Schema.modelReference (Name.fresh s.taken (Name.pascal hint)) schema <;> rfl

/-- The array schema that a property is or refers to, if any. -/
def arraySchema (document schema : Value) : Except Failure (Option Value) :=
  let pick (effective : Value) : Option Value :=
    if Schema.type? effective == some "array" then some effective else none
  match Schema.ref? schema with
  | none => .ok (pick schema)
  | some ref =>
    match Document.resolve document ref with
    | .error broken => .error (.ofReference broken)
    | .ok target => .ok (pick (if Schema.type? target == some "array" then target else schema))

theorem run_arrayOf (schema : Value) :
    (arrayOf scope schema).run.run s = (arraySchema scope.document schema, s) := by
  unfold arrayOf arraySchema
  cases Schema.ref? schema with
  | none => rfl
  | some ref =>
      simp only [run_bind, run_resolve]
      cases Document.resolve scope.document ref <;> rfl

/-- The schema that decides the type of a property, and whether the property is a collection of
that type: for an array, which may stand behind a reference, it is the schema of the items. -/
def typeSource (document : Value) (owner property : String) (schema : Value) :
    Except Failure (Value × Bool) :=
  match arraySchema document schema with
  | .error e => .error e
  | .ok none => .ok (schema, false)
  | .ok (some array) =>
    let items := array.get "items"
    if items.isMap && items.isGiven then .ok (items, true)
    else .error (.problem (.noItems owner property))

/-- What the name of an inline type is made from. -/
def hint (owner property : String) (schema : Value) (isCollection : Bool) : String :=
  let made := owner ++ Name.pascal property
  hintFor schema (if isCollection then made ++ "Item" else made)

/-- Inline types have names, as models have. -/
theorem hint_ne_empty {owner : String} (h : owner ≠ "") (property : String) (schema : Value)
    (isCollection : Bool) : hint owner property schema isCollection ≠ "" := by
  have hmade : (if isCollection then owner ++ Name.pascal property ++ "Item"
      else owner ++ Name.pascal property) ≠ "" := by
    split
    · exact Value.append_ne_empty (Value.append_ne_empty h _) _
    · exact Value.append_ne_empty h _
  unfold hint hintFor
  dsimp only
  split
  · rename_i htitle
    exact Value.plain_ne_empty htitle
  · exact hmade

theorem run_propertyType (build : Builder) (owner property : String) (schema : Value) :
    (propertyType build scope owner property schema).run.run s =
      match typeSource scope.document owner property schema with
      | .error e => (.error e, s)
      | .ok (x, isCollection) =>
        match (typeOf build scope (hint owner property x isCollection) x).run.run s with
        | (.ok t, s') => (.ok (t, isCollection), s')
        | (.error e, s') => (.error e, s') := by
  unfold propertyType typeSource hint
  rw [run_bind, run_arrayOf]
  cases arraySchema scope.document schema with
  | error e => rfl
  | ok found =>
      cases found with
      | none =>
          dsimp only
          rw [run_bind, if_neg Bool.false_ne_true]
          rcases (typeOf build scope (hintFor schema (owner ++ Name.pascal property)) schema).run.run
            s with ⟨_ | t, s'⟩ <;> rfl
      | some array =>
          dsimp only
          split
          · dsimp only
            rw [run_bind, if_pos rfl]
            rcases (typeOf build scope (hintFor (array.get "items")
              (owner ++ Name.pascal property ++ "Item")) (array.get "items")).run.run s
              with ⟨_ | t, s'⟩ <;> rfl
          · rfl

/-! ## Properties and models -/

theorem run_property (build : Builder) (owner : String) (required : List String) (name : String)
    (schema : Value) :
    (property build scope owner required name schema).run.run s =
      if schema.isMap then
        match (propertyType build scope owner name schema).run.run s with
        | (.ok (some t, isCollection), s') =>
          (.ok (some (fieldOf name (required.contains name) schema t isCollection)), s')
        | (.ok (none, _), s') => (.ok none, s'.noted [.propertyUntyped owner name])
        | (.error (.problem (.unavailable target)), s') =>
          (.ok none, s'.noted [.propertyUnavailable owner name target])
        | (.error e, s') => (.error e, s')
      else (.ok none, s.noted [.propertyShape owner name]) := by
  unfold property
  cases schema.isMap with
  | false => rfl
  | true =>
      simp only [Bool.not_true, Bool.false_eq_true, if_false, if_true]
      rw [run_bind, run_tryCatch, map_eq_pure_bind, run_bind]
      rcases (propertyType build scope owner name schema).run.run s with ⟨e | ⟨_ | t, c⟩, s'⟩
      · -- only one failure is caught
        cases e with
        | problem p => cases p <;> rfl
        | flaw f => rfl
        | fault f => rfl
      · rfl
      · rfl

/-- A failure that is not about an unavailable model fails the property. -/
theorem run_property_error {build : Builder} {owner : String} (required : List String)
    {name : String} {schema : Value} {s s' : State} {e : Failure} (hmap : schema.isMap = true)
    (h : (propertyType build scope owner name schema).run.run s = (.error e, s'))
    (he : ∀ target, e ≠ .problem (.unavailable target)) :
    (property build scope owner required name schema).run.run s = (.error e, s') := by
  rw [run_property, if_pos hmap, h]
  cases e with
  | problem p =>
      cases p with
      | unavailable target => exact absurd rfl (he target)
      | _ => rfl
  | flaw f => rfl
  | fault f => rfl

/-- Beyond its type a property only adds to the warnings. -/
theorem property_known (build : Builder) (owner : String) (required : List String) (name : String)
    {schema : Value} (hmap : schema.isMap = true) :
    ((property build scope owner required name schema).run.run s).2.known =
      ((propertyType build scope owner name schema).run.run s).2.known := by
  rw [run_property, if_pos hmap]
  rcases (propertyType build scope owner name schema).run.run s with ⟨e | ⟨_ | t, c⟩, s'⟩
  · cases e with
    | problem p => cases p <;> rfl
    | flaw f => rfl
    | fault f => rfl
  · rfl
  · rfl

theorem run_properties_cons (build : Builder) (owner : String) (required : List String)
    (name : String) (schema : Value) (rest : List (String × Value)) :
    (properties build scope owner required ((name, schema) :: rest)).run.run s =
      match (property build scope owner required name schema).run.run s with
      | (.error e, s') => (.error e, s')
      | (.ok field, s') =>
        match (properties build scope owner required rest).run.run s' with
        | (.error e, s'') => (.error e, s'')
        | (.ok fields, s'') => (.ok (field.toList ++ fields), s'') := by
  rw [properties, run_bind]
  rcases (property build scope owner required name schema).run.run s with ⟨_ | field, s'⟩
  · rfl
  · dsimp only
    rw [run_bind]
    rcases (properties build scope owner required rest).run.run s' with ⟨_ | fields, s''⟩ <;> rfl

/-- The model of some fields. -/
def modelOf (name : String) (schema : Value) (fields : List Field) : Model :=
  { name := name
    fields := fields
    kind := ModelKind.infer name
    description := Schema.description? schema }

theorem run_modelWith (build : Builder) (name : String) (schema : Value) :
    (modelWith build scope name schema).run.run s =
      match Shape.ofSchema scope.document schema with
      | .error e => (.error e, s)
      | .ok shape =>
        match (properties build scope name shape.required shape.properties).run.run s with
        | (.error e, s') => (.error e, s')
        | (.ok fields, s') =>
          if fields.isEmpty then (.error (.problem (.noFields name)), s')
          else (.ok (modelOf name schema fields), s') := by
  unfold modelWith modelOf
  rw [run_bind, run_ofExcept]
  cases Shape.ofSchema scope.document schema with
  | error e => rfl
  | ok shape =>
      dsimp only
      rw [run_bind]
      rcases (properties build scope name shape.required shape.properties).run.run s
        with ⟨_ | fields, s'⟩
      · rfl
      · dsimp only
        split <;> rfl

theorem modelWithin_succ (depth : Nat) :
    modelWithin scope (depth + 1) = modelWith (modelWithin scope depth) scope := rfl

end Typewright.Extraction

/-
# What a scalar schema comes to

Work on the facets of a schema reads nothing of the warnings that stand before it, and notes warnings
about facets only (`NotesFacets`).  The name under which a schema is read appears in its warnings
and nowhere else: the constraints are the same under every name (`constraints_alike`), and a type
comes out under one name exactly if it does under another one that is not empty.
-/
import Typewright.Proofs.Schema.Notes

namespace Typewright

/-- Whether a warning is about the facets of a scalar. -/
def Warning.isFacet : Warning → Bool
  | .facetIgnored .. => true
  | .patternDropped .. => true
  | .enumShape _ => true
  | .noLength .. => true
  | .noValue .. => true
  | _ => false

namespace Kind

variable {k : Kind}

theorem numeric_of_integer (h : k.isInteger = true) : k.isNumeric = true := by
  cases k <;> first | rfl | exact nomatch h

theorem not_textual_of_numeric (h : k.isNumeric = true) : k.isTextual = false := by
  cases k <;> first | rfl | exact nomatch h

theorem not_numeric_of_textual (h : k.isTextual = true) : k.isNumeric = false := by
  cases k <;> first | rfl | exact nomatch h

end Kind

/-! ## Work on facets -/

section Work

variable {α β : Type}

/-- Work that notes warnings about facets, whatever was noted before, and that fails because of a
facet and not because of what the schema refers to. -/
structure NotesFacets (work : Noting α) : Prop where
  run : ∀ ws, work.run.run ws = (outcome work, ws ++ notes work)
  facet : ∀ w ∈ notes work, w.isFacet
  not_problem : ∀ p, outcome work ≠ .error (.problem p)

namespace NotesFacets

theorem notesOnly {x : Noting α} (h : NotesFacets x) : NotesOnly (fun w => w.isFacet) x :=
  ⟨h.run, h.facet⟩

theorem of_notesOnly {x : Noting α} (h : NotesOnly (fun w => w.isFacet) x)
    (hproblem : ∀ p, outcome x ≠ .error (.problem p)) : NotesFacets x :=
  ⟨h.run, h.own, hproblem⟩

protected theorem pure (a : α) : NotesFacets (pure a : Noting α) :=
  .of_notesOnly (.pure a) fun _ h => nomatch h

protected theorem throw {e : Failure} (h : ∀ p, e ≠ .problem p) :
    NotesFacets (throw e : Noting α) :=
  .of_notesOnly (.throw e) fun p hp => h p (Except.error.inj hp)

theorem note {w : Warning} (h : w.isFacet) : NotesFacets (note w) :=
  .of_notesOnly (.note h) fun _ h => nomatch h

theorem outcome_bind {x : Noting α} {f : α → Noting β} (hx : NotesFacets x)
    (hf : ∀ a, NotesFacets (f a)) :
    outcome (x >>= f) = outcome x >>= fun a => outcome (f a) :=
  hx.notesOnly.outcome_bind fun a => (hf a).notesOnly

protected theorem bind {x : Noting α} {f : α → Noting β} (hx : NotesFacets x)
    (hf : ∀ a, NotesFacets (f a)) : NotesFacets (x >>= f) := by
  refine .of_notesOnly (hx.notesOnly.bind fun a => (hf a).notesOnly) ?_
  rw [hx.outcome_bind hf]
  cases hout : outcome x with
  | error e => exact fun p hp => hx.not_problem p (hout.trans (congrArg _ (Except.error.inj hp)))
  | ok a => exact (hf a).not_problem

end NotesFacets

/-- Two pieces of work that note warnings about facets and come to the same. -/
structure Alike (x y : Noting α) : Prop where
  left : NotesFacets x
  right : NotesFacets y
  same : outcome x = outcome y

theorem Alike.pure (a : α) : Alike (pure a : Noting α) (Pure.pure a) :=
  ⟨.pure a, .pure a, rfl⟩

theorem Alike.throw {e : Failure} (h : ∀ p, e ≠ .problem p) :
    Alike (throw e : Noting α) (MonadExcept.throw e) :=
  ⟨.throw h, .throw h, rfl⟩

theorem Alike.note {v w : Warning} (hv : v.isFacet) (hw : w.isFacet) : Alike (note v) (note w) :=
  ⟨.note hv, .note hw, rfl⟩

theorem Alike.tell {v w : Warning} (hv : v.isFacet) (hw : w.isFacet) (h : v.hasText = w.hasText) :
    Alike (Schema.tell v) (Schema.tell w) := by
  unfold Schema.tell
  rw [h]
  split
  · exact .note hv hw
  · exact .throw fun _ h => nomatch h

theorem Alike.bind {x y : Noting α} {f g : α → Noting β} (hxy : Alike x y)
    (hfg : ∀ a, Alike (f a) (g a)) : Alike (x >>= f) (y >>= g) where
  left := hxy.left.bind fun a => (hfg a).left
  right := hxy.right.bind fun a => (hfg a).right
  same := by
    rw [hxy.left.outcome_bind fun a => (hfg a).left, hxy.right.outcome_bind fun a => (hfg a).right,
      hxy.same]
    cases outcome y with
    | ok a => exact (hfg a).same
    | error e => rfl

end Work

namespace Schema

/-! ## Bounds

Two facets bound the values of a schema from a side.  What they give is read alike. -/

section Bounds

variable {name : String} {schema : Value} {kind : Kind} {side : Side}

/-- The edge of the bound of a schema from a side. -/
def facetEdge (schema : Value) (side : Side) : Edge :=
  if (schema.get (exclusiveFacet side)).isTrue then .exclusive else .inclusive

/-- The constraint of one bound, if it is given. -/
def oneBound (side : Side) (edge : Edge) (given : Bool) (v : Value) : Noting (List Constraint) :=
  if given then do return [← unlessFlawed (Constraint.ofBound side edge v)] else return []

theorem boundConstraints_eq : boundConstraints name schema kind side =
    let value := schema.get (boundFacet side)
    let exclusive := schema.get (exclusiveFacet side)
    if value.isNull && !exclusive.isPlainNumber then pure []
    else if !kind.isNumeric then do
      note (.facetIgnored name (if value.isNull then exclusiveFacet side else boundFacet side) kind)
      return []
    else do
      let first ← oneBound side (facetEdge schema side) (!value.isNull) value
      let second ← oneBound side .exclusive exclusive.isPlainNumber exclusive
      return first ++ second := by
  unfold boundConstraints oneBound
  dsimp only
  cases (schema.get (boundFacet side)).isNull <;>
    cases (schema.get (exclusiveFacet side)).isPlainNumber <;>
    simp [facetEdge]

/-- For a numeric kind both bounds are read, given or not. -/
theorem boundConstraints_of_numeric (hnumeric : kind.isNumeric = true) :
    boundConstraints name schema kind side = do
      let value := schema.get (boundFacet side)
      let exclusive := schema.get (exclusiveFacet side)
      let first ← oneBound side (facetEdge schema side) (!value.isNull) value
      let second ← oneBound side .exclusive exclusive.isPlainNumber exclusive
      return first ++ second := by
  rw [boundConstraints_eq]
  dsimp only
  split
  · rename_i hnone
    obtain ⟨hnull, hplain⟩ : (schema.get (boundFacet side)).isNull = true ∧
        (schema.get (exclusiveFacet side)).isPlainNumber = false := by simpa using hnone
    simp [oneBound, hnull, hplain]
  · rw [if_neg (by simp [hnumeric])]

end Bounds

/-! ## Facets one by one

Each facet is read alike under two names: the name only stands in the warnings. -/

section Names

theorem unlessFlawed_alike {α : Type} (x : Except Flaw α) :
    Alike (unlessFlawed x) (unlessFlawed x) := by
  cases x with
  | ok a => exact .pure a
  | error f =>
      refine .throw fun p h => ?_
      cases hf : f.hasText <;> rw [hf] at h <;> cases h

theorem unlessFlawed_list_alike {α : Type} (x : Except Flaw α) :
    Alike (do return [← unlessFlawed x]) (do return [← unlessFlawed x]) :=
  (unlessFlawed_alike x).bind fun _ => .pure _

variable (name other : String) (schema : Value) (kind : Kind) (side : Side)

theorem patternConstraint_alike :
    Alike (patternConstraint name schema kind) (patternConstraint other schema kind) := by
  unfold patternConstraint
  dsimp only
  split
  · exact .pure _
  · split
    · exact (Alike.note rfl rfl).bind fun _ => .pure _
    · split
      · exact Alike.bind (.tell rfl rfl rfl) fun _ => .pure _
      · exact .throw (fun _ h => nomatch h)
      · exact unlessFlawed_list_alike _

theorem lengthConstraint_alike :
    Alike (lengthConstraint name schema kind side) (lengthConstraint other schema kind side) := by
  unfold lengthConstraint
  dsimp only
  split
  · exact .pure _
  · split
    · exact (Alike.note rfl rfl).bind fun _ => .pure _
    · exact unlessFlawed_list_alike _

theorem oneBound_alike (edge : Edge) (given : Bool) (v : Value) :
    Alike (oneBound side edge given v) (oneBound side edge given v) := by
  cases given with
  | false => exact .pure _
  | true => exact unlessFlawed_list_alike _

theorem boundConstraints_alike :
    Alike (boundConstraints name schema kind side) (boundConstraints other schema kind side) := by
  rw [boundConstraints_eq, boundConstraints_eq]
  dsimp only
  split
  · exact .pure _
  · split
    · exact (Alike.note rfl rfl).bind fun _ => .pure _
    · exact (oneBound_alike ..).bind fun _ => (oneBound_alike ..).bind fun _ => .pure _

theorem enumConstraint_alike : Alike (enumConstraint name schema) (enumConstraint other schema) := by
  unfold enumConstraint
  split
  · exact .pure _
  · split <;> exact .pure _
  · exact (Alike.note rfl rfl).bind fun _ => .pure _

theorem checkSatisfiable_alike (cs : List Constraint) :
    Alike (checkSatisfiable name cs) (checkSatisfiable other cs) := by
  unfold checkSatisfiable
  dsimp only
  rcases emptyLengths? cs with _ | ⟨short, long⟩ <;>
    rcases emptyBounds? _ with f | _ | ⟨low, high⟩
  · exact .throw fun _ h => nomatch h
  · exact .pure ()
  · exact .tell rfl rfl rfl
  · exact Alike.bind (.tell rfl rfl rfl) fun _ => .throw fun _ h => nomatch h
  · exact Alike.bind (.tell rfl rfl rfl) fun _ => .pure ()
  · exact Alike.bind (.tell rfl rfl rfl) fun _ => .tell rfl rfl rfl

theorem constraints_alike : Alike (constraints name schema kind) (constraints other schema kind) := by
  unfold constraints
  refine (patternConstraint_alike name other schema kind).bind fun _ => ?_
  refine (lengthConstraint_alike name other schema kind .lower).bind fun _ => ?_
  refine (lengthConstraint_alike name other schema kind .upper).bind fun _ => ?_
  refine (boundConstraints_alike name other schema kind .lower).bind fun _ => ?_
  refine (boundConstraints_alike name other schema kind .upper).bind fun _ => ?_
  refine (enumConstraint_alike name other schema).bind fun _ => ?_
  exact (checkSatisfiable_alike name other _).bind fun _ => .pure _

theorem scalarType_notes : NotesFacets (scalarType name schema kind) := by
  unfold scalarType
  refine (constraints_alike name name schema kind).left.bind fun _ => ?_
  split
  · exact .throw (fun _ h => nomatch h)
  · exact .pure _

end Names

/-! ## Types -/

variable {name : String} {schema : Value} {kind : Kind} {t : DataType}

/-- The type that a scalar schema describes has the name under which the schema is read, its kind,
and the constraints that its facets give under any name. -/
theorem outcome_scalarType_eq_ok (other : String) :
    outcome (scalarType name schema kind) = .ok t ↔
      name ≠ "" ∧ ∃ cs, outcome (constraints other schema kind) = .ok cs ∧
        t = { name := name, kind := kind, constraints := cs, description := description? schema,
              format := format? schema, default := defaultOf schema kind } := by
  have hrest : ∀ cs : List Constraint, NotesFacets (
      if name == "" then throw (.flaw .unnamedType)
      else pure (⟨name, kind, cs, description? schema, format? schema, defaultOf schema kind⟩ :
        DataType)) := by
    intro cs
    split
    · exact .throw (fun _ h => nomatch h)
    · exact .pure _
  rw [scalarType, (constraints_alike name other schema kind).left.outcome_bind hrest,
    (constraints_alike name other schema kind).same]
  simp only [bind, Except.bind]
  cases outcome (constraints other schema kind) with
  | error e => simp
  | ok cs =>
      by_cases hname : name = ""
      · simp [hname]
      · simp only [beq_iff_eq, hname, if_false, outcome_pure, Except.ok.injEq, ne_eq,
          not_false_eq_true, true_and, exists_eq_left']
        exact eq_comm

/-! ## Scalars -/

theorem isScalar_of_isSimple (h : isSimple schema = true) : isScalar schema = true := by
  simp only [isSimple, Bool.and_eq_true] at h
  exact h.1.2

theorem isScalar_of_isPlain (h : isPlain schema = true) : isScalar schema = true := by
  simp only [isPlain, Bool.and_eq_true] at h
  exact h.1

/-- The type of a scalar has one of the four scalar kinds of types, in lower case. -/
theorem isScalar_iff :
    isScalar schema = true ↔ ∃ t ∈ scalarTypes, type? schema = some t := by
  simp only [isScalar, Option.any_eq_true, List.contains_iff_mem]
  exact ⟨fun ⟨t, h, ht⟩ => ⟨t, ht, h⟩, fun ⟨t, ht, h⟩ => ⟨t, h, ht⟩⟩

theorem isMap_of_isScalar (h : isScalar schema = true) : schema.isMap = true := by
  obtain ⟨t, -, htype⟩ := isScalar_iff.mp h
  cases schema with
  | map entries => rfl
  | _ => exact nomatch htype

theorem formatKinds_ne_object {key : String × String} {k : Kind}
    (h : formatKinds.lookup key = some k) : k ≠ .object := by
  obtain ⟨before, after, heq, -⟩ := List.lookup_eq_some_iff.mp h
  have hall : ∀ e ∈ formatKinds, e.2 ≠ .object := by decide
  exact hall (key, k) (heq ▸ List.mem_append_right _ List.mem_cons_self)

theorem lower_ne_of_mem_scalarTypes {t : String} (h : t ∈ scalarTypes) :
    typeKinds.lookup (Text.lower t) ≠ some .object := by
  have hall : ∀ t ∈ scalarTypes, typeKinds.lookup (Text.lower t) ≠ some .object := by
    decide +kernel
  exact hall t h

/-- No scalar refers to a model. -/
theorem kind_ne_object (h : isScalar schema = true) : Schema.kind schema ≠ .object := by
  obtain ⟨t, ht, htype⟩ := isScalar_iff.mp h
  have hof : (typeKinds.lookup (Text.lower t)).getD .string ≠ .object := by
    have := lower_ne_of_mem_scalarTypes ht
    cases hk : typeKinds.lookup (Text.lower t) with
    | none => exact fun h => nomatch h
    | some k => exact fun h => this (by rw [hk]; exact congrArg some h)
  rw [Schema.kind, htype]
  unfold kindOf
  dsimp only [Option.getD_some]
  split
  · rename_i f _
    cases hk : formatKinds.lookup (Text.lower t, Text.lower f) with
    | none => exact hof
    | some k => exact formatKinds_ne_object hk
  · exact hof

end Schema

end Typewright

/-
# Descriptions that come back to a reference

The description of a schema follows references and goes into the items of arrays, and a chain of the
two may lead anywhere in the document, also back to where it came from.  `Walks` is one move of it,
stated without the describer: references are followed that no extracted type stands for and that lead
to no model.

`describe_circles` says that the walk always ends, and that a circle is reported just where it comes
to a reference which has been followed on it.
-/
import Typewright.Proofs.Document.Ways
import Typewright.Proofs.Service.Endpoints

namespace Typewright.Service

/-! ## The walk -/

/-- No type that has been extracted stands for a reference. -/
def Unknown (known : List (String × DataType)) (r : String) : Prop :=
  ∃ name, Document.targetName (.text r) = .ok name ∧ known.lookup name = none

/-- The description of an array is that of its items. -/
def IntoItems (schema inner : Value) : Prop :=
  Schema.ref? schema = none ∧ Schema.type? schema = some "array" ∧ inner = schema.get "items"

/-- The description of a schema that consists of a reference is that of what the reference leads to,
unless this is a model. -/
def Through (document : Value) (known : List (String × DataType)) (schema : Value) (r : String) :
    Prop :=
  Schema.ref? schema = some (.text r) ∧ Unknown known r ∧
    ∀ target, Document.resolve document (.text r) = .ok target →
      Schema.isComplex document target = .ok false

/-- One move of the walk over a schema, with the references that have been followed on it. -/
def Walks (document : Value) (known : List (String × DataType)) :
    List String × Value → List String × Value → Prop :=
  Document.Goes document IntoItems (Through document known)

theorem isMap_of_type? {schema : Value} {type : String} (h : Schema.type? schema = some type) :
    schema.isMap = true := by
  cases schema with
  | map => rfl
  | _ => exact nomatch h

theorem walks_narrows (document : Value) (known : List (String × DataType)) :
    Document.Narrows IntoItems (Through document known) where
  smaller := fun ⟨_, harray, hinner⟩ => hinner ▸ Value.sizeOf_get_lt "items" (isMap_of_type? harray)
  references := fun {schema _} ⟨_, _, hinner⟩ r hr =>
    Value.RefersIn.get (A := (· ∈ schema.references)) (fun _ h => h) "items" r (hinner ▸ hr)
  refers := fun {schema _} ⟨href, _, _⟩ =>
    Value.RefersIn.ref? (A := (· ∈ schema.references)) (fun _ h => h) href

/-! ## Single moves -/

variable {document : Value} {known : List (String × DataType)}

/-- Nothing but a mapping is described. -/
theorem describeWith_notMap {schema : Value} (h : schema.isMap = false)
    (follow : Value → Noting (Option DataType)) (hint : String) :
    describeWith document follow schema hint = return none := by
  cases schema with
  | map => cases h
  | _ =>
      rw [describeWith]
      intro entries h
      cases h

theorem describeItems_eq (follow : Value → Noting (Option DataType)) (hint : String) :
    ∀ entries : List (Value × Value), describeItems document follow entries hint =
      describeWith document follow ((Value.map entries).get "items") hint
  | [] => by
      have hnone : ((Value.map []).get "items").isMap = false := rfl
      rw [describeItems, describeWith_notMap hnone]
  | (k, v) :: r => by
      rw [describeItems, Shape.get_cons]
      split
      · rfl
      · exact describeItems_eq follow hint r

theorem describeWith_ref {schema ref : Value} (h : Schema.ref? schema = some ref)
    (follow : Value → Noting (Option DataType)) (hint : String) :
    describeWith document follow schema hint = follow ref := by
  match schema with
  | .map [] => exact nomatch h
  | .map (e :: r) =>
      rw [describeWith, if_neg (by simp)]
      simp only [h]

theorem describeWith_items {schema inner : Value} (h : IntoItems schema inner)
    (follow : Value → Noting (Option DataType)) (hint : String) :
    describeWith document follow schema hint =
      describeWith document follow inner (hint ++ "Item") := by
  obtain ⟨href, harray, rfl⟩ := h
  match schema with
  | .map [] => exact nomatch harray
  | .map (e :: r) =>
      rw [describeWith, if_neg (by simp)]
      simp only [href, harray, beq_self_eq_true, if_true]
      exact describeItems_eq follow _ _

theorem modelReference_notes (name : String) (schema : Value) :
    NotesFacets (do return some (← noted (Schema.modelReference name schema))) := by
  unfold Schema.modelReference
  split
  · exact .throw fun _ h => nomatch h
  · exact .pure _

theorem noted_notes {α : Type} {x : Except Failure α} (h : ∀ p, x ≠ .error (.problem p)) :
    NotesFacets (noted x) := by
  cases x with
  | ok a => exact .pure a
  | error e => exact .throw fun p hp => h p (congrArg _ hp)

/-- A schema that is neither a reference nor an array is described by itself. -/
theorem describeWith_own (document : Value) {schema : Value} (href : Schema.ref? schema = none)
    (harray : Schema.type? schema ≠ some "array") (hint : String) :
    ∃ own, NotesFacets own ∧ ∀ follow, describeWith document follow schema hint = own := by
  cases schema with
  | map entries =>
      cases hempty : entries.isEmpty with
      | true => exact ⟨return none, .pure _, fun _ => by rw [describeWith, if_pos hempty]⟩
      | false =>
          have hne : (Schema.type? (.map entries) == some "array") = false := by simpa using harray
          simp only [describeWith, hempty, href, hne, Bool.false_eq_true, if_false]
          refine ⟨_, ?_, fun _ => rfl⟩
          split
          · exact modelReference_notes _ _
          · refine NotesFacets.bind
              (noted_notes fun p => Schema.isComplex_ne_problem document _ p) fun isModel => ?_
            cases isModel with
            | true => exact modelReference_notes _ _
            | false => exact (Schema.scalarType_notes _ _ _).bind fun _ => .pure _
  | _ => exact ⟨return none, .pure _, fun follow => describeWith_notMap rfl follow hint⟩

section Reference

variable {followed : List String} {s : String}

theorem describeReference_circle (hunknown : Unknown known s) (hs : s ∈ followed) (more : Nat) :
    describeReference document known (more + 1) followed (.text s) =
      throw (.problem (.circular s)) := by
  obtain ⟨name, hname, hknown⟩ := hunknown
  simp only [describeReference, hname, pure_bind, hknown]
  exact if_pos (List.contains_iff_mem.mpr hs)

/-- What a reference leads to is described in its place. -/
theorem describeReference_through {target : Value} (hunknown : Unknown known s) (hs : s ∉ followed)
    (htarget : Document.resolve document (.text s) = .ok target)
    (hcomplex : Schema.isComplex document target = .ok false) :
    ∃ hint, ∀ more, describeReference document known (more + 1) followed (.text s) =
      describeWith document (describeReference document known more (s :: followed)) target hint := by
  obtain ⟨name, hname, hknown⟩ := hunknown
  refine ⟨name, fun more => ?_⟩
  have hnew : ¬followed.contains s = true := fun h => hs (List.contains_iff_mem.mp h)
  simp only [describeReference, hname, pure_bind, hknown, if_neg hnew, htarget, hcomplex]
  rfl

/-- A reference that is neither on the way already nor followed takes no further reference. -/
theorem describeReference_own {ref : Value}
    (hcircle : ∀ s, ref = .text s → Unknown known s → s ∉ followed)
    (hthrough : ∀ s target, ref = .text s → Unknown known s →
      Document.resolve document ref = .ok target → Schema.isComplex document target ≠ .ok false) :
    ∃ own, (∀ r, outcome own ≠ .error (.problem (.circular r))) ∧
      ∀ more, describeReference document known (more + 1) followed ref = own := by
  cases hname : Document.targetName ref with
  | error f =>
      refine ⟨throw (.fault f), (fun _ h => by cases h), fun more => ?_⟩
      rw [describeReference, hname]
      rfl
  | ok name =>
      obtain ⟨s, rfl⟩ := Document.exists_text_of_targetName hname
      simp only [describeReference, hname, pure_bind]
      cases hknown : known.lookup name with
      | some type => exact ⟨return some type, (fun _ h => by cases h), fun _ => rfl⟩
      | none =>
          have hunknown : Unknown known s := ⟨name, hname, hknown⟩
          have hnew : ¬followed.contains s = true :=
            fun h => hcircle s rfl hunknown (List.contains_iff_mem.mp h)
          simp only [if_neg hnew]
          cases htarget : Document.resolve document (.text s) with
          | error broken =>
              refine ⟨throw (.ofReference broken), fun r h => ?_, fun _ => rfl⟩
              have hcircular : Failure.ofReference broken = .problem (.circular r) :=
                Except.error.inj h
              cases Failure.eq_of_ofReference hcircular
          | ok target =>
              dsimp only
              cases hcomplex : Schema.isComplex document target with
              | error e =>
                  have he : ∀ p, e ≠ .problem p := fun p he =>
                    Schema.isComplex_ne_problem document target p (hcomplex.trans (he ▸ rfl))
                  exact ⟨throw e, fun r => (NotesFacets.throw he).not_problem _, fun _ => rfl⟩
              | ok complex =>
                  cases complex with
                  | false => exact absurd hcomplex (hthrough s target rfl hunknown htarget)
                  | true =>
                      exact ⟨_, fun r => (modelReference_notes name target).not_problem _,
                        fun _ => rfl⟩

end Reference

/-! ## The whole walk -/

/-- The walk has come to a reference that has been followed on it. -/
def Returns (known : List (String × DataType)) (state : List String × Value) (r : String) : Prop :=
  Schema.ref? state.2 = some (.text r) ∧ Unknown known r ∧ r ∈ state.1

/-- The description of the schema at the end of a walk, where no more references than a bound are
followed on it and after it. -/
def describeFrom (document : Value) (known : List (String × DataType)) (bound : Nat)
    (state : List String × Value) (hint : String) : Noting (Option DataType) :=
  describeWith document (describeReference document known (bound - state.1.length) state.1) state.2
    hint

section From

variable {state : List String × Value} (hint : String)

theorem sub_eq_succ {bound n : Nat} (h : n < bound) : bound - n = bound - (n + 1) + 1 := by
  omega

theorem describeFrom_step {next : List String × Value} (h : Walks document known state next) :
    ∃ hint', ∀ bound, state.1.length < bound →
      describeFrom document known bound state hint = describeFrom document known bound next hint' := by
  unfold describeFrom
  cases h with
  | inside hitems => exact ⟨hint ++ "Item", fun _ _ => describeWith_items hitems _ hint⟩
  | through hr hs htarget =>
      obtain ⟨href, hunknown, hcomplex⟩ := hr
      obtain ⟨hint', hgo⟩ := describeReference_through hunknown hs htarget (hcomplex _ htarget)
      refine ⟨hint', fun bound h => ?_⟩
      rw [describeWith_ref href, sub_eq_succ h, hgo]
      rfl

theorem describeFrom_returns {r : String} (h : Returns known state r) {bound : Nat}
    (hbound : state.1.length < bound) :
    describeFrom document known bound state hint = throw (.problem (.circular r)) := by
  obtain ⟨href, hunknown, hr⟩ := h
  rw [describeFrom, describeWith_ref href, sub_eq_succ hbound]
  exact describeReference_circle hunknown hr _

/-- Where the walk ends and has not come back, no circle is reported. -/
theorem describeFrom_own (hend : ∀ next, ¬Walks document known state next)
    (hreturn : ∀ r, ¬Returns known state r) :
    ∃ own, (∀ r, outcome own ≠ .error (.problem (.circular r))) ∧
      ∀ bound, state.1.length < bound → describeFrom document known bound state hint = own := by
  unfold describeFrom
  cases href : Schema.ref? state.2 with
  | some ref =>
      simp only [describeWith_ref href]
      have hcircle : ∀ s, ref = .text s → Unknown known s → s ∉ state.1 := by
        rintro s rfl hunknown hs
        exact hreturn s ⟨href, hunknown, hs⟩
      have hthrough : ∀ s target, ref = .text s → Unknown known s →
          Document.resolve document ref = .ok target →
          Schema.isComplex document target ≠ .ok false := by
        rintro s target rfl hunknown htarget hcomplex
        refine hend (s :: state.1, target) (.through ⟨href, hunknown, fun target' htarget' => ?_⟩
          (hcircle s rfl hunknown) htarget)
        obtain rfl := Except.ok.inj (htarget.symm.trans htarget')
        exact hcomplex
      obtain ⟨own, hown, hsame⟩ := describeReference_own hcircle hthrough
      exact ⟨own, hown, fun bound h => sub_eq_succ h ▸ hsame _⟩
  | none =>
      have harray : Schema.type? state.2 ≠ some "array" :=
        fun harray => hend (state.1, state.2.get "items") (.inside ⟨href, harray, rfl⟩)
      obtain ⟨own, hown, hsame⟩ := describeWith_own document href harray hint
      exact ⟨own, fun r => hown.not_problem _, fun _ _ => hsame _⟩

end From

/-! ### Bounds and circles -/

section Walk

variable {pool : List String} (hdocument : document.RefersIn (· ∈ pool))
  {state : List String × Value} {bound : Nat} (hbound : pool.length < bound) {r : String}
include hdocument hbound

/-- Two bounds that are not met make no difference. -/
theorem describeFrom_bound {bound' : Nat} (hbound' : pool.length < bound')
    (hwithin : Document.Within pool state) : ∀ hint,
      describeFrom document known bound state hint = describeFrom document known bound' state hint := by
  refine (walks_narrows document known).induction
    (motive := fun state => ∀ hint, describeFrom document known bound state hint =
      describeFrom document known bound' state hint)
    hdocument (fun state hwithin ih hint => ?_) hwithin
  have hlength := Nat.lt_of_le_of_lt hwithin.length_le hbound
  have hlength' := Nat.lt_of_le_of_lt hwithin.length_le hbound'
  by_cases hnext : ∃ next, Walks document known state next
  · obtain ⟨next, hnext⟩ := hnext
    obtain ⟨hint', hstep⟩ := describeFrom_step hint hnext
    rw [hstep bound hlength, hstep bound' hlength', ih next hnext]
  by_cases hreturn : ∃ r, Returns known state r
  · obtain ⟨r, hreturn⟩ := hreturn
    rw [describeFrom_returns hint hreturn hlength, describeFrom_returns hint hreturn hlength']
  · obtain ⟨own, -, hown⟩ := describeFrom_own hint (not_exists.mp hnext) (not_exists.mp hreturn)
    rw [hown bound hlength, hown bound' hlength']

/-- Where a circle is reported, the walk comes back to a reference. -/
theorem returns_of_circular (hwithin : Document.Within pool state) : ∀ hint,
    outcome (describeFrom document known bound state hint) = .error (.problem (.circular r)) →
      ∃ back, Relation.ReflTransGen (Walks document known) state back ∧ Returns known back r := by
  refine (walks_narrows document known).induction
    (motive := fun state => ∀ hint,
      outcome (describeFrom document known bound state hint) = .error (.problem (.circular r)) →
        ∃ back, Relation.ReflTransGen (Walks document known) state back ∧ Returns known back r)
    hdocument (fun state hwithin ih hint h => ?_) hwithin
  have hlength := Nat.lt_of_le_of_lt hwithin.length_le hbound
  by_cases hnext : ∃ next, Walks document known state next
  · obtain ⟨next, hnext⟩ := hnext
    obtain ⟨hint', hstep⟩ := describeFrom_step hint hnext
    rw [hstep bound hlength] at h
    obtain ⟨back, hback, hreturn⟩ := ih next hnext hint' h
    exact ⟨back, .head hnext hback, hreturn⟩
  by_cases hreturn : ∃ r, Returns known state r
  · obtain ⟨r', hreturn⟩ := hreturn
    rw [describeFrom_returns hint hreturn hlength] at h
    cases h
    exact ⟨state, .refl, hreturn⟩
  · obtain ⟨own, hown, hsame⟩ := describeFrom_own hint (not_exists.mp hnext) (not_exists.mp hreturn)
    exact absurd (hsame bound hlength ▸ h) (hown r)

/-- Where the walk comes back to a reference, a circle is reported. -/
theorem circular_of_returns {back : List String × Value} (hwithin : Document.Within pool state)
    (hback : Relation.ReflTransGen (Walks document known) state back) (h : Returns known back r) :
    ∀ hint, describeFrom document known bound state hint = throw (.problem (.circular r)) := by
  induction hback using Relation.ReflTransGen.head_induction_on with
  | refl =>
      intro hint
      exact describeFrom_returns hint h (Nat.lt_of_le_of_lt hwithin.length_le hbound)
  | head hnext _ ih =>
      intro hint
      obtain ⟨hint', hstep⟩ := describeFrom_step hint hnext
      rw [hstep bound (Nat.lt_of_le_of_lt hwithin.length_le hbound)]
      exact ih ((walks_narrows document known).within hdocument hnext hwithin) hint'

end Walk

/-- The description of a schema ends, with any bound on the references that are followed which exceeds
their number.  A circle is reported, whatever was noted before, just where the walk from the schema
comes back to a reference that has been followed on it. -/
theorem describe_circles (document : Value) (known : List (String × DataType)) (schema : Value)
    (hint : String) :
    ¬Endless (Walks document known) ([], schema) ∧
    (∀ more, (document.references ++ schema.references).length < more →
      describeWith document (describeReference document known more []) schema hint =
        describe document known schema hint) ∧
    ∀ ws r, ((describe document known schema hint).run.run ws).1 = .error (.problem (.circular r)) ↔
      ∃ back, Relation.ReflTransGen (Walks document known) ([], schema) back ∧
        Returns known back r := by
  have hdocument := Document.refersIn_start document schema
  have hstart := Document.Within.start document schema
  refine ⟨(walks_narrows document known).not_endless document schema, fun more hmore => ?_,
    fun ws r => ?_⟩
  · exact describeFrom_bound hdocument hmore (Nat.lt_succ_self _) hstart hint
  · rw [(quiet_describe document known schema hint).run]
    constructor
    · exact returns_of_circular hdocument (Nat.lt_succ_self _) hstart hint
    · rintro ⟨back, hback, hreturn⟩
      exact congrArg outcome <|
        circular_of_returns hdocument (Nat.lt_succ_self _) hstart hback hreturn hint

/-- A document with a list of lists without an end. -/
def endlessList : Value :=
  .map [(.text "components", .map [(.text "schemas", .map [
    (.text "List", .map [(.text "type", .text "array"), (.text "items", .map [(.text "$ref",
      .text "#/components/schemas/List")])])])])]

/-- A schema that refers to it. -/
def listReference : Value := .map [(.text "$ref", .text "#/components/schemas/List")]

/-- The walk goes through the reference and into the items, where it is back at the reference. -/
theorem endlessList_circular :
    ((describe endlessList [] listReference "list").run.run []).1 =
        .error (.problem (.circular "#/components/schemas/List")) ∧
      ∃ back, Relation.ReflTransGen (Walks endlessList []) ([], listReference) back ∧
        Returns [] back "#/components/schemas/List" := by
  have hcircle : ((describe endlessList [] listReference "list").run.run []).1 =
      .error (.problem (.circular "#/components/schemas/List")) := by rfl
  obtain ⟨-, -, hcircles⟩ := describe_circles endlessList [] listReference "list"
  exact ⟨hcircle, (hcircles [] _).mp hcircle⟩

end Typewright.Service

/-
# The integers in C# files

A wrapping type of an integer kind is declared as `int` or `long`, and its constants are written as
literals of that type.  A bound or a member of the enumeration is written exactly where it denotes an
integer that has a numeral, and the literal is that numeral (`numberLiteral_integer`).  The range of
the declared type plays no part in this: the constants of a file are the integers of the schema, in
range or not (`Generation.integers_written`).
-/
import Typewright.Proofs.Emission.Covered
import Typewright.Proofs.Emission.Members
import Typewright.Proofs.Schema.Enumeration

namespace Typewright

/-! ## The integers of a type -/

/-- The integer that a number denotes, if it denotes one. -/
def Number.integer? (n : Number) : Option Int :=
  match n.place with
  | .at q => if q.den = 1 then some q.num else none
  | _ => none

theorem Number.integer?_of_place {n : Number} {i : Int} (h : n.place = .at i) :
    n.integer? = some i := by
  simp [integer?, h]

/-- The integer that a value denotes, if it is a number that denotes one. -/
def Value.integer? : Value → Option Int
  | .num n => n.integer?
  | _ => none

/-- The integers that a constraint compares values with. -/
def Constraint.integers : Constraint → List Int
  | .bound _ n _ => n.integer?.toList
  | .allowed values => values.filterMap (·.integer?)
  | _ => []

/-- The integers that the constraints of a type compare values with. -/
def DataType.integers (t : DataType) : List Int := t.constraints.flatMap (·.integers)

namespace Emission.CSharp

/-! ## Literals -/

/-- An integer as a literal of an integer kind. -/
def integerLiteral (kind : Kind) (i : Int) : String := Number.intText i ++ numberSuffix kind

/-- Literals of an integer kind, with the integers among them.  Truth values and texts may stand
between these. -/
inductive Lists (kind : Kind) : List String → List Int → Prop
  | nil : Lists kind [] []
  | integer {members : List String} {is : List Int} (i : Int) : Lists kind members is →
      Lists kind (integerLiteral kind i :: members) (i :: is)
  | truth {members : List String} {is : List Int} (b : Bool) : Lists kind members is →
      Lists kind ((if b then "true" else "false") :: members) is
  | text {members : List String} {is : List Int} (s : String) : Lists kind members is →
      Lists kind (literal s :: members) is

/-- The constants of an integer kind, with the integers that they hold. -/
inductive Constant (type : String) (kind : Kind) : String → List Int → Prop
  | bound (name : String) (i : Int) : Constant type kind
      ("    private const " ++ type ++ " " ++ name ++ " = " ++ integerLiteral kind i ++ ";") [i]
  | members (name : String) {members : List String} {is : List Int} : Lists kind members is →
      Constant type kind ("    private static readonly HashSet<" ++ type ++ "> " ++ name ++
        " = new() \x7b " ++ Text.join ", " members ++ " \x7d;") is

theorem Constant.congr {type : String} {kind : Kind} {line line' : String} {is : List Int}
    (h : Constant type kind line is) (heq : line'.toList = line.toList) :
    Constant type kind line' is :=
  String.toList_inj.mp heq ▸ h

theorem Constant.isDeclaration {type : String} {kind : Kind} {line : String} {is : List Int}
    (h : Constant type kind line is) : isDeclaration line = true := by
  cases h <;> simp [isDeclaration_eq, List.isPrefixOf]

section Types

variable {t : DataType} {n : Number} {s type : String}

/-- A number is written as the integer that it denotes. -/
theorem numberLiteral_integer (hinteger : t.kind.isInteger = true) (h : numberLiteral n t = .ok s) :
    ∃ i, n.integer? = some i ∧ s = integerLiteral t.kind i := by
  obtain ⟨i, hplace, htext⟩ := (integerLiteral_ends t hinteger).ok.mp ⟨s, h⟩
  obtain ⟨j, hj, hij⟩ := integerPart_at hplace
  cases hij i rfl
  have hnumeral : numeral (.int i) = .ok (Number.intText i) := if_pos htext
  rw [numberLiteral, if_pos hinteger, hj] at h
  dsimp only at h
  rw [if_pos (Number.same_int.mpr hplace), hnumeral] at h
  cases h
  exact ⟨i, Number.integer?_of_place hplace, rfl⟩

/-- The members of an enumeration are written one by one. -/
theorem members_lists (hinteger : t.kind.isInteger = true) :
    ∀ {values : List Value} {members : List String},
      values.mapM (fun v => valueLiteral v t) = .ok members →
        Lists t.kind members (values.filterMap (·.integer?))
  | [], _, h => by
      cases h
      exact .nil
  | v :: values, _, h => by
      rw [List.mapM_cons] at h
      obtain ⟨s, hs, h⟩ := of_bind_eq_ok h
      obtain ⟨rest, hrest, h⟩ := of_bind_eq_ok h
      cases h
      have ih := members_lists hinteger hrest
      cases (valueLiteral_ends v t).ok.mp ⟨s, hs⟩ with
      | @number n _ =>
          obtain ⟨i, hi, rfl⟩ := numberLiteral_integer hinteger hs
          rw [List.filterMap_cons_some (show (Value.num n).integer? = some i from hi)]
          exact .integer i ih
      | truth b =>
          cases hs
          exact .truth b ih
      | text u =>
          cases hs
          exact .text u ih
      | shown hpython => exact nomatch hpython

/-- What a constraint of an integer type becomes holds its integers. -/
theorem Becomes.constant (hinteger : t.kind.isInteger = true) {name : String} {c : Constraint}
    {k : Check} (h : Becomes t type name c k) :
    Constant type t.kind ("    " ++ k.member.declaration) c.integers := by
  have htextual := Kind.not_textual_of_numeric (Kind.numeric_of_integer hinteger)
  cases h with
  | pattern hkind => exact nomatch htextual.symm.trans hkind
  | length hkind => exact nomatch htextual.symm.trans hkind
  | bound _ hbound =>
      obtain ⟨i, hi, rfl⟩ := numberLiteral_integer hinteger hbound
      rw [Constraint.integers, hi]
      exact (Constant.bound name i).congr (by simp)
  | allowed hmembers =>
      exact (Constant.members name (members_lists hinteger hmembers)).congr (by simp)

/-- The constants of an integer type hold the integers of its constraints, one after the other. -/
theorem BecomeAll.constants (hinteger : t.kind.isInteger = true) {taken : List String}
    {cs : List Constraint} {made : List Check} (h : BecomeAll t type taken cs made) :
    ∃ parts, List.Forall₂ (Constant type t.kind)
      (made.map fun k => "    " ++ k.member.declaration) parts ∧
        parts.flatten = cs.flatMap (·.integers) := by
  induction h with
  | nil => exact ⟨[], .nil, rfl⟩
  | required _ ih => exact ih
  | member hk _ ih =>
      obtain ⟨parts, hparts, hintegers⟩ := ih
      refine ⟨_ :: parts, .cons (hk.constant hinteger) hparts, ?_⟩
      rw [List.flatten_cons, hintegers, List.flatMap_cons]

/-- The declarations of a wrapping type besides its constants. -/
def valueDeclarations (t : DataType) (type : String) : List String :=
  ["    private readonly " ++ type ++ " value;",
    "    public " ++ type ++ " Value => value;",
    "    private " ++ t.name ++ "(" ++ type ++ " value)",
    "    public static bool TryCreate(" ++ type ++ "? input, out " ++ t.name ++ " validated)",
    "    public static " ++ t.name ++ " Create(" ++ type ++ "? input)",
    "    public override string ToString() => " ++
      (if type == "string" then "value" else "value.ToString()") ++ ";"]

/-- The constants in the file of a wrapping type hold some integers, one after the other. -/
def HoldsIntegers (o : Options) (t : DataType) (a : Artifact) (is : List Int) : Prop :=
  ∃ type body constants parts, typeOf? t.kind = some type ∧
    a.content = render (opening o t.name (usings o (primitiveUsings t)) ++
      enclosed (namespaceGiven o) body) ∧
    body.filter isDeclaration = constants ++ valueDeclarations t type ∧
    List.Forall₂ (Constant type t.kind) constants parts ∧ parts.flatten = is

theorem filter_constants {o : Options} {kind : Kind} {made : List Check} {parts : List (List Int)}
    (h : List.Forall₂ (Constant type kind) (made.map fun k => "    " ++ k.member.declaration) parts) :
    (made.flatMap fun k => memberLines "" o k.member).filter isDeclaration =
      made.map fun k => "    " ++ k.member.declaration := by
  induction made generalizing parts with
  | nil => rfl
  | cons k made ih =>
      obtain ⟨is, rest, hconstant, hrest, rfl⟩ := List.forall₂_cons_left_iff.mp h
      rw [List.flatMap_cons, List.filter_append, filter_memberLines hconstant.isDeclaration, ih hrest]
      rfl

/-- The file of an integer type holds the integers of its constraints. -/
theorem primitive_integers {o : Options} {a : Artifact} (hinteger : t.kind.isInteger = true)
    (h : Emission.primitive .csharp o t = .ok a) : HoldsIntegers o t a t.integers := by
  obtain ⟨type, cs, lines, htype, hbecome, rfl, -, hcontent⟩ := primitive_ok h
  obtain ⟨parts, hparts, hintegers⟩ := hbecome.constants hinteger
  rw [placedLines_eq, inNamespace_eq] at hcontent
  refine ⟨type, primitiveLines "" o t type cs, _, parts, typeOf_eq_ok htype, hcontent, ?_, hparts,
    hintegers⟩
  rw [filter_primitiveLines, filter_constants hparts]
  rfl

end Types

end Emission.CSharp

/-! ## Documents -/

namespace Generation

variable {document : Value} {o : Options} {g : Generation} {t : DataType}

/-- The file of an integer type that was extracted from a document is written on a condition in which
its range does not occur (`Emission.Emits`): the bounds are integers that have numerals, and so are
the members of the enumeration that are neither texts nor truth values.  Its constants hold all these
integers. -/
theorem integers_written (h : ofDocument document .csharp o none = .ok g)
    (ht : t ∈ g.metadata.dataTypes) (hinteger : t.kind.isInteger = true) :
    ((∃ a, Emission.primitive .csharp o t = .ok a) ↔ Emission.Emits .csharp t) ∧
      (∀ all, g.artifacts = .ok all → ∃ a ∈ all, Emission.primitive .csharp o t = .ok a) ∧
      ∀ a, Emission.primitive .csharp o t = .ok a → Emission.CSharp.HoldsIntegers o t a t.integers := by
  obtain ⟨-, -, hartifacts⟩ := ofDocument_ok h
  refine ⟨(Emission.primitive_ends t).ok, fun all hall => ?_, fun a ha =>
    Emission.CSharp.primitive_integers hinteger ha⟩
  rw [hartifacts] at hall
  exact Emission.exists_file_of_artifacts hall ht

/-- A document with an integer schema whose minimum is the first integer that is no `int`. -/
def tallSchema : Value :=
  .record [("components", .record [("schemas", .record [
    ("Tall", .record [("type", .text "integer"), ("minimum", .int 0x80000000)])])])]

theorem tallSchema_written : ∃ g, ofDocument tallSchema .csharp {} none = .ok g ∧
    ∃ t ∈ g.metadata.dataTypes, t.kind = .int32 ∧ Kind.int32.inRange 0x80000000 = false ∧
      ∃ a, Emission.primitive .csharp {} t = .ok a ∧
        Emission.CSharp.HoldsIntegers {} t a [0x80000000] := by
  have hseen : (ofDocument tallSchema .csharp {} none).toOption.any (fun g =>
      g.metadata.dataTypes.any fun t => t.kind == .int32 && t.integers == [0x80000000] &&
        (Emission.primitive .csharp {} t).toOption.isSome) = true := by
    decide +kernel
  obtain ⟨g, hg, hseen⟩ := Emission.exists_ok_of_any hseen
  obtain ⟨t, ht, hseen⟩ := List.any_eq_true.mp hseen
  simp only [Bool.and_eq_true, beq_iff_eq] at hseen
  obtain ⟨⟨hkind, hintegers⟩, hsome⟩ := hseen
  obtain ⟨-, -, hwritten⟩ := integers_written hg ht (by rw [hkind]; rfl)
  cases ha : Emission.primitive .csharp {} t with
  | error e =>
      rw [ha] at hsome
      exact nomatch hsome
  | ok a => exact ⟨g, hg, t, ht, hkind, by decide, a, ha, hintegers ▸ hwritten a ha⟩

end Generation

end Typewright

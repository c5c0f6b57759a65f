/-
# What becomes of constraints in C#

A constraint becomes a constant and a condition that compares with it, unless it only requires a value.
What the constants of a file are like is asked about in several ways: which names they declare, which
numbers they hold, which literals stand in them.  Each of these is an induction on the constraints, and
what one step of it can be is said here once: a constraint by itself (`Becomes`), and all of them with the
names that are taken by then (`BecomeAll`).
-/
import Typewright.Proofs.Emission.Artifacts

namespace Typewright.Emission.CSharp

/-- What a constraint becomes under the name of its member, in a type whose values have some type. -/
inductive Becomes (t : DataType) (type name : String) : Constraint → Check → Prop
  | pattern {regex : String} : t.kind.isTextual = true → Becomes t type name (.pattern regex)
      ⟨⟨memberBase (.pattern regex), "private static readonly Regex " ++ name ++ " = new(" ++
        verbatim regex ++ ", RegexOptions.Compiled);"⟩, name ++ ".IsMatch(raw)"⟩
  | length {side : Side} {n : Nat} {limit : String} : t.kind.isTextual = true →
      numeral (.int n) = .ok limit → Becomes t type name (.length side n)
        ⟨⟨memberBase (.length side n), "private const int " ++ name ++ " = " ++ limit ++ ";"⟩,
          "raw.Length " ++ comparison side .inclusive ++ " " ++ name⟩
  | bound {side : Side} {value : Number} {edge : Edge} {bound : String} : t.kind.isNumeric = true →
      numberLiteral value t = .ok bound → Becomes t type name (.bound side value edge)
        ⟨⟨memberBase (.bound side value edge),
          "private const " ++ type ++ " " ++ name ++ " = " ++ bound ++ ";"⟩,
          "raw " ++ comparison side edge ++ " " ++ name⟩
  | allowed {values : List Value} {members : List String} :
      values.mapM (fun v => valueLiteral v t) = .ok members → Becomes t type name (.allowed values)
        ⟨⟨memberBase (.allowed values), "private static readonly HashSet<" ++ type ++ "> " ++ name ++
          " = new() \x7b " ++ Text.join ", " members ++ " \x7d;"⟩, name ++ ".Contains(raw)"⟩

/-- What constraints become, where some names are taken. -/
inductive BecomeAll (t : DataType) (type : String) :
    List String → List Constraint → List Check → Prop
  | nil {taken : List String} : BecomeAll t type taken [] []
  | required {taken : List String} {cs : List Constraint} {made : List Check} :
      BecomeAll t type taken cs made → BecomeAll t type taken (.required :: cs) made
  | member {taken : List String} {c : Constraint} {cs : List Constraint} {k : Check}
      {made : List Check} : Becomes t type (Name.fresh taken (memberBase c)) c k →
      BecomeAll t type (Name.fresh taken (memberBase c) :: taken) cs made →
      BecomeAll t type taken (c :: cs) (k :: made)

variable {o : Options} {t : DataType} {type name : String} {taken : List String}

theorem check_becomes {c : Constraint} {made : Option Check} (htype : typeOf t = .ok type)
    (h : check t name c = .ok made) :
    c = .required ∧ made = none ∨ ∃ k, made = some k ∧ Becomes t type name c k := by
  obtain ⟨type', htype', h⟩ := of_bind_eq_ok h
  cases htype.symm.trans htype'
  cases c with
  | required =>
      cases h
      exact .inl ⟨rfl, rfl⟩
  | pattern regex =>
      dsimp only at h
      split at h
      · rename_i htextual
        cases h
        exact .inr ⟨_, rfl, .pattern htextual⟩
      · exact nomatch h
  | length side n =>
      dsimp only at h
      split at h
      · rename_i htextual
        obtain ⟨limit, hlimit, h⟩ := of_bind_eq_ok h
        cases h
        exact .inr ⟨_, rfl, .length htextual hlimit⟩
      · exact nomatch h
  | bound side value edge =>
      dsimp only at h
      split at h
      · rename_i hnumeric
        obtain ⟨bound, hbound, h⟩ := of_bind_eq_ok h
        cases h
        exact .inr ⟨_, rfl, .bound hnumeric hbound⟩
      · exact nomatch h
  | allowed values =>
      obtain ⟨members, hmembers, h⟩ := of_bind_eq_ok h
      cases h
      exact .inr ⟨_, rfl, .allowed hmembers⟩

theorem checks_become {cs : List Constraint} {made : List Check} (htype : typeOf t = .ok type)
    (h : checks t taken cs = .ok made) : BecomeAll t type taken cs made := by
  induction cs generalizing taken made with
  | nil =>
      cases h
      exact .nil
  | cons c cs ih =>
      obtain ⟨first, hcheck, h⟩ := of_bind_eq_ok h
      rcases check_becomes htype hcheck with ⟨rfl, rfl⟩ | ⟨k, rfl, hbecomes⟩
      · exact .required (ih h)
      · obtain ⟨rest, hrest, h⟩ := of_bind_eq_ok h
        cases h
        exact .member hbecomes (ih hrest)

/-- The file of a wrapping type: behind the header and the namespaces that it uses, the type with what
its constraints become. -/
theorem primitive_ok {a : Artifact} (h : Emission.primitive .csharp o t = .ok a) :
    ∃ type cs lines, typeOf t = .ok type ∧
      BecomeAll t type [t.name, "Value", "TryCreate", "Create"] t.constraints cs ∧
      lines = opening o t.name (usings o (primitiveUsings t)) ++ placedLines o t type cs ∧
      CSharp.primitive o t = .ok lines ∧ a.content = render lines := by
  unfold Emission.primitive at h
  split at h
  · exact nomatch h
  · obtain ⟨lines, hlines, h⟩ := of_bind_eq_ok h
    cases h
    have hprimitive := hlines
    obtain ⟨type, htype, hlines⟩ := of_bind_eq_ok hlines
    obtain ⟨cs, hcs, hlines⟩ := of_bind_eq_ok hlines
    cases hlines
    exact ⟨type, cs, _, htype, checks_become htype hcs, rfl, hprimitive, rfl⟩

end Typewright.Emission.CSharp

/-
Why nothing can be made of a schema, and what is said about parts that are left out.
-/
import Typewright.Document.Reference
import Typewright.Metadata.Basic

namespace Typewright

/-- A problem with a schema or with what refers to it. -/
inductive Problem where
  | reference (broken : BrokenReference)
  | circularMembers (ref : String)
  | circular (ref : String)
  | propertiesShape
  | requiredShape
  | noItems (owner property : String)
  | noFields (model : String)
  | unavailable (model : String)
  | parameterShape (parameter : Value)

/-- A broken reference in words. -/
def BrokenReference.message : BrokenReference → String
  | .unsupported ref => "Unsupported reference " ++ ref.display ++ " (only local '#/' references)"
  | .unresolvable ref => "Unresolvable reference " ++ Text.quoted ref
  | .notMapping ref => "Reference " ++ Text.quoted ref ++ " does not point to a schema"

/-- A problem in words. -/
def Problem.message : Problem → String
  | .reference b => b.message
  | .circularMembers ref => "Circular allOf reference " ++ Text.quoted ref
  | .circular ref => "Circular reference " ++ Text.quoted ref
  | .propertiesShape => "'properties' must be a mapping"
  | .requiredShape => "'required' must be a list"
  | .noItems owner property => "array property '" ++ owner ++ "." ++ property ++ "' has no item schema"
  | .noFields model => "model '" ++ model ++ "' has no extractable fields"
  | .unavailable model => "referenced model '" ++ model ++ "' could not be extracted"
  | .parameterShape p => "parameter " ++ p.display ++ " is not an object"

/-- Why work on a schema stops. -/
inductive Failure where
  | problem (p : Problem)
  | flaw (f : Flaw)
  | fault (f : Fault)

/-- A failure in words. -/
def Failure.message : Failure → String
  | .problem p => p.message
  | .flaw f => f.message
  | .fault f => "unexpected " ++ f.name

/-- Whether a problem can be told: the numbers in the value that it shows have texts. -/
def Problem.hasText : Problem → Bool
  | .reference (.unsupported ref) => ref.hasText
  | .parameterShape p => p.hasText
  | _ => true

/-- The failure that a problem comes to. -/
def Failure.ofProblem (p : Problem) : Failure := if p.hasText then .problem p else .fault .value

/-- A failure that comes from a broken reference. -/
def Failure.ofReference (b : BrokenReference) : Failure := .ofProblem (.reference b)

theorem Failure.eq_of_ofReference {b : BrokenReference} {p : Problem}
    (h : Failure.ofReference b = .problem p) : p = .reference b := by
  unfold Failure.ofReference Failure.ofProblem at h
  split at h
  · exact (Failure.problem.inj h).symm
  · exact nomatch h

/-- What is said about parts of a document that are left out or look wrong. -/
inductive Warning where
  | facetIgnored (schema facet : String) (kind : Kind)
  | patternDropped (schema : String) (pattern : Value) (reason : String)
  | enumShape (schema : String)
  | noLength (schema : String) (lower upper : Nat)
  | noValue (schema : String) (lower upper : Number)
  | notSchema (schema : String)
  | failed (schema : String) (why : Failure)
  | plainScalar (schema : String)
  | untyped (schema : String)
  | propertyShape (model property : String)
  | propertyUnavailable (model property target : String)
  | propertyUntyped (model property : String)
  | parameterPlace (endpoint : String) (parameter : Option String)
  | endpointFailed (method path : String) (why : Failure)

/-- A warning in words. -/
def Warning.message : Warning → String
  | .facetIgnored s facet kind =>
    "Schema '" ++ s ++ "': '" ++ facet ++ "' does not apply to " ++ kind.name ++ " values; ignored"
  | .patternDropped s p reason =>
    "Schema '" ++ s ++ "': invalid pattern " ++ p.display ++ " dropped (" ++ reason ++ ")"
  | .enumShape s => "Schema '" ++ s ++ "': 'enum' must be a list; ignored"
  | .noLength s lower upper =>
    "Schema '" ++ s ++ "': minLength " ++ Nat.repr lower ++ " exceeds maxLength " ++
      Nat.repr upper ++ "; no value can satisfy it"
  | .noValue s lower upper =>
    "Schema '" ++ s ++ "': minimum " ++ lower.text ++ " and maximum " ++ upper.text ++
      " leave no valid value"
  | .notSchema s => "Schema '" ++ s ++ "' is not a schema object; skipped"
  | .failed s why => "Failed to extract schema '" ++ s ++ "': " ++ why.message
  | .plainScalar s =>
    "Schema '" ++ s ++ "' has no validation facets; skipped " ++
      "(emitted only where a model references it)"
  | .untyped s =>
    "Schema '" ++ s ++ "' is neither a constrained scalar nor an object " ++
      "with properties; skipped"
  | .propertyShape m p => "Property '" ++ m ++ "." ++ p ++ "' is not a schema; skipped"
  | .propertyUnavailable m p target =>
    "Property '" ++ m ++ "." ++ p ++ "' references schema '" ++ target ++
      "', which could not be extracted; skipped"
  | .propertyUntyped m p =>
    "Property '" ++ m ++ "." ++ p ++ "' has no extractable type " ++
      "(free-form object or unsupported shape); skipped"
  | .parameterPlace e p =>
    "Endpoint '" ++ e ++ "': parameter " ++ ((p.map Text.quoted).getD "None") ++
      " has no valid location; skipped"
  | .endpointFailed method path why =>
    "Failed to extract endpoint '" ++ method ++ " " ++ path ++ "': " ++ why.message

/-- Whether a warning about facets can be told: the numbers in it have texts. -/
def Warning.hasText : Warning → Bool
  | .patternDropped _ p _ => p.hasText
  | .noLength _ lower upper => (Number.int lower).hasText && (Number.int upper).hasText
  | .noValue _ lower upper => lower.hasText && upper.hasText
  | _ => true

end Typewright

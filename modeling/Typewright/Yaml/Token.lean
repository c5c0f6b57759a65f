/-
Tokens of YAML.
-/
import Typewright.Yaml.Mark

namespace Typewright.Yaml

/-- A directive of a document. -/
inductive Directive where
  | version (major minor : Nat)
  | tag (handle target : String)
  | other
deriving Repr, DecidableEq

/-- What a token is. -/
inductive Mold where
  | streamStart
  | streamEnd
  | directive (d : Directive)
  | documentStart
  | documentEnd
  | blockSequence
  | blockMapping
  | blockEnd
  | flowSequence
  | flowMapping
  | flowSequenceEnd
  | flowMappingEnd
  | key
  | value
  | blockEntry
  | flowEntry
  | aliasOf (name : String)
  | anchor (name : String)
  | tag (handle : Option String) (suffix : String)
  | scalar (text : String) (plain : Bool)
deriving Repr, DecidableEq

/-- The name of a kind of tokens, as it appears in messages. -/
def Mold.name : Mold → String
  | .streamStart => "<stream start>"
  | .streamEnd => "<stream end>"
  | .directive _ => "<directive>"
  | .documentStart => "<document start>"
  | .documentEnd => "<document end>"
  | .blockSequence => "<block sequence start>"
  | .blockMapping => "<block mapping start>"
  | .blockEnd => "<block end>"
  | .flowSequence => "["
  | .flowMapping => "\x7b"
  | .flowSequenceEnd => "]"
  | .flowMappingEnd => "\x7d"
  | .key => "?"
  | .value => ":"
  | .blockEntry => "-"
  | .flowEntry => ","
  | .aliasOf _ => "<alias>"
  | .anchor _ => "<anchor>"
  | .tag .. => "<tag>"
  | .scalar .. => "<scalar>"

/-- A token with the places of its two ends. -/
structure Token where
  mold : Mold
  start : Mark
  stop : Mark
deriving Repr, DecidableEq

end Typewright.Yaml

/-
Options from configuration files, in JSON or YAML.
-/
import Typewright.Document.Read
import Typewright.Host
import Typewright.Options.Basic

namespace Typewright.Options

/-- A text in which a line feed ends each line. -/
def plainLines : List Char → List Char
  | [] => []
  | '\r' :: '\n' :: r => '\n' :: plainLines r
  | c :: r => (if c == '\r' then '\n' else c) :: plainLines r

/-- The value of a configuration file in JSON. -/
def readJson (path : Files.Path) (text : String) : Except OptionsFailure Value :=
  match Json.read text with
  | .ok v => .ok v
  | .error (.malformed e) => .error (.problem (.invalid path.text e.message))
  | .error .longNumeral => .error (.fault .value)
  | .error .tooDeep => .error (.fault .nesting)

/-- The value of a configuration file in YAML. -/
def readYaml (path : Files.Path) (text : String) : Except OptionsFailure Value :=
  match Yaml.read text with
  | .ok v => .ok v
  | .error (.error e) => .error (.problem (.invalid path.text (e.message text.toList)))
  | .error (.character c offset) =>
    .error (.problem (.invalid path.text (Yaml.characterMessage c offset)))
  | .error (.fault f) => .error (.fault f)

/-- Whether a configuration file is in JSON. -/
def isJson (path : Files.Path) : Bool := Text.lower path.suffix == ".json"

/-- The options of a configuration file with some text; one that sets nothing has the usual ones. -/
def ofText (path : Files.Path) (text : String) : Except OptionsFailure Options := do
  let v ← if isJson path then readJson path text else readYaml path text
  ofValue (if v.isGiven then v else .map [])

/-- The options of a configuration file with some content. -/
def ofBytes (path : Files.Path) (content : List UInt8) : Except OptionsFailure Options :=
  match Text.Utf8.decode content with
  | .ok text => ofText path (String.ofList (plainLines text))
  | .error e => .error (.problem (.unreadable path.text e.message))

/-- Loads the options of a configuration file, with some of them replaced. -/
def load {m : Type → Type} [Monad m] [Host m] (path : Files.Path) (overrides : Settings) :
    m (Except OptionsFailure Draft) := do
  match ← Host.read path with
  | .ok content => return do (← ofBytes path content).draft.withOverrides overrides
  | .error (.error e) => return .error (.problem (.unreadable path.text e.message))
  | .error (.fault f) => return .error (.fault f)

end Typewright.Options

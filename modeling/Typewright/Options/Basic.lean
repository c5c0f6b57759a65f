/-
Options: how generated code is laid out.

None of them changes what the generated code accepts. They are given by name, in any spelling
of the names that configuration files use, and later values replace earlier ones.
-/
import Typewright.Document.Section
import Typewright.Text.Case

namespace Typewright

/-- How generated code is laid out. -/
structure Options where
  namespaceName : Option String := none
  outputDirectory : Option String := none
  documentation : Bool := true
  annotations : Bool := true
  nullableMarkers : Bool := true
  fileHeader : Option String := none
  imports : List String := []
deriving Repr, DecidableEq

/-- What is wrong with a configuration. -/
inductive ConfigProblem where
  | unknown (names : List String)
  | boolean (name : String) (value : Value)
  | text (name : String) (value : Value)
  | imports
  | importsText
  | notMapping
  | unreadable (path reason : String)
  | invalid (path reason : String)

namespace Options

/-- The names of the options, sorted. -/
def names : List String :=
  ["additional_imports", "file_header", "include_documentation", "include_validation_annotations",
    "namespace", "output_directory", "use_nullable_markers"]

/-- The names of the options that are true or false. -/
def booleans : List String :=
  ["include_documentation", "include_validation_annotations", "use_nullable_markers"]

/-- The names of the options that are texts. -/
def texts : List String := ["namespace", "output_directory", "file_header"]

end Options

/-- A problem with a configuration in words. -/
def ConfigProblem.message : ConfigProblem → String
  | .unknown given =>
    "Unknown option(s): " ++ Text.join ", " given ++ ". Known options: " ++
      Text.join ", " Options.names
  | .boolean name v => "Option '" ++ name ++ "' must be true or false, got " ++ v.display
  | .text name v => "Option '" ++ name ++ "' must be a string, got " ++ v.display
  | .imports => "Option 'additional_imports' must be a list of strings"
  | .importsText => "additional_imports must be a list of strings"
  | .notMapping => "Configuration must be a mapping"
  | .unreadable path reason => "Cannot read config file " ++ path ++ ": " ++ reason
  | .invalid path reason => "Invalid config file " ++ path ++ ": " ++ reason

/-- Whether a problem with a configuration can be told: the numbers in what was given have texts. -/
def ConfigProblem.hasText : ConfigProblem → Bool
  | .boolean _ v => v.hasText
  | .text _ v => v.hasText
  | _ => true

/-- Why there are no options. -/
inductive OptionsFailure where
  | problem (p : ConfigProblem)
  | fault (f : Fault)

/-- The failure that a problem with a configuration comes to. -/
def OptionsFailure.ofProblem (p : ConfigProblem) : OptionsFailure :=
  if p.hasText then .problem p else .fault .value

namespace Options

/-! ## Setting options -/

/-- Named values; of two with one name the later one counts. -/
abbrev Settings := List (String × Value)

/-- Settings with one more of them. -/
def Settings.set (name : String) (v : Value) : Settings → Settings
  | [] => [(name, v)]
  | (n, w) :: r => if n == name then (n, v) :: r else (n, w) :: set name v r

/-- A namespace; one that is blank is none. -/
def namespaceOf (s : String) : Option String := if Text.isBlankText s then none else some s

/-- Options as they are given one by one. Only the namespace and the imports are looked at when they
are given; every other value is kept as it is. -/
structure Draft where
  namespaceName : Option String := none
  outputDirectory : Value := .null
  documentation : Value := .bool true
  annotations : Value := .bool true
  nullableMarkers : Value := .bool true
  fileHeader : Value := .null
  imports : List Value := []

/-- The namespace that a value names. -/
def namespaceIn : Value → Except OptionsFailure (Option String)
  | .null => .ok none
  | .text s => .ok (namespaceOf s)
  | _ => .error (.fault .attribute)

/-- The imports that a value lists. -/
def importsIn : Value → Except OptionsFailure (List Value)
  | .text _ => .error (.problem .importsText)
  | v => (Document.members v).mapError .fault

namespace Draft

/-- The options with some of them replaced. -/
def replace (d : Draft) (settings : Settings) : Except OptionsFailure Draft := do
  let or (name : String) (old : Value) : Value := (settings.lookup name).getD old
  let given ← ((settings.lookup "namespace").map namespaceIn).getD (.ok d.namespaceName)
  let imports ← ((settings.lookup "additional_imports").map importsIn).getD (.ok d.imports)
  return {
    namespaceName := given
    outputDirectory := or "output_directory" d.outputDirectory
    documentation := or "include_documentation" d.documentation
    annotations := or "include_validation_annotations" d.annotations
    nullableMarkers := or "use_nullable_markers" d.nullableMarkers
    fileHeader := or "file_header" d.fileHeader
    imports := imports }

/-- What generated code makes of the options: what is given and not empty counts as true. -/
def options (d : Draft) : Options :=
  { namespaceName := d.namespaceName
    outputDirectory := d.outputDirectory.text?
    documentation := d.documentation.isGiven
    annotations := d.annotations.isGiven
    nullableMarkers := d.nullableMarkers.isGiven
    fileHeader := d.fileHeader.text?
    imports := d.imports.map Value.plain }

end Draft

/-- Options as if they had been given one by one. -/
def draft (o : Options) : Draft :=
  let text (s : Option String) : Value := (s.map Value.text).getD .null
  { namespaceName := o.namespaceName
    outputDirectory := text o.outputDirectory
    documentation := .bool o.documentation
    annotations := .bool o.annotations
    nullableMarkers := .bool o.nullableMarkers
    fileHeader := text o.fileHeader
    imports := o.imports.map Value.text }

/-- Options given one by one under their own names. -/
def ofSettings (settings : Settings) : Except OptionsFailure Draft :=
  if settings.all fun s => names.contains s.1 then Draft.replace {} settings
  else .error (.fault .type)

/-- Refuses names that no option has. -/
def checkNames (settings : Settings) : Except OptionsFailure Unit :=
  match (settings.map (·.1)).filter fun n => !names.contains n with
  | [] => .ok ()
  | unknown => .error (.problem (.unknown (unknown.mergeSort fun a b => !(b < a))))

/-- The options with some of them replaced; null replaces nothing. -/
def Draft.withOverrides (d : Draft) (overrides : Settings) : Except OptionsFailure Draft := do
  let given := overrides.filter fun s => !s.2.isNull
  checkNames given
  d.replace given

/-! ## Configurations -/

/-- The name of an option in any spelling: with capitals or hyphens between its words. -/
def plainNameChars (s : List Char) : List Char :=
  (s.flatMap fun c =>
    if c == '-' then ['_']
    else if Text.isUpper c then '_' :: Text.lowerChars [c]
    else [c]).dropWhile (· == '_')

/-- The name of an option in any spelling: with capitals or hyphens between its words. -/
def plainName (s : String) : String := String.ofList (plainNameChars s.toList)

/-- The value of a setting, null where there is none. -/
def valueOf (settings : Settings) (name : String) : Value := (settings.lookup name).getD .null

/-- Refuses settings of a wrong kind. -/
def checkKinds (settings : Settings) : Except OptionsFailure Unit := do
  for name in booleans do
    match settings.lookup name with
    | none => pure ()
    | some (.bool _) => pure ()
    | some v => throw (.ofProblem (.boolean name v))
  for name in texts do
    match valueOf settings name with
    | .null => pure ()
    | .text _ => pure ()
    | v => throw (.ofProblem (.text name v))
  match valueOf settings "additional_imports" with
  | .null => pure ()
  | .list items =>
    if items.all fun i => i.text?.isSome then pure () else throw (.problem .imports)
  | _ => throw (.problem .imports)

/-- The settings that the entries of a configuration make. -/
def settingsOf (entries : List (Value × Value)) : Settings :=
  entries.foldl (fun done e => done.set (plainName e.1.plain) e.2) []

/-- The options of a configuration, whose keys have to have texts. -/
def ofValue : Value → Except OptionsFailure Options
  | .map entries => do
    if !entries.all fun e => e.1.hasText then throw (.fault .value)
    let settings := settingsOf entries
    checkNames settings
    checkKinds settings
    return (← Draft.replace {} settings).options
  | _ => .error (.problem .notMapping)

end Options

end Typewright

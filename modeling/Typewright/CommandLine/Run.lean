/-
Running commands.

The exit code tells what went wrong: the input, the language, or generating and writing code.
-/
import Typewright.CommandLine.Arguments
import Typewright.CommandLine.Console
import Typewright.Options.File
import Typewright.Pipeline

namespace Typewright.CommandLine

/-- The exit code for an input that cannot be used. -/
def inputCode : Nat := 1

/-- The exit code for a language that is not known. -/
def languageCode : Nat := 2

/-- The exit code for code that cannot be generated or written. -/
def generationCode : Nat := 3

/-- Where files are written to if nothing else is said. -/
def usualOutput : String := "Generated"

/-- The version of the program. -/
def versionText : String := "validgen, version 0.1.0"

/-! ## Failures -/

/-- The ending of a run that a failure stopped. -/
def Ending.ofStop (f : Failure) : Ending := ⟨[], inputCode, some f⟩

/-- The ending of a run that a fault stopped. -/
def Ending.ofFault (f : Fault) : Ending := .ofStop (.fault f)

/-- The ending of a run that failed with a message. -/
def Ending.ofError (code : Nat) (message : String) : Ending := ⟨[.stampedError message], code, none⟩

/-- The ending of a run whose text was no document; it tells all that is wrong. -/
def Ending.ofRejection (r : Document.Rejection) : Ending :=
  let source := if r.source == "" then "specification" else r.source
  ⟨.stampedError ("Cannot parse " ++ source ++ ":") :: r.issues.map fun i => .error ("  - " ++ i.text),
    inputCode, none⟩

/-- The ending of a run that could not load its document. -/
def Ending.ofLoad : LoadFailure → Ending
  | .source p => .ofError inputCode p.message
  | .document (.rejected r) => .ofRejection r
  | .document (.fault f) => .ofFault f

/-- The ending of a run that could not extract anything. -/
def Ending.ofExtraction : Failure → Ending
  | .problem p => .ofError inputCode p.message
  | .flaw f => .ofError inputCode f.message
  | .fault f => .ofFault f

/-- The ending of a run without options. -/
def Ending.ofOptions : OptionsFailure → Ending
  | .problem p => .ofError inputCode p.message
  | .fault f => .ofFault f

/-- The ending of a run that could not generate code. -/
def Ending.ofEmission (e : EmissionError) : Ending :=
  .ofError generationCode ("Generation failed: " ++ e.message)

/-- The ending of a run that failed. -/
def Ending.ofRun : RunFailure → Ending
  | .language (.unknown e) => .ofError languageCode e.message
  | .language (.fault f) => .ofFault f
  | .load f => .ofLoad f
  | .extraction f => .ofExtraction f
  | .emission (.problem e) => .ofEmission e
  | .emission (.fault f) => .ofFault f
  | .write (.outside e) => .ofEmission e
  | .write (.file (.error e)) => .ofError generationCode ("Cannot write output: " ++ e.message)
  | .write (.file (.fault f)) => .ofFault f

/-! ## Commands -/

/-- Warnings as they are printed. -/
def warnings (ws : List Warning) : List Said := ws.map fun w => .error ("warning: " ++ w.message)

/-- The options that a request replaces. -/
def Request.overrides (r : Request) : Options.Settings :=
  let text (s : Option String) : Value := (s.map Value.text).getD .null
  [("namespace", text r.namespaceName), ("output_directory", text r.output),
    ("include_documentation", if r.noDocs then .bool false else .null)]

/-- The least important notices that a command shows, if it shows any. -/
def Command.threshold : Command → Option Level
  | .generate _ r => if r.verbose then some .debug else if r.quiet then none else some .info
  | _ => none

/-- Whether a command shows a notice. -/
def Command.shows (c : Command) (n : Notice) : Bool :=
  match c.threshold with
  | none => false
  | some .debug => true
  | some .info => n.level == .info

section

variable {m : Type → Type} [Monad m] [Host m]

/-- The options of a request. -/
def Request.options (r : Request) : m (Except OptionsFailure Options) := do
  let draft ← match r.config with
    | some path => Options.load (.ofText path) r.overrides
    | none => pure (Options.Draft.withOverrides {} r.overrides)
  return draft.map (·.options)

/-- The ending of a run that went well. -/
def Ending.ofProduct (r : Request) (destination : String) (p : Product) : Ending :=
  let summary := if r.dryRun then
      p.artifacts.map (fun a => .output a.path) ++
        [.stampedOutput ("Dry run: " ++ Nat.repr p.artifacts.length ++
          " files would be written to " ++ destination)]
    else [.stampedOutput ("Generated " ++ Nat.repr p.written.length ++ " files in " ++ destination)]
  { said := warnings p.extraction.warnings ++ summary }

/-- Generates code. -/
def generate (source : String) (r : Request) : m Ending := do
  match ← r.options with
  | .error f => return .ofOptions f
  | .ok options =>
    let destination := (options.outputDirectory.filter (· != "")).getD usualOutput
    let order : Order :=
      { source := .ofLocation source, language := .text r.language, options
        outputDirectory := some destination, write := !r.dryRun }
    match ← Pipeline.run order with
    | .error f => return .ofRun f
    | .ok p => return .ofProduct r destination p

/-- Shows what is extracted from a document. -/
def inspect (source : String) : m Ending := do
  match ← (Source.ofLocation source).load with
  | .error f => return .ofLoad f
  | .ok document =>
    match Extraction.ofDocument document true with
    | .error f => return .ofStop f
    | .ok e => return { said := (Table.ofExtraction e).map .table ++ warnings e.warnings }

/-- The line of a language in the list of languages. -/
def languageLine (l : Language) : String :=
  let line := l.id ++ " (" ++ l.displayName ++ ")"
  if l.aliases.isEmpty then line else line ++ "  aliases: " ++ Text.join ", " l.aliases

/-- Runs a command. -/
def Command.run : Command → m Ending
  | .generate source r => CommandLine.generate source r
  | .inspect source => CommandLine.inspect source
  | .languages => return { said := Language.all.map fun l => .output (languageLine l) }
  | .version => return { said := [.output versionText] }

end

end Typewright.CommandLine

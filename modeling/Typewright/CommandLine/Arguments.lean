/-
The arguments of the command line.

An option is written as one word with its value behind an equals sign, as two words, or as one letter
that other letters or the value may follow. Of an option that is given again the last value counts.
-/
import Typewright.Text.Edit

namespace Typewright.CommandLine

/-- What code is to be generated from, how, and where to. -/
structure Request where
  source : Option String := none
  output : Option String := none
  namespaceName : Option String := none
  language : String := "csharp"
  config : Option String := none
  noDocs : Bool := false
  dryRun : Bool := false
  verbose : Bool := false
  quiet : Bool := false
deriving Repr, DecidableEq

/-- What the program is to do. -/
inductive Command where
  | generate (source : String) (r : Request)
  | inspect (source : String)
  | languages
  | version
deriving Repr, DecidableEq

/-! ## Options -/

/-- What an option does with a request: set it to a value, or switch it on. -/
inductive Setting where
  | valued (set : Request → String → Request)
  | switch (set : Request → Request)

/-- An option, with its word and, if it has one, its letter. -/
structure Choice where
  word : String
  letter : Option Char
  setting : Setting

/-- The option for the source. -/
def sourceChoice : Choice :=
  ⟨"--from", some 'f', .valued fun r v => { r with source := some v }⟩

/-- The options for generating code. -/
def generateChoices : List Choice :=
  [sourceChoice,
    ⟨"--to", some 't', .valued fun r v => { r with output := some v }⟩,
    ⟨"--namespace", some 'n', .valued fun r v => { r with namespaceName := some v }⟩,
    ⟨"--language", some 'l', .valued fun r v => { r with language := v }⟩,
    ⟨"--config", some 'c', .valued fun r v => { r with config := some v }⟩,
    ⟨"--no-docs", none, .switch fun r => { r with noDocs := true }⟩,
    ⟨"--dry-run", none, .switch fun r => { r with dryRun := true }⟩,
    ⟨"--verbose", some 'v', .switch fun r => { r with verbose := true }⟩,
    ⟨"--quiet", some 'q', .switch fun r => { r with quiet := true }⟩]

/-! ## Reading arguments -/

/-- Reads an option of one letter and what follows it in its argument; `rest` are the arguments after
it. -/
def readLetters (choices : List Choice) (rest : List String) :
    Request → List Char → Option (Request × List String)
  | r, [] => some (r, rest)
  | r, c :: cs =>
    match choices.find? (·.letter == some c) with
    | none => none
    | some o =>
      match o.setting, cs, rest with
      | .switch set, _, _ => readLetters choices rest (set r) cs
      | .valued set, [], v :: rest => some (set r v, rest)
      | .valued _, [], [] => none
      | .valued set, cs, _ => some (set r (String.ofList cs), rest)

/-- Reads an option that is written as a word. -/
def readWord (choices : List Choice) (rest : List String) (r : Request) (argument : List Char) :
    Option (Request × List String) := do
  let word := String.ofList (argument.takeWhile (· != '='))
  let o ← choices.find? (·.word == word)
  match o.setting, argument.dropWhile (· != '='), rest with
  | .switch set, [], _ => some (set r, rest)
  | .switch _, _, _ => none
  | .valued set, _ :: v, _ => some (set r (String.ofList v), rest)
  | .valued set, [], v :: rest => some (set r v, rest)
  | .valued _, [], [] => none

/-- Reads the options of a command; two hyphens may end them. `fuel` bounds how many arguments there
are. -/
def readOptions (choices : List Choice) : Nat → Request → List String → Option Request
  | _, r, [] => some r
  | _, r, ["--"] => some r
  | 0, _, _ => none
  | fuel + 1, r, a :: rest => do
    let (r, rest) ← match a.toList with
      | '-' :: '-' :: [] => none
      | '-' :: '-' :: cs => readWord choices rest r ('-' :: '-' :: cs)
      | '-' :: c :: cs => readLetters choices rest r (c :: cs)
      | _ => none
    readOptions choices fuel r rest

/-- The command that some arguments give. -/
def Command.ofArguments? : List String → Option Command
  | [] => none
  | name :: rest =>
    match name with
    | "--version" => some .version
    | "generate" => do
      let r ← readOptions generateChoices rest.length {} rest
      some (.generate (← r.source) r)
    | "inspect" => do
      let r ← readOptions [sourceChoice] rest.length {} rest
      some (.inspect (← r.source))
    | "languages" => do
      let _ ← readOptions [] rest.length {} rest
      some .languages
    | _ => none

end Typewright.CommandLine

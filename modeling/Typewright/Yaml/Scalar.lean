/-
Scanning the scalars of YAML: quoted, block and plain ones.

Line breaks inside a scalar are folded: a single one becomes a space, and of several the first is
dropped. Each loop is bounded by the length of the text that is left.
-/
import Typewright.Yaml.Cursor

namespace Typewright.Yaml.Scanning

/-! ## Quoted scalars -/

/-- The character that a letter stands for after a backslash. -/
def simpleEscape? : Char → Option Char
  | '0' => some '\x00'
  | 'a' => some '\x07'
  | 'b' => some '\x08'
  | 't' => some '\t'
  | '\t' => some '\t'
  | 'n' => some '\n'
  | 'v' => some '\x0b'
  | 'f' => some '\x0c'
  | 'r' => some '\r'
  | 'e' => some '\x1b'
  | ' ' => some ' '
  | '"' => some '"'
  | '\\' => some '\\'
  | '/' => some '/'
  | 'N' => some '\x85'
  | '_' => some '\xa0'
  | 'L' => some '\u2028'
  | 'P' => some '\u2029'
  | _ => none

/-- How many hexadecimal digits follow a letter after a backslash. -/
def escapeWidth? : Char → Option Nat
  | 'x' => some 2
  | 'u' => some 4
  | 'U' => some 8
  | _ => none

/-- The number of a code unit that is written next, as an escape of four digits. -/
def nextUnit? (c : Cursor) : Option Nat :=
  match c.rest with
  | '\\' :: 'u' :: a :: b :: d :: e :: _ => Number.readNat? 16 [a, b, d, e]
  | _ => none

/-- Takes the digits of an escape; two escapes for the halves of a surrogate pair are one
character. -/
def codePoint (start : Mark) (width : Nat) : Scanning Char := do
  let n ← hexDigits width
    ("escape sequence of " ++ Nat.repr width ++ " hexadecimal numbers") .doubleQuoted start
  if 0x80000000 ≤ n then throw (.fault .overflow)
  if 0x110000 ≤ n then throw (.fault .value)
  match nextUnit? (← get) with
  | some low =>
    if 0xD800 ≤ n && n < 0xDC00 && 0xDC00 ≤ low && low < 0xE000 then
      skip 6
      return Char.ofNat (0x10000 + (n - 0xD800) * 0x400 + (low - 0xDC00))
    else return Char.ofNat n
  | none => return Char.ofNat n

/-- Takes the line breaks and blanks before the next line of a quoted scalar that is not empty. -/
def quotedBreaks (start : Mark) : Nat → Scanning (List Char)
  | 0 => return []
  | fuel + 1 => do
    if (← get).atDocumentMarker then failIn .quotedScalar start .separator
    skipWhile isSpace
    match ← lineBreak with
    | [] => return []
    | b => return b ++ (← quotedBreaks start fuel)

/-- Takes an escape after its backslash. -/
def escape (start : Mark) : Scanning (List Char) := do
  let c ← peek
  match simpleEscape? c, escapeWidth? c with
  | some d, _ =>
    skip 1
    return [d]
  | none, some width =>
    skip 1
    return [← codePoint start width]
  | none, none =>
    if !isBreak c then failIn .doubleQuoted start (.unknownEscape c)
    let _ ← lineBreak
    quotedBreaks start (← bound)

/-- Whether a character of a quoted scalar stands for itself and is not blank. -/
def isQuotedText (c : Char) : Bool := c != '\'' && c != '"' && c != '\\' && !isBlank c

/-- Takes what comes before the next blank or the closing quote. -/
def quotedWords (isDouble : Bool) (start : Mark) : Nat → Scanning (List Char)
  | 0 => return []
  | fuel + 1 => do
    let text ← takeWhile isQuotedText
    let c ← peek
    if !isDouble && c == '\'' && (← peekAt 1) == '\'' then
      skip 2
      return text ++ '\'' :: (← quotedWords isDouble start fuel)
    else if (isDouble && c == '\'') || (!isDouble && (c == '"' || c == '\\')) then
      skip 1
      return text ++ c :: (← quotedWords isDouble start fuel)
    else if isDouble && c == '\\' then
      skip 1
      let escaped ← escape start
      return text ++ escaped ++ (← quotedWords isDouble start fuel)
    else return text

/-- Line breaks as they are folded: the first of them is a space if nothing follows it, and is
dropped if it is an ordinary one. -/
def folded (first others : List Char) : List Char :=
  (if first != ['\n'] then first else if others.isEmpty then [' '] else []) ++ others

/-- Takes blanks between the words of a quoted scalar. -/
def quotedSpaces (start : Mark) : Scanning (List Char) := do
  let spaces ← takeWhile isSpace
  let c ← peek
  if c == '\x00' then failIn .quotedScalar start .endOfStream
  match ← lineBreak with
  | [] => return spaces
  | first => return folded first (← quotedBreaks start (← bound))

/-- Takes what comes before the closing quote. -/
def quotedContent (isDouble : Bool) (start : Mark) : Nat → Scanning (List Char)
  | 0 => return []
  | fuel + 1 => do
    let words ← quotedWords isDouble start (← bound)
    if (← peek) == (if isDouble then '"' else '\'') then return words
    else
      let spaces ← quotedSpaces start
      return words ++ spaces ++ (← quotedContent isDouble start fuel)

/-- Takes a quoted scalar. -/
def quotedScalar (isDouble : Bool) : Scanning Token := do
  let start ← place
  skip 1
  let text ← quotedContent isDouble start (← bound)
  skip 1
  return ⟨.scalar (String.ofList text) false, start, ← place⟩

/-! ## Block scalars -/

/-- What becomes of the line breaks at the end of a block scalar. -/
inductive Chomping where
  | strip
  | clip
  | keep
deriving Repr, DecidableEq

/-- The chomping that a mark asks for. -/
def Chomping.ofMark? : Char → Option Chomping
  | '+' => some .keep
  | '-' => some .strip
  | _ => none

/-- Takes the chomping mark of a header, if there is one. -/
def chompingMark : Scanning (Option Chomping) := do
  match Chomping.ofMark? (← peek) with
  | some m =>
    skip 1
    return some m
  | none => return none

/-- Takes the indentation mark of a header, if there is one. -/
def indentationMark (start : Mark) : Scanning (Option Nat) := do
  match Number.digitIn? 10 (← peek) with
  | some 0 => failIn .blockScalar start .zeroIndent
  | some n =>
    skip 1
    return some n
  | none => return none

/-- Takes the marks of a header, in either order. -/
def blockMarks (start : Mark) : Scanning (Chomping × Option Nat) := do
  match ← chompingMark with
  | some m => return (m, ← indentationMark start)
  | none =>
    match ← indentationMark start with
    | some n => return ((← chompingMark).getD .clip, some n)
    | none => return (.clip, none)

/-- Takes the header of a block scalar. -/
def blockHeader (start : Mark) : Scanning (Chomping × Option Nat) := do
  skip 1
  let marks ← blockMarks start
  let c ← peek
  if !isGap c then failIn .blockScalar start (.expected "chomping or indentation indicators" c)
  restOfLine .blockScalar start
  return marks

/-- Takes spaces up to a column. -/
def indentation (column : Nat) : Scanning Unit := do
  let c ← get
  skip (((c.rest.take (column - c.place.column)).takeWhile (· == ' ')).length)

/-- Takes empty lines at an indentation; answers also where the last of them ends. -/
def emptyLines (column : Nat) (stop : Mark) : Nat → Scanning (List Char × Mark)
  | 0 => return ([], stop)
  | fuel + 1 => do
    indentation column
    match ← lineBreak with
    | [] => return ([], stop)
    | b =>
      let (more, stop) ← emptyLines column (← place) fuel
      return (b ++ more, stop)

/-- Takes the empty lines before the first line of a block scalar; answers also the greatest
column that spaces reach, and where the last of the lines ends. -/
def leadingLines (widest : Nat) (stop : Mark) : Nat → Scanning (List Char × Nat × Mark)
  | 0 => return ([], widest, stop)
  | fuel + 1 => do
    skipWhile (· == ' ')
    let widest := max widest (← place).column
    match ← lineBreak with
    | [] => return ([], widest, stop)
    | b =>
      let (more, widest, stop) ← leadingLines widest (← place) fuel
      return (b ++ more, widest, stop)

/-- How a block scalar ends: its text without the last breaks, and these. -/
structure BlockEnd where
  text : List Char
  lastBreak : List Char
  emptyLines : List Char
  stop : Mark

/-- Takes the lines of a block scalar at an indentation, of which the first comes after the given
breaks. -/
def blockLines (isFolded : Bool) (column : Nat) (breaks : List Char) (stop : Mark) :
    Nat → Scanning BlockEnd
  | 0 => return ⟨[], [], breaks, stop⟩
  | fuel + 1 => do
    let startsBlank := isSpace (← peek)
    let line ← takeWhile fun c => !isEnd c
    let lineEnd ← lineBreak
    let (empty, stop) ← emptyLines column (← place) (← bound)
    let here := (← get)
    if here.place.column == column && here.peek != '\x00' then
      let joint :=
        if isFolded && lineEnd == ['\n'] && !startsBlank && !isSpace here.peek then
          if empty.isEmpty then [' '] else []
        else lineEnd
      let e ← blockLines isFolded column empty stop fuel
      return { e with text := breaks ++ line ++ joint ++ e.text }
    else return ⟨breaks ++ line, lineEnd, empty, stop⟩

/-- Takes a block scalar inside a block that is indented to a column. -/
def blockScalar (isFolded : Bool) (outer : Int) : Scanning Token := do
  let start ← place
  let (chomping, increment) ← blockHeader start
  let least := (max (outer + 1) 1).toNat
  let (column, breaks, stop) ← (do
    match increment with
    | some n =>
      let column := least + n - 1
      let (breaks, stop) ← emptyLines column (← place) (← bound)
      return (column, breaks, stop)
    | none =>
      let (breaks, widest, stop) ← leadingLines 0 (← place) (← bound)
      return (max least widest, breaks, stop) : Scanning (Nat × List Char × Mark))
  let here ← get
  let e ← if here.place.column == column && here.peek != '\x00' then
      blockLines isFolded column breaks stop (← bound)
    else pure ⟨[], [], breaks, stop⟩
  let tail := match chomping with
    | .strip => []
    | .clip => e.lastBreak
    | .keep => e.lastBreak ++ e.emptyLines
  return ⟨.scalar (String.ofList (e.text ++ tail)) false, start, e.stop⟩

/-! ## Plain scalars -/

/-- Separates the entries of flow collections. -/
def isFlowMark (c : Char) : Bool := c == ',' || c == '[' || c == ']' || c == '\x7b' || c == '\x7d'

/-- Whether a plain scalar ends before a text. -/
def endsPlain (inFlow : Bool) : List Char → Bool
  | [] => true
  | c :: rest =>
    let d := rest.headD '\x00'
    isBlank c || (c == ':' && (isBlank d || (inFlow && isFlowMark d))) ||
      (inFlow && (isFlowMark c || c == '?'))

/-- The start of a text up to where a plain scalar ends. -/
def plainWord (inFlow : Bool) : List Char → List Char
  | [] => []
  | c :: rest => if endsPlain inFlow (c :: rest) then [] else c :: plainWord inFlow rest

/-- Takes line breaks and spaces inside a plain scalar; none if a document marker follows one of the
breaks. -/
def plainBreaks : Nat → Scanning (Option (List Char))
  | 0 => return some []
  | fuel + 1 => do
    if (← get).atDocumentMarker then return none
    skipWhile (· == ' ')
    match ← lineBreak with
    | [] => return some []
    | b => return (← plainBreaks fuel).map (b ++ ·)

/-- What stands between two words of a plain scalar: nothing, if the scalar has to end, and whether a
line has ended. -/
structure PlainGap where
  text : List Char
  newLine : Bool

/-- Takes what stands after a word of a plain scalar. -/
def plainGap : Scanning PlainGap := do
  let spaces ← takeWhile (· == ' ')
  match ← lineBreak with
  | [] => return ⟨spaces, false⟩
  | first =>
    match ← plainBreaks (← bound) with
    | some others => return ⟨folded first others, true⟩
    | none => return ⟨[], true⟩

/-- Takes the words of a plain scalar after a gap; answers its text from the gap on, where it ends,
and whether a line has ended after it. -/
def plainWords (inFlow : Bool) (outer : Int) (gap : PlainGap) (stop : Mark) :
    Nat → Scanning (List Char × Mark × Bool)
  | 0 => return ([], stop, gap.newLine)
  | fuel + 1 => do
    let c ← get
    let word := if c.peek == '#' then [] else plainWord inFlow c.rest
    if word.isEmpty then return ([], stop, gap.newLine)
    skip word.length
    let stop ← place
    let after ← plainGap
    let here ← get
    if after.text.isEmpty || here.peek == '#' || (!inFlow && here.place.column < outer + 1) then
      return (gap.text ++ word, stop, after.newLine)
    else
      let (more, stop, newLine) ← plainWords inFlow outer after stop fuel
      return (gap.text ++ word ++ more, stop, newLine)

/-- Takes a plain scalar inside a block that is indented to a column; answers also whether a line has
ended after it. -/
def plainScalar (inFlow : Bool) (outer : Int) : Scanning (Token × Bool) := do
  let start ← place
  let (text, stop, newLine) ← plainWords inFlow outer ⟨[], false⟩ start (← bound)
  return (⟨.scalar (String.ofList text) true, start, stop⟩, newLine)

end Typewright.Yaml.Scanning

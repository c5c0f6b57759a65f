/-
The tokens of a YAML text.

Whether something is a key of a mapping shows only at the colon after it. So where a key may start is
kept as a possible key, and tokens from there on wait in a queue until the colon is found or can no
longer come; then the marks of the key are put in before them. Blocks are opened and closed by
indentation alone, outside of flow collections.
-/
import Typewright.Yaml.Property
import Typewright.Yaml.Scalar

namespace Typewright.Yaml

/-- A place where a key may start: the flow level there, the number of the token, and whether it has
to be a key. -/
structure PossibleKey where
  level : Int
  number : Nat
  required : Bool
  place : Mark
deriving Repr, DecidableEq

/-- A scan: the tokens that wait, how many were delivered before them, the columns of the blocks that
are open, whether a key may start here, and the possible keys, one at most for each flow level. -/
structure Scan where
  cursor : Cursor
  queue : List Token := []
  delivered : Nat := 0
  flowLevel : Int := 0
  indent : Int := -1
  indents : List Int := []
  allowsKey : Bool := true
  keys : List PossibleKey := []
  isDone : Bool := false

namespace Scan

/-- Work on a scan. -/
abbrev Step := StateT Scan (Except Stop)

/-- The scan at the start of a text. -/
def ofText (text : List Char) : Scan :=
  let start := Cursor.ofText text
  { cursor := start, queue := [⟨.streamStart, start.place, start.place⟩] }

/-- Whether a flow collection is open. -/
def inFlow (s : Scan) : Bool := s.flowLevel != 0

/-- Does some work on the cursor. -/
def onCursor {α : Type} (work : Scanning α) : Step α := do
  let s ← get
  let (a, c) ← work.run s.cursor
  set { s with cursor := c }
  return a

/-- Adds a token to the queue. -/
def push (t : Token) : Step Unit := modify fun s => { s with queue := s.queue ++ [t] }

/-- Adds a token without width at the cursor. -/
def pushHere (m : Mold) : Step Unit := do
  let place := (← get).cursor.place
  push ⟨m, place, place⟩

/-- Takes some characters as a token. -/
def takeMark (m : Mold) (width : Nat) : Step Unit := do
  let start := (← get).cursor.place
  onCursor (Scanning.skip width)
  push ⟨m, start, (← get).cursor.place⟩

/-- Says whether a key may start next. -/
def allowKey (b : Bool) : Step Unit := modify fun s => { s with allowsKey := b }

/-! ## Possible keys -/

/-- Stops because a key that has to be one has no colon after it. -/
def failAtKey {α : Type} (k : PossibleKey) : Step α := do
  Scanning.fail (some (.simpleKey, some k.place)) .noColon (← get).cursor.place

/-- How many characters there may be between the start of a key and its colon. -/
def keyReach : Nat := 1024

/-- Whether a possible key is on another line than the cursor, or too far before it. -/
def isStale (c : Cursor) (k : PossibleKey) : Bool :=
  k.place.line != c.place.line || keyReach < c.place.index - k.place.index

/-- Drops the possible keys that are none any more. -/
def dropStaleKeys : Step Unit := do
  let s ← get
  let isStale := isStale s.cursor
  match s.keys.find? fun k => isStale k && k.required with
  | some k => failAtKey k
  | none => set { s with keys := s.keys.filter fun k => !isStale k }

/-- Drops the possible key of the flow level. -/
def dropKey : Step Unit := do
  let s ← get
  match s.keys.find? (·.level == s.flowLevel) with
  | none => return ()
  | some k =>
    if k.required then failAtKey k
    set { s with keys := s.keys.filter (·.level != s.flowLevel) }

/-- Notes that a key may start at the cursor. -/
def noteKey : Step Unit := do
  if (← get).allowsKey then
    dropKey
    modify fun s =>
      let required := !s.inFlow && s.indent == s.cursor.place.column
      { s with keys := s.keys ++
          [⟨s.flowLevel, s.delivered + s.queue.length, required, s.cursor.place⟩] }

/-! ## Blocks -/

/-- The ends of the blocks that are indented further than a column, and the columns of those that
stay open. -/
def closedBlocks (column : Int) : Int → List Int → Nat × Int × List Int
  | indent, [] => (0, indent, [])
  | indent, outer :: rest =>
    if column < indent then
      let (n, indent, rest) := closedBlocks column outer rest
      (n + 1, indent, rest)
    else (0, indent, outer :: rest)

/-- Closes the blocks that are indented further than a column. -/
def closeBlocks (column : Int) : Step Unit := do
  let s ← get
  if s.inFlow then return ()
  let (n, indent, indents) := closedBlocks column s.indent s.indents
  let ending : Token := ⟨.blockEnd, s.cursor.place, s.cursor.place⟩
  set { s with indent, indents, queue := s.queue ++ List.replicate n ending }

/-- Opens a block at a column unless the block around it is indented so far; answers whether it
did. -/
def openBlock (column : Int) : Step Bool := do
  let s ← get
  if s.indent < column then
    set { s with indent := column, indents := s.indent :: s.indents }
    return true
  else return false

/-- Opens a block at the cursor where there is need. -/
def openBlockHere (m : Mold) : Step Unit := do
  if ← openBlock (← get).cursor.place.column then pushHere m

/-! ## Kinds of tokens -/

/-- Stops unless a key may start at the cursor. -/
def requireKeyAllowed (p : Problem) : Step Unit := do
  let s ← get
  if !s.allowsKey then Scanning.fail none p s.cursor.place

/-- Takes the end of the text. -/
def streamEnd : Step Unit := do
  closeBlocks (-1)
  dropKey
  modify fun s => { s with allowsKey := false, keys := [], isDone := true }
  pushHere .streamEnd

/-- Takes a directive. -/
def directive : Step Unit := do
  closeBlocks (-1)
  dropKey
  allowKey false
  push (← onCursor Scanning.directiveToken)

/-- Takes a document marker. -/
def documentMarker (m : Mold) : Step Unit := do
  closeBlocks (-1)
  dropKey
  allowKey false
  takeMark m 3

/-- Takes the start of a flow collection. -/
def flowStart (m : Mold) : Step Unit := do
  noteKey
  modify fun s => { s with flowLevel := s.flowLevel + 1, allowsKey := true }
  takeMark m 1

/-- Takes the end of a flow collection. -/
def flowEnd (m : Mold) : Step Unit := do
  dropKey
  modify fun s => { s with flowLevel := s.flowLevel - 1, allowsKey := false }
  takeMark m 1

/-- Takes a comma between entries. -/
def flowEntry : Step Unit := do
  allowKey true
  dropKey
  takeMark .flowEntry 1

/-- Takes the dash of an entry. -/
def blockEntry : Step Unit := do
  if !(← get).inFlow then
    requireKeyAllowed .sequenceHere
    openBlockHere .blockSequence
  allowKey true
  dropKey
  takeMark .blockEntry 1

/-- Takes the question mark of a key. -/
def key : Step Unit := do
  let inFlow := (← get).inFlow
  if !inFlow then
    requireKeyAllowed .keyHere
    openBlockHere .blockMapping
  allowKey !inFlow
  dropKey
  takeMark .key 1

/-- Puts a token before the one of a number. -/
def insertAt (number : Nat) (t : Token) : Step Unit :=
  modify fun s => { s with queue := s.queue.insertIdx (number - s.delivered) t }

/-- Takes the colon of a value. -/
def value : Step Unit := do
  let s ← get
  match s.keys.find? (·.level == s.flowLevel) with
  | some k =>
    set { s with keys := s.keys.filter (·.level != s.flowLevel) }
    insertAt k.number ⟨.key, k.place, k.place⟩
    if !s.inFlow then
      if ← openBlock k.place.column then insertAt k.number ⟨.blockMapping, k.place, k.place⟩
    allowKey false
  | none =>
    if !s.inFlow then
      requireKeyAllowed .valueHere
      openBlockHere .blockMapping
    allowKey !s.inFlow
    dropKey
  takeMark .value 1

/-- Takes a token that may be or start a key. -/
def keyToken (work : Scanning Token) : Step Unit := do
  noteKey
  allowKey false
  push (← onCursor work)

/-- Takes a block scalar. -/
def blockScalar (isFolded : Bool) : Step Unit := do
  allowKey true
  dropKey
  push (← onCursor (Scanning.blockScalar isFolded (← get).indent))

/-- Takes a plain scalar. -/
def plainScalar : Step Unit := do
  noteKey
  let s ← get
  let (t, newLine) ← onCursor (Scanning.plainScalar s.inFlow s.indent)
  allowKey newLine
  push t

/-! ## The next token -/

/-- Passes over blanks, comments and line breaks before a token; a key may start after a line
break. -/
def skipToToken : Nat → Step Unit
  | 0 => return ()
  | fuel + 1 => do
    onCursor (Scanning.skipWhile (· == ' '))
    onCursor Scanning.comment
    match ← onCursor Scanning.lineBreak with
    | [] => return ()
    | _ =>
      if !(← get).inFlow then allowKey true
      skipToToken fuel

/-- Whether a document marker made of a character stands at the cursor. -/
def atMarker (c : Cursor) (d : Char) : Bool :=
  c.place.column == 0 && c.rest.take 3 == [d, d, d] && isBlank (c.peekAt 3)

/-- Whether a character may only start a plain scalar together with the next one. -/
def startsMark (c : Char) : Bool := c == '-' || c == '?' || c == ':'

/-- Whether a character never starts a plain scalar. -/
def isIndicator (c : Char) : Bool := ",[]\x7b\x7d#&*!|>'\"%@\x60".toList.contains c

/-- Whether a plain scalar starts at the cursor. -/
def startsPlain (inFlow : Bool) (c : Cursor) : Bool :=
  let d := c.peek
  if isBlank d || isIndicator d then false
  else if startsMark d then !isBlank (c.peekAt 1) && (d == '-' || !inFlow)
  else true

/-- Takes the tokens that the next character starts. -/
def takeNext : Step Unit := do
  let s ← get
  let c := s.cursor
  let d := c.peek
  let beforeBlank := isBlank (c.peekAt 1)
  if d == '\x00' then streamEnd
  else if d == '%' && c.place.column == 0 then directive
  else if atMarker c '-' then documentMarker .documentStart
  else if atMarker c '.' then documentMarker .documentEnd
  else if d == '[' then flowStart .flowSequence
  else if d == '\x7b' then flowStart .flowMapping
  else if d == ']' then flowEnd .flowSequenceEnd
  else if d == '\x7d' then flowEnd .flowMappingEnd
  else if d == ',' then flowEntry
  else if d == '-' && beforeBlank then blockEntry
  else if d == '?' && (s.inFlow || beforeBlank) then key
  else if d == ':' && (s.inFlow || beforeBlank) then value
  else if d == '*' then keyToken Scanning.aliasToken
  else if d == '&' then keyToken Scanning.anchorToken
  else if d == '!' then keyToken Scanning.tagToken
  else if d == '|' && !s.inFlow then blockScalar false
  else if d == '>' && !s.inFlow then blockScalar true
  else if d == '\'' then keyToken (Scanning.quotedScalar false)
  else if d == '"' then keyToken (Scanning.quotedScalar true)
  else if startsPlain s.inFlow c then plainScalar
  else Scanning.fail (some (.nextToken, none)) (.noStart d) c.place

/-- Takes the next tokens. -/
def fetch : Step Unit := do
  let c := (← get).cursor
  if c.place.index == 0 && c.peek == '\uFEFF' then onCursor (Scanning.skip 1)
  skipToToken (c.rest.length + 1)
  dropStaleKeys
  closeBlocks (← get).cursor.place.column
  takeNext

/-- The tokens after one more fetch; `tokens` gives those of a scan. -/
def afterFetch (tokens : Scan → List Token × Option Stop) (s : Scan) : List Token × Option Stop :=
  match fetch.run s with
  | .error e => ([], some e)
  | .ok (_, s) => tokens s

/-- The tokens of the rest of a text, and why there are no more of them. A token is delivered once
no possible key starts with it. -/
def tokens : Nat → Scan → List Token × Option Stop
  | 0, s => (s.queue, none)
  | fuel + 1, s =>
    if s.isDone then (s.queue, none)
    else match s.queue with
      | [] => afterFetch (tokens fuel) s
      | t :: rest =>
        match dropStaleKeys.run s with
        | .error e => ([], some e)
        | .ok (_, s) =>
          if s.keys.any (·.number == s.delivered) then afterFetch (tokens fuel) s
          else
            let (more, stop) := tokens fuel { s with queue := rest, delivered := s.delivered + 1 }
            (t :: more, stop)

end Scan

/-- The tokens of a text, and why there are no more of them. -/
def Token.ofText (text : List Char) : List Token × Option Stop :=
  match text.findIdx? fun c => !isAllowed c with
  | some n => ([], some (.character (text.getD n '\x00') n))
  | none => Scan.tokens (8 * text.length + 16) (Scan.ofText text)

end Typewright.Yaml

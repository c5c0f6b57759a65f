/-
Reading regular expressions.

An expression is a choice among sequences of parts. In a verbose expression blanks and comments
between parts are left out.
-/
import Typewright.Regex.Scan

namespace Typewright.Regex

open Scan

/-! ## Flags -/

/-- Whether a token is a letter. -/
def isLetter : List Char → Bool
  | [c] => Text.isIdentifierStart c && c != '_'
  | _ => false

/-- What a token that is no flag is called where something else should follow. -/
def notFlag (what : String) (t : List Char) : Cause :=
  if isLetter t then .unknownFlag else .missing what

/-- Takes flags that are turned on, from the one of token `t`, with the mark after them. -/
def flagsOn : Nat → List Flag → List Char → Scanning (List Flag × List Char)
  | 0, done, t => return (done, t)
  | fuel + 1, done, t => do
    if t == [')'] || t == ['-'] || t == [':'] then return (done, t)
    else match Flag.ofToken? t with
      | none => fail (notFlag "-, : or )" t) t.length
      | some f =>
        let subject := (← get).subject
        if f == .locale && subject == .texts then fail .localeFlag 0
        else if f == .unicode && subject == .bytes then fail .unicodeFlag 0
        else if f.isType && done.any (fun g => g.isType && g != f) then fail .incompatibleFlags 0
        else
          let next ← take
          if next.isEmpty then fail (.missing "-, : or )") 0
          else flagsOn fuel (f :: done) next

/-- Takes flags that are turned off, from the one of token `t`, with the colon after them. -/
def flagsOff : Nat → List Flag → List Char → Scanning (List Flag)
  | 0, done, _ => return done
  | fuel + 1, done, t => do
    match Flag.ofToken? t with
    | none => fail (notFlag (if done.isEmpty then "flag" else ":") t) t.length
    | some f =>
      if f.isType then fail .typeFlagOff 0
      else
        let next ← take
        if next.isEmpty then fail (.missing ":") 0
        else if next == [':'] then return f :: done
        else flagsOff fuel (f :: done) next

/-- Takes the flags of a group, from token `t` on: those turned on and off inside of it, or none
if they are set for the whole expression. -/
def groupFlags (t : List Char) : Scanning (Option (List Flag × List Flag)) := do
  let fuel := (← get).rest.length + 2
  let (on, mark) ← flagsOn fuel [] t
  if mark == [')'] then
    modify fun s => { s with flags := on ++ s.flags }
    return none
  else if on.contains .template then fail .globalFlagOn 1
  else if mark == ['-'] then
    let next ← take
    if next.isEmpty then fail (.missing "flag") 0
    else
      let off ← flagsOff fuel [] next
      if off.contains .template then fail .globalFlagOff 1
      else if on.any off.contains then fail .flagOnAndOff 1
      else return some (on, off)
  else return some (on, [])

/-! ## Sets of characters -/

/-- The rest of a token inside of a set. -/
def setChar : List Char → Scanning Escaped
  | ['\\', c] => setEscape c
  | [c] => return .char c.toNat
  | _ => return .chars

/-- Takes the rest of a set that starts at an offset. -/
def set (start : Nat) : Nat → Bool → Scanning Unit
  | 0, _ => return ()
  | fuel + 1, isEmpty => do
    let first ← take
    if first.isEmpty then failAt start .unterminatedSet
    else if first == [']'] && !isEmpty then return ()
    else
      let low ← setChar first
      if ← accept '-' then
        let last ← take
        if last.isEmpty then failAt start .unterminatedSet
        else if last == [']'] then return ()
        else
          let high ← setChar last
          let wrong : Scanning Unit := fail (.range first last) (first.length + 1 + last.length)
          match low, high with
          | .char a, .char b => if b < a then wrong else set start fuel false
          | _, _ => wrong
      else set start fuel false

/-! ## Repetitions -/

/-- A number of repetitions. -/
def limit (digits : List Char) (default : Nat) : Scanning Nat :=
  if digits.isEmpty then return default
  else if Number.maxDigits < digits.length then throw (.fault .value)
  else
    let n := numeral 10 digits
    if noLimit ≤ n then throw (.fault .overflow) else return n

/-- Takes the limits of a repetition after their opening brace, if limits are there. -/
def limits? : Scanning (Option (Nat × Nat)) := do
  let start ← get
  if (← next) == ['\x7d'] then return none
  else
    let digits : Scanning (List Char) := do takeWhile Text.isAsciiDigit (← get).rest.length
    let least ← digits
    let greatest ← if ← accept ',' then digits else pure least
    if ← accept '\x7d' then
      let low ← limit least 0
      let high ← limit greatest noLimit
      if !greatest.isEmpty && high < low then failAt start.offset .repeatOrder
      else return some (low, high)
    else
      MonadStateOf.set start
      return none

/-- Takes the mark after an operator that says how greedy it is, if there is one. -/
def greed : Scanning Greed := do
  if ← accept '?' then return .lazy
  else if ← accept '+' then return .possessive
  else return .greedy

/-- Parts with the last one repeated; they are in reverse, and `start` is the offset of the
operator. -/
def repeated (start least greatest : Nat) : List Node → Scanning (List Node)
  | [] => failAt start .nothingToRepeat
  | .anchor :: _ => failAt start .nothingToRepeat
  | .repetition .. :: _ => failAt start .multipleRepeat
  | n :: r => do
    return .repetition (← greed) least greatest [n] :: r

/-! ## Comments -/

/-- Takes the rest of a comment that a line ends. -/
def lineComment : Nat → Scanning Unit
  | 0 => return ()
  | fuel + 1 => do
    let t ← take
    if t.isEmpty || t == ['\n'] then return () else lineComment fuel

/-- Takes the rest of a comment that a parenthesis ends. -/
def groupComment (start : Nat) : Nat → Scanning Unit
  | 0 => return ()
  | fuel + 1 => do
    if (← next).isEmpty then failAt start .unterminatedComment
    else if (← take) == [')'] then return ()
    else groupComment start fuel

/-! ## Groups and sequences -/

/-- The group that a condition asks for: a name, or a number that may be that of a later group. -/
def conditionGroup (name : List Char) : Scanning Nat := do
  let back := name.length + 1
  if Text.isIdentifier name then
    match (← get).names.lookup name with
    | some group => return group
    | none => fail (.unknownGroup name) back
  else match Number.readInt? 10 name with
    | none => fail (.groupName name) back
    | some n =>
      if n < 0 then fail (.groupName name) back
      else if n == 0 then fail .groupNumber back
      else
        let place := (← get).offset - back
        modify fun s =>
          { s with expected :=
              if s.expected.any (·.1 == n.toNat) then s.expected
              else s.expected ++ [(n.toNat, place)] }
        return n.toNat

/-- What an opening parenthesis starts: a part, a comment, or flags for the whole expression. -/
inductive Item where
  | part (n : Node)
  | comment
  | settings

/-- Takes the parenthesis that closes what starts at an offset. -/
def close (start : Nat) : Scanning Unit := do
  if ← accept ')' then return () else failAt start .unterminatedGroup

/-- Refuses flags for the whole expression that are not at its start. -/
def checkSettings (start : Nat) (atStart : Bool) : Scanning Unit :=
  if atStart then return () else failAt start .lateFlags

/-- Whether blanks are left out inside of a group with flags. -/
def verboseInside (verbose : Bool) (on off : List Flag) : Bool :=
  (verbose || on.contains .verbose) && !off.contains .verbose

mutual

/-- Takes alternatives. The number bounds the length of the text; `top` tells that they are the
whole expression. -/
def alternatives : Nat → Bool → Bool → Bool → List (List Node) → Scanning (List Node)
  | 0, _, _, _, done => return done.flatten
  | fuel + 1, verbose, top, first, done => do
    let branch ← sequence fuel verbose (top && first) []
    let branches := branch :: done
    if ← accept '|' then
      let flags := (← get).flags
      alternatives fuel (if top then flags.contains .verbose else verbose) top false branches
    else if first then return branch
    else return [.choice branches.reverse]

/-- Takes parts after each other; `done` has been taken, in reverse, and `first` tells that they
are at the start of the expression. -/
def sequence : Nat → Bool → Bool → List Node → Scanning (List Node)
  | 0, _, _, done => return done.reverse
  | fuel + 1, verbose, first, done => do
    let start := (← get).offset
    let t ← next
    if t.isEmpty || t == ['|'] || t == [')'] then return done.reverse
    else
      let _ ← take
      let isBlank := [[' '], ['\t'], ['\n'], ['\r'], ['\x0b'], ['\x0c']].contains t
      if verbose && isBlank then sequence fuel verbose first done
      else if verbose && t == ['#'] then
        lineComment ((← get).rest.length + 1)
        sequence fuel verbose first done
      else
        let repeatedBy (limits : Nat × Nat) : Scanning (List Node) :=
          repeated start limits.1 limits.2 done
        match t with
        | ['\\', c] =>
          match ← escape c with
          | .node n => sequence fuel verbose first (n :: done)
          | _ => sequence fuel verbose first (.unit :: done)
        | ['^'] => sequence fuel verbose first (.anchor :: done)
        | ['$'] => sequence fuel verbose first (.anchor :: done)
        | ['['] =>
          let _ ← accept '^'
          set start ((← get).rest.length + 1) true
          sequence fuel verbose first (.unit :: done)
        | ['?'] => sequence fuel verbose first (← repeatedBy (0, 1))
        | ['*'] => sequence fuel verbose first (← repeatedBy (0, noLimit))
        | ['+'] => sequence fuel verbose first (← repeatedBy (1, noLimit))
        | ['\x7b'] =>
          match ← limits? with
          | some limits => sequence fuel verbose first (← repeatedBy limits)
          | none => sequence fuel verbose first (.unit :: done)
        | ['('] =>
          match ← parenthesis fuel verbose (first && done.isEmpty) start with
          | .part n => sequence fuel verbose first (n :: done)
          | .comment => sequence fuel verbose first done
          | .settings => sequence fuel ((← get).flags.contains .verbose) first done
        | _ => sequence fuel verbose first (.unit :: done)

/-- Takes what follows an opening parenthesis at an offset. -/
def parenthesis : Nat → Bool → Bool → Nat → Scanning Item
  | 0, _, _, _ => return .comment
  | fuel + 1, verbose, atStart, start => do
    if !(← accept '?') then return .part (← captured fuel verbose start none)
    else
      let t ← take
      match t with
      | [] => fail .endOfPattern 0
      | ['P'] =>
        if ← accept '<' then
          let name ← nameUntil '>' "group name"
          checkName name
          return .part (← captured fuel verbose start (some name))
        else if ← accept '=' then
          let name ← nameUntil ')' "group name"
          checkName name
          match (← get).names.lookup name with
          | some group => return .part (← backReference group (name.length + 1))
          | none => fail (.unknownGroup name) (name.length + 1)
        else
          let t ← take
          if t.isEmpty then fail .endOfPattern 0
          else fail (.unknownExtension ('P' :: t)) (t.length + 2)
      | [':'] => return .part (.group (← inside fuel verbose start))
      | ['>'] => return .part (.group (← inside fuel verbose start))
      | ['#'] =>
        groupComment start ((← get).rest.length + 1)
        return .comment
      | ['='] => return .part (.look false (← inside fuel verbose start))
      | ['!'] => return .part (.look false (← inside fuel verbose start))
      | ['<'] =>
        let t ← take
        if t.isEmpty then fail .endOfPattern 0
        else if t != ['='] && t != ['!'] then fail (.unknownExtension ('<' :: t)) (t.length + 2)
        else
          let outer := (← get).behind
          let count ← groups
          modify fun s => { s with behind := outer.or (some count) }
          let body ← alternatives fuel verbose false true []
          modify fun s => { s with behind := outer }
          close start
          return .part (.look true body)
      | ['('] =>
        let name ← nameUntil ')' "group name"
        checkBehind (← conditionGroup name)
        let yes ← sequence fuel verbose false []
        if ← accept '|' then
          let no ← sequence fuel verbose false []
          if (← next) == ['|'] then fail .manyBranches 0
          else
            close start
            return .part (.condition yes (some no))
        else
          close start
          return .part (.condition yes none)
      | t =>
        if (Flag.ofToken? t).isSome || t == ['-'] then
          match ← groupFlags t with
          | none =>
            checkSettings start atStart
            return .settings
          | some (on, off) =>
            return .part (.group (← inside fuel (verboseInside verbose on off) start))
        else fail (.unknownExtension t) (t.length + 1)

/-- Takes the rest of a group that is captured. -/
def captured : Nat → Bool → Nat → Option (List Char) → Scanning Node
  | 0, _, _, _ => return .group []
  | fuel + 1, verbose, start, name => do
    let number ← openGroup name
    let body ← alternatives fuel verbose false true []
    close start
    closeGroup number body
    return .group body

/-- Takes what is inside of parentheses, with the closing one. -/
def inside : Nat → Bool → Nat → Scanning (List Node)
  | 0, _, _ => return []
  | fuel + 1, verbose, start => do
    let body ← alternatives fuel verbose false true []
    close start
    return body

end

/-! ## Whole expressions -/

/-- Takes a whole expression. -/
def expression : Scanning (List Node) := do
  checkNext
  let body ← alternatives (4 * (← get).rest.length + 8) false true true []
  let s ← get
  let types := [Flag.ascii, .locale, .unicode].filter s.flags.contains
  if 1 < types.length then throw (.fault .value)
  else if !(← next).isEmpty then fail .unbalanced 0
  else match s.expected.find? fun e => s.widths.length ≤ e.1 with
    | some (group, place) => failAt place (.groupReference group)
    | none =>
      match unfitIn? (s.flags.contains .template) body with
      | some cause => throw (.malformed cause none)
      | none => return body

/-- Reads a regular expression. -/
def read (subject : Subject) (pattern : List Char) : Except Refusal (List Node) :=
  (expression.run { subject := subject, offset := 0, rest := pattern }).map (·.1)

end Typewright.Regex

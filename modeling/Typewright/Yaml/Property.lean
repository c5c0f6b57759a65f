/-
Scanning what YAML says about nodes and documents: anchors, aliases, tags and directives.
-/
import Typewright.Number.Read
import Typewright.Text.Utf8
import Typewright.Yaml.Cursor

namespace Typewright.Yaml.Scanning

/-! ## Anchors and aliases -/

/-- Whether a character may follow a name. -/
def endsName (c : Char) : Bool :=
  isBlank c || c == '?' || c == ':' || c == ',' || c == ']' || c == '\x7d' || c == '%' || c == '@' ||
    c == '\x60'

/-- Takes a name that something has to follow. -/
def name (context : Context) (start : Mark) (ends : Char → Bool) : Scanning String := do
  let word ← takeWhile isWord
  let c ← peek
  if word.isEmpty || !ends c then
    failIn context start (.expected "alphabetic or numeric character" c)
  return String.ofList word

/-- Takes an alias. -/
def aliasToken : Scanning Token := do
  let start ← place
  skip 1
  let word ← name .aliasName start endsName
  return ⟨.aliasOf word, start, ← place⟩

/-- Takes an anchor. -/
def anchorToken : Scanning Token := do
  let start ← place
  skip 1
  let word ← name .anchorName start endsName
  return ⟨.anchor word, start, ← place⟩

/-! ## Tags -/

/-- Takes the handle of a tag: an exclamation mark, or a word between two of them. -/
def handle (what : String) (start : Mark) : Scanning String := do
  let context := Context.scanning what
  let c ← peek
  if c != '!' then failIn context start (.expected "'!'" c)
  if (← peekAt 1) == ' ' then
    skip 1
    return "!"
  else
    let word := ((← get).rest.drop 1).takeWhile isWord
    skip (word.length + 1)
    let c ← peek
    if c != '!' then failIn context start (.expected "'!'" c)
    skip 1
    return String.ofList ('!' :: word ++ ['!'])

/-- Whether a character of a tag stands for itself. -/
def isUriChar (c : Char) : Bool := isWord c || ";/?:@&=+$,_.!~*'()[]".toList.contains c

/-- Takes escaped bytes of a tag. -/
def uriBytes (what : String) (start : Mark) : Nat → Scanning (List UInt8)
  | 0 => return []
  | fuel + 1 => do
    if (← peek) != '%' then return []
    skip 1
    let b ← hexDigits 2 "URI escape sequence of 2 hexadecimal numbers" (.scanning what) start
    return UInt8.ofNat b :: (← uriBytes what start fuel)

/-- Takes escaped characters of a tag. -/
def uriEscapes (what : String) (start : Mark) : Scanning (List Char) := do
  let first ← place
  let bytes ← uriBytes what start (← bound)
  match Text.Utf8.decode bytes with
  | .ok text => return text
  | .error e => fail (some (.scanning what, some start)) (.encoding e.message) first

/-- Takes the characters of a tag. -/
def uriChars (what : String) (start : Mark) : Nat → Scanning (List Char)
  | 0 => return []
  | fuel + 1 => do
    let text ← takeWhile isUriChar
    if (← peek) == '%' then
      let escaped ← uriEscapes what start
      return text ++ escaped ++ (← uriChars what start fuel)
    else return text

/-- Takes a tag without its handle. -/
def uri (what : String) (start : Mark) : Scanning String := do
  let before ← get
  let text ← uriChars what start (← bound)
  let after ← get
  if after.place.index == before.place.index then
    failIn (.parsing what) start (.expected "URI" after.peek)
  return String.ofList text

/-- Takes the handle and the rest of a tag. -/
def tagParts (start : Mark) : Scanning (Option String × String) := do
  let c ← peekAt 1
  if c == '<' then
    skip 2
    let suffix ← uri "tag" start
    let c ← peek
    if c != '>' then failIn (.parsing "tag") start (.expected "'>'" c)
    skip 1
    return (none, suffix)
  else if isBlank c then
    skip 1
    return (none, "!")
  else
    let word := ((← get).rest.drop 1).takeWhile fun c => !isGap c
    let h ← if word.contains '!' then handle "tag" start else (do skip 1; return "!" : Scanning String)
    return (some h, ← uri "tag" start)

/-- Takes a tag. -/
def tagToken : Scanning Token := do
  let start ← place
  let (h, suffix) ← tagParts start
  let c ← peek
  if !isGap c then failIn (.scanning "tag") start (.expected "' '" c)
  return ⟨.tag h suffix, start, ← place⟩

/-! ## Directives -/

/-- Takes a part of a version. -/
def versionPart (start : Mark) : Scanning Nat := do
  let digits ← takeWhile Text.isAsciiDigit
  if digits.isEmpty then failIn .directive start (.expected "a digit" (← peek))
  if Number.maxDigits < digits.length then throw (.fault .value)
  return Number.decimalValue digits

/-- Takes a version. -/
def version (start : Mark) : Scanning Directive := do
  skipWhile (· == ' ')
  let major ← versionPart start
  let c ← peek
  if c != '.' then failIn .directive start (.expected "a digit or '.'" c)
  skip 1
  let minor ← versionPart start
  let c ← peek
  if !isGap c then failIn .directive start (.expected "a digit or ' '" c)
  return .version major minor

/-- Takes what a handle of tags stands for. -/
def tagDirective (start : Mark) : Scanning Directive := do
  skipWhile (· == ' ')
  let h ← handle "directive" start
  let c ← peek
  if c != ' ' then failIn .directive start (.expected "' '" c)
  skipWhile (· == ' ')
  let target ← uri "directive" start
  let c ← peek
  if !isGap c then failIn .directive start (.expected "' '" c)
  return .tag h target

/-- Takes a directive with the rest of its line. -/
def directiveToken : Scanning Token := do
  let start ← place
  skip 1
  let word ← name .directive start isGap
  let d ← (do
    if word == "YAML" then version start
    else if word == "TAG" then tagDirective start
    else return .other : Scanning Directive)
  let stop ← place
  if d == .other then skipWhile fun c => !isEnd c
  restOfLine .directive start
  return ⟨.directive d, start, stop⟩

end Typewright.Yaml.Scanning

/-
Addresses of pages, and where the location of a page leads from them.
-/
import Typewright.Number.Decimal
import Typewright.Text.Edit

namespace Typewright

/-- The parts of an address. -/
structure Url where
  scheme : List Char := []
  authority : Option (List Char) := none
  path : List Char := []
  query : Option (List Char) := none
  fragment : Option (List Char) := none
deriving Repr, DecidableEq

namespace Url

/-! ## Reading and writing -/

/-- The text up to a character, and the text after it if it is there. -/
def cut (mark : Char) (s : List Char) : List Char × Option (List Char) :=
  match s.dropWhile (· != mark) with
  | [] => (s, none)
  | _ :: r => (s.takeWhile (· != mark), some r)

/-- Whether a character may stand in a scheme. -/
def isSchemeChar (c : Char) : Bool :=
  Text.isAsciiLower c || Text.isAsciiUpper c || Text.isAsciiDigit c || c == '+' || c == '-' || c == '.'

/-- The scheme in front of a text, if there is one, and the text after it. -/
def cutScheme (s : List Char) : List Char × List Char :=
  let scheme := s.takeWhile isSchemeChar
  match scheme, s.drop scheme.length with
  | c :: _, ':' :: r =>
    if Text.isAsciiLower c || Text.isAsciiUpper c then (Number.plainLower scheme, r) else ([], s)
  | _, _ => ([], s)

/-- The authority in front of a text, if there is one, and the text after it. -/
def cutAuthority : List Char → Option (List Char) × List Char
  | '/' :: '/' :: r =>
    (some (Number.plainLower (r.takeWhile (· != '/'))), r.dropWhile (· != '/'))
  | s => (none, s)

/-- The number behind the host that a scheme has if none is given. -/
def usualNumber (scheme : List Char) : List Char :=
  if scheme == "http".toList then ":80".toList
  else if scheme == "https".toList then ":443".toList
  else []

/-- An authority without the number that its scheme has anyway. -/
def withoutNumber (scheme authority : List Char) : List Char :=
  let number := usualNumber scheme
  if number.isSuffixOf authority then authority.take (authority.length - number.length)
  else authority

/-- A segment added to those before it, in reverse: a dot adds nothing, and double dots take the last
segment away. -/
def addSegment (done : List (List Char)) (segment : List Char) : List (List Char) :=
  if segment == ['.'] then done
  else if segment == ['.', '.'] then
    if done.isEmpty || done == [[]] then done else done.drop 1
  else segment :: done

/-- Texts with slashes between them. -/
def joinSegments (segments : List (List Char)) : List Char :=
  (segments.intersperse ['/']).flatten

/-- A path without dots and double dots. -/
def plainPath (path : List Char) : List Char :=
  joinSegments ((Text.splitChar '/' path).foldl addSegment []).reverse

/-- The characters that are escaped in a path besides those that are not ASCII. -/
def pathEscapes : List Char := " \"#<>?\x60\x7b\x7d".toList

/-- The characters that are escaped in a query besides those that are not ASCII. -/
def queryEscapes : List Char := " \"#<>".toList

/-- Escapes characters as the bytes of their encoding. -/
def escape (escapes : List Char) (s : List Char) : List Char :=
  s.flatMap fun c =>
    if c.toNat < 0x80 && !escapes.contains c then [c]
    else c.toString.toUTF8.toList.flatMap fun b =>
      '%' :: (Number.hexPadded 2 b.toNat).map fun d =>
        if Text.isAsciiLower d then Char.ofNat (d.toNat - 32) else d

/-- The address that a text writes. -/
def ofText (text : String) : Url :=
  let (s, fragment) := cut '#' text.toList
  let (s, query) := cut '?' s
  let (scheme, s) := cutScheme s
  let (authority, path) := cutAuthority s
  let path := if scheme.isEmpty && authority.isNone then path else plainPath path
  { scheme, authority := authority.map (withoutNumber scheme), path := escape pathEscapes path,
    query := query.map (escape queryEscapes), fragment := fragment.map (escape queryEscapes) }

/-- The text of an address. -/
def text (u : Url) : String :=
  String.ofList ((if u.scheme.isEmpty then [] else u.scheme ++ [':']) ++
    (u.authority.map (['/', '/'] ++ ·)).getD [] ++ u.path ++
    (u.query.map ('?' :: ·)).getD [] ++ (u.fragment.map ('#' :: ·)).getD [])

/-! ## Relative addresses -/

/-- The segments of the directory that a path is in. -/
def directorySegments (path : List Char) : List (List Char) :=
  let segments := Text.splitChar '/' path
  if segments.getLast? == some [] then segments else segments.dropLast

/-- The segments of a path that is relative to another one. -/
def relativeSegments (base path : List Char) : List (List Char) :=
  match path with
  | '/' :: _ => Text.splitChar '/' path
  | _ => directorySegments base ++ Text.splitChar '/' path

/-- Segments without the empty ones between the first and the last. -/
def withoutEmpty : List (List Char) → List (List Char)
  | [] => []
  | first :: rest =>
    match rest.getLast? with
    | none => [first]
    | some last => first :: rest.dropLast.filter (!·.isEmpty) ++ [last]

/-- A path that is relative to another one, without dots and double dots. -/
def relativePath (base path : List Char) : List Char :=
  let segments := withoutEmpty (relativeSegments base path)
  let kept := (segments.foldl (fun done s =>
    if s == ['.', '.'] then done.drop 1 else if s == ['.'] then done else s :: done) []).reverse
  let last := segments.getLast?.getD []
  let path := joinSegments (if last == ['.'] || last == ['.', '.'] then kept ++ [[]] else kept)
  if path.isEmpty then ['/'] else path

/-- The host in an authority, without the user before it and the number after it. -/
def host (authority : List Char) : List Char :=
  let (_, afterUser) := cut '@' authority
  (cut ':' (afterUser.getD authority)).1

/-- The address that a location leads to from another address. One with a scheme and no host is on the
same host. -/
def resolve (base target : Url) : Url :=
  let found : Url :=
    if !target.scheme.isEmpty && (target.authority.getD []).isEmpty then
      { target with authority := base.authority.map host }
    else if !target.scheme.isEmpty && target.scheme != base.scheme then target
    else if target.authority.isSome then { target with scheme := base.scheme }
    else if target.path.isEmpty then
      { base with query := target.query.or base.query, fragment := target.fragment }
    else
      { target with
        scheme := base.scheme
        authority := base.authority
        path := relativePath base.path target.path }
  { found with fragment := found.fragment.or base.fragment }

end Url

end Typewright

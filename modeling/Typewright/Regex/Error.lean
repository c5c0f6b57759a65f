/-
Why a text is not a regular expression.
-/
import Typewright.Fault
import Typewright.Text.Position
import Typewright.Text.Quoted

namespace Typewright.Regex

/-- What is wrong in a regular expression. -/
inductive Cause where
  | danglingBackslash
  | missing (what : String)
  | unterminatedName (mark : Char)
  | groupName (name : List Char)
  | incompleteEscape (escape : List Char)
  | badEscape (escape : List Char)
  | octalEscape (escape : List Char)
  | characterName (name : List Char)
  | openGroup
  | sameLookBehind
  | groupReference (number : Nat)
  | groupNumber
  | unknownGroup (name : List Char)
  | groupAgain (name : List Char) (number earlier : Nat)
  | unterminatedSet
  | range (first last : List Char)
  | repeatOrder
  | nothingToRepeat
  | multipleRepeat
  | endOfPattern
  | unknownExtension (text : List Char)
  | unterminatedComment
  | unterminatedGroup
  | manyBranches
  | unbalanced
  | lateFlags
  | unknownFlag
  | localeFlag
  | unicodeFlag
  | incompatibleFlags
  | globalFlagOn
  | globalFlagOff
  | typeFlagOff
  | flagOnAndOff
  | template (operator : String)
  | variableLookBehind
  | longLookBehind
deriving Repr, DecidableEq

/-- A cause in words. -/
def Cause.message : Cause → String
  | .danglingBackslash => "bad escape (end of pattern)"
  | .missing what => "missing " ++ what
  | .unterminatedName mark => "missing " ++ mark.toString ++ ", unterminated name"
  | .groupName name => "bad character in group name " ++ quote name
  | .incompleteEscape escape => "incomplete escape " ++ String.ofList escape
  | .badEscape escape => "bad escape " ++ String.ofList escape
  | .octalEscape escape =>
    "octal escape value " ++ String.ofList escape ++ " outside of range 0-0o377"
  | .characterName name => "undefined character name " ++ quote name
  | .openGroup => "cannot refer to an open group"
  | .sameLookBehind => "cannot refer to group defined in the same lookbehind subpattern"
  | .groupReference number => "invalid group reference " ++ Nat.repr number
  | .groupNumber => "bad group number"
  | .unknownGroup name => "unknown group name " ++ quote name
  | .groupAgain name number earlier =>
    "redefinition of group name " ++ quote name ++ " as group " ++ Nat.repr number ++
      "; was group " ++ Nat.repr earlier
  | .unterminatedSet => "unterminated character set"
  | .range first last => "bad character range " ++ String.ofList (first ++ '-' :: last)
  | .repeatOrder => "min repeat greater than max repeat"
  | .nothingToRepeat => "nothing to repeat"
  | .multipleRepeat => "multiple repeat"
  | .endOfPattern => "unexpected end of pattern"
  | .unknownExtension text => "unknown extension ?" ++ String.ofList text
  | .unterminatedComment => "missing ), unterminated comment"
  | .unterminatedGroup => "missing ), unterminated subpattern"
  | .manyBranches => "conditional backref with more than two branches"
  | .unbalanced => "unbalanced parenthesis"
  | .lateFlags => "global flags not at the start of the expression"
  | .unknownFlag => "unknown flag"
  | .localeFlag => "bad inline flags: cannot use 'L' flag with a str pattern"
  | .unicodeFlag => "bad inline flags: cannot use 'u' flag with a bytes pattern"
  | .incompatibleFlags => "bad inline flags: flags 'a', 'u' and 'L' are incompatible"
  | .globalFlagOn => "bad inline flags: cannot turn on global flag"
  | .globalFlagOff => "bad inline flags: cannot turn off global flag"
  | .typeFlagOff => "bad inline flags: cannot turn off flags 'a', 'u' and 'L'"
  | .flagOnAndOff => "bad inline flags: flag turned on and off"
  | .template operator => "internal: unsupported template operator " ++ operator
  | .variableLookBehind => "look-behind requires fixed-width pattern"
  | .longLookBehind => "looks too much behind"
where
  quote (s : List Char) : String := String.ofList (Text.quotedChars s)

/-- Why a pattern is refused: a cause with its offset if it has one, or a number in it that is too
large to be looked at. -/
inductive Refusal where
  | malformed (cause : Cause) (offset : Option Nat)
  | fault (f : Fault)
deriving Repr, DecidableEq

/-- What an expression matches: texts, or byte strings with a character for each byte. -/
inductive Subject where
  | texts
  | bytes
deriving Repr, DecidableEq

/-- A message in the characters that are shown beside an expression: all of them where it matches
texts, and those of ASCII beside byte strings. -/
def Subject.show : Subject → List Char → List Char
  | .texts, s => s
  | .bytes, s => s.flatMap fun c => if c.toNat < 0x80 then [c] else Text.codePointEscape c

/-- A cause at an offset of a pattern, in words; lines are counted where there is more than one. -/
def messageAt (pattern : List Char) (cause : Cause) : Option Nat → String
  | none => cause.message
  | some offset =>
    let place := cause.message ++ " at position " ++ Nat.repr offset
    if pattern.contains '\n' then
      let p := Text.Position.after (pattern.take offset)
      place ++ " (line " ++ Nat.repr p.line ++ ", column " ++ Nat.repr p.column ++ ")"
    else place

end Typewright.Regex

/-
Why a text is not JSON.
-/
import Typewright.Text.Position

namespace Typewright.Json

/-- What is wrong at some place of a text that is not JSON. -/
inductive Cause where
  | byteOrderMark
  | value
  | extra
  | name
  | colon
  | comma
  | control
  | unterminated
  | escape
  | codeUnit
deriving Repr, DecidableEq

/-- A cause in words. -/
def Cause.message : Cause → String
  | .byteOrderMark => "Unexpected UTF-8 BOM (decode using utf-8-sig)"
  | .value => "Expecting value"
  | .extra => "Extra data"
  | .name => "Expecting property name enclosed in double quotes"
  | .colon => "Expecting ':' delimiter"
  | .comma => "Expecting ',' delimiter"
  | .control => "Invalid control character at"
  | .unterminated => "Unterminated string starting at"
  | .escape => "Invalid \\escape"
  | .codeUnit => "Invalid \\uXXXX escape"

/-- Why reading stops: a syntax error, with the text from its place on, an integer with too many
digits, or values nested too deeply. -/
inductive Stop where
  | malformed (cause : Cause) (rest : List Char)
  | longNumeral
  | tooDeep
deriving Repr, DecidableEq

/-- A syntax error with its offset and position. -/
structure SyntaxError where
  cause : Cause
  offset : Nat
  position : Text.Position
deriving Repr, DecidableEq

/-- The syntax error at the place in a text from which on `rest` is left. -/
def SyntaxError.at (text rest : List Char) (cause : Cause) : SyntaxError :=
  let offset := text.length - rest.length
  ⟨cause, offset, Text.Position.after (text.take offset)⟩

/-- A syntax error in words. -/
def SyntaxError.message (e : SyntaxError) : String :=
  e.cause.message ++ ": " ++ e.position.text ++ " (char " ++ Nat.repr e.offset ++ ")"

/-- Why a text could not be read. -/
inductive Error where
  | malformed (e : SyntaxError)
  | longNumeral
  | tooDeep
deriving Repr, DecidableEq

end Typewright.Json

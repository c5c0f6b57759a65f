/-
Texts inside of code: as literals and in documentation.
-/
import Typewright.Text.Edit

namespace Typewright.Emission

/-! ## C# -/

/-- A character in a verbatim literal: a quote is written twice. -/
def verbatimChar (c : Char) : List Char := if c == '"' then ['"', '"'] else [c]

/-- A text as a verbatim literal. -/
def verbatimChars (s : List Char) : List Char := '@' :: '"' :: s.flatMap verbatimChar ++ ['"']

/-- A text as a verbatim literal. -/
def verbatim (s : String) : String := String.ofList (verbatimChars s.toList)

/-- A character in a literal: backslashes, quotes, tabs and breaks of lines are escaped. -/
def literalChar (c : Char) : List Char :=
  if c == '\\' then ['\\', '\\']
  else if c == '"' then ['\\', '"']
  else if c == '\n' then ['\\', 'n']
  else if c == '\r' then ['\\', 'r']
  else if c == '\t' then ['\\', 't']
  else [c]

/-- A text as a literal. -/
def literalChars (s : List Char) : List Char := '"' :: s.flatMap literalChar ++ ['"']

/-- A text as a literal. -/
def literal (s : String) : String := String.ofList (literalChars s.toList)

/-- A character in documentation that is markup. -/
def markupChar (c : Char) : List Char :=
  if c == '&' then "&amp;".toList
  else if c == '<' then "&lt;".toList
  else if c == '>' then "&gt;".toList
  else [c]

/-- A text in documentation that is markup. -/
def markup (s : String) : String := String.ofList (s.toList.flatMap markupChar)

/-! ## Python -/

/-- A text inside of three quotes: backslashes and groups of three quotes are escaped, and a space
keeps a quote at the end apart from the closing ones. -/
def docstringChars (s : List Char) : List Char :=
  let escaped := Text.replaceChars ['"', '"', '"'] ['\\', '"', '\\', '"', '\\', '"']
    (Text.replaceChars ['\\'] ['\\', '\\'] s)
  if escaped.getLast? == some '"' then escaped ++ [' '] else escaped

/-- A text inside of three quotes. -/
def docstring (s : String) : String := String.ofList (docstringChars s.toList)

end Typewright.Emission

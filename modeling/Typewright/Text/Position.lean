/-
Positions in a text: a line and a column, both counted from one.
-/

namespace Typewright.Text

/-- A place in a text. -/
structure Position where
  line : Nat
  column : Nat
deriving Repr, DecidableEq

namespace Position

/-- The place after one more character; only a line feed starts a new line. -/
def next (p : Position) (c : Char) : Position :=
  if c == '\n' then ⟨p.line + 1, 1⟩ else ⟨p.line, p.column + 1⟩

/-- The place after a list of characters. -/
def after (s : List Char) : Position := s.foldl next ⟨1, 1⟩

/-- A position in words. -/
def text (p : Position) : String :=
  "line " ++ Nat.repr p.line ++ " column " ++ Nat.repr p.column

end Position

end Typewright.Text

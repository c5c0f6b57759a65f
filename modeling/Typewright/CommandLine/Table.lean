/-
Tables that show what was extracted from a document.
-/
import Typewright.Extraction.Metadata

namespace Typewright.CommandLine

/-- A table: its title, the titles of its columns, and its rows. -/
structure Table where
  title : String
  header : List String
  rows : List (List String)
deriving Repr, DecidableEq

namespace Table

/-! ## What is shown -/

/-- The names of the constraints of a data type, or a dash. -/
def constraintNames (t : DataType) : String :=
  if t.constraints.isEmpty then "-" else Text.join ", " (t.constraints.map (·.name))

/-- A field with marks for collections and for fields that may be left out. -/
def fieldText (f : Field) : String :=
  f.name ++ (if f.isCollection then "[]" else "") ++ (if f.isRequired then "" else "?")

/-- The table of data types. -/
def ofTypes (ts : List DataType) : Table :=
  ⟨"Data types", ["Name", "Kind", "Constraints"],
    ts.map fun t => [t.name, t.kind.name, constraintNames t]⟩

/-- The table of models. -/
def ofModels (ms : List Model) : Table :=
  ⟨"Models", ["Name", "Kind", "Fields"],
    ms.map fun m => [m.name, m.kind.name, Text.join ", " (m.fields.map fieldText)]⟩

/-- The table of endpoints. -/
def ofEndpoints (es : List Endpoint) : Table :=
  ⟨"Endpoints", ["Name", "Canonical path", "HTTP"],
    es.map fun e => [e.name, e.path, e.method.capitals ++ " " ++ e.httpPath.plain]⟩

/-- The tables of an extraction; that of the endpoints is left out where there are none. -/
def ofExtraction (e : Extraction) : List Table :=
  [ofTypes e.dataTypes, ofModels e.models] ++
    (if e.endpoints.isEmpty then [] else [ofEndpoints e.endpoints])

/-! ## How it is shown -/

/-- The width of each column, at least that of some cells. -/
def widths : List Nat → List String → List Nat
  | ws, [] => ws
  | [], c :: cs => c.length :: widths [] cs
  | w :: ws, c :: cs => max w c.length :: widths ws cs

/-- A row with its cells at the columns. -/
def rowText : List Nat → List String → String
  | w :: d :: ws, c :: cs =>
    c ++ String.ofList (List.replicate (w + 2 - c.length) ' ') ++ rowText (d :: ws) cs
  | _, cs => Text.join "  " cs

/-- The lines that show a table. -/
def lines (t : Table) : List String :=
  let ws := (t.header :: t.rows).foldl widths []
  t.title :: (t.header :: t.rows).map (rowText ws)

end Table

end Typewright.CommandLine

/-
Characters by their names.

Unified ideographs are named by their code points; the other names are those of a table, which holds
the blocks of the scripts and symbols that expressions are usually written in.
-/
import Typewright.Number.Digits
import Typewright.Text.NameTable

namespace Typewright.Text

/-- What the name of a unified ideograph starts with. -/
def ideographStem : List Char := "CJK UNIFIED IDEOGRAPH-".toList

/-- The code points of unified ideographs. -/
def ideographs : List Run :=
  [⟨0x3400, 0x4DBF, 1⟩, ⟨0x4E00, 0x9FFF, 1⟩, ⟨0x20000, 0x2A6DF, 1⟩, ⟨0x2A700, 0x2B738, 1⟩,
    ⟨0x2B740, 0x2B81D, 1⟩, ⟨0x2B820, 0x2CEA1, 1⟩, ⟨0x2CEB0, 0x2EBE0, 1⟩, ⟨0x30000, 0x3134A, 1⟩]

/-- The unified ideograph of a name. -/
def ideograph? (name : List Char) : Option Nat :=
  if ideographStem.isPrefixOf name then
    (Number.readNat? 16 (name.drop ideographStem.length)).filter fun n => ideographs.any (·.contains n)
  else none

/-- The character of a name in one run of names. -/
def namedIn? (name : String) (r : NameTable.NameRun) : Option Nat :=
  (r.names.findIdx? (· == name)).map (r.first + ·)

/-- The character of a name, in any case. -/
def named? (name : List Char) : Option Nat :=
  let capitals := name.map fun c => if isAsciiLower c then Char.ofNat (c.toNat - 32) else c
  (ideograph? capitals).or
    (NameTable.blocks.flatten.findSome? (namedIn? (String.ofList capitals)))

end Typewright.Text

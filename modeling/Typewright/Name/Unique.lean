/-
Names that are not taken.

A name that is taken gets the least number from two on that makes it free. Among one more number
than there are names taken, one is always free.
-/

namespace Typewright.Name

/-- A name followed by a number. -/
def numbered (name : String) (n : Nat) : String := name ++ Nat.repr n

/-- The first of some numbered names that is not taken, counting from a number; the name itself
where all of them are taken. -/
def firstFree (taken : List String) (name : String) : Nat → Nat → String
  | 0, _ => name
  | tries + 1, n =>
    if taken.contains (numbered name n) then firstFree taken name tries (n + 1)
    else numbered name n

/-- A name that is not taken: the name itself, or with the least number that makes it free. -/
def fresh (taken : List String) (name : String) : String :=
  if taken.contains name then firstFree taken name (taken.length + 1) 2 else name

/-- Names that differ from each other and from those taken, one for each name in turn. -/
def freshAll : List String → List String → List String
  | _, [] => []
  | taken, n :: r =>
    let m := fresh taken n
    m :: freshAll (m :: taken) r

end Typewright.Name

/-
# The search for a free number ends

`fresh` tries a number of names that is set beforehand.  Here the search is told without such a bound, as
the steps that it takes from one number to the next (`Search`).  Where it ends is the least number that is
free (`search_iff`), so it ends at one number at most, and it does end: all names that it passes are taken,
and they differ from each other and from the name itself, so there are fewer of them than names taken
(`Search.le_length`).  `fresh` gives the name at which the search ends.
-/
import Mathlib.Data.Nat.Init
import Typewright.Proofs.Name.Fresh

namespace Typewright.Name

section Searching

variable {taken names : List String} {name : String} {n k : Nat}

/-- The search for a free number: it ends at a number that is free, and goes on behind one that is taken. -/
inductive Search (taken : List String) (name : String) : Nat → Nat → Prop
  | found {n : Nat} : numbered name n ∉ taken → Search taken name n n
  | next {n k : Nat} : numbered name n ∈ taken → Search taken name (n + 1) k → Search taken name n k

/-- The search ends at the least number that is free. -/
theorem search_iff : Search taken name n k ↔
    n ≤ k ∧ numbered name k ∉ taken ∧ ∀ j, n ≤ j → j < k → numbered name j ∈ taken := by
  constructor
  · intro h
    induction h with
    | found hfree => exact ⟨Nat.le_refl _, hfree, fun j hj hlt => absurd hlt (by omega)⟩
    | next htaken _ ih =>
        obtain ⟨hle, hfree, hleast⟩ := ih
        refine ⟨by omega, hfree, fun j hj hlt => ?_⟩
        rcases Nat.eq_or_lt_of_le hj with rfl | hj
        · exact htaken
        · exact hleast j hj hlt
  · rintro ⟨hle, hfree, hleast⟩
    induction hle using Nat.decreasingInduction with
    | self => exact .found hfree
    | of_succ n hlt ih =>
        exact .next (hleast n (Nat.le_refl n) hlt) (ih fun j hj => hleast j (by omega))

theorem Search.unique {k' : Nat} (h : Search taken name n k) (h' : Search taken name n k') : k = k' := by
  obtain ⟨hle, hfree, hleast⟩ := search_iff.mp h
  obtain ⟨hle', hfree', hleast'⟩ := search_iff.mp h'
  rcases Nat.lt_trichotomy k k' with hlt | heq | hlt
  · exact absurd (hleast' k hle hlt) hfree
  · exact heq
  · exact absurd (hleast k' hle' hlt) hfree'

theorem numbered_ne_self (name : String) (n : Nat) : numbered name n ≠ name := by
  intro h
  have hlen := length_lt_length_numbered name n
  rw [h] at hlen
  exact Nat.lt_irrefl _ hlen

/-- The search for a name that is taken passes fewer numbers than there are names taken. -/
theorem Search.le_length (h : Search taken name 2 k) (hname : name ∈ taken) : k ≤ taken.length + 1 := by
  obtain ⟨hle, -, hleast⟩ := search_iff.mp h
  have hothers : ∀ i < k - 2, numbered name (2 + i) ∈ taken.erase name := by
    intro i hi
    have htaken : numbered name (2 + i) ∈ taken := hleast (2 + i) (by omega) (by omega)
    exact (List.mem_erase_of_ne (numbered_ne_self name _)).mpr htaken
  have hlen := le_length_of_numbered_mem hothers
  have hpos := List.length_pos_of_mem hname
  rw [List.length_erase_of_mem hname] at hlen
  omega

/-- A name that is taken is given with the number at which the search ends. -/
theorem exists_search (hname : name ∈ taken) :
    ∃ k, Search taken name 2 k ∧ fresh taken name = numbered name k := by
  obtain ⟨i, heq, hfree, hleast⟩ := fresh_least hname
  refine ⟨2 + i, search_iff.mpr ⟨by omega, hfree, fun j hj hlt => ?_⟩, heq⟩
  have htaken := hleast (j - 2) (by omega)
  rwa [Nat.add_sub_cancel' hj] at htaken

/-- Each name is given with those taken that were given before. -/
theorem getElem?_freshAll (taken : List String) (i : Nat) (hi : i < names.length) :
    (freshAll taken names)[i]? =
      some (fresh (((freshAll taken names).take i).reverse ++ taken) names[i]) := by
  have hsplit : names = names.take i ++ names[i] :: names.drop (i + 1) := by simp
  have hlength : (freshAll taken (names.take i)).length = i := by
    rw [length_freshAll, List.length_take, Nat.min_eq_left (Nat.le_of_lt hi)]
  have hgiven : freshAll taken names = freshAll taken (names.take i) ++
      freshAll ((freshAll taken (names.take i)).reverse ++ taken)
        (names[i] :: names.drop (i + 1)) := by
    rw [← freshAll_append, ← hsplit]
  have htake : (freshAll taken names).take i = freshAll taken (names.take i) := by
    rw [hgiven, List.take_left' hlength]
  rw [htake, hgiven, List.getElem?_append_right (by omega), hlength, Nat.sub_self]
  rfl

/-- Naming ends and keeps apart, whatever names are taken.  A name that is free is given as it is; for
any other one the search for a number ends, at the least number from two on that makes it free, after fewer
steps than there are names taken.  Names that are given one after the other, each with all
before it taken as well, differ from each other and from those taken at the start. -/
theorem naming_apart (taken : List String) :
    (∀ name, fresh taken name ∉ taken ∧ (name ∉ taken → fresh taken name = name) ∧
      (name ∈ taken → ∃ k, Search taken name 2 k ∧ k ≤ taken.length + 1 ∧
        fresh taken name = numbered name k ∧ 2 ≤ k ∧ numbered name k ∉ taken ∧
        ∀ j, 2 ≤ j → j < k → numbered name j ∈ taken)) ∧
    ∀ names, (freshAll taken names).length = names.length ∧
      (∀ i (hi : i < names.length), (freshAll taken names)[i]? =
        some (fresh (((freshAll taken names).take i).reverse ++ taken) names[i])) ∧
      (freshAll taken names).Nodup ∧ ∀ n ∈ freshAll taken names, n ∉ taken := by
  constructor
  · intro name
    refine ⟨fresh_not_mem taken name, fresh_eq_self, fun hname => ?_⟩
    obtain ⟨k, hsearch, heq⟩ := exists_search hname
    exact ⟨k, hsearch, hsearch.le_length hname, heq, search_iff.mp hsearch⟩
  · intro names
    exact ⟨length_freshAll taken names, fun i hi => getElem?_freshAll taken i hi,
      freshAll_apart taken names⟩

/-- Two numbers are taken, and the search ends at the third one. -/
theorem secondName_numbered :
    "a" ∈ ["a2", "a", "a3"] ∧ Search ["a2", "a", "a3"] "a" 2 4 ∧
      fresh ["a2", "a", "a3"] "a" = "a4" := by
  have hname : "a" ∈ ["a2", "a", "a3"] := by decide
  obtain ⟨k, hsearch, -, heq, -, -⟩ := ((naming_apart ["a2", "a", "a3"]).1 "a").2.2 hname
  have hfour : Search ["a2", "a", "a3"] "a" 2 4 :=
    .next (by decide) (.next (by decide) (.found (by decide)))
  obtain rfl := hsearch.unique hfour
  exact ⟨hname, hfour, heq⟩

example : freshAll [] ["a", "a", "a2"] = ["a", "a2", "a22"] := by decide

end Searching

end Typewright.Name

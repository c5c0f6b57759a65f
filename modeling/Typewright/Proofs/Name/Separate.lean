/-
# The words of a camel case name are found in one pass

Underscores get between the words of a camel case name in two passes, each of which replaces what it
finds and goes on behind that.  The first one looks for any number of capitals, with a capital and a small
letter behind them; the second one looks for a small letter or a digit with a capital behind it.  The
groups that are found are longer than what decides about a place, and the second pass works on the name
that the first one leaves.

Still, the two characters around a place and the one behind them decide about it (`startsWord`), and one
pass over these does the same as both (`separate_cons`).  That each pass alone does what one look at those
characters says is an induction along the replacing: of all the places in what is passed over, none but
the one between the groups would have got an underscore (`partFrom_small`, `partFrom_capitals`).
-/
import Mathlib.Data.List.Basic
import Mathlib.Data.List.TakeWhile
import Typewright.Name.Case
import Typewright.Proofs.Text.Case

namespace Typewright.Name

/-! ## Underscores before capitals -/

section Marks

variable {marks : Char → Option Char → Bool} {b c : Char} {r : List Char}

/-- What follows the character `before` in a name, with an underscore before each capital between two
characters that meet a condition. -/
def markAfter (marks : Char → Option Char → Bool) (before : Char) : List Char → List Char
  | [] => []
  | c :: r =>
    if Text.isAsciiUpper c && marks before r.head? then '_' :: c :: markAfter marks c r
    else c :: markAfter marks c r

/-- Whether a capital is the first one behind a small letter or a digit. -/
def afterSmall (before : Char) (_ : Option Char) : Bool := Text.isAsciiLower before || Text.isDigit before

/-- Whether a capital is the last one of several, with a small letter behind it. -/
def afterCapital (before : Char) (after : Option Char) : Bool :=
  Text.isAsciiUpper before && after.any Text.isAsciiLower

/-- Whether a word of a camel case name starts at a capital. -/
def startsWord (before : Char) (after : Option Char) : Bool :=
  afterSmall before after || afterCapital before after

theorem markAfter_cons_of_marked (h : (Text.isAsciiUpper c && marks b r.head?) = true) :
    markAfter marks b (c :: r) = '_' :: c :: markAfter marks c r :=
  if_pos h

theorem markAfter_cons_of_unmarked (h : (Text.isAsciiUpper c && marks b r.head?) = false) :
    markAfter marks b (c :: r) = c :: markAfter marks c r :=
  if_neg (Bool.eq_false_iff.mp h)

theorem markAfter_of_no_capital (h : ∀ d ∈ r, ¬Text.isAsciiUpper d = true) :
    markAfter marks b r = r := by
  induction r generalizing b with
  | nil => rfl
  | cons c r ih =>
      obtain ⟨hc, hr⟩ := List.forall_mem_cons.mp h
      rw [markAfter_cons_of_unmarked (by simp [hc]), ih hr]

theorem mem_markAfter_iff (hc : c ≠ '_') : c ∈ markAfter marks b r ↔ c ∈ r := by
  fun_induction markAfter marks b r <;> grind

theorem not_isAsciiUpper_of_lower (h : Text.isAsciiLower c = true) : Text.isAsciiUpper c = false := by
  rw [Text.isAsciiLower_iff] at h
  rw [Bool.eq_false_iff, ne_eq, Text.isAsciiUpper_iff]
  omega

theorem not_isAsciiLower_of_upper (h : Text.isAsciiUpper c = true) : Text.isAsciiLower c = false := by
  rw [Text.isAsciiUpper_iff] at h
  rw [Bool.eq_false_iff, ne_eq, Text.isAsciiLower_iff]
  omega

theorem afterSmall_of_upper (h : Text.isAsciiUpper b = true) (after : Option Char) :
    afterSmall b after = false := by
  have hdigit : Text.isDigit b = false := by
    rw [Text.isAsciiUpper_iff] at h
    rw [Text.isDigit, if_pos (by omega), Bool.eq_false_iff, ne_eq, Text.isAsciiDigit_iff]
    omega
  rw [afterSmall, not_isAsciiLower_of_upper h, hdigit]
  rfl

/-- Underscores behind small letters, put where there are underscores already before the last capitals,
are underscores before words. -/
theorem markAfter_markAfter (b : Char) (r : List Char) :
    markAfter afterSmall b (markAfter afterCapital b r) = markAfter startsWord b r := by
  induction r generalizing b with
  | nil => rfl
  | cons c r ih =>
      -- an underscore of the first pass is no capital, and no small letter before the next one
      have hmark (after : Option Char) : afterSmall '_' after = false := by
        show afterSmall '_' none = false
        decide
      cases hcapital : Text.isAsciiUpper c && afterCapital b r.head? with
      | true =>
          have hword : (Text.isAsciiUpper c && startsWord b r.head?) = true := by
            rw [startsWord, Bool.and_or_distrib_left, hcapital, Bool.or_true]
          rw [markAfter_cons_of_marked hcapital, markAfter_cons_of_marked hword,
            markAfter_cons_of_unmarked (by rw [Bool.and_eq_false_iff]; exact .inl (by decide)),
            markAfter_cons_of_unmarked (by rw [hmark, Bool.and_false]), ih]
      | false =>
          have hword : (Text.isAsciiUpper c && startsWord b r.head?) =
              (Text.isAsciiUpper c && afterSmall b (markAfter afterCapital c r).head?) := by
            rw [startsWord, Bool.and_or_distrib_left, hcapital, Bool.or_false]
            rfl
          rw [markAfter_cons_of_unmarked hcapital, markAfter, markAfter, hword, ih]

end Marks

/-! ## The two passes -/

theorem partFrom_skip (found? : List Char → Option (List Char × List Char)) (skip : Nat)
    (s : List Char) : partFrom found? skip s = partFrom found? 0 (s.drop skip) := by
  induction skip generalizing s with
  | zero => rfl
  | succ skip ih =>
      cases s with
      | nil => rfl
      | cons c r => exact ih r

theorem partFrom_small : ∀ (b : Char) (r : List Char),
    partFrom smallThenCapital? 0 (b :: r) = b :: markAfter afterSmall b r
  | b, [] => rfl
  | b, c :: r => by
      rw [partFrom, smallThenCapital?]
      cases hfound : (Text.isAsciiLower b || Text.isDigit b) && Text.isAsciiUpper c with
      | false =>
          rw [Bool.and_comm] at hfound
          rw [markAfter_cons_of_unmarked hfound, ← partFrom_small c r]
          rfl
      | true =>
          obtain ⟨-, hc⟩ := Bool.and_eq_true_iff.mp hfound
          rw [Bool.and_comm] at hfound
          rw [markAfter_cons_of_marked hfound]
          have hrest : partFrom smallThenCapital? 0 r = markAfter afterSmall c r := by
            cases r with
            | nil => rfl
            | cons d r =>
                rw [markAfter_cons_of_unmarked (by rw [afterSmall_of_upper hc, Bool.and_false])]
                exact partFrom_small d r
          rw [← hrest]
          rfl

/-- What the first pass finds: at least one capital, one more with a small letter behind it. -/
theorem eq_append_of_capitalsThenWord {s before after : List Char}
    (h : capitalsThenWord? s = some (before, after)) :
    ∃ last small rest, s = before ++ last :: small :: rest ∧ after = [last, small] ∧ before ≠ [] ∧
      (∀ c ∈ before, Text.isAsciiUpper c = true) ∧ Text.isAsciiUpper last = true ∧
      Text.isAsciiLower small = true := by
  rw [capitalsThenWord?] at h
  split at h
  · rename_i last small rest hlast hrest
    split at h
    · rename_i hfound
      obtain ⟨hlength, hsmall⟩ := Bool.and_eq_true_iff.mp hfound
      cases h
      have hcapitals := List.dropLast_append_getLast? last hlast
      have hsplit := List.takeWhile_append_dropWhile (p := Text.isAsciiUpper) (l := s)
      have hupper : ∀ c ∈ s.takeWhile Text.isAsciiUpper, Text.isAsciiUpper c = true :=
        fun c hc => List.mem_takeWhile_imp hc
      refine ⟨last, small, rest, ?_, rfl, ?_, fun c hc => ?_, ?_, hsmall⟩
      · rw [hrest, ← hcapitals, List.append_assoc, List.singleton_append] at hsplit
        exact hsplit.symm
      · intro hnil
        rw [hnil] at hcapitals
        rw [← hcapitals] at hlength
        exact absurd hlength (by simp)
      · exact hupper c (List.dropLast_subset _ hc)
      · exact hupper last (List.mem_of_getLast? hlast)
    · exact nomatch h
  · exact nomatch h

/-- Where the first pass finds nothing, no underscore gets behind the first character. -/
theorem unmarked_of_not_found {b c : Char} {r : List Char}
    (h : capitalsThenWord? (b :: c :: r) = none) :
    (Text.isAsciiUpper c && afterCapital b r.head?) = false := by
  refine Bool.eq_false_iff.mpr fun hmarked => ?_
  obtain ⟨hc, hmarked⟩ := Bool.and_eq_true_iff.mp hmarked
  obtain ⟨hb, hsmall⟩ := Bool.and_eq_true_iff.mp hmarked
  cases r with
  | nil => exact nomatch hsmall
  | cons d r =>
      have hd : Text.isAsciiLower d = true := hsmall
      have hupper := not_isAsciiUpper_of_lower hd
      simp [capitalsThenWord?, hb, hc, hd, hupper] at h

/-- Of several capitals with a small letter behind them, the last one is marked. -/
theorem markAfter_capitals {b last small : Char} {front rest : List Char}
    (hb : Text.isAsciiUpper b = true) (hfront : ∀ c ∈ front, Text.isAsciiUpper c = true)
    (hlast : Text.isAsciiUpper last = true) (hsmall : Text.isAsciiLower small = true) :
    markAfter afterCapital b (front ++ last :: small :: rest) =
      front ++ '_' :: last :: markAfter afterCapital last (small :: rest) := by
  induction front generalizing b with
  | nil => exact markAfter_cons_of_marked (by simp [hlast, afterCapital, hb, hsmall])
  | cons c front ih =>
      obtain ⟨hc, hfront⟩ := List.forall_mem_cons.mp hfront
      have hnext : ((front ++ last :: small :: rest).head?).any Text.isAsciiLower = false := by
        cases front with
        | nil => exact not_isAsciiLower_of_upper hlast
        | cons d front => exact not_isAsciiLower_of_upper (hfront d List.mem_cons_self)
      have hunmarked : (Text.isAsciiUpper c &&
          afterCapital b (front ++ last :: small :: rest).head?) = false := by
        rw [afterCapital, hnext, Bool.and_false, Bool.and_false]
      rw [List.cons_append, markAfter_cons_of_unmarked hunmarked, ih hc hfront]
      rfl

theorem partFrom_capitals (b : Char) (r : List Char) :
    partFrom capitalsThenWord? 0 (b :: r) = b :: markAfter afterCapital b r := by
  rw [partFrom]
  cases hfound : capitalsThenWord? (b :: r) with
  | none =>
      cases r with
      | nil => rfl
      | cons c r =>
          rw [markAfter_cons_of_unmarked (unmarked_of_not_found hfound), ← partFrom_capitals c r]
  | some groups =>
      obtain ⟨before, after⟩ := groups
      obtain ⟨last, small, rest, hs, rfl, hne, hcapitals, hlast, hsmall⟩ :=
        eq_append_of_capitalsThenWord hfound
      cases before with
      | nil => exact absurd rfl hne
      | cons b' front =>
          rw [List.cons_append, List.cons.injEq] at hs
          obtain ⟨rfl, rfl⟩ := hs
          obtain ⟨hb, hfront⟩ := List.forall_mem_cons.mp hcapitals
          have hupper := not_isAsciiUpper_of_lower hsmall
          have hrest : partFrom capitalsThenWord? 0 rest = markAfter afterCapital small rest := by
            cases rest with
            | nil => rfl
            | cons d rest =>
                rw [markAfter_cons_of_unmarked (by simp [afterCapital, hupper])]
                exact partFrom_capitals d rest
          rw [markAfter_capitals hb hfront hlast hsmall,
            markAfter_cons_of_unmarked (by rw [hupper, Bool.false_and]), ← hrest]
          dsimp only
          rw [partFrom_skip]
          simp
termination_by r.length

/-! ## Both passes at once -/

/-- A camel case name gets an underscore before each capital at which a word starts. -/
theorem separate_cons (c : Char) (r : List Char) : separate (c :: r) = c :: markAfter startsWord c r := by
  rw [separate, partFrom_capitals, partFrom_small, markAfter_markAfter]

theorem separate_of_no_capital {s : List Char} (h : ∀ c ∈ s, ¬Text.isAsciiUpper c = true) :
    separate s = s := by
  cases s with
  | nil => rfl
  | cons c r => rw [separate_cons, markAfter_of_no_capital (List.forall_mem_cons.mp h).2]

/-- Nothing but underscores gets between the characters. -/
theorem mem_separate_iff {s : List Char} {c : Char} (hc : c ≠ '_') : c ∈ separate s ↔ c ∈ s := by
  cases s with
  | nil => rfl
  | cons b r => rw [separate_cons, List.mem_cons, mem_markAfter_iff hc, List.mem_cons]

end Typewright.Name

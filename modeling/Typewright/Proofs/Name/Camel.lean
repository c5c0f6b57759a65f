/-
# Where camel case settles

Camel case puts the first character of a Pascal case spelling in lower case.  Of a name with a word this
character is a capital of ASCII or is kept, so the Pascal case spelling comes back from the camel case one
(`pascalChars_lowerFirst`), and spelling the name again changes nothing.

A name without a word is its own Pascal case spelling, and its first character can be any.  Lower case
makes letters of ASCII of two characters beyond ASCII, the capital I with a dot above and the Kelvin sign.
A name that starts with one of them gets a word in camel case, and when it is spelled again, whatever stands
beside that word is dropped (`Unsettled`).  Nothing else can happen: any other character has a form that is
no letter of ASCII and that lower case keeps.
-/
import Typewright.Proofs.Name.Case

namespace Typewright.Name

variable {s t r : List Char} {c : Char}

/-- The camel case spelling of a name. -/
def camelChars (s : List Char) : List Char := lowerFirst (pascalChars s)

theorem toList_camel (s : String) : (camel s).toList = camelChars s.toList := String.toList_ofList

theorem camel_eq_iff {s t : String} : camel s = t ↔ camelChars s.toList = t.toList := by
  rw [← toList_camel, String.toList_inj]

/-! ## The first character -/

theorem lowerFirst_of_not_upper (h : ¬Text.isUpper c = true) : lowerFirst (c :: r) = c :: r :=
  if_neg h

theorem lowerFirst_of_upper (h : Text.isUpper c = true) :
    lowerFirst (c :: r) = Text.lowerChars [c] ++ r :=
  if_pos h

theorem isUpper_of_ascii (h : c.toNat < 0x80) : Text.isUpper c = Text.isAsciiUpper c := if_pos h

theorem lowerFirst_of_capital (h : Text.isAsciiUpper c = true) :
    lowerFirst (c :: r) = Text.lowerChar c :: r := by
  have hbounds := Text.isAsciiUpper_iff.mp h
  rw [lowerFirst_of_upper (by rwa [isUpper_of_ascii (by omega)]),
    Text.lowerChars_singleton (by omega) (by omega), List.singleton_append]

/-! ## Names with a word -/

theorem guardDigit_of_capital (h : Text.isAsciiUpper c = true) : guardDigit (c :: r) = c :: r := by
  have hbounds := Text.isAsciiUpper_iff.mp h
  rw [guardDigit, if_neg fun hdigit => absurd (Text.isAsciiDigit_iff.mp hdigit) (by omega)]

/-- A name with one word, which starts with a small letter, is this word with a capital in Pascal case. -/
theorem pascalChars_of_word (hc : Text.isAsciiLower c = true) (hwords : wordChars s = [c :: r]) :
    pascalChars s = Text.upperChar c :: r := by
  have hcapital : capitalize (c :: r) = Text.upperChar c :: r := by
    simp [capitalize, isAcronym, hc]
  rw [pascalChars_eq (by simp [hwords]), hwords, List.flatMap_singleton, hcapital,
    guardDigit_of_capital (Text.upperChar_of_small hc).1]

theorem camelChars_of_word (hc : Text.isAsciiLower c = true) (hwords : wordChars s = [c :: r]) :
    camelChars s = c :: r := by
  obtain ⟨hupper, hback⟩ := Text.upperChar_of_small hc
  rw [camelChars, pascalChars_of_word hc hwords, lowerFirst_of_capital hupper, hback]

/-- A spelling in Pascal case comes back from the camel case one. -/
theorem pascalChars_lowerFirst (h : IsPascal t) : pascalChars (lowerFirst t) = t := by
  obtain ⟨c, r, rfl, hascii, -⟩ := h.head
  by_cases hupper : Text.isAsciiUpper c = true
  · have hword : ∀ d ∈ r, Text.isWordChar d = true := by
      obtain ⟨w, hw, heq⟩ := h
      cases w with
      | nil => exact hw.elim
      | cons b w =>
          rw [guardDigit] at heq
          split at heq
          · -- the underscore that guards a digit is no capital
            rw [(List.cons.inj heq).1] at hupper
            exact absurd hupper (by decide)
          · rw [(List.cons.inj heq).2]
            exact (List.forall_mem_cons.mp hw.2).2
    obtain ⟨hlower, hback⟩ := Text.lowerChar_of_capital hupper
    have hall : ∀ d ∈ Text.lowerChar c :: r, Text.isWordChar d = true :=
      List.forall_mem_cons.mpr ⟨by simp [Text.isWordChar, hlower], hword⟩
    rw [lowerFirst_of_capital hupper,
      pascalChars_of_word hlower (Text.stretches_of_all (List.cons_ne_nil _ _) hall), hback]
  · rw [lowerFirst_of_not_upper (by rwa [isUpper_of_ascii hascii]), pascalChars_eq_self h]

theorem camelChars_of_words (h : wordChars s ≠ []) : camelChars (camelChars s) = camelChars s :=
  congrArg lowerFirst (pascalChars_lowerFirst (isPascal_pascalChars h))

/-! ## Names without a word -/

theorem wordChars_cons_eq_nil_iff : wordChars (c :: r) = [] ↔
    ¬Text.isWordChar c = true ∧ wordChars r = [] := by
  constructor
  · intro h
    have hc : ¬Text.isWordChar c = true := fun hc => Text.stretches_ne_nil List.mem_cons_self hc h
    exact ⟨hc, (Text.stretches_of_neg hc).symm.trans h⟩
  · rintro ⟨hc, hr⟩
    exact (Text.stretches_of_neg hc).trans hr

/-- A letter or digit before a name without a word is a word by itself. -/
theorem wordChars_cons_of_wordless (hc : Text.isWordChar c = true) (hr : wordChars r = []) :
    wordChars (c :: r) = [[c]] := by
  cases r with
  | nil => exact Text.stretches_of_all (List.cons_ne_nil c []) (by simpa using hc)
  | cons d r =>
      have hd := (wordChars_cons_eq_nil_iff.mp hr).1
      exact (Text.stretches_part hc hd).trans (congrArg ([c] :: ·) hr)

/-- Names without a word that get one in camel case, and something beside it: those that start with the
capital I with a dot above, or with the Kelvin sign and more behind it. -/
inductive Unsettled : List Char → Prop
  | dotted {r : List Char} : wordChars r = [] → Unsettled (Char.ofNat 0x130 :: r)
  | kelvin {r : List Char} : r ≠ [] → wordChars r = [] → Unsettled (Char.ofNat 0x212A :: r)

theorem camelChars_of_wordless (h : wordChars s = []) : camelChars s = lowerFirst s :=
  congrArg lowerFirst (pascalChars_of_wordless h)

theorem Unsettled.wordless (h : Unsettled s) : wordChars s = [] := by
  cases h with
  | dotted hr => exact wordChars_cons_eq_nil_iff.mpr ⟨by decide, hr⟩
  | kelvin _ hr => exact wordChars_cons_eq_nil_iff.mpr ⟨by decide, hr⟩

/-- In camel case such a name has a small letter at its start, and more behind it that is no word. -/
theorem Unsettled.camelChars_eq (h : Unsettled s) : ∃ c r, camelChars s = c :: r ∧
    Text.isAsciiLower c = true ∧ r ≠ [] ∧ wordChars (c :: r) = [[c]] := by
  rw [camelChars_of_wordless h.wordless]
  cases h with
  | @dotted r hr =>
      have hrest : wordChars (Char.ofNat 0x307 :: r) = [] :=
        wordChars_cons_eq_nil_iff.mpr ⟨by decide, hr⟩
      refine ⟨'i', Char.ofNat 0x307 :: r, ?_, by decide, List.cons_ne_nil _ _,
        wordChars_cons_of_wordless (by decide) hrest⟩
      rw [lowerFirst_of_upper (by decide +kernel)]
      rfl
  | @kelvin r hne hr =>
      refine ⟨'k', r, ?_, by decide, hne, wordChars_cons_of_wordless (by decide) hr⟩
      rw [lowerFirst_of_upper (by decide +kernel)]
      rfl

/-- When it is spelled again, the letter is all that is left of it. -/
theorem Unsettled.camelChars_ne (h : Unsettled s) : camelChars (camelChars s) ≠ camelChars s := by
  obtain ⟨c, r, honce, hc, hne, hwords⟩ := h.camelChars_eq
  rw [honce, camelChars_of_word hc hwords]
  exact fun heq => hne (List.cons.inj heq).2.symm

theorem Unsettled.wordChars_ne_nil (h : Unsettled s) : wordChars (camelChars s) ≠ [] := by
  obtain ⟨c, r, honce, -, -, hwords⟩ := h.camelChars_eq
  rw [honce, hwords]
  exact List.cons_ne_nil _ _

/-- Any other name without a word is settled when it is spelled once. -/
theorem camelChars_of_settled (h : wordChars s = []) (hs : ¬Unsettled s) :
    camelChars (camelChars s) = camelChars s := by
  cases s with
  | nil => rfl
  | cons c r =>
      obtain ⟨hc, hr⟩ := wordChars_cons_eq_nil_iff.mp h
      rw [camelChars_of_wordless h]
      by_cases hupper : Text.isUpper c = true
      · have hdotted : c.toNat ≠ 0x130 := by
          intro hdotted
          obtain rfl : c = Char.ofNat 0x130 := Char.toNat_inj.mp hdotted
          exact hs (.dotted hr)
        obtain ⟨d, hform, hkept, hword⟩ := Text.exists_lowerChars_singleton hdotted
        rw [lowerFirst_of_upper hupper, hform, List.singleton_append]
        by_cases hd : Text.isWordChar d = true
        · -- the Kelvin sign, which is settled where nothing stands behind it
          obtain rfl : c = Char.ofNat 0x212A := Char.toNat_inj.mp ((hword hd).resolve_left hc)
          obtain rfl : r = [] := by
            false_or_by_contra
            rename_i hne
            exact hs (.kelvin hne hr)
          obtain rfl : 'k' = d := (List.cons.inj hform).1
          decide
        · have hfixed : lowerFirst (d :: r) = d :: r := by
            by_cases hd' : Text.isUpper d = true
            · rw [lowerFirst_of_upper hd', hkept, List.singleton_append]
            · exact lowerFirst_of_not_upper hd'
          rw [camelChars_of_wordless (wordChars_cons_eq_nil_iff.mpr ⟨hd, hr⟩), hfixed]
      · rw [lowerFirst_of_not_upper hupper, camelChars_of_wordless h, lowerFirst_of_not_upper hupper]

/-- Camel case settles a name: spelling it again changes nothing, with the exception of names without a
letter or digit of ASCII that start with the capital I with a dot above, or with the Kelvin sign and more
behind it; these are settled when they are spelled twice. -/
theorem camel_settled_iff (s : String) :
    (camel (camel s) = camel s ↔ ¬Unsettled s.toList) ∧ camel (camel (camel s)) = camel (camel s) := by
  rw [camel_eq_iff, camel_eq_iff]
  simp only [toList_camel]
  by_cases hs : Unsettled s.toList
  · exact ⟨iff_of_false hs.camelChars_ne (not_not_intro hs), camelChars_of_words hs.wordChars_ne_nil⟩
  · have hsettled : camelChars (camelChars s.toList) = camelChars s.toList := by
      by_cases hwords : wordChars s.toList = []
      · exact camelChars_of_settled hwords hs
      · exact camelChars_of_words hwords
    exact ⟨iff_of_true hsettled hs, by rw [hsettled, hsettled]⟩

/-- The capital I with a dot above becomes two characters in camel case, of which one is left then. -/
theorem dottedName_unsettled : camel (camel "\u0130") ≠ camel "\u0130" :=
  fun h => (camel_settled_iff "\u0130").1.mp h (.dotted rfl)

example : camel "\u0130" = "i\u0307" ∧ camel "i\u0307" = "i" := by decide

end Typewright.Name

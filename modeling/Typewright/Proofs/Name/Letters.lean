/-
# Spellings keep letters and digits

Neither spelling of a name loses a letter or digit of ASCII, adds one or moves one: Pascal case puts some
small letters in upper case, and snake case puts underscores between the words of the name in lower case.

The words of a name are all of its letters and digits (`flatten_wordChars`), so splitting it into words loses
none.  In lower case the letters and digits of a text are told character by character (`letters_lowerChars`),
although the form of a sigma depends on what stands around it, and an underscore gives none.  That is why it
makes no difference that the underscores are put in before.
-/
import Typewright.Proofs.Name.Case

namespace Typewright

namespace Text

/-- The stretches of a text are all that passes the test. -/
theorem flatten_stretches (p : Char → Bool) (s : List Char) : (stretches p s).flatten = s.filter p := by
  fun_induction stretches p s <;> grind

/-- The letters and digits of ASCII in a text, in order. -/
def letters (s : List Char) : List Char := s.filter isWordChar

/-- The letters and digits in the lower case form of a character. -/
def lowerLetters (c : Char) : List Char := letters (lowerAt false c [])

theorem letters_lowerAt (afterCased : Bool) (c : Char) (rest : List Char) :
    letters (lowerAt afterCased c rest) = lowerLetters c := by
  unfold lowerLetters lowerAt
  split
  · rfl
  · split
    · -- a sigma gives no letter in either of its forms
      split <;> split <;> decide
    · rfl

theorem letters_eq_self {s : List Char} (h : ∀ c ∈ s, isWordChar c = true) : letters s = s :=
  List.filter_eq_self.mpr h

theorem letters_letters (s : List Char) : letters (letters s) = letters s :=
  letters_eq_self fun _ hc => (List.mem_filter.mp hc).2

theorem letters_append (s t : List Char) : letters (s ++ t) = letters s ++ letters t :=
  List.filter_append ..

theorem letters_lowerFrom (afterCased : Bool) (s : List Char) :
    letters (lowerFrom afterCased s) = s.flatMap lowerLetters := by
  induction s generalizing afterCased with
  | nil => rfl
  | cons c s ih => rw [lowerFrom, letters_append, letters_lowerAt, ih, List.flatMap_cons]

theorem letters_lowerChars (s : List Char) : letters (lowerChars s) = s.flatMap lowerLetters :=
  letters_lowerFrom false s

/-! ## ASCII -/

theorem toNat_toLower (c : Char) :
    c.toLower.toNat = if isAsciiUpper c then c.toNat + 32 else c.toNat := by
  unfold Char.toLower
  split
  · rename_i h
    have hupper : isAsciiUpper c = true := by
      simpa [isAsciiUpper, Char.le_def] using h
    have hbounds := isAsciiUpper_iff.mp hupper
    have hval : c.val.toNat = c.toNat := rfl
    rw [if_pos hupper]
    show (c.val + 32).toNat = c.toNat + 32
    rw [UInt32.toNat_add, hval]
    exact Nat.mod_eq_of_lt (by simp; omega)
  · rename_i h
    rw [if_neg fun hupper => h ?_]
    simpa [isAsciiUpper, Char.le_def] using hupper

theorem lowerChar_eq_toLower {c : Char} (h : c.toNat < 0x80) : lowerChar c = c.toLower := by
  refine Char.toNat_inj.mp ?_
  rw [toNat_lowerChar h, toNat_toLower]

/-- The case of a letter makes no difference in lower case. -/
theorem toLower_upperChar (c : Char) : (upperChar c).toLower = c.toLower := by
  by_cases h : isAsciiLower c = true
  · obtain ⟨hupper, hback⟩ := upperChar_of_small h
    have hbounds := isAsciiUpper_iff.mp hupper
    have hbounds' := isAsciiLower_iff.mp h
    have hsmall : isSmall c = true :=
      isSmall_iff.mpr ⟨by omega, fun hupper => absurd (isAsciiUpper_iff.mp hupper) (by omega)⟩
    rw [← lowerChar_eq_toLower (by omega), hback, ← lowerChar_eq_toLower (by omega),
      lowerChar_of_small hsmall]
  · rw [upperChar, if_neg h]

theorem lowerLetters_of_ascii {c : Char} (h : c.toNat < 0x80) :
    lowerLetters c = if isWordChar c then [c.toLower] else [] := by
  rw [lowerLetters, lowerAt_of_ascii h, letters, List.filter_singleton, isWordChar_lowerChar_ascii h,
    lowerChar_eq_toLower h]
  exact Bool.cond_eq_ite ..

/-- The letters and digits of an ASCII text in lower case are its own ones in lower case. -/
theorem letters_lowerChars_of_ascii {s : List Char} (h : ∀ c ∈ s, c.toNat < 0x80) :
    letters (lowerChars s) = (letters s).map Char.toLower := by
  rw [letters_lowerChars]
  induction s with
  | nil => rfl
  | cons c s ih =>
      obtain ⟨hc, hs⟩ := List.forall_mem_cons.mp h
      rw [List.flatMap_cons, ih hs, lowerLetters_of_ascii hc, letters, letters, List.filter_cons]
      split <;> rfl

end Text

namespace Name

open Text (letters lowerLetters)

theorem flatten_wordChars (s : List Char) : (wordChars s).flatten = letters s :=
  Text.flatten_stretches Text.isWordChar s

theorem letters_guardDigit (t : List Char) : letters (guardDigit t) = letters t := by
  unfold guardDigit
  split
  · rfl
  · split
    · exact List.filter_cons_of_neg not_isWordChar_underscore
    · rfl

/-! ## Snake case -/

theorem letters_joinWords (ws : List (List Char)) : letters (joinWords ws) = letters ws.flatten := by
  fun_induction joinWords ws with
  | case1 => rfl
  | case2 w => rw [List.flatten_singleton]
  | case3 w v r ih =>
      rw [List.flatten_cons, Text.letters_append, Text.letters_append, ← ih]
      exact congrArg (letters w ++ ·) (List.filter_cons_of_neg not_isWordChar_underscore)

/-- The underscores before words have no letters in lower case. -/
theorem lowerLetters_separate (s : List Char) :
    (separate s).flatMap lowerLetters = s.flatMap lowerLetters := by
  have hmark (b : Char) (r : List Char) :
      (markAfter startsWord b r).flatMap lowerLetters = r.flatMap lowerLetters := by
    fun_induction markAfter startsWord b r with
    | case1 => rfl
    | case2 b c r _ ih =>
        rw [List.flatMap_cons, List.flatMap_cons, List.flatMap_cons, ih]
        rfl
    | case3 b c r _ ih => rw [List.flatMap_cons, List.flatMap_cons, ih]
  cases s with
  | nil => rfl
  | cons c r => rw [separate_cons, List.flatMap_cons, List.flatMap_cons, hmark]

theorem letters_separatedChars (s : List Char) :
    letters (separatedChars s) = letters (Text.lowerChars s) := by
  rw [separatedChars, Text.letters_lowerChars, lowerLetters_separate, Text.letters_lowerChars]

/-- The letters and digits in snake case are those of the name in lower case. -/
theorem letters_snakeChars (s : List Char) : letters (snakeChars s) = letters (Text.lowerChars s) := by
  by_cases hwords : snakeWords s = []
  · have hnone : letters s = [] :=
      List.filter_eq_nil_iff.mpr fun c hc hword => snakeWords_ne_nil hc hword hwords
    rw [snakeChars_of_wordless hwords, hnone, ← letters_separatedChars, ← flatten_wordChars]
    exact (congrArg List.flatten hwords).symm
  · rw [snakeChars_eq hwords, letters_guardDigit, letters_joinWords, snakeWords, flatten_wordChars,
      Text.letters_letters, letters_separatedChars]

/-! ## Pascal case -/

theorem map_toLower_capitalize (w : List Char) : (capitalize w).map Char.toLower = w.map Char.toLower := by
  unfold capitalize
  split
  · rfl
  · split
    · rfl
    · rw [List.map_cons, List.map_cons, Text.toLower_upperChar]

/-- The letters and digits in Pascal case are those of the name, but for their case. -/
theorem letters_pascalChars (s : List Char) :
    (letters (pascalChars s)).map Char.toLower = (letters s).map Char.toLower := by
  by_cases hwords : wordChars s = []
  · rw [pascalChars_of_wordless hwords]
  · have hall := (isPascalWord_flatMap hwords fun _ => wordChars_spec).all
    rw [pascalChars_eq hwords, letters_guardDigit, Text.letters_eq_self hall, ← flatten_wordChars,
      List.map_flatMap, List.map_flatten, List.flatMap_def]
    exact congrArg List.flatten (List.map_congr_left fun w _ => map_toLower_capitalize w)

/-! ## Both spellings -/

/-- Spelling a name loses no letter or digit, adds none and keeps their order.  In snake case they are
those of the name in lower case, which are its own ones in lower case if it is a name of ASCII; in Pascal
case they are its own ones, but for their case. -/
theorem spelling_keeps_letters (s : String) :
    letters (snake s).toList = letters (Text.lower s).toList ∧
      ((∀ c ∈ s.toList, c.toNat < 0x80) →
        letters (snake s).toList = (letters s.toList).map Char.toLower) ∧
      (letters (pascal s).toList).map Char.toLower = (letters s.toList).map Char.toLower := by
  simp only [snake, pascal, Text.lower, String.toList_ofList]
  refine ⟨letters_snakeChars s.toList, fun hascii => ?_, letters_pascalChars s.toList⟩
  rw [letters_snakeChars, Text.letters_lowerChars_of_ascii hascii]

/-- The letters of a name with an acronym, a digit at its start and separators at its ends. -/
theorem acronym_letters_kept : (∀ c ∈ "_9XMLHttp--ID_x ".toList, c.toNat < 0x80) ∧
    letters (snake "_9XMLHttp--ID_x ").toList = "9xmlhttpidx".toList := by
  have hascii : ∀ c ∈ "_9XMLHttp--ID_x ".toList, c.toNat < 0x80 := by simp
  exact ⟨hascii, (spelling_keeps_letters "_9XMLHttp--ID_x ").2.1 hascii⟩

example : snake "_9XMLHttp--ID_x " = "_9_xml_http_id_x" ∧ pascal "_9XMLHttp--ID_x " = "_9XMLHttpIDX" := by
  decide

end Name

end Typewright

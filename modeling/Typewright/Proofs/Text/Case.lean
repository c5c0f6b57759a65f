/-
# Lower case leaves no capital and loses no letter

The lower case form of a text has no ASCII capital (`not_isAsciiUpper_of_mem_lowerChars`), whatever
characters the text has: of the characters beyond ASCII, none has a capital as its form.  A text of
small letters, digits and other ASCII characters is its own lower case form (`lowerChars_of_small`).

The form of a character is its own form (`lowerChar_lowerChar`): no run of the table leads into a run of the
table.  For two runs that lie within each other this is told by even and odd code points
(`Run.not_contains_of_isApart`).
-/
import Typewright.Text.Case

namespace Typewright.Text

/-! ## Characters -/

/-- ASCII characters that are no capitals. -/
def isSmall (c : Char) : Bool := c.toNat < 0x80 && !isAsciiUpper c

theorem isAsciiUpper_iff {c : Char} : isAsciiUpper c = true ↔ 65 ≤ c.toNat ∧ c.toNat ≤ 90 := by
  simp only [isAsciiUpper, Bool.and_eq_true, decide_eq_true_eq, Char.le_def,
    UInt32.le_iff_toNat_le]
  rfl

theorem isAsciiLower_iff {c : Char} : isAsciiLower c = true ↔ 97 ≤ c.toNat ∧ c.toNat ≤ 122 := by
  simp only [isAsciiLower, Bool.and_eq_true, decide_eq_true_eq, Char.le_def,
    UInt32.le_iff_toNat_le]
  rfl

theorem isAsciiDigit_iff {c : Char} : isAsciiDigit c = true ↔ 48 ≤ c.toNat ∧ c.toNat ≤ 57 := by
  simp only [isAsciiDigit, Bool.and_eq_true, decide_eq_true_eq, Char.le_def,
    UInt32.le_iff_toNat_le]
  rfl

theorem isSmall_iff {c : Char} : isSmall c = true ↔ c.toNat < 0x80 ∧ ¬isAsciiUpper c = true := by
  simp [isSmall]

theorem toNat_ofNat_of_valid {n : Nat} (h : n.isValidChar) : (Char.ofNat n).toNat = n := by
  rw [Char.ofNat, dif_pos h]
  rfl

theorem toNat_ofNat_of_lt {n : Nat} (h : n < 0x80) : (Char.ofNat n).toNat = n :=
  toNat_ofNat_of_valid (.inl (by omega))

theorem toNat_ofNat_or (n : Nat) : (Char.ofNat n).toNat = n ∨ (Char.ofNat n).toNat = 0 := by
  by_cases h : n.isValidChar
  · exact .inl (toNat_ofNat_of_valid h)
  · rw [Char.ofNat, dif_neg h]
    exact .inr rfl

/-! ## The lower case form of one character -/

/-- No run of the table beyond ASCII leads down to the capitals. -/
theorem toLower_above {s : CaseTable.Shift} (h : s ∈ CaseTable.toLower) :
    s.run.last < 0x80 ∨ 90 < s.run.first + s.distance := by
  have hall : ∀ s ∈ CaseTable.toLower, s.run.last < 0x80 ∨ 90 < s.run.first + s.distance := by
    decide +kernel
  exact hall s h

theorem not_isAsciiUpper_lowerChar (c : Char) : ¬isAsciiUpper (lowerChar c) = true := by
  unfold lowerChar
  split
  · split
    · rename_i hupper
      rw [isAsciiUpper_iff] at hupper ⊢
      rw [toNat_ofNat_of_lt (by omega)]
      omega
    · assumption
  · rename_i hbeyond
    split
    · rename_i s hs
      have hrun : s.run.first ≤ c.toNat ∧ c.toNat ≤ s.run.last := by
        have hcontains := List.find?_some hs
        simp only [Run.contains, Bool.and_eq_true, decide_eq_true_eq] at hcontains
        exact hcontains.1
      have habove := toLower_above (List.mem_of_find?_eq_some hs)
      rw [isAsciiUpper_iff]
      rcases toNat_ofNat_or (c.toNat + s.distance).toNat with h | h <;> omega
    · rw [isAsciiUpper_iff]
      omega

theorem lowerChar_of_small {c : Char} (h : isSmall c = true) : lowerChar c = c := by
  obtain ⟨hascii, hupper⟩ := isSmall_iff.mp h
  rw [lowerChar, if_pos hascii, if_neg hupper]

theorem toNat_lt_of_isWordChar {c : Char} (h : isWordChar c = true) : c.toNat < 0x80 := by
  simp only [isWordChar, Bool.or_eq_true, isAsciiDigit_iff, isAsciiLower_iff, isAsciiUpper_iff] at h
  omega

/-- Characters of which the lower case form has a letter or digit of ASCII: these themselves, and
beyond ASCII only the capital I with a dot above and the Kelvin sign. -/
def hasWordForm (c : Char) : Bool := isWordChar c || c.toNat == 0x130 || c.toNat == 0x212A

/-- Beyond ASCII, the run of the Kelvin sign is the only one of the table that leads to ASCII. -/
theorem toLower_word {s : CaseTable.Shift} (h : s ∈ CaseTable.toLower) :
    s.run.last < 0x80 ∨ 0x80 ≤ s.run.first + s.distance ∨ s = ⟨⟨0x212A, 0x212A, 1⟩, -8383⟩ := by
  have hall : ∀ s ∈ CaseTable.toLower, s.run.last < 0x80 ∨ 0x80 ≤ s.run.first + s.distance ∨
      s = ⟨⟨0x212A, 0x212A, 1⟩, -8383⟩ := by
    decide +kernel
  exact hall s h

theorem isWordChar_lowerChar_ascii {c : Char} (h : c.toNat < 0x80) :
    isWordChar (lowerChar c) = isWordChar c := by
  unfold lowerChar
  rw [if_pos h]
  split
  · rename_i hupper
    have hbounds := isAsciiUpper_iff.mp hupper
    have hlower : isAsciiLower (Char.ofNat (c.toNat + 32)) = true := by
      rw [isAsciiLower_iff, toNat_ofNat_of_lt (by omega)]
      omega
    simp [isWordChar, hlower, hupper]
  · rfl

theorem isWordChar_lowerChar_iff {c : Char} :
    isWordChar (lowerChar c) = true ↔ isWordChar c = true ∨ c.toNat = 0x212A := by
  by_cases hascii : c.toNat < 0x80
  · rw [isWordChar_lowerChar_ascii hascii, or_iff_left (by omega)]
  · have hnot {d : Char} (hd : ¬d.toNat < 0x80) : ¬isWordChar d = true :=
      fun h => hd (toNat_lt_of_isWordChar h)
    rw [or_iff_right (hnot hascii), lowerChar, if_neg hascii]
    split
    · rename_i s hs
      have hrun : s.run.first ≤ c.toNat ∧ c.toNat ≤ s.run.last := by
        have hcontains := List.find?_some hs
        simp only [Run.contains, Bool.and_eq_true, decide_eq_true_eq] at hcontains
        exact hcontains.1
      rcases toLower_word (List.mem_of_find?_eq_some hs) with h | h | rfl
      · omega
      · refine iff_of_false (fun hword => ?_) fun hkelvin => ?_
        · simp only [isWordChar, Bool.or_eq_true, isAsciiDigit_iff, isAsciiLower_iff,
            isAsciiUpper_iff] at hword
          rcases toNat_ofNat_or (c.toNat + s.distance).toNat with hnat | hnat <;> omega
        · have hfound : CaseTable.toLower.find? (·.run.contains 0x212A) =
              some ⟨⟨0x212A, 0x212A, 1⟩, -8383⟩ := by
            decide +kernel
          rw [hkelvin, hfound] at hs
          cases hs
          exact absurd h (by decide)
      · have hkelvin : c.toNat = 0x212A := by
          simp only at hrun
          omega
        rw [hkelvin]
        decide
    · rename_i hnone
      refine iff_of_false (hnot hascii) fun hkelvin => ?_
      have hfound : (CaseTable.toLower.find? (·.run.contains 0x212A)).isSome = true := by
        decide +kernel
      rw [hkelvin] at hnone
      rw [hnone] at hfound
      exact nomatch hfound

theorem toNat_lowerChar {c : Char} (h : c.toNat < 0x80) :
    (lowerChar c).toNat = if isAsciiUpper c then c.toNat + 32 else c.toNat := by
  rw [lowerChar, if_pos h]
  split
  · rename_i hupper
    rw [isAsciiUpper_iff] at hupper
    exact toNat_ofNat_of_lt (by omega)
  · rfl

/-- ASCII characters other than small letters have different lower case forms. -/
theorem lowerChar_inj {c d : Char} (hc : c.toNat < 0x80) (hd : d.toNat < 0x80)
    (hc' : ¬isAsciiLower c = true) (hd' : ¬isAsciiLower d = true)
    (h : lowerChar c = lowerChar d) : c = d := by
  rw [isAsciiLower_iff] at hc' hd'
  have hsame := congrArg Char.toNat h
  rw [toNat_lowerChar hc, toNat_lowerChar hd] at hsame
  refine Char.toNat_inj.mp ?_
  simp only [isAsciiUpper_iff] at hsame
  split at hsame <;> split at hsame <;> omega

/-- A capital in lower case is a small letter, of which upper case makes it again. -/
theorem lowerChar_of_capital {c : Char} (h : isAsciiUpper c = true) :
    isAsciiLower (lowerChar c) = true ∧ upperChar (lowerChar c) = c := by
  have hbounds := isAsciiUpper_iff.mp h
  have hnat : (lowerChar c).toNat = c.toNat + 32 := by
    rw [toNat_lowerChar (by omega), if_pos h]
  have hlower : isAsciiLower (lowerChar c) = true := by
    rw [isAsciiLower_iff]
    omega
  refine ⟨hlower, Char.toNat_inj.mp ?_⟩
  rw [upperChar, if_pos hlower, toNat_ofNat_of_lt (by omega), hnat, Nat.add_sub_cancel]

/-- A small letter in upper case is a capital, of which lower case makes it again. -/
theorem upperChar_of_small {c : Char} (h : isAsciiLower c = true) :
    isAsciiUpper (upperChar c) = true ∧ lowerChar (upperChar c) = c := by
  have hbounds := isAsciiLower_iff.mp h
  have hnat : (upperChar c).toNat = c.toNat - 32 := by
    rw [upperChar, if_pos h, toNat_ofNat_of_lt (by omega)]
  have hupper : isAsciiUpper (upperChar c) = true := by
    rw [isAsciiUpper_iff]
    omega
  refine ⟨hupper, Char.toNat_inj.mp ?_⟩
  rw [toNat_lowerChar (by omega), if_pos hupper]
  omega

/-! ## The forms of a run -/

theorem Run.contains_iff {r : Run} {n : Nat} : r.contains n = true ↔
    r.first ≤ n ∧ n ≤ r.last ∧ (n - r.first) % r.step = 0 := by
  simp [contains, and_assoc]

/-- Whether the code points of a run are all even or all odd, as far as its shape tells it. -/
def Run.alternates (r : Run) : Bool := r.step == 2 || r.first == r.last

theorem Run.mod_two_of_alternates {r : Run} {n : Nat} (h : r.alternates = true)
    (hn : r.contains n = true) : n % 2 = r.first % 2 := by
  obtain ⟨hfirst, hlast, hstep⟩ := contains_iff.mp hn
  simp only [alternates, Bool.or_eq_true, beq_iff_eq] at h
  rcases h with h | h
  · rw [h] at hstep
    omega
  · omega

/-- Whether two runs have no code point in common, as far as their ends tell it, or that one is of even
code points and the other of odd ones. -/
def Run.isApart (r u : Run) : Bool :=
  Nat.blt r.last u.first || Nat.blt u.last r.first ||
    (r.alternates && u.alternates && r.first % 2 != u.first % 2)

theorem Run.not_contains_of_isApart {r u : Run} {n : Nat} (h : r.isApart u = true)
    (hn : r.contains n = true) : ¬u.contains n = true := by
  intro hn'
  simp only [isApart, Nat.blt_eq, Bool.or_eq_true, Bool.and_eq_true, bne_iff_ne] at h
  rcases h with (h | h) | ⟨⟨hr, hu⟩, hne⟩
  · exact absurd (contains_iff.mp hn').1 (by have := (contains_iff.mp hn).2.1; omega)
  · exact absurd (contains_iff.mp hn).1 (by have := (contains_iff.mp hn').2.1; omega)
  · exact hne ((mod_two_of_alternates hr hn).symm.trans (mod_two_of_alternates hu hn'))

/-- The lower case forms of the characters of a run. -/
def CaseTable.Shift.forms (s : CaseTable.Shift) : Run :=
  ⟨(s.run.first + s.distance).toNat, (s.run.last + s.distance).toNat, s.run.step⟩

theorem CaseTable.Shift.contains_forms {s : CaseTable.Shift} {n : Nat}
    (hfirst : 0 ≤ s.run.first + s.distance) (hn : s.run.contains n = true) :
    s.forms.contains (n + s.distance).toNat = true := by
  obtain ⟨hge, hle, hstep⟩ := Run.contains_iff.mp hn
  have hdistance : (n + s.distance).toNat - (s.run.first + s.distance).toNat = n - s.run.first := by
    omega
  refine Run.contains_iff.mpr ⟨?_, ?_, ?_⟩
  · show (s.run.first + s.distance).toNat ≤ (n + s.distance).toNat
    omega
  · show (n + s.distance).toNat ≤ (s.run.last + s.distance).toNat
    omega
  · show ((n + s.distance).toNat - (s.run.first + s.distance).toNat) % s.run.step = 0
    rw [hdistance, hstep]

/-- No form of the table is in the table again, and none is the capital I with a dot above. -/
theorem forms_settled {s : CaseTable.Shift} (hs : s ∈ CaseTable.toLower) :
    0 ≤ s.run.first + s.distance ∧ ¬s.forms.contains 0x130 = true ∧
      ∀ u ∈ CaseTable.toLower, s.forms.isApart u.run = true := by
  have hall : (CaseTable.toLower.all fun s =>
      decide (0 ≤ s.run.first + s.distance) && !s.forms.contains 0x130 &&
        CaseTable.toLower.all fun u => s.forms.isApart u.run) = true := by
    decide +kernel
  simpa [and_assoc] using List.all_eq_true.mp hall s hs

/-- A character keeps its form, has one in ASCII or one that a run of the table leads to. -/
theorem lowerChar_cases (c : Char) : lowerChar c = c ∨ (lowerChar c).toNat < 0x80 ∨
    ∃ s ∈ CaseTable.toLower, s.forms.contains (lowerChar c).toNat = true := by
  unfold lowerChar
  split
  · split
    · rename_i hupper
      rw [isAsciiUpper_iff] at hupper
      exact .inr (.inl (by rw [toNat_ofNat_of_lt (by omega)]; omega))
    · exact .inl rfl
  · split
    · rename_i s hs
      have hmem := List.mem_of_find?_eq_some hs
      rcases toNat_ofNat_or (c.toNat + s.distance).toNat with hnat | hnat
      · refine .inr (.inr ⟨s, hmem, ?_⟩)
        have hrun := List.find?_some hs
        rw [hnat]
        exact CaseTable.Shift.contains_forms (forms_settled hmem).1 hrun
      · exact .inr (.inl (by omega))
    · exact .inl rfl

/-- The lower case form of a character is its own form. -/
theorem lowerChar_lowerChar (c : Char) : lowerChar (lowerChar c) = lowerChar c := by
  by_cases hascii : (lowerChar c).toNat < 0x80
  · exact lowerChar_of_small (isSmall_iff.mpr ⟨hascii, not_isAsciiUpper_lowerChar c⟩)
  · rcases lowerChar_cases c with h | h | ⟨s, hs, hform⟩
    · rw [h, h]
    · exact absurd h hascii
    · have hnone : CaseTable.toLower.find? (·.run.contains (lowerChar c).toNat) = none :=
        List.find?_eq_none.mpr fun u hu =>
          Run.not_contains_of_isApart ((forms_settled hs).2.2 u hu) hform
      generalize lowerChar c = d at hascii hnone
      rw [lowerChar, if_neg hascii, hnone]

/-! ## The lower case form of a text -/

theorem lowerAt_of_ne {afterCased : Bool} {c : Char} {rest : List Char} (hdotted : c.toNat ≠ 0x130)
    (hsigma : c.toNat ≠ 0x3A3) : lowerAt afterCased c rest = [lowerChar c] := by
  simp [lowerAt, hdotted, hsigma]

theorem lowerAt_of_ascii {afterCased : Bool} {c : Char} {rest : List Char} (h : c.toNat < 0x80) :
    lowerAt afterCased c rest = [lowerChar c] :=
  lowerAt_of_ne (by omega) (by omega)

theorem lowerChars_singleton {c : Char} (hdotted : c.toNat ≠ 0x130) (hsigma : c.toNat ≠ 0x3A3) :
    lowerChars [c] = [lowerChar c] := by
  rw [lowerChars, lowerFrom, lowerAt_of_ne hdotted hsigma]
  rfl

/-- In lower case a character is one character that lower case keeps, unless it is the capital I with a dot
above; and of characters beyond ASCII only the Kelvin sign is a letter of ASCII then. -/
theorem exists_lowerChars_singleton {c : Char} (h : c.toNat ≠ 0x130) :
    ∃ d, lowerChars [c] = [d] ∧ lowerChars [d] = [d] ∧
      (isWordChar d = true → isWordChar c = true ∨ c.toNat = 0x212A) := by
  by_cases hsigma : c.toNat = 0x3A3
  · obtain rfl : c = Char.ofNat 0x3A3 := Char.toNat_inj.mp hsigma
    exact ⟨Char.ofNat 0x3C3, by decide, by decide, fun hword => absurd hword (by decide)⟩
  · have hdotted : (lowerChar c).toNat ≠ 0x130 := by
      intro hdotted
      rcases lowerChar_cases c with hkept | hascii | ⟨s, hs, hform⟩
      · exact h (hkept ▸ hdotted)
      · omega
      · exact (forms_settled hs).2.1 (hdotted ▸ hform)
    have hsigma' : (lowerChar c).toNat ≠ 0x3A3 := by
      intro hform
      have hkept := lowerChar_lowerChar c
      obtain hsigma : lowerChar c = Char.ofNat 0x3A3 := Char.toNat_inj.mp hform
      rw [hsigma] at hkept
      exact absurd hkept (by decide)
    refine ⟨lowerChar c, lowerChars_singleton h hsigma, ?_, isWordChar_lowerChar_iff.mp⟩
    rw [lowerChars_singleton hdotted hsigma', lowerChar_lowerChar]

theorem not_isAsciiUpper_of_mem_lowerAt {afterCased : Bool} {c d : Char} {rest : List Char}
    (h : d ∈ lowerAt afterCased c rest) : ¬isAsciiUpper d = true := by
  unfold lowerAt at h
  split at h
  · rcases List.mem_cons.mp h with rfl | h
    · decide
    · rw [List.mem_singleton.mp h]
      decide
  · split at h
    · rw [List.mem_singleton.mp h]
      split <;> decide
    · rw [List.mem_singleton.mp h]
      exact not_isAsciiUpper_lowerChar c

theorem not_isAsciiUpper_of_mem_lowerFrom {d : Char} :
    ∀ {afterCased : Bool} {s : List Char}, d ∈ lowerFrom afterCased s → ¬isAsciiUpper d = true
  | _, [], h => absurd h List.not_mem_nil
  | _, _ :: _, h => (List.mem_append.mp h).elim not_isAsciiUpper_of_mem_lowerAt
      not_isAsciiUpper_of_mem_lowerFrom

/-- No text has a capital in its lower case form. -/
theorem not_isAsciiUpper_of_mem_lowerChars {d : Char} {s : List Char} (h : d ∈ lowerChars s) :
    ¬isAsciiUpper d = true :=
  not_isAsciiUpper_of_mem_lowerFrom h

theorem lowerFrom_of_small : ∀ {afterCased : Bool} {s : List Char}, (∀ c ∈ s, isSmall c = true) →
    lowerFrom afterCased s = s
  | _, [], _ => rfl
  | _, c :: rest, h => by
      have hc := h c List.mem_cons_self
      rw [lowerFrom, lowerAt_of_ascii (isSmall_iff.mp hc).1, lowerChar_of_small hc,
        lowerFrom_of_small fun d hd => h d (List.mem_cons_of_mem _ hd)]
      rfl

/-- A text of small characters is its own lower case form. -/
theorem lowerChars_of_small {s : List Char} (h : ∀ c ∈ s, isSmall c = true) : lowerChars s = s :=
  lowerFrom_of_small h

theorem exists_wordChar_lowerAt_iff {afterCased : Bool} {c : Char} {rest : List Char} :
    (∃ d ∈ lowerAt afterCased c rest, isWordChar d = true) ↔ hasWordForm c = true := by
  unfold lowerAt
  split
  · rename_i hdot
    exact iff_of_true ⟨'i', List.mem_cons_self, by decide⟩ (by simp [hasWordForm, hdot])
  · rename_i hdot
    have hform : hasWordForm c = true ↔ isWordChar c = true ∨ c.toNat = 0x212A := by
      simp [hasWordForm, hdot]
    rw [hform]
    split
    · rename_i hsigma
      have hsigma : c.toNat = 0x3A3 := by simpa using hsigma
      refine iff_of_false ?_ ?_
      · rintro ⟨d, hd, hword⟩
        rw [List.mem_singleton.mp hd] at hword
        split at hword <;> exact absurd hword (by decide)
      · rintro (hword | hkelvin)
        · have := toNat_lt_of_isWordChar hword
          omega
        · omega
    · rw [← isWordChar_lowerChar_iff]
      simp

theorem exists_wordChar_lowerFrom_iff {afterCased : Bool} {s : List Char} :
    (∃ d ∈ lowerFrom afterCased s, isWordChar d = true) ↔ ∃ c ∈ s, hasWordForm c = true := by
  induction s generalizing afterCased with
  | nil => simp [lowerFrom]
  | cons c s ih =>
      simp only [lowerFrom, List.mem_append, or_and_right, exists_or, exists_wordChar_lowerAt_iff,
        ih, List.mem_cons, exists_eq_left]

/-- A text has a letter or a digit in its lower case form just if one of its characters has. -/
theorem exists_wordChar_lowerChars_iff {s : List Char} :
    (∃ d ∈ lowerChars s, isWordChar d = true) ↔ ∃ c ∈ s, hasWordForm c = true :=
  exists_wordChar_lowerFrom_iff

end Typewright.Text

/-
# What the spellings of names look like

A Pascal case spelling is one word that does not start with a small letter (`IsPascal`), a snake
case spelling is words of small letters and digits with an underscore between each two (`IsSnake`);
both may have an underscore in front to guard a digit.  A spelling of such a form is left as it is
(`pascalChars_eq_self`, `snakeChars_eq_self`), and every name with a word gets one.  A name without
any word is kept, so spelling a name twice is the same as spelling it once (`pascal_pascal`,
`snake_snake`).

A spelling stays one with a number at its end, and an underscore at its end is dropped when it is
spelled again.  That is what the marks for reserved and for repeated names rest on.
-/
import Typewright.Proofs.Name.Fresh
import Typewright.Proofs.Name.Separate

namespace Typewright

namespace Text

/-! ## Stretches -/

section Stretches

variable {p : Char → Bool} {s w r : List Char} {c d : Char}

theorem stretches_of_neg (h : ¬p c = true) : stretches p (c :: s) = stretches p s := by
  rw [stretches.eq_def]
  simp [h]

theorem stretches_ne_nil (hc : c ∈ s) (hp : p c = true) : stretches p s ≠ [] := by
  induction s with
  | nil => exact absurd hc List.not_mem_nil
  | cons b s ih =>
      by_cases hb : p b = true
      · rw [stretches.eq_def]
        simp only [hb, if_true]
        split
        · split <;> exact List.cons_ne_nil _ _
        · exact List.cons_ne_nil _ _
      · rw [stretches_of_neg hb]
        refine ih ((List.mem_cons.mp hc).resolve_left ?_)
        rintro rfl
        exact hb hp

theorem stretches_join {ws : List (List Char)} (hc : p c = true) (hd : p d = true)
    (h : stretches p (d :: s) = w :: ws) : stretches p (c :: d :: s) = (c :: w) :: ws := by
  rw [stretches.eq_def]
  simp only [hc, if_true]
  split
  · rename_i heq heq'
    cases heq
    rw [h] at heq'
    cases heq'
    exact if_pos hd
  · rename_i hnone
    exact absurd h fun h => hnone _ _ _ _ rfl h

theorem stretches_part (hc : p c = true) (hd : ¬p d = true) :
    stretches p (c :: d :: s) = [c] :: stretches p (d :: s) := by
  rw [stretches.eq_def]
  simp only [hc, if_true]
  split
  · rename_i heq heq'
    cases heq
    rw [heq', if_neg hd]
  · rfl

theorem stretches_append_neg (hw : w ≠ []) (hp : ∀ c ∈ w, p c = true) (hd : ¬p d = true) :
    stretches p (w ++ d :: r) = w :: stretches p r := by
  induction w with
  | nil => exact absurd rfl hw
  | cons c w ih =>
      have hc : p c = true := hp c List.mem_cons_self
      cases w with
      | nil => exact (stretches_part hc hd).trans (congrArg ([c] :: ·) (stretches_of_neg hd))
      | cons e w =>
          have he : p e = true := hp e (by simp)
          refine stretches_join hc he (ih (List.cons_ne_nil e w) fun b hb => ?_)
          exact hp b (List.mem_cons_of_mem c hb)

theorem stretches_of_all (hs : s ≠ []) (hp : ∀ c ∈ s, p c = true) : stretches p s = [s] := by
  induction s with
  | nil => exact absurd rfl hs
  | cons c s ih =>
      have hc : p c = true := hp c List.mem_cons_self
      cases s with
      | nil => simp [stretches, hc]
      | cons e s =>
          have he : p e = true := hp e (by simp)
          refine stretches_join hc he (ih (List.cons_ne_nil e s) fun b hb => ?_)
          exact hp b (List.mem_cons_of_mem c hb)

theorem stretches_append_of_neg (s : List Char) (hd : ¬p d = true) :
    stretches p (s ++ [d]) = stretches p s := by
  induction s with
  | nil => exact stretches_of_neg hd
  | cons c s ih =>
      by_cases hc : p c = true
      · cases s with
        | nil => simp [stretches, hc, hd]
        | cons e s =>
            by_cases he : p e = true
            · cases hrest : stretches p (e :: s) with
              | nil => exact absurd hrest (stretches_ne_nil List.mem_cons_self he)
              | cons v vs =>
                  rw [stretches_join hc he hrest]
                  exact stretches_join hc he (ih.trans hrest)
            · rw [stretches_part hc he, ← ih]
              exact stretches_part hc he
      · rw [List.cons_append, stretches_of_neg hc, stretches_of_neg hc, ih]

theorem mem_of_mem_stretches (hw : w ∈ stretches p s) (hc : c ∈ w) : c ∈ s ∧ p c = true := by
  fun_induction stretches p s generalizing w <;> grind

end Stretches

end Text

namespace Name

section Spellings

variable {s t w : List Char} {ws : List (List Char)} {c : Char}

theorem wordChars_spec (hw : w ∈ wordChars s) : w ≠ [] ∧ ∀ c ∈ w, Text.isWordChar c = true :=
  ⟨ne_nil_of_mem_stretches hw, fun _ hc => (Text.mem_of_mem_stretches hw hc).2⟩

theorem not_isWordChar_underscore : ¬Text.isWordChar '_' = true := by decide

theorem wordChars_guardDigit (t : List Char) : wordChars (guardDigit t) = wordChars t := by
  unfold guardDigit
  split
  · rfl
  · split
    · exact Text.stretches_of_neg not_isWordChar_underscore
    · rfl

theorem guardDigit_append (ht : t ≠ []) (r : List Char) :
    guardDigit (t ++ r) = guardDigit t ++ r := by
  cases t with
  | nil => exact absurd rfl ht
  | cons c t =>
      simp only [List.cons_append, guardDigit]
      split <;> rfl

/-! ## Pascal case -/

/-- One word that does not start with a small letter. -/
def IsPascalWord : List Char → Prop
  | [] => False
  | c :: r => ¬Text.isAsciiLower c = true ∧ ∀ d ∈ c :: r, Text.isWordChar d = true

/-- The form of a Pascal case spelling. -/
def IsPascal (t : List Char) : Prop := ∃ w, IsPascalWord w ∧ t = guardDigit w

theorem upperChar_of_not_lower (h : ¬Text.isAsciiLower c = true) : Text.upperChar c = c :=
  if_neg h

theorem upperChar_spec (h : Text.isWordChar c = true) :
    ¬Text.isAsciiLower (Text.upperChar c) = true ∧ Text.isWordChar (Text.upperChar c) = true := by
  by_cases hlower : Text.isAsciiLower c = true
  · have hbounds := Text.isAsciiLower_iff.mp hlower
    have hupper : Text.upperChar c = Char.ofNat (c.toNat - 32) := if_pos hlower
    have hnat : (Text.upperChar c).toNat = c.toNat - 32 := by
      rw [hupper, Text.toNat_ofNat_of_lt (by omega)]
    constructor
    · rw [Text.isAsciiLower_iff]
      omega
    · simp only [Text.isWordChar, Bool.or_eq_true, Text.isAsciiUpper_iff]
      omega
  · rw [upperChar_of_not_lower hlower]
    exact ⟨hlower, h⟩

theorem IsPascalWord.append (h : IsPascalWord w) {r : List Char}
    (hr : ∀ d ∈ r, Text.isWordChar d = true) : IsPascalWord (w ++ r) := by
  cases w with
  | nil => exact h.elim
  | cons c w =>
      refine ⟨h.1, fun d hd => ?_⟩
      have hd : d ∈ (c :: w) ++ r := hd
      exact (List.mem_append.mp hd).elim (h.2 d) (hr d)

theorem IsPascalWord.all (h : IsPascalWord w) : ∀ c ∈ w, Text.isWordChar c = true := by
  cases w with
  | nil => exact h.elim
  | cons c w => exact h.2

theorem isPascalWord_capitalize (hw : w ≠ []) (hp : ∀ c ∈ w, Text.isWordChar c = true) :
    IsPascalWord (capitalize w) := by
  cases w with
  | nil => exact absurd rfl hw
  | cons c w =>
      unfold capitalize
      split
      · rename_i hacronym
        simp only [isAcronym, List.any_cons, Bool.and_eq_true, Bool.not_eq_true',
          Bool.or_eq_false_iff] at hacronym
        exact ⟨by simp [hacronym.2.1], hp⟩
      · have hc := upperChar_spec (hp c List.mem_cons_self)
        refine ⟨hc.1, fun d hd => ?_⟩
        rcases List.mem_cons.mp hd with rfl | hd
        · exact hc.2
        · exact hp d (List.mem_cons_of_mem c hd)

theorem isPascalWord_flatMap (hws : ws ≠ [])
    (hp : ∀ w ∈ ws, w ≠ [] ∧ ∀ c ∈ w, Text.isWordChar c = true) :
    IsPascalWord (ws.flatMap capitalize) := by
  cases ws with
  | nil => exact absurd rfl hws
  | cons w ws =>
      obtain ⟨hw, hall⟩ := hp w List.mem_cons_self
      rw [List.flatMap_cons]
      refine (isPascalWord_capitalize hw hall).append fun d hd => ?_
      obtain ⟨v, hv, hd⟩ := List.mem_flatMap.mp hd
      obtain ⟨hv', hall⟩ := hp v (List.mem_cons_of_mem w hv)
      have hword := isPascalWord_capitalize hv' hall
      exact hword.all d hd

theorem capitalize_eq_self (h : IsPascalWord w) : capitalize w = w := by
  cases w with
  | nil => exact h.elim
  | cons c w =>
      unfold capitalize
      split
      · rfl
      · exact congrArg (· :: w) (upperChar_of_not_lower h.1)

theorem IsPascal.wordChars (h : IsPascal t) : ∃ w, IsPascalWord w ∧ t = guardDigit w ∧
    wordChars t = [w] := by
  obtain ⟨w, hw, rfl⟩ := h
  refine ⟨w, hw, rfl, ?_⟩
  rw [wordChars_guardDigit]
  cases w with
  | nil => exact hw.elim
  | cons c w => exact Text.stretches_of_all (List.cons_ne_nil c w) hw.2

/-- A spelling in Pascal case has letters and digits only, but for an underscore in front. -/
theorem IsPascal.not_mem (h : IsPascal t) (hword : ¬Text.isWordChar c = true) (hc : c ≠ '_') :
    c ∉ t := by
  obtain ⟨w, hw, rfl⟩ := h
  cases w with
  | nil => exact hw.elim
  | cons d w =>
      have hnot : c ∉ d :: w := fun hmem => hword (hw.2 c hmem)
      rw [guardDigit]
      split
      · exact fun hmem => (List.mem_cons.mp hmem).elim hc hnot
      · exact hnot

/-- A spelling in Pascal case with more letters and digits at its end is one. -/
theorem IsPascal.append (h : IsPascal t) {r : List Char}
    (hr : ∀ d ∈ r, Text.isWordChar d = true) : IsPascal (t ++ r) := by
  obtain ⟨w, hw, rfl⟩ := h
  have hne : w ≠ [] := fun h => by rw [h] at hw; exact hw
  exact ⟨w ++ r, hw.append hr, (guardDigit_append hne r).symm⟩

/-- A spelling in Pascal case has no underscore at its end. -/
theorem IsPascal.ne_append_underscore (h : IsPascal t) (s : List Char) : t ≠ s ++ ['_'] := by
  obtain ⟨w, hw, rfl⟩ := h
  have hnot : '_' ∉ w := fun hmem => not_isWordChar_underscore (hw.all _ hmem)
  intro heq
  cases w with
  | nil => exact hw
  | cons c w =>
      rw [guardDigit] at heq
      split at heq
      · -- the word stands behind the underscore that guards it
        cases s with
        | nil => simp at heq
        | cons d s =>
            rw [List.cons_append, List.cons.injEq] at heq
            exact hnot (heq.2 ▸ List.mem_append_right s List.mem_cons_self)
      · exact hnot (heq ▸ List.mem_append_right s List.mem_cons_self)

/-- A spelling in Pascal case starts with an ASCII character that is no small letter. -/
theorem IsPascal.head (h : IsPascal t) :
    ∃ c r, t = c :: r ∧ c.toNat < 0x80 ∧ ¬Text.isAsciiLower c = true := by
  obtain ⟨w, hw, rfl⟩ := h
  cases w with
  | nil => exact hw.elim
  | cons c w =>
      rw [guardDigit]
      split
      · exact ⟨'_', c :: w, rfl, by decide, by decide⟩
      · have hword := hw.2 c List.mem_cons_self
        simp only [Text.isWordChar, Bool.or_eq_true, Text.isAsciiDigit_iff, Text.isAsciiUpper_iff,
          Text.isAsciiLower_iff] at hword
        exact ⟨c, w, rfl, by omega, hw.1⟩

theorem pascalChars_eq (h : wordChars s ≠ []) :
    pascalChars s = guardDigit ((wordChars s).flatMap capitalize) := by
  unfold pascalChars
  split
  · rename_i hnil
    exact absurd hnil h
  · rfl

/-- A spelling in Pascal case is left as it is. -/
theorem pascalChars_eq_self (h : IsPascal t) : pascalChars t = t := by
  obtain ⟨w, hw, rfl, hwords⟩ := h.wordChars
  rw [pascalChars_eq (by simp [hwords]), hwords, List.flatMap_singleton, capitalize_eq_self hw]

/-- A name with a word gets a spelling in Pascal case. -/
theorem isPascal_pascalChars (h : wordChars s ≠ []) : IsPascal (pascalChars s) :=
  ⟨_, isPascalWord_flatMap h fun _ => wordChars_spec, pascalChars_eq h⟩

theorem pascalChars_of_wordless (h : wordChars s = []) : pascalChars s = s := by
  unfold pascalChars
  rw [h]

theorem pascalChars_pascalChars (s : List Char) :
    pascalChars (pascalChars s) = pascalChars s := by
  by_cases h : wordChars s = []
  · rw [pascalChars_of_wordless h, pascalChars_of_wordless h]
  · exact pascalChars_eq_self (isPascal_pascalChars h)

/-- An underscore at the end of a name with a word does not show in Pascal case. -/
theorem pascalChars_append_underscore (h : wordChars s ≠ []) :
    pascalChars (s ++ ['_']) = pascalChars s := by
  have hwords : wordChars (s ++ ['_']) = wordChars s :=
    Text.stretches_append_of_neg s not_isWordChar_underscore
  rw [pascalChars_eq (by rwa [hwords]), hwords, pascalChars_eq h]

/-- Pascal case is idempotent. -/
theorem pascal_pascal (s : String) : pascal (pascal s) = pascal s := by
  simp only [pascal, String.toList_ofList, pascalChars_pascalChars]

/-! ## Snake case -/

/-- A word of small letters and digits. -/
def IsSnakeWord (w : List Char) : Prop :=
  w ≠ [] ∧ ∀ c ∈ w, Text.isWordChar c = true ∧ ¬Text.isAsciiUpper c = true

/-- The form of a snake case spelling. -/
def IsSnake (t : List Char) : Prop :=
  ∃ ws, ws ≠ [] ∧ (∀ w ∈ ws, IsSnakeWord w) ∧ t = guardDigit (joinWords ws)

theorem isSmall_of_snakeWord (h : IsSnakeWord w) (hc : c ∈ w) : Text.isSmall c = true := by
  obtain ⟨hword, hupper⟩ := h.2 c hc
  refine Text.isSmall_iff.mpr ⟨?_, hupper⟩
  simp only [Text.isWordChar, Bool.or_eq_true, Text.isAsciiDigit_iff, Text.isAsciiLower_iff]
    at hword
  rcases hword with (h | h) | h
  · omega
  · exact absurd h hupper
  · omega

/-- Joined words have characters of one class just if all words have them. -/
theorem forall_mem_joinWords_iff {p : Char → Prop} (hp : p '_') :
    (∀ c ∈ joinWords ws, p c) ↔ ∀ w ∈ ws, ∀ c ∈ w, p c := by
  fun_induction joinWords ws with
  | case1 => simp
  | case2 w => simp
  | case3 w v r ih =>
      rw [List.forall_mem_append, List.forall_mem_cons, ih, and_iff_right hp]
      exact (List.forall_mem_cons (p := fun w => ∀ c ∈ w, p c)).symm

theorem isSmall_joinWords (hws : ∀ w ∈ ws, IsSnakeWord w) :
    ∀ c ∈ joinWords ws, Text.isSmall c = true :=
  (forall_mem_joinWords_iff (by decide)).mpr fun w hw _ hc => isSmall_of_snakeWord (hws w hw) hc

theorem wordChars_joinWords (hws : ∀ w ∈ ws, IsSnakeWord w) : wordChars (joinWords ws) = ws := by
  fun_induction joinWords ws with
  | case1 => rfl
  | case2 w =>
      obtain ⟨hne, hall⟩ := hws w List.mem_cons_self
      exact Text.stretches_of_all hne fun c hc => (hall c hc).1
  | case3 w v r ih =>
      obtain ⟨hne, hall⟩ := hws w List.mem_cons_self
      refine (Text.stretches_append_neg hne (fun c hc => (hall c hc).1)
        not_isWordChar_underscore).trans ?_
      exact congrArg (w :: ·) (ih fun w hw => hws w (List.mem_cons_of_mem _ hw))

theorem joinWords_ne_nil (hws : ws ≠ []) (hp : ∀ w ∈ ws, IsSnakeWord w) : joinWords ws ≠ [] := by
  intro h
  have hwords := wordChars_joinWords hp
  rw [h] at hwords
  exact hws hwords.symm

theorem separatedChars_of_small (h : ∀ c ∈ s, Text.isSmall c = true) : separatedChars s = s := by
  have hupper : ∀ c ∈ s, ¬Text.isAsciiUpper c = true := fun c hc => (Text.isSmall_iff.mp (h c hc)).2
  rw [separatedChars, separate_of_no_capital hupper, Text.lowerChars_of_small h]

/-- The words that a name has in snake case. -/
def snakeWords (s : List Char) : List (List Char) := wordChars (separatedChars s)

theorem snakeChars_eq (h : snakeWords s ≠ []) :
    snakeChars s = guardDigit (joinWords (snakeWords s)) := by
  unfold snakeChars
  split
  · rename_i hnil
    exact absurd hnil h
  · rfl

theorem snakeChars_of_wordless (h : snakeWords s = []) : snakeChars s = s := by
  unfold snakeChars
  rw [← snakeWords, h]

theorem isSnakeWord_of_mem (hw : w ∈ snakeWords s) : IsSnakeWord w := by
  obtain ⟨hne, hall⟩ := wordChars_spec hw
  exact ⟨hne, fun c hc => ⟨hall c hc,
    Text.not_isAsciiUpper_of_mem_lowerChars (Text.mem_of_mem_stretches hw hc).1⟩⟩

/-- A name with a word gets a spelling in snake case. -/
theorem isSnake_snakeChars (h : snakeWords s ≠ []) : IsSnake (snakeChars s) :=
  ⟨snakeWords s, h, fun _ => isSnakeWord_of_mem, snakeChars_eq h⟩

theorem isSmall_guardDigit (h : ∀ c ∈ t, Text.isSmall c = true) :
    ∀ c ∈ guardDigit t, Text.isSmall c = true := by
  unfold guardDigit
  split
  · exact h
  · split
    · exact fun c hc => (List.mem_cons.mp hc).elim (fun hc => hc ▸ by decide) (h c)
    · exact h

/-- The words of a spelling in snake case, with or without an underscore at its end. -/
theorem snakeWords_of_words (hws : ∀ w ∈ ws, IsSnakeWord w) (r : List Char)
    (hr : r = [] ∨ r = ['_']) (hne : ws ≠ []) :
    snakeWords (guardDigit (joinWords ws) ++ r) = ws := by
  have hsmall : ∀ c ∈ guardDigit (joinWords ws) ++ r, Text.isSmall c = true := by
    intro c hc
    rcases List.mem_append.mp hc with hc | hc
    · exact isSmall_guardDigit (isSmall_joinWords hws) c hc
    · rcases hr with rfl | rfl
      · exact absurd hc List.not_mem_nil
      · rw [List.mem_singleton.mp hc]
        decide
  rw [snakeWords, separatedChars_of_small hsmall, ← guardDigit_append (joinWords_ne_nil hne hws),
    wordChars_guardDigit]
  rcases hr with rfl | rfl
  · rw [List.append_nil, wordChars_joinWords hws]
  · exact (Text.stretches_append_of_neg _ not_isWordChar_underscore).trans (wordChars_joinWords hws)

theorem snakeChars_append_of_words (hws : ∀ w ∈ ws, IsSnakeWord w) (hne : ws ≠ [])
    {r : List Char} (hr : r = [] ∨ r = ['_']) :
    snakeChars (guardDigit (joinWords ws) ++ r) = guardDigit (joinWords ws) := by
  have hwords := snakeWords_of_words hws r hr hne
  rw [snakeChars_eq (by rw [hwords]; exact hne), hwords]

/-- A spelling in snake case is left as it is. -/
theorem snakeChars_eq_self (h : IsSnake t) : snakeChars t = t := by
  obtain ⟨ws, hne, hws, rfl⟩ := h
  simpa using snakeChars_append_of_words hws hne (.inl rfl)

/-- An underscore at the end of a spelling in snake case is dropped. -/
theorem snakeChars_append_underscore (h : IsSnake t) : snakeChars (t ++ ['_']) = t := by
  obtain ⟨ws, hne, hws, rfl⟩ := h
  exact snakeChars_append_of_words hws hne (.inr rfl)

theorem IsSnake.snakeWords_ne_nil (h : IsSnake t) {r : List Char} (hr : r = [] ∨ r = ['_']) :
    snakeWords (t ++ r) ≠ [] := by
  obtain ⟨ws, hne, hws, rfl⟩ := h
  rwa [snakeWords_of_words hws r hr hne]

theorem snakeChars_snakeChars (s : List Char) : snakeChars (snakeChars s) = snakeChars s := by
  by_cases h : snakeWords s = []
  · rw [snakeChars_of_wordless h, snakeChars_of_wordless h]
  · exact snakeChars_eq_self (isSnake_snakeChars h)

/-- Snake case is idempotent. -/
theorem snake_snake (s : String) : snake (snake s) = snake s := by
  simp only [snake, String.toList_ofList, snakeChars_snakeChars]

/-- A name that is spelled in one of the two ways already is kept when it is spelled that way again,
whatever characters it was made from. -/
theorem spelled_once (s : String) : pascal (pascal s) = pascal s ∧ snake (snake s) = snake s :=
  ⟨pascal_pascal s, snake_snake s⟩

/-- A name has a word in snake case just if the lower case form of one of its characters has a letter
or a digit. -/
theorem snakeWords_ne_nil_iff : snakeWords s ≠ [] ↔ ∃ c ∈ s, Text.hasWordForm c = true := by
  have hwords : snakeWords s ≠ [] ↔
      ∃ d ∈ Text.lowerChars (separate s), Text.isWordChar d = true := by
    constructor
    · intro h
      obtain ⟨w, hw⟩ := List.exists_mem_of_ne_nil _ h
      obtain ⟨d, hd⟩ := List.exists_mem_of_ne_nil _ (wordChars_spec hw).1
      exact ⟨d, Text.mem_of_mem_stretches hw hd⟩
    · rintro ⟨d, hd, hword⟩
      exact Text.stretches_ne_nil hd hword
  rw [hwords, Text.exists_wordChar_lowerChars_iff]
  refine exists_congr fun c => and_congr_left fun hform => mem_separate_iff ?_
  rintro rfl
  exact absurd hform (by decide)

/-- A name with a letter or a digit has a word in snake case. -/
theorem snakeWords_ne_nil (hc : c ∈ s) (hword : Text.isWordChar c = true) : snakeWords s ≠ [] :=
  snakeWords_ne_nil_iff.mpr ⟨c, hc, by rw [Text.hasWordForm, hword, Bool.true_or, Bool.true_or]⟩

/-! ## Numbers behind spellings -/

theorem joinWords_append (hne : ws ≠ []) (r : List Char) :
    ∃ init last, ws = init ++ [last] ∧ joinWords ws ++ r = joinWords (init ++ [last ++ r]) := by
  fun_induction joinWords ws with
  | case1 => exact absurd rfl hne
  | case2 w => exact ⟨[], w, rfl, rfl⟩
  | case3 w v rest ih =>
      obtain ⟨init, last, heq, hjoin⟩ := ih (List.cons_ne_nil v rest)
      refine ⟨w :: init, last, by rw [heq]; rfl, ?_⟩
      rw [List.append_assoc, List.cons_append, hjoin]
      cases init <;> rfl

theorem joinWords_append_word (hne : ws ≠ []) (w : List Char) :
    joinWords ws ++ '_' :: w = joinWords (ws ++ [w]) := by
  fun_induction joinWords ws with
  | case1 => exact absurd rfl hne
  | case2 v => rfl
  | case3 u v rest ih =>
      rw [List.append_assoc, List.cons_append, ih (List.cons_ne_nil v rest)]
      rfl

/-- A spelling in snake case with a word at its end is one. -/
theorem IsSnake.append (h : IsSnake t) (hw : IsSnakeWord w) : IsSnake (t ++ w) := by
  obtain ⟨ws, hne, hws, rfl⟩ := h
  obtain ⟨init, last, rfl, hjoin⟩ := joinWords_append hne w
  rw [← guardDigit_append (joinWords_ne_nil hne hws), hjoin]
  refine ⟨init ++ [last ++ w], by simp, fun v hv => ?_, rfl⟩
  rcases List.mem_append.mp hv with hv | hv
  · exact hws v (List.mem_append_left _ hv)
  · obtain rfl := List.mem_singleton.mp hv
    obtain ⟨hlast, hall⟩ := hws last (List.mem_append_right _ List.mem_cons_self)
    refine ⟨fun h => hlast (List.append_eq_nil_iff.mp h).1, fun c hc => ?_⟩
    exact (List.mem_append.mp hc).elim (hall c) (hw.2 c)

/-- A spelling in snake case with an underscore and a word at its end is one. -/
theorem IsSnake.append_underscore (h : IsSnake t) (hw : IsSnakeWord w) :
    IsSnake (t ++ '_' :: w) := by
  obtain ⟨ws, hne, hws, rfl⟩ := h
  rw [← guardDigit_append (joinWords_ne_nil hne hws), joinWords_append_word hne]
  refine ⟨ws ++ [w], by simp, fun v hv => ?_, rfl⟩
  rcases List.mem_append.mp hv with hv | hv
  · exact hws v hv
  · exact List.mem_singleton.mp hv ▸ hw

theorem toList_numbered (name : String) (n : Nat) :
    (numbered name n).toList = name.toList ++ Nat.toDigits 10 n := by
  simp [numbered, Nat.toList_repr]

theorem isAsciiDigit_of_mem_toDigits {n : Nat} (h : c ∈ Nat.toDigits 10 n) :
    Text.isAsciiDigit c = true := by
  have hdigit := Nat.isDigit_of_mem_toDigits (by decide) (by decide) h
  simpa [Char.isDigit, Text.isAsciiDigit, Char.le_def] using hdigit

theorem isSnakeWord_toDigits (n : Nat) : IsSnakeWord (Nat.toDigits 10 n) := by
  refine ⟨List.ne_nil_of_length_pos Nat.length_toDigits_pos, fun c hc => ?_⟩
  have hdigit := isAsciiDigit_of_mem_toDigits hc
  refine ⟨by simp [Text.isWordChar, hdigit], ?_⟩
  rw [Text.isAsciiDigit_iff] at hdigit
  rw [Text.isAsciiUpper_iff]
  omega

/-- A numbered name ends in a digit. -/
theorem getLast?_numbered (name : String) (n : Nat) :
    (numbered name n).toList.getLast?.any Text.isAsciiDigit = true := by
  have hne := (isSnakeWord_toDigits n).1
  have hdigit := isAsciiDigit_of_mem_toDigits (List.getLast_mem hne)
  simp [toList_numbered, List.getLast?_append, List.getLast?_eq_some_getLast hne, hdigit]

end Spellings

end Name

end Typewright

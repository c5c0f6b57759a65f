/-
# Tokens are read as the grammar has them

For each token of JSON two facts are shown: what is read is a token of the grammar at the front of the
text, and a token of the grammar is read as a whole.  A string ends with its quote, so that anything
may follow it; only the first code unit of a pair is read together with the second one.  A number ends
where no digit, no point and no exponent follows (`Apart`).
-/
import Mathlib.Data.List.TakeWhile
import Typewright.Proofs.Json.Grammar

namespace Typewright.Json

/-! ## White space -/

theorem exists_skipSpace (s : List Char) : ∃ b, s = b ++ skipSpace s ∧ Blank b :=
  ⟨s.takeWhile isSpace, List.takeWhile_append_dropWhile.symm, fun _ => List.mem_takeWhile_imp⟩

theorem skipSpace_append {b s : List Char} (hb : Blank b) (hs : ∀ c ∈ s.head?, isSpace c = false) :
    skipSpace (b ++ s) = s := by
  rw [skipSpace, List.dropWhile_append_of_pos hb]
  cases s with
  | nil => rfl
  | cons c s => exact List.dropWhile_cons_of_neg (by simp [hs c rfl])

/-! ## Code units -/

theorem codeUnit?_eq_some_iff {n : Nat} {s r : List Char} : codeUnit? s = some (n, r) ↔
    ∃ digits, CodeUnit n digits ∧ s = digits ++ r ∧ r ≠ [] := by
  constructor
  · intro h
    unfold codeUnit? at h
    split at h
    · rename_i a b c d e t
      obtain ⟨m, hm, heq⟩ := Option.map_eq_some_iff.mp h
      obtain ⟨rfl, rfl⟩ := Prod.mk.inj heq
      exact ⟨[a, b, c, d], ⟨rfl, hm⟩, rfl, List.cons_ne_nil e t⟩
    · cases h
  · rintro ⟨digits, ⟨hlength, hvalue⟩, rfl, hr⟩
    obtain ⟨a, b, c, d, rfl⟩ := List.length_eq_four.mp hlength
    cases r with
    | nil => exact absurd rfl hr
    | cons e t => simp [codeUnit?, hvalue]

/-- What follows goes on with the second code unit of a pair, and does not end with it. -/
def LowFollows (r : List Char) : Prop :=
  ∃ n digits t, CodeUnit n digits ∧ IsLow n ∧ r = '\\' :: 'u' :: (digits ++ t) ∧ t ≠ []

/-- What is read for the code units of an escape: one of them alone, or a pair. -/
inductive Escaped : List Char → Char → List Char → Prop
  | alone {n : Nat} {digits r : List Char} : CodeUnit n digits → r ≠ [] →
      (IsHigh n → ¬ LowFollows r) → Escaped (digits ++ r) (Char.ofNat n) r
  | pair {high low : Nat} {digits digits' r : List Char} : CodeUnit high digits → IsHigh high →
      CodeUnit low digits' → IsLow low → r ≠ [] →
      Escaped (digits ++ '\\' :: 'u' :: (digits' ++ r)) (Char.ofNat (joinUnits high low)) r

theorem lowFollows_iff {r : List Char} : LowFollows r ↔
    ∃ n s t, r = '\\' :: 'u' :: s ∧ codeUnit? s = some (n, t) ∧ IsLow n := by
  constructor
  · rintro ⟨n, digits, t, hunit, hlow, rfl, ht⟩
    exact ⟨n, _, t, rfl, codeUnit?_eq_some_iff.mpr ⟨digits, hunit, rfl, ht⟩, hlow⟩
  · rintro ⟨n, s, t, rfl, hread, hlow⟩
    obtain ⟨digits, hunit, rfl, ht⟩ := codeUnit?_eq_some_iff.mp hread
    exact ⟨n, digits, t, hunit, hlow, rfl, ht⟩

theorem escapedChar?_alone {n : Nat} {s r : List Char} (h : codeUnit? s = some (n, r))
    (hlow : IsHigh n → ¬ LowFollows r) : escapedChar? s = some (Char.ofNat n, r) := by
  unfold escapedChar?
  simp only [h]
  split
  · rename_i hhigh
    have hnone := lowFollows_iff.not.mp (hlow (by simpa [IsHigh] using hhigh))
    split
    · split
      · rename_i low t hread
        rw [if_neg]
        intro hboth
        exact hnone ⟨low, _, t, rfl, hread, by simpa [IsLow] using hboth⟩
      · rfl
    · rfl
  · rfl

theorem escapedChar?_pair {n low : Nat} {s s' r : List Char}
    (h : codeUnit? s = some (n, '\\' :: 'u' :: s')) (hhigh : IsHigh n)
    (h' : codeUnit? s' = some (low, r)) (hlow : IsLow low) :
    escapedChar? s = some (Char.ofNat (joinUnits n low), r) := by
  have hboth : (0xD800 ≤ n && n ≤ 0xDBFF) = true := by simpa [IsHigh] using hhigh
  have hboth' : (0xDC00 ≤ low && low ≤ 0xDFFF) = true := by simpa [IsLow] using hlow
  unfold escapedChar?
  simp only [h, h', hboth, hboth', if_true]

theorem escapedChar?_eq_some_iff {s r : List Char} {c : Char} :
    escapedChar? s = some (c, r) ↔ Escaped s c r := by
  constructor
  · intro h
    cases hfirst : codeUnit? s with
    | none => simp [escapedChar?, hfirst] at h
    | some first =>
        obtain ⟨n, t⟩ := first
        obtain ⟨digits, hunit, rfl, ht⟩ := codeUnit?_eq_some_iff.mp hfirst
        by_cases hpair : IsHigh n ∧ LowFollows t
        · obtain ⟨hhigh, hfollows⟩ := hpair
          obtain ⟨low, s', r', rfl, hread, hlow⟩ := lowFollows_iff.mp hfollows
          rw [escapedChar?_pair hfirst hhigh hread hlow, Option.some.injEq, Prod.mk.injEq] at h
          obtain ⟨rfl, rfl⟩ := h
          obtain ⟨digits', hunit', rfl, hr⟩ := codeUnit?_eq_some_iff.mp hread
          exact .pair hunit hhigh hunit' hlow hr
        · have hlow : IsHigh n → ¬ LowFollows t := fun hhigh hfollows => hpair ⟨hhigh, hfollows⟩
          rw [escapedChar?_alone hfirst hlow, Option.some.injEq, Prod.mk.injEq] at h
          obtain ⟨rfl, rfl⟩ := h
          exact .alone hunit ht hlow
  · rintro (⟨hunit, hr, hlow⟩ | ⟨hunit, hhigh, hunit', hlow, hr⟩)
    · exact escapedChar?_alone (codeUnit?_eq_some_iff.mpr ⟨_, hunit, rfl, hr⟩) hlow
    · exact escapedChar?_pair
        (codeUnit?_eq_some_iff.mpr ⟨_, hunit, rfl, List.cons_ne_nil _ _⟩) hhigh
        (codeUnit?_eq_some_iff.mpr ⟨_, hunit', rfl, hr⟩) hlow

/-! ## Strings -/

theorem CodeUnit.append_inj {n m : Nat} {digits digits' s t : List Char} (h : CodeUnit n digits)
    (h' : CodeUnit m digits') (heq : digits ++ s = digits' ++ t) : n = m ∧ digits = digits' := by
  obtain ⟨rfl, rfl⟩ := List.append_inj heq (h.length.trans h'.length.symm)
  exact ⟨Option.some.inj (h.value.symm.trans h'.value), rfl⟩

/-- The second code unit of a pair follows just where the rest of the string goes on with it: its digits
do not reach beyond the quote. -/
theorem Body.lowFollows_iff {b cs : List Char} (h : Body b cs) (r : List Char) :
    LowFollows (b ++ '"' :: r) ↔ StartsLow b := by
  constructor
  · rintro ⟨n, digits, t, hunit, hlow, heq, -⟩
    have hstarts {m : Nat} {digits' s u : List Char} (hunit' : CodeUnit m digits')
        (heq : digits' ++ u = digits ++ t) : StartsLow ('\\' :: 'u' :: (digits' ++ s)) := by
      obtain ⟨rfl, rfl⟩ := hunit'.append_inj hunit heq
      exact ⟨_, _, s, hunit, hlow, rfl⟩
    cases h with
    | done => cases heq
    | plain _ hslash => exact absurd (List.cons.inj heq).1 hslash
    | escape hescape =>
        obtain ⟨-, heq⟩ := List.cons.inj heq
        obtain ⟨rfl, -⟩ := List.cons.inj heq
        cases hescape
    | unit hunit' =>
        simp only [List.cons_append, List.append_assoc, List.cons.injEq, true_and] at heq
        exact hstarts hunit' heq
    | pair hunit' =>
        simp only [List.cons_append, List.append_assoc, List.cons.injEq, true_and] at heq
        exact hstarts hunit' heq
  · rintro ⟨n, digits, s, hunit, hlow, rfl⟩
    exact ⟨n, digits, s ++ '"' :: r, hunit, hlow, by simp, by simp⟩

/-- What is read as a string is one of the grammar. -/
theorem exists_body {start : List Char} : ∀ {fuel : Nat} {done s r : List Char} {t : String},
    stringRest start fuel done s = .ok (t, r) →
      ∃ b cs, s = b ++ '"' :: r ∧ Body b cs ∧ t = String.ofList (done.reverse ++ cs)
  | 0, _, _, _, _, h => by cases h
  | fuel + 1, done, s, r, t, h => by
      unfold stringRest at h
      split at h
      · cases h
      · obtain ⟨rfl, rfl⟩ := Prod.mk.inj (Except.ok.inj h)
        exact ⟨[], [], rfl, .done, by rw [List.append_nil]⟩
      · cases h
      · split at h
        · rename_i hescaped
          obtain ⟨b, cs, rfl, hbody, rfl⟩ := exists_body h
          rcases escapedChar?_eq_some_iff.mp hescaped with
            ⟨hunit, -, hlow⟩ | ⟨hunit, hhigh, hunit', hlow, -⟩
          · rw [hbody.lowFollows_iff] at hlow
            exact ⟨_, _, by simp, .unit hunit hlow hbody, by simp⟩
          · exact ⟨_, _, by simp, .pair hunit hhigh hunit' hlow hbody, by simp⟩
        · cases h
      · split at h
        · rename_i hescape
          obtain ⟨b, cs, rfl, hbody, rfl⟩ := exists_body h
          exact ⟨_, _, rfl, .escape hescape hbody, by simp⟩
        · cases h
      · rename_i c s hquote hend _ hescape
        have hslash : c ≠ '\\' := fun hslash => by
          cases s with
          | nil => exact hend hslash rfl
          | cons d s => exact hescape d s hslash rfl
        split at h
        · cases h
        · rename_i hprintable
          obtain ⟨b, cs, rfl, hbody, rfl⟩ := exists_body h
          exact ⟨_, _, rfl, .plain hquote hslash (Nat.not_lt.mp hprintable) hbody, by simp⟩

theorem stringRest_plain {start : List Char} {fuel : Nat} {c : Char} (hquote : c ≠ '"')
    (hslash : c ≠ '\\') (hprintable : 0x20 ≤ c.toNat) (done s : List Char) :
    stringRest start (fuel + 1) done (c :: s) = stringRest start fuel (c :: done) s := by
  rw [stringRest]
  · rw [if_neg (Nat.not_lt.mpr hprintable)]
  · exact hquote
  · exact fun h _ => hslash h
  · exact fun _ h _ => hslash h
  · exact fun _ _ h _ => hslash h

theorem stringRest_escape {start : List Char} {fuel : Nat} {c d : Char}
    (h : simpleEscape? c = some d) (done s : List Char) :
    stringRest start (fuel + 1) done ('\\' :: c :: s) = stringRest start fuel (d :: done) s := by
  rw [stringRest]
  · rw [h]
  · rintro rfl
    cases h

theorem stringRest_unit {start : List Char} {fuel : Nat} {c : Char} {s r : List Char}
    (h : Escaped s c r) (done : List Char) :
    stringRest start (fuel + 1) done ('\\' :: 'u' :: s) = stringRest start fuel (c :: done) r := by
  rw [stringRest, escapedChar?_eq_some_iff.mpr h]

/-- A string of the grammar is read as a whole. -/
theorem stringRest_body {start b cs : List Char} (h : Body b cs) (r : List Char) :
    ∀ {fuel : Nat} (done : List Char), b.length < fuel →
      stringRest start fuel done (b ++ '"' :: r) = .ok (String.ofList (done.reverse ++ cs), r) := by
  induction h with
  | done =>
      rintro (_ | fuel) done hfuel
      · exact absurd hfuel (Nat.not_lt_zero _)
      · simp [stringRest]
  | plain hquote hslash hprintable _ ih =>
      rintro (_ | fuel) done hfuel
      · exact absurd hfuel (Nat.not_lt_zero _)
      · simp only [List.length_cons] at hfuel
        rw [List.cons_append, stringRest_plain hquote hslash hprintable, ih _ (by omega)]
        simp
  | escape hescape _ ih =>
      rintro (_ | fuel) done hfuel
      · exact absurd hfuel (Nat.not_lt_zero _)
      · simp only [List.length_cons] at hfuel
        rw [List.cons_append, List.cons_append, stringRest_escape hescape, ih _ (by omega)]
        simp
  | unit hunit hlow hbody ih =>
      rintro (_ | fuel) done hfuel
      · exact absurd hfuel (Nat.not_lt_zero _)
      · simp only [List.length_cons, List.length_append] at hfuel
        rw [← hbody.lowFollows_iff r] at hlow
        rw [List.cons_append, List.cons_append, List.append_assoc,
          stringRest_unit (.alone hunit (by simp) hlow), ih _ (by omega)]
        simp
  | pair hunit hhigh hunit' hlow _ ih =>
      rintro (_ | fuel) done hfuel
      · exact absurd hfuel (Nat.not_lt_zero _)
      · simp only [List.length_cons, List.length_append] at hfuel
        simp only [List.cons_append, List.append_assoc]
        rw [stringRest_unit (.pair hunit hhigh hunit' hlow (by simp)), ih _ (by omega)]
        simp

/-! ## Numbers -/

/-- A text that does not go on with what could belong to a number. -/
def Apart (s : List Char) : Prop :=
  ∀ c ∈ s.head?, Text.isAsciiDigit c = false ∧ c ≠ '.' ∧ c ≠ 'e' ∧ c ≠ 'E'

/-- A text that does not go on with a digit. -/
def NoDigit (s : List Char) : Prop := ∀ c ∈ s.head?, Text.isAsciiDigit c = false

theorem Apart.noDigit {s : List Char} (h : Apart s) : NoDigit s := fun c hc => (h c hc).1

theorem takeWhile_digits {s r : List Char} (hs : Digits s) (hr : NoDigit r) :
    (s ++ r).takeWhile Text.isAsciiDigit = s := by
  rw [List.takeWhile_append_of_pos hs]
  cases r with
  | nil => exact List.append_nil s
  | cons c r => rw [List.takeWhile_cons_of_neg (by simp [hr c rfl]), List.append_nil]

theorem dropWhile_digits {s r : List Char} (hs : Digits s) (hr : NoDigit r) :
    (s ++ r).dropWhile Text.isAsciiDigit = r := by
  rw [List.dropWhile_append_of_pos hs]
  cases r with
  | nil => rfl
  | cons c r => exact List.dropWhile_cons_of_neg (by simp [hr c rfl])

theorem wholePart?_whole {w r : List Char} (h : Whole w) (hr : NoDigit r) :
    wholePart? (w ++ r) = some (w, r) := by
  cases h with
  | zero => rfl
  | digits hdigit hnonzero hs =>
      rw [List.cons_append, wholePart?, if_neg (by simpa using hnonzero), if_pos hdigit,
        takeWhile_digits hs hr, dropWhile_digits hs hr]

theorem fractionPart_fraction {f ds r : List Char} (h : Fraction f ds) (hr : NoDigit r)
    (hpoint : ∀ c ∈ r.head?, c ≠ '.') : fractionPart (f ++ r) = (ds, r) := by
  cases h with
  | none =>
      rw [List.nil_append, fractionPart]
      rintro s rfl
      exact hpoint '.' rfl rfl
  | point hsome hds =>
      rw [List.cons_append, fractionPart, takeWhile_digits hds hr, dropWhile_digits hds hr]
      cases ds with
      | nil => exact absurd rfl hsome
      | cons d ds => rfl

theorem exponentPart?_none {r : List Char} (hr : ∀ c ∈ r.head?, c ≠ 'e' ∧ c ≠ 'E') :
    exponentPart? r = none := by
  cases r with
  | nil => rfl
  | cons c r =>
      obtain ⟨hlower, hupper⟩ := hr c rfl
      have hletter : ¬ (c == 'e' || c == 'E') = true := by simp [hlower, hupper]
      exact if_neg hletter

/-- A text that does not go on with a sign. -/
def NoSign (s : List Char) : Prop := ∀ c ∈ s.head?, c ≠ '+' ∧ c ≠ '-'

/-- The value of an exponent and what follows it, from behind the sign. -/
def exponentDigits? (neg : Bool) (t : List Char) : Option (Int × List Char) :=
  match t.takeWhile Text.isAsciiDigit with
  | [] => none
  | ds => some (if neg then -(Number.decimalValue ds : Int) else Number.decimalValue ds,
      t.dropWhile Text.isAsciiDigit)

/-- An exponent has digits after its letter and its sign. -/
theorem exponentPart?_cons {c : Char} {sign t : List Char} {neg : Bool} (hc : c = 'e' ∨ c = 'E')
    (hsign : Sign sign neg) (ht : sign = [] → NoSign t) :
    exponentPart? (c :: (sign ++ t)) = exponentDigits? neg t := by
  have hletter : (c == 'e' || c == 'E') = true := by simpa using hc
  cases hsign with
  | none =>
      rw [List.nil_append, exponentPart?, if_pos hletter]
      · rfl
      · rintro r rfl
        exact (ht rfl '+' rfl).1 rfl
      · rintro r rfl
        exact (ht rfl '-' rfl).2 rfl
  | plus => simp only [List.cons_append, List.nil_append, exponentPart?, if_pos hletter]; rfl
  | minus => simp only [List.cons_append, List.nil_append, exponentPart?, if_pos hletter]; rfl

theorem noSign_of_digits {s r : List Char} (hs : Digits s) (hsome : s ≠ []) : NoSign (s ++ r) := by
  cases s with
  | nil => exact absurd rfl hsome
  | cons c s =>
      intro d hd
      obtain rfl := Option.some.inj hd
      have hdigit := hs c List.mem_cons_self
      constructor
      · rintro rfl
        cases hdigit
      · rintro rfl
        cases hdigit

theorem exponentPart?_exponent {e r : List Char} {n : Int} (h : Exponent e n) (he : e ≠ [])
    (hr : NoDigit r) : exponentPart? (e ++ r) = some (n, r) := by
  cases h with
  | none => exact absurd rfl he
  | @power c sign s neg hc hsign hsome hs =>
      rw [List.cons_append, List.append_assoc,
        exponentPart?_cons hc hsign fun _ => noSign_of_digits hs hsome, exponentDigits?,
        takeWhile_digits hs hr, dropWhile_digits hs hr]
      cases s with
      | nil => exact absurd rfl hsome
      | cons d s => rfl

/-- What is read as a number, by its digits before and after the point and what follows them. -/
def numberOf (neg : Bool) (w ds s : List Char) : Except Stop (Value × List Char) :=
  match exponentPart? s with
  | some (n, r) =>
    .ok (.float (.ofDecimal neg (Number.decimalValue (w ++ ds)) (n - ds.length)), r)
  | none =>
    if !ds.isEmpty then
      .ok (.float (.ofDecimal neg (Number.decimalValue (w ++ ds)) (0 - ds.length)), s)
    else if Number.maxDigits < w.length then .error .longNumeral
    else .ok (.int (if neg then -(Number.decimalValue w : Int) else Number.decimalValue w), s)

theorem unsigned?_eq {neg : Bool} {s s' s'' w ds : List Char} (hw : wholePart? s = some (w, s'))
    (hds : fractionPart s' = (ds, s'')) : unsigned? neg s = some (numberOf neg w ds s'') := by
  rw [unsigned?, hw, numberOf]
  simp only [Option.bind_eq_bind, Option.bind_some, hds]
  cases exponentPart? s'' with
  | some e => rfl
  | none => simp only [apply_ite some]

/-- An exponent starts with its letter. -/
theorem Exponent.apart {e r : List Char} {n : Int} (h : Exponent e n) (hr : Apart r) :
    NoDigit (e ++ r) ∧ ∀ c ∈ (e ++ r).head?, c ≠ '.' := by
  cases h with
  | none => exact ⟨hr.noDigit, fun c hc => (hr c hc).2.1⟩
  | power hc =>
      constructor
      · intro c hhead
        obtain rfl := Option.some.inj hhead
        rcases hc with rfl | rfl <;> rfl
      · intro c hhead
        obtain rfl := Option.some.inj hhead
        rcases hc with rfl | rfl <;> decide

/-- A fraction starts with its point. -/
theorem Fraction.noDigit {f ds r : List Char} (h : Fraction f ds) (hr : NoDigit r) :
    NoDigit (f ++ r) := by
  cases h with
  | none => exact hr
  | point =>
      intro c hhead
      obtain rfl := Option.some.inj hhead
      rfl

/-- A number of the grammar is read as a whole. -/
theorem unsigned?_unsigned {neg : Bool} {s r : List Char} {v : Value} (h : Unsigned neg s v)
    (hr : Apart r) : unsigned? neg (s ++ r) = some (.ok (v, r)) := by
  have hpoint : ∀ c ∈ r.head?, c ≠ '.' := fun c hc => (hr c hc).2.1
  have hletter : ∀ c ∈ r.head?, c ≠ 'e' ∧ c ≠ 'E' := fun c hc => (hr c hc).2.2
  cases h with
  | int hw hshort =>
      rw [unsigned?_eq (wholePart?_whole hw hr.noDigit)
        (fractionPart_fraction .none hr.noDigit hpoint), numberOf, exponentPart?_none hletter]
      simp [Nat.not_lt.mpr hshort]
  | @float w f ds e n hw hfraction hexponent hsome =>
      obtain ⟨hdigit, hpoint'⟩ := hexponent.apart hr
      rw [List.append_assoc, List.append_assoc,
        unsigned?_eq (wholePart?_whole hw (hfraction.noDigit hdigit))
          (fractionPart_fraction hfraction hdigit hpoint'), numberOf]
      by_cases he : e = []
      · subst he
        cases hexponent
        rw [List.nil_append, exponentPart?_none hletter]
        cases hfraction with
        | none => simp at hsome
        | point hds => simp [hds]
      · rw [exponentPart?_exponent hexponent he hr.noDigit]

/-! ## Values without parts -/

theorem word?_word {w : String × Value} (hw : w ∈ words) (r : List Char) :
    word? (w.1.toList ++ r) = some (w.2, r) := by
  simp only [words, List.mem_cons, List.not_mem_nil, or_false] at hw
  rcases hw with rfl | rfl | rfl | rfl | rfl | rfl <;> rfl

/-- No word starts with a digit, and none goes on with a digit after a minus sign. -/
theorem word?_digit {c : Char} (hc : Text.isAsciiDigit c = true) (s : List Char) :
    word? (c :: s) = none ∧ word? ('-' :: c :: s) = none := by
  have hne {d : Char} (hd : Text.isAsciiDigit d = false) : (d == c) = false :=
    beq_false_of_ne fun heq => Bool.false_ne_true (hd.symm.trans (heq ▸ hc))
  have hnone {t : List Char} (ht : ∀ w ∈ words, w.1.toList.isPrefixOf t = false) :
      word? t = none := by
    rw [word?, List.find?_eq_none.mpr fun w hw => by rw [ht w hw]; exact Bool.false_ne_true]
    rfl
  have hletters := And.intro (hne (d := 'n') rfl) <| And.intro (hne (d := 't') rfl) <|
    And.intro (hne (d := 'f') rfl) <| And.intro (hne (d := 'N') rfl) <|
    And.intro (hne (d := 'I') rfl) (hne (d := '-') rfl)
  have hwords (t : List Char) (ht : t = c :: s ∨ t = '-' :: c :: s) :
      ∀ w ∈ words, w.1.toList.isPrefixOf t = false := by
    rcases ht with rfl | rfl
    · simp [words, List.isPrefixOf, hletters]
    · simp [words, List.isPrefixOf, hletters]
  exact ⟨hnone (hwords _ (.inl rfl)), hnone (hwords _ (.inr rfl))⟩

theorem Unsigned.head_digit {neg : Bool} {s : List Char} {v : Value} (h : Unsigned neg s v) :
    ∃ c t, s = c :: t ∧ Text.isAsciiDigit c = true := by
  have hwhole {w : List Char} (hw : Whole w) : ∃ c t, w = c :: t ∧ Text.isAsciiDigit c = true := by
    cases hw with
    | zero => exact ⟨'0', [], rfl, rfl⟩
    | digits hdigit => exact ⟨_, _, rfl, hdigit⟩
  cases h with
  | int hw => exact hwhole hw
  | float hw =>
      obtain ⟨c, t, rfl, hdigit⟩ := hwhole hw
      exact ⟨c, _, rfl, hdigit⟩

/-- A word or a number of the grammar is read as a whole. -/
theorem scalar_atom {s r : List Char} {v : Value} (h : Atom s v) (hr : Apart r) :
    scalar (s ++ r) = .ok (v, r) := by
  unfold scalar
  cases h with
  | word hw => rw [word?_word hw]
  | positive hnumber =>
      have hread := unsigned?_unsigned hnumber hr
      obtain ⟨c, t, rfl, hdigit⟩ := hnumber.head_digit
      have hminus : c ≠ '-' := by
        rintro rfl
        cases hdigit
      rw [List.cons_append] at hread ⊢
      rw [(word?_digit hdigit _).1]
      simp [hminus, hread]
  | negative hnumber =>
      have hread := unsigned?_unsigned hnumber hr
      obtain ⟨c, t, rfl, hdigit⟩ := hnumber.head_digit
      rw [List.cons_append] at hread
      rw [List.cons_append, List.cons_append, (word?_digit hdigit _).2]
      simp [hread]

end Typewright.Json

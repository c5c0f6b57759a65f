/-
# What C# literals denote

A literal is a quote, some characters and escapes, and a quote.  What such a literal denotes is told
here for all of C#'s escapes (`Body`), apart from the ones that are written, and with the characters
that may not stand in it by themselves as a parameter: quotes and backslashes never may, and neither
may the five characters that end a line (`newLines`).  A text is what a literal denotes if the code
units agree, which texts have in one way only (`textUnits_injective`).

Each character of a text is written by itself or by an escape of its own, and what is written can be
read in this way only (`body_literalChar_iff`).  So a literal denotes its text and no other one, up to
the ends of lines: carriage return and line feed are escaped, but three more characters end a line, and
a text that has one of these does not give a literal.
-/
import Typewright.Emission.Escape
import Typewright.Number.Digits

namespace Typewright.Emission.CSharp

/-! ## Literals -/

/-- The characters that end a line. -/
def newLines : List Char := ['\n', '\r', '\u0085', '\u2028', '\u2029']

/-- The code units of a code point. -/
def units (n : Nat) : List Nat :=
  if n < 0x10000 then [n]
  else [0xD800 + (n - 0x10000) / 0x400, 0xDC00 + (n - 0x10000) % 0x400]

/-- The code units of a text. -/
def textUnits (s : List Char) : List Nat := s.flatMap fun c => units c.toNat

/-- The escapes that are one character, and the characters that they denote. -/
def simpleEscapes : List (Char × Char) :=
  [('\x27', '\x27'), ('"', '"'), ('\\', '\\'), ('0', '\x00'), ('a', '\x07'), ('b', '\x08'),
    ('f', '\x0c'), ('n', '\n'), ('r', '\r'), ('t', '\t'), ('v', '\x0b')]

/-- What stands between the quotes of a literal, and the code units that it denotes, where quotes,
backslashes and some more characters may not stand by themselves.  An escape of one to four digits has
as many of them as there are. -/
inductive Body (excluded : List Char) : List Char → List Nat → Prop
  | done : Body excluded [] []
  | plain {c : Char} {s : List Char} {us : List Nat} : c ≠ '"' → c ≠ '\\' → c ∉ excluded →
      Body excluded s us → Body excluded (c :: s) (units c.toNat ++ us)
  | simple {c d : Char} {s : List Char} {us : List Nat} : (c, d) ∈ simpleEscapes →
      Body excluded s us → Body excluded ('\\' :: c :: s) (units d.toNat ++ us)
  | hex {digits s : List Char} {n : Nat} {us : List Nat} : Number.readNat? 16 digits = some n →
      digits.length = 4 ∨ digits.length < 4 ∧ (∀ c ∈ s.head?, Number.digitIn? 16 c = none) →
      Body excluded s us → Body excluded ('\\' :: 'x' :: (digits ++ s)) (n :: us)
  | unit {digits s : List Char} {n : Nat} {us : List Nat} : Number.readNat? 16 digits = some n →
      digits.length = 4 → Body excluded s us →
      Body excluded ('\\' :: 'u' :: (digits ++ s)) (n :: us)
  | point {digits s : List Char} {n : Nat} {us : List Nat} : Number.readNat? 16 digits = some n →
      digits.length = 8 → n < 0x110000 → Body excluded s us →
      Body excluded ('\\' :: 'U' :: (digits ++ s)) (units n ++ us)

/-- A literal and the text that it denotes. -/
def Denotes (excluded : List Char) (l t : String) : Prop :=
  ∃ body, l.toList = '"' :: (body ++ ['"']) ∧ Body excluded body (textUnits t.toList)

/-! ## Code units -/

section Units

variable {c d : Char} {us vs : List Nat}

theorem toNat_cases (c : Char) : c.toNat < 0xD800 ∨ 0xDFFF < c.toNat ∧ c.toNat < 0x110000 :=
  c.valid

/-- The first code unit of a pair is none that stands alone. -/
theorem units_append_inj (h : units c.toNat ++ us = units d.toNat ++ vs) : c = d ∧ us = vs := by
  have hc := toNat_cases c
  have hd := toNat_cases d
  have hsame : c.toNat = d.toNat ∧ us = vs := by
    unfold units at h
    split at h <;> split at h <;>
      simp only [List.cons_append, List.nil_append, List.cons.injEq] at h <;>
      refine ⟨by omega, ?_⟩ <;> first | exact h.2 | exact h.2.2 | omega
  exact ⟨Char.toNat_inj.mp hsame.1, hsame.2⟩

theorem units_ne_nil (n : Nat) : units n ≠ [] := by
  unfold units
  split <;> exact List.cons_ne_nil _ _

/-- Different texts have different code units. -/
theorem textUnits_injective : ∀ {s t : List Char}, textUnits s = textUnits t → s = t
  | [], [], _ => rfl
  | [], d :: t, h => absurd (List.append_eq_nil_iff.mp h.symm).1 (units_ne_nil d.toNat)
  | c :: s, [], h => absurd (List.append_eq_nil_iff.mp h).1 (units_ne_nil c.toNat)
  | c :: s, d :: t, h => by
      obtain ⟨rfl, hrest⟩ := units_append_inj h
      rw [textUnits_injective hrest]

end Units

/-! ## What is written -/

section Written

variable {excluded s : List Char} {us : List Nat} {c e : Char}

theorem simpleEscapes_unique {d : Char} (hc : (e, c) ∈ simpleEscapes)
    (hd : (e, d) ∈ simpleEscapes) : c = d := by
  have hall : ∀ x ∈ simpleEscapes, ∀ y ∈ simpleEscapes, x.1 = y.1 → x.2 = y.2 := by decide
  exact hall _ hc _ hd rfl

/-- The characters that are written by an escape: quote, backslash, tab, line feed and carriage
return. -/
def escaped : List Char := ['"', '\\', '\n', '\r', '\t']

/-- A character is written by an escape of its own, or as it is. -/
theorem literalChar_cases (c : Char) :
    (c ∈ escaped ∧ ∃ e, literalChar c = ['\\', e] ∧ (e, c) ∈ simpleEscapes ∧
      e ∉ ['x', 'u', 'U']) ∨ c ∉ escaped ∧ literalChar c = [c] := by
  by_cases hc : c ∈ escaped
  · refine .inl ⟨hc, ?_⟩
    simp only [escaped, List.mem_cons, List.not_mem_nil, or_false] at hc
    rcases hc with rfl | rfl | rfl | rfl | rfl
    · exact ⟨'"', rfl, by decide, by decide⟩
    · exact ⟨'\\', rfl, by decide, by decide⟩
    · exact ⟨'n', rfl, by decide, by decide⟩
    · exact ⟨'r', rfl, by decide, by decide⟩
    · exact ⟨'t', rfl, by decide, by decide⟩
  · refine .inr ⟨hc, ?_⟩
    simp only [escaped, List.mem_cons, List.not_mem_nil, or_false, not_or] at hc
    simp [literalChar, hc]

/-- Behind a backslash there is nothing but an escape. -/
theorem Body.of_escape (h : Body excluded ('\\' :: e :: s) us) (hc : (e, c) ∈ simpleEscapes)
    (he : e ∉ ['x', 'u', 'U']) : ∃ vs, us = units c.toNat ++ vs ∧ Body excluded s vs := by
  cases h with
  | plain _ hslash => exact absurd rfl hslash
  | simple hd hs => exact ⟨_, by rw [simpleEscapes_unique hc hd], hs⟩
  | hex => simp at he
  | unit => simp at he
  | point => simp at he

theorem Body.of_plain (h : Body excluded (c :: s) us) (hc : c ≠ '\\') :
    c ∉ excluded ∧ ∃ vs, us = units c.toNat ++ vs ∧ Body excluded s vs := by
  cases h with
  | plain _ _ hfree hs => exact ⟨hfree, _, rfl, hs⟩
  | simple => exact absurd rfl hc
  | hex => exact absurd rfl hc
  | unit => exact absurd rfl hc
  | point => exact absurd rfl hc

/-- What is written for the characters of a text denotes their code units and no others, unless one of
the characters that stand by themselves may not do so. -/
theorem body_literalChar_iff : Body excluded (s.flatMap literalChar) us ↔
    us = textUnits s ∧ ∀ c ∈ s, c ∉ escaped → c ∉ excluded := by
  induction s generalizing us with
  | nil =>
      constructor
      · intro h
        cases h
        exact ⟨rfl, by simp⟩
      · rintro ⟨rfl, -⟩
        exact .done
  | cons c s ih =>
      rw [List.flatMap_cons, List.forall_mem_cons]
      rcases literalChar_cases c with ⟨hc, e, heq, hescape, he⟩ | ⟨hc, heq⟩ <;> rw [heq]
      · constructor
        · intro h
          obtain ⟨vs, rfl, hs⟩ := h.of_escape hescape he
          obtain ⟨rfl, hfree⟩ := ih.mp hs
          exact ⟨rfl, absurd hc, hfree⟩
        · rintro ⟨rfl, -, hfree⟩
          exact .simple hescape (ih.mpr ⟨rfl, hfree⟩)
      · have hquote : c ≠ '"' := fun h => hc (h ▸ by decide)
        have hslash : c ≠ '\\' := fun h => hc (h ▸ by decide)
        constructor
        · intro h
          obtain ⟨hfirst, vs, rfl, hs⟩ := h.of_plain hslash
          obtain ⟨rfl, hfree⟩ := ih.mp hs
          exact ⟨rfl, fun _ => hfirst, hfree⟩
        · rintro ⟨rfl, hfirst, hfree⟩
          exact .plain hquote hslash (hfirst hc) (ih.mpr ⟨rfl, hfree⟩)

end Written

theorem denotes_literal_iff {excluded : List Char} {s t : String} :
    Denotes excluded (literal s) t ↔
      t = s ∧ ∀ c ∈ s.toList, c ∉ escaped → c ∉ excluded := by
  have hbody (body : List Char) : (literal s).toList = '"' :: (body ++ ['"']) ↔
      body = s.toList.flatMap literalChar := by
    rw [literal, String.toList_ofList, literalChars, List.cons_append, List.cons.injEq,
      and_iff_right rfl, List.append_cancel_right_eq, eq_comm]
  unfold Denotes
  simp only [hbody, exists_eq_left, body_literalChar_iff]
  refine and_congr_left fun _ => ?_
  constructor
  · exact fun h => String.toList_inj.mp (textUnits_injective h)
  · exact fun h => congrArg (textUnits ·.toList) h

/-- What is written as a literal has all quotes and backslashes escaped, and undoing its escapes gives
the text and no other one.  It is a literal just if none of the three characters stands in the text that
end a line and are not escaped: next line, line separator and paragraph separator. -/
theorem literal_denotes (s t : String) :
    (Denotes [] (literal s) t ↔ t = s) ∧
      (Denotes newLines (literal s) t ↔
        t = s ∧ ∀ c ∈ ['\u0085', '\u2028', '\u2029'], c ∉ s.toList) := by
  constructor
  · rw [denotes_literal_iff]
    exact and_iff_left fun _ _ _ => List.not_mem_nil
  · rw [denotes_literal_iff]
    refine and_congr_right fun _ => ?_
    have hfilter : newLines.filter (· ∉ escaped) = ['\u0085', '\u2028', '\u2029'] := by decide
    have hlines (c : Char) : c ∈ ['\u0085', '\u2028', '\u2029'] ↔ c ∈ newLines ∧ c ∉ escaped := by
      rw [← hfilter, List.mem_filter, decide_eq_true_iff]
    constructor
    · intro h c hc hmem
      obtain ⟨hline, hplain⟩ := (hlines c).mp hc
      exact h c hmem hplain hline
    · intro h c hmem hplain hline
      exact h c ((hlines c).mpr ⟨hline, hplain⟩) hmem

/-- A text with a line separator does not give a literal. -/
theorem separator_not_literal : ¬∃ t, Denotes newLines (literal "a\u2028b") t := by
  rintro ⟨t, h⟩
  have hfree := ((literal_denotes "a\u2028b" t).2.mp h).2
  exact hfree '\u2028' (by decide) (by decide)

end Typewright.Emission.CSharp

/-
# No description breaks out of a docstring

A Python literal in three quotes ends at the first three quotes that no backslash takes along (`scan?`).
What stands in front of them is read for all escapes of the language (`Body`), apart from the two that
are written, with the names of characters as a parameter.

A text is escaped from left to right: backslashes, and each group of three quotes in a run of them
(`Escaped`).  Of a run one or two quotes are left at most, and the number of those in front carries the
induction: behind them there are too few more to make three (`not_three_quotes`).  Only the end of the
text is not safe by that, since its last quotes would join the closing ones.  So a space is put behind a
quote at the end, and that space is all that the docstring has more than the text.
-/
import Typewright.Emission.Escape
import Typewright.Number.Digits
import Typewright.Proofs.Document.Pointer

namespace Typewright.Emission.Python

/-! ## Literals in three quotes -/

/-- Three quotes. -/
def quotes : List Char := ['"', '"', '"']

/-- What stands between the quotes of a literal and what follows them, from behind the opening ones: a
backslash takes the next character along, and the first three quotes besides end the literal. -/
def scan? : List Char → Option (List Char × List Char)
  | [] => none
  | '\\' :: c :: r => (scan? r).map fun (body, rest) => ('\\' :: c :: body, rest)
  | '"' :: '"' :: '"' :: r => some ([], r)
  | c :: r => (scan? r).map fun (body, rest) => (c :: body, rest)

/-- What stands between the quotes of the literal that a text starts with, and what follows it. -/
def literal? : List Char → Option (List Char × List Char)
  | '"' :: '"' :: '"' :: r => scan? r
  | _ => none

/-- The escapes that are one character, and the characters that they denote. -/
def simpleEscapes : List (Char × Char) :=
  [('\\', '\\'), ('\x27', '\x27'), ('"', '"'), ('a', '\x07'), ('b', '\x08'), ('f', '\x0c'),
    ('n', '\n'), ('r', '\r'), ('t', '\t'), ('v', '\x0b')]

/-- The characters that start an escape behind a backslash; before any other one it stands for itself. -/
def escapeStarts : List Char :=
  simpleEscapes.map (·.1) ++ ['\n', 'x', 'u', 'U', 'N', '0', '1', '2', '3', '4', '5', '6', '7']

/-- What stands between the quotes of a literal, and the code points that it denotes, where characters
have some names.  An octal escape has as many digits as there are, up to three. -/
inductive Body (names : List Char → Option Nat) : List Char → List Nat → Prop
  | done : Body names [] []
  | plain {c : Char} {s : List Char} {us : List Nat} : c ≠ '\\' →
      Body names s us → Body names (c :: s) (c.toNat :: us)
  | simple {c d : Char} {s : List Char} {us : List Nat} : (c, d) ∈ simpleEscapes →
      Body names s us → Body names ('\\' :: c :: s) (d.toNat :: us)
  | joined {s : List Char} {us : List Nat} :
      Body names s us → Body names ('\\' :: '\n' :: s) us
  | octal {d : Char} {digits s : List Char} {n : Nat} {us : List Nat} :
      Number.readNat? 8 (d :: digits) = some n →
      digits.length = 2 ∨ digits.length < 2 ∧ (∀ c ∈ s.head?, Number.digitIn? 8 c = none) →
      Body names s us → Body names ('\\' :: d :: (digits ++ s)) (n :: us)
  | hex {digits s : List Char} {n : Nat} {us : List Nat} : Number.readNat? 16 digits = some n →
      digits.length = 2 → Body names s us → Body names ('\\' :: 'x' :: (digits ++ s)) (n :: us)
  | unit {digits s : List Char} {n : Nat} {us : List Nat} : Number.readNat? 16 digits = some n →
      digits.length = 4 → Body names s us → Body names ('\\' :: 'u' :: (digits ++ s)) (n :: us)
  | point {digits s : List Char} {n : Nat} {us : List Nat} : Number.readNat? 16 digits = some n →
      digits.length = 8 → n < 0x110000 → Body names s us →
      Body names ('\\' :: 'U' :: (digits ++ s)) (n :: us)
  | named {name s : List Char} {n : Nat} {us : List Nat} : names name = some n → '\x7d' ∉ name →
      Body names s us → Body names ('\\' :: 'N' :: '\x7b' :: (name ++ '\x7d' :: s)) (n :: us)
  | unknown {c : Char} {s : List Char} {us : List Nat} : c ∉ escapeStarts →
      Body names s us → Body names ('\\' :: c :: s) ('\\'.toNat :: c.toNat :: us)

section Literal

variable {names : List Char → Option Nat} {s r : List Char} {us : List Nat} {c e : Char}

theorem scan?_escape (c : Char) (r : List Char) : scan? ('\\' :: c :: r) =
    (scan? r).map fun (body, rest) => ('\\' :: c :: body, rest) := rfl

theorem scan?_plain (hslash : c ≠ '\\') (hquotes : ¬quotes <+: c :: r) :
    scan? (c :: r) = (scan? r).map fun (body, rest) => (c :: body, rest) := by
  rw [scan?.eq_def]
  split
  · rename_i heq
    cases heq
  · rename_i heq
    cases heq
    exact absurd rfl hslash
  · rename_i heq
    cases heq
    exact absurd (List.prefix_append quotes _) hquotes
  · rename_i heq
    cases heq
    rfl

theorem body_nil_iff : Body names [] us ↔ us = [] := by
  constructor
  · intro h
    cases h
    rfl
  · rintro rfl
    exact .done

/-- Behind a backslash there is nothing but an escape. -/
theorem body_escape_iff (he : e = '\\' ∨ e = '"') :
    Body names ('\\' :: e :: s) us ↔ ∃ vs, us = e.toNat :: vs ∧ Body names s vs := by
  have hunique : ∀ x ∈ simpleEscapes, x.1 = '\\' ∨ x.1 = '"' → x.2 = x.1 := by decide
  have hdigit : Number.digitIn? 8 e = none := by rcases he with rfl | rfl <;> rfl
  constructor
  · intro h
    cases h with
    | plain hslash => exact absurd rfl hslash
    | @simple _ d _ _ hd hs =>
        have hsame : d = e := hunique _ hd he
        exact ⟨_, by rw [hsame], hs⟩
    | joined => simp at he
    | octal hn => simp [Number.readNat?, Number.readDigits, hdigit] at hn
    | hex => simp at he
    | unit => simp at he
    | point => simp at he
    | named => simp at he
    | unknown hstart => rcases he with rfl | rfl <;> exact absurd (by decide) hstart
  · rintro ⟨vs, rfl, h⟩
    exact .simple (by rcases he with rfl | rfl <;> decide) h

theorem body_plain_iff (hc : c ≠ '\\') :
    Body names (c :: s) us ↔ ∃ vs, us = c.toNat :: vs ∧ Body names s vs := by
  constructor
  · intro h
    cases h with
    | plain _ hs => exact ⟨_, rfl, hs⟩
    | _ => exact absurd rfl hc
  · rintro ⟨vs, rfl, h⟩
    exact .plain hc h

end Literal

/-! ## How a text is escaped -/

/-- A text and how it is written behind some quotes that stand by themselves: backslashes and groups of
three quotes are escaped, so that no three quotes by themselves come next to each other. -/
inductive Escaped : Nat → List Char → List Char → Prop
  | nil {n : Nat} : Escaped n [] []
  | slash {n : Nat} {s w : List Char} : Escaped 0 s w → Escaped n ('\\' :: s) ('\\' :: '\\' :: w)
  | group {s w : List Char} : Escaped 0 s w →
      Escaped 0 (quotes ++ s) ('\\' :: '"' :: '\\' :: '"' :: '\\' :: '"' :: w)
  | quote {n : Nat} {s w : List Char} : n < 2 → Escaped (n + 1) s w →
      Escaped n ('"' :: s) ('"' :: w)
  | plain {n : Nat} {c : Char} {s w : List Char} : c ≠ '"' → c ≠ '\\' → Escaped 0 s w →
      Escaped n (c :: s) (c :: w)

/-- A text with its backslashes escaped. -/
def slashed (s : List Char) : List Char := s.flatMap fun c => if c = '\\' then ['\\', '\\'] else [c]

/-- A text with its backslashes and its groups of three quotes escaped. -/
def escapedChars (s : List Char) : List Char :=
  Text.replaceChars quotes ['\\', '"', '\\', '"', '\\', '"'] (slashed s)

theorem docstringChars_eq (s : List Char) : docstringChars s =
    escapedChars s ++ if (escapedChars s).getLast? = some '"' then [' '] else [] := by
  unfold docstringChars
  rw [Text.replaceChars_singleton]
  show (if (escapedChars s).getLast? == some '"' then escapedChars s ++ [' '] else escapedChars s) = _
  by_cases h : (escapedChars s).getLast? = some '"' <;> simp [h]

section Escaping

variable {s w tail : List Char} {n m : Nat} {c : Char}

theorem slashed_slash : slashed ('\\' :: s) = '\\' :: '\\' :: slashed s := rfl

theorem slashed_plain (hc : c ≠ '\\') : slashed (c :: s) = c :: slashed s := by
  simp [slashed, hc]

/-- Only what starts with quotes does so when its backslashes are escaped. -/
theorem replicate_prefix_slashed (h : List.replicate n '"' <+: slashed s) :
    List.replicate n '"' <+: s := by
  induction s generalizing n with
  | nil => exact h
  | cons c s ih =>
      cases n with
      | zero => exact List.nil_prefix
      | succ n =>
          rw [List.replicate_succ] at h ⊢
          by_cases hc : c = '\\'
          · subst hc
            rw [slashed_slash, List.cons_prefix_cons] at h
            exact absurd h.1 (by decide)
          · rw [slashed_plain hc, List.cons_prefix_cons] at h
            exact List.cons_prefix_cons.mpr ⟨h.1, ih h.2⟩

theorem escapedChars_cons (hc : c ≠ '\\') (hquotes : ¬quotes <+: c :: s) :
    escapedChars (c :: s) = c :: escapedChars s := by
  have hslashed : quotes.isPrefixOf (c :: slashed s) = false := by
    rw [Bool.eq_false_iff, ne_eq, List.isPrefixOf_iff_prefix, ← slashed_plain hc]
    intro h
    exact hquotes (replicate_prefix_slashed (n := 3) h)
  rw [escapedChars, slashed_plain hc, Text.replaceChars, Text.replaceFrom, hslashed]
  rfl

theorem escapedChars_slash (s : List Char) :
    escapedChars ('\\' :: s) = '\\' :: '\\' :: escapedChars s := rfl

theorem escapedChars_group (s : List Char) : escapedChars (quotes ++ s) =
    '\\' :: '"' :: '\\' :: '"' :: '\\' :: '"' :: escapedChars s := rfl

/-- The text is escaped in this way, unless the quotes in front make a group with those at its start. -/
theorem escaped_escapedChars : ∀ (n : Nat) (s : List Char), n ≤ 2 →
    (n = 0 ∨ ¬List.replicate (3 - n) '"' <+: s) → Escaped n s (escapedChars s)
  | n, [], _, _ => .nil
  | n, c :: s, hn, hfew => by
      by_cases hslash : c = '\\'
      · subst hslash
        rw [escapedChars_slash]
        exact .slash (escaped_escapedChars 0 s (by decide) (.inl rfl))
      by_cases hquotes : quotes <+: c :: s
      · obtain ⟨r, hr⟩ := hquotes
        rw [← hr] at hfew ⊢
        obtain rfl : n = 0 := by
          refine hfew.resolve_right fun hfew => hfew ?_
          have hmany : List.replicate (3 - n) '"' <+: quotes := by
            have hbound : n = 0 ∨ n = 1 ∨ n = 2 := by omega
            rcases hbound with rfl | rfl | rfl <;> decide
          exact hmany.trans (List.prefix_append quotes r)
        have hshorter : r.length < s.length + 1 := by
          have hlength := congrArg List.length hr
          rw [List.length_append, List.length_cons, show quotes.length = 3 from rfl] at hlength
          omega
        rw [escapedChars_group]
        exact .group (escaped_escapedChars 0 r (by decide) (.inl rfl))
      rw [escapedChars_cons hslash hquotes]
      by_cases hquote : c = '"'
      · subst hquote
        -- no group starts here, so there are too few quotes behind this one as well
        have hfew' : ¬List.replicate (3 - n) '"' <+: '"' :: s := by
          rcases hfew with rfl | hfew
          · exact hquotes
          · exact hfew
        have hlt : n < 2 := by
          refine Nat.lt_of_le_of_ne hn ?_
          rintro rfl
          exact hfew' (List.prefix_append ['"'] s)
        refine .quote hlt (escaped_escapedChars (n + 1) s (by omega) (.inr fun h => hfew' ?_))
        have hcount : 3 - n = 3 - (n + 1) + 1 := by omega
        rw [hcount, List.replicate_succ]
        exact List.cons_prefix_cons.mpr ⟨rfl, h⟩
      · exact .plain hquote hslash (escaped_escapedChars 0 s (by decide) (.inl rfl))
termination_by _ s => s.length
decreasing_by
  all_goals
    rw [List.length_cons]
    omega

theorem Escaped.eq_nil_iff (h : Escaped n s w) : w = [] ↔ s = [] := by
  cases h <;> simp [quotes]

theorem endsInQuote_plain (hc : c ≠ '"') :
    (c :: s).getLast? = some '"' ↔ s.getLast? = some '"' := by
  rw [List.getLast?_cons]
  cases s.getLast? <;> simp [hc]

theorem endsInQuote_quote : ('"' :: s).getLast? = some '"' ↔ s = [] ∨ s.getLast? = some '"' := by
  cases s with
  | nil => simp
  | cons c s => simp [List.getLast?_cons]

/-- A text ends in a quote just if it does so when it is escaped. -/
theorem Escaped.getLast?_iff (h : Escaped n s w) :
    w.getLast? = some '"' ↔ s.getLast? = some '"' := by
  induction h with
  | nil => exact Iff.rfl
  | slash _ ih =>
      have hslash : '\\' ≠ '"' := by decide
      exact (endsInQuote_plain hslash).trans ((endsInQuote_plain hslash).trans
        (ih.trans (endsInQuote_plain hslash).symm))
  | group h ih =>
      have hempty := h.eq_nil_iff
      simp only [quotes, List.cons_append, List.nil_append, endsInQuote_quote,
        endsInQuote_plain (show '\\' ≠ '"' by decide)]
      simp [hempty, ih]
  | quote _ h ih =>
      rw [endsInQuote_quote, endsInQuote_quote]
      exact or_congr h.eq_nil_iff ih
  | plain hquote _ _ ih =>
      exact (endsInQuote_plain hquote).trans (ih.trans (endsInQuote_plain hquote).symm)

/-! ## How an escaped text is read -/

/-- What follows a text behind some quotes may start with a quote only if it stands next to none. -/
def Apart (n : Nat) (s tail : List Char) : Prop :=
  tail.head? = some '"' → s.getLast? ≠ some '"' ∧ (s = [] → n = 0)

theorem Apart.of_cons (h : Apart n (c :: s) tail) (hm : c = '"' ∨ m = 0) : Apart m s tail := by
  intro hhead
  obtain ⟨hlast, -⟩ := h hhead
  cases s with
  | nil =>
      refine ⟨by simp, fun _ => hm.resolve_left ?_⟩
      rintro rfl
      exact hlast rfl
  | cons d s =>
      rw [List.getLast?_cons_cons] at hlast
      exact ⟨hlast, fun h => absurd h (List.cons_ne_nil d s)⟩

/-- Behind quotes that stand by themselves there are too few more of them to make three. -/
theorem Escaped.not_three_quotes (h : Escaped n s w) (hn : 0 < n) (hbound : n ≤ 2)
    (htail : Apart n s tail) : ¬List.replicate (3 - n) '"' <+: w ++ tail := by
  have hcount : ∃ k, 3 - n = k + 1 := ⟨2 - n, by omega⟩
  obtain ⟨k, hk⟩ := hcount
  rw [hk, List.replicate_succ]
  induction h generalizing k with
  | @nil n =>
      intro hprefix
      obtain ⟨r, hr⟩ := hprefix
      have hhead : tail.head? = some '"' := by rw [← List.nil_append tail, ← hr]; rfl
      have hzero := (htail hhead).2 rfl
      omega
  | slash => exact fun hprefix => absurd (List.cons_prefix_cons.mp hprefix).1 (by decide)
  | group => exact absurd hn (Nat.lt_irrefl 0)
  | @quote n s w hlt h ih =>
      intro hprefix
      have hrest := (List.cons_prefix_cons.mp hprefix).2
      have hcount : k = (1 - n) + 1 := by omega
      refine ih (by omega) (by omega) (htail.of_cons (.inl rfl)) (1 - n) (by omega) ?_
      rw [← List.replicate_succ, ← hcount]
      exact hrest
  | plain hquote =>
      exact fun hprefix => hquote (List.cons_prefix_cons.mp hprefix).1.symm

/-- An escaped text ends no literal. -/
theorem Escaped.scan?_append (h : Escaped n s w) (hbound : n ≤ 2) (htail : Apart n s tail) :
    scan? (w ++ tail) = (scan? tail).map fun (body, rest) => (w ++ body, rest) := by
  induction h with
  | nil => simp
  | slash h ih =>
      rw [List.cons_append, List.cons_append, scan?_escape,
        ih (by decide) (htail.of_cons (.inr rfl)), Option.map_map]
      rfl
  | group h ih =>
      have hrest : Apart 0 _ tail :=
        ((htail.of_cons (m := 0) (.inr rfl)).of_cons (m := 0) (.inr rfl)).of_cons (.inr rfl)
      simp only [List.cons_append, scan?_escape, ih (by decide) hrest, Option.map_map]
      rfl
  | @quote n s w hlt h ih =>
      have hrest : Apart (n + 1) s tail := htail.of_cons (.inl rfl)
      have hfew := h.not_three_quotes (by omega) (by omega) hrest
      have hquotes : ¬quotes <+: '"' :: (w ++ tail) := by
        intro hprefix
        obtain ⟨-, hprefix⟩ := List.cons_prefix_cons.mp hprefix
        refine hfew (List.IsPrefix.trans ?_ hprefix)
        have hcases : n = 0 ∨ n = 1 := by omega
        rcases hcases with rfl | rfl <;> decide
      rw [List.cons_append, scan?_plain (by decide) hquotes, ih (by omega) hrest, Option.map_map]
      rfl
  | @plain n c s w hquote hslash h ih =>
      have hquotes : ¬quotes <+: c :: (w ++ tail) := by
        intro hprefix
        exact hquote (List.cons_prefix_cons.mp hprefix).1.symm
      rw [List.cons_append, scan?_plain hslash hquotes, ih (by decide) (htail.of_cons (.inr rfl)),
        Option.map_map]
      rfl

/-- An escaped text denotes the text and nothing else. -/
theorem Escaped.body_append_iff {names : List Char → Option Nat} {us : List Nat}
    (h : Escaped n s w) : Body names (w ++ tail) us ↔
      ∃ vs, us = s.map Char.toNat ++ vs ∧ Body names tail vs := by
  -- the code point of one character in front of those of the others
  have hcons {p : List Nat → Prop} {us xs : List Nat} {x : Nat} :
      (∃ vs, us = x :: vs ∧ ∃ ws, vs = xs ++ ws ∧ p ws) ↔ ∃ ws, us = x :: xs ++ ws ∧ p ws := by
    constructor
    · rintro ⟨_, rfl, ws, rfl, h⟩
      exact ⟨ws, rfl, h⟩
    · rintro ⟨ws, rfl, h⟩
      exact ⟨_, rfl, ws, rfl, h⟩
  induction h generalizing us with
  | nil => simp
  | slash h ih =>
      simp only [List.cons_append, body_escape_iff (.inl rfl), ih]
      exact hcons
  | group h ih =>
      simp only [List.cons_append, body_escape_iff (.inr rfl), ih]
      constructor
      · rintro ⟨_, rfl, _, rfl, _, rfl, vs, rfl, htail⟩
        exact ⟨vs, rfl, htail⟩
      · rintro ⟨vs, rfl, htail⟩
        exact ⟨_, rfl, _, rfl, _, rfl, vs, rfl, htail⟩
  | quote hlt h ih =>
      simp only [List.cons_append, body_plain_iff (show '"' ≠ '\\' by decide), ih]
      exact hcons
  | plain hquote hslash h ih =>
      simp only [List.cons_append, body_plain_iff hslash, ih]
      exact hcons

/-- A text in three quotes, whatever follows, is one literal that ends at its last three quotes, and
denotes the text with one space behind it just if it ends in a quote. -/
theorem docstring_literal (names : List Char → Option Nat) (s : String) :
    (∀ rest, literal? (quotes ++ (docstring s).toList ++ quotes ++ rest) =
      some ((docstring s).toList, rest)) ∧
    ∀ us, Body names (docstring s).toList us ↔
      us = (s.toList ++ if s.toList.getLast? = some '"' then [' '] else []).map Char.toNat := by
  have hescaped : Escaped 0 s.toList (escapedChars s.toList) :=
    escaped_escapedChars 0 s.toList (by decide) (.inl rfl)
  have hwritten : (docstring s).toList =
      escapedChars s.toList ++ if s.toList.getLast? = some '"' then [' '] else [] := by
    rw [docstring, String.toList_ofList, docstringChars_eq]
    simp only [hescaped.getLast?_iff]
  rw [hwritten]
  constructor
  · intro rest
    show scan? _ = _
    by_cases hlast : s.toList.getLast? = some '"'
    · have hend : scan? (' ' :: (quotes ++ rest)) = some ([' '], rest) := rfl
      have htail : Apart 0 s.toList (' ' :: (quotes ++ rest)) := fun h => nomatch h
      have hscan := hescaped.scan?_append (by decide) htail
      rw [hend] at hscan
      simpa [hlast] using hscan
    · have hend : scan? (quotes ++ rest) = some ([], rest) := rfl
      have htail : Apart 0 s.toList (quotes ++ rest) := fun _ => ⟨hlast, fun _ => rfl⟩
      have hscan := hescaped.scan?_append (by decide) htail
      rw [hend] at hscan
      simpa [hlast] using hscan
  · intro us
    rw [hescaped.body_append_iff]
    by_cases hlast : s.toList.getLast? = some '"'
    · simp [hlast, body_plain_iff, body_nil_iff]
    · simp [hlast, body_nil_iff]

/-- Of four quotes three are escaped, and a space keeps the last one from the closing quotes. -/
example : docstring "\"\"\"\"" = "\\\"\\\"\\\"\" " := by decide

end Escaping

end Typewright.Emission.Python

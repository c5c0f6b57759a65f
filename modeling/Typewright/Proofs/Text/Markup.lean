/-
# Descriptions keep no markup

Tags are taken out of a description from left to right, and what stood on both sides of one is joined.
No new tag comes about by that.  An opening bracket stays only where no tag starts at it, and that is so
for one of two reasons: no closing bracket comes behind it, or one comes right behind it.  Both outlast
what is done to the rest of the text (`closesTag_removeTags`, `closesTag_collapse`), since closing brackets
are neither added there nor put behind anything else.

The other conditions on a tidy text (`Tidy`) are about its blanks.  A text that meets all of them is left
as it is, so tidying twice is the same as tidying once.
-/
import Mathlib.Data.List.DropRight
import Typewright.Schema.Basic

namespace Typewright.Text

variable {s r : List Char} {c : Char}

/-! ## Tags -/

/-- A tag: an opening bracket, one or more characters that are no closing bracket, and a closing bracket. -/
def IsTag (t : List Char) : Prop :=
  ∃ inside, inside ≠ [] ∧ '>' ∉ inside ∧ t = '<' :: (inside ++ ['>'])

/-- Texts with a tag in them. -/
def HasTag (s : List Char) : Prop := ∃ t, IsTag t ∧ t <:+: s

/-- Texts that make a tag of an opening bracket before them. -/
def ClosesTag (s : List Char) : Prop := '>' ∈ s ∧ s.head? ≠ some '>'

theorem exists_tag_prefix_iff : (∃ t, IsTag t ∧ t <+: c :: r) ↔ c = '<' ∧ ClosesTag r := by
  constructor
  · rintro ⟨_, ⟨inside, hne, hinside, rfl⟩, hstart⟩
    obtain ⟨rfl, rest, rfl⟩ := List.cons_prefix_cons.mp hstart
    refine ⟨rfl, by simp, fun hhead => hinside ?_⟩
    rw [List.append_assoc, List.head?_append_of_ne_nil _ hne] at hhead
    exact List.mem_of_head? hhead
  · rintro ⟨rfl, hmem, hhead⟩
    obtain ⟨inside, rest, rfl, hinside⟩ := List.eq_append_cons_of_mem hmem
    have hne : inside ≠ [] := by
      rintro rfl
      exact hhead rfl
    exact ⟨_, ⟨inside, hne, hinside, rfl⟩, rest, by simp⟩

/-- A text has a tag just if one starts at its first character or the rest has one. -/
theorem hasTag_cons : HasTag (c :: r) ↔ (c = '<' ∧ ClosesTag r) ∨ HasTag r := by
  simp only [HasTag, List.infix_cons_iff, and_or_left, exists_or, exists_tag_prefix_iff]

theorem not_hasTag_nil : ¬HasTag [] := by
  rintro ⟨_, ⟨inside, -, -, rfl⟩, hpart⟩
  exact absurd (List.infix_nil.mp hpart) (List.cons_ne_nil _ _)

theorem HasTag.of_infix (h : HasTag r) (hpart : r <:+: s) : HasTag s := by
  obtain ⟨t, ht, hinside⟩ := h
  exact ⟨t, ht, hinside.trans hpart⟩

theorem tagLength?_eq_none_iff : tagLength? r = none ↔ ¬ClosesTag r := by
  have hinside : 0 < (r.takeWhile (· != '>')).length ↔ r ≠ [] ∧ r.head? ≠ some '>' := by
    cases r with
    | nil => simp
    | cons c r => by_cases hc : c = '>' <;> simp [hc]
  have hbehind : (r.takeWhile (· != '>')).length < r.length ↔ '>' ∈ r := by
    have hlength := congrArg List.length
      (List.takeWhile_append_dropWhile (p := (· != '>')) (l := r))
    rw [List.length_append] at hlength
    rw [← hlength, Nat.lt_add_right_iff_pos, List.length_pos_iff, ne_eq, List.dropWhile_eq_nil_iff]
    simp
  simp only [tagLength?, ite_eq_right_iff, reduceCtorEq, imp_false, Bool.and_eq_true,
    decide_eq_true_eq, hinside, hbehind, ClosesTag]
  exact not_congr ⟨fun h => ⟨h.2, h.1.2⟩, fun h => ⟨⟨List.ne_nil_of_mem h.1, h.2⟩, h.1⟩⟩

/-! ## Taking out the tags -/

theorem removeTags_sublist (skip : Nat) (s : List Char) : (removeTagsFrom skip s).Sublist s := by
  fun_induction removeTagsFrom skip s with
  | case1 => exact List.Sublist.refl _
  | case2 skip c r ih => exact ih.cons c
  | case3 c r _ n _ ih => exact ih.cons c
  | case4 c r _ _ ih => exact ih.cons_cons c
  | case5 c r _ ih => exact ih.cons_cons c

/-- A closing bracket that comes behind something does so in the whole text as well. -/
theorem closesTag_removeTags (h : ClosesTag (removeTagsFrom 0 r)) : ClosesTag r := by
  refine ⟨(removeTags_sublist 0 r).subset h.1, fun hhead => h.2 ?_⟩
  obtain ⟨r, rfl⟩ := List.head?_eq_some_iff.mp hhead
  rfl

theorem not_hasTag_removeTags (skip : Nat) (s : List Char) : ¬HasTag (removeTagsFrom skip s) := by
  fun_induction removeTagsFrom skip s with
  | case1 => exact not_hasTag_nil
  | case2 _ _ _ ih => exact ih
  | case3 _ _ _ _ _ ih => exact ih
  | case4 c r _ hnone ih =>
      rw [hasTag_cons]
      rintro (⟨-, hcloses⟩ | htag)
      · exact tagLength?_eq_none_iff.mp hnone (closesTag_removeTags hcloses)
      · exact ih htag
  | case5 c r hc ih =>
      rw [hasTag_cons]
      rintro (⟨rfl, -⟩ | htag)
      · exact hc rfl
      · exact ih htag

theorem removeTags_eq_self (h : ¬HasTag s) : removeTagsFrom 0 s = s := by
  induction s with
  | nil => rfl
  | cons c r ih =>
      rw [hasTag_cons, not_or, not_and] at h
      obtain ⟨hcloses, hrest⟩ := h
      rw [removeTagsFrom]
      split
      · rename_i hc
        rw [tagLength?_eq_none_iff.mpr (hcloses (beq_iff_eq.mp hc)), ih hrest]
      · rw [ih hrest]

/-! ## Blanks -/

/-- Collapsing drops the blanks and adds marks. -/
theorem mem_collapse {p : Char → Bool} {mark : List Char} (h : c ∈ collapse p mark s) :
    c ∈ mark ∨ c ∈ s ∧ ¬p c = true := by
  fun_induction collapse p mark s <;> grind

theorem collapse_of_neg {p : Char → Bool} (mark r : List Char) (h : ¬p c = true) :
    collapse p mark (c :: r) = c :: collapse p mark r := by
  rw [collapse.eq_def]
  exact if_neg h

theorem closesTag_collapse (h : ClosesTag (collapse isSpaceOrTab [' '] r)) : ClosesTag r := by
  refine ⟨?_, fun hhead => h.2 ?_⟩
  · exact ((mem_collapse h.1).resolve_left (by decide)).1
  · obtain ⟨r, rfl⟩ := List.head?_eq_some_iff.mp hhead
    rw [collapse_of_neg _ _ (by decide)]
    rfl

/-- A space before a text is no part of a tag. -/
theorem hasTag_space_cons : HasTag (' ' :: r) ↔ HasTag r := by
  rw [hasTag_cons, or_iff_right fun h => absurd h.1 (by decide)]

theorem HasTag.of_collapse (h : HasTag (collapse isSpaceOrTab [' '] s)) : HasTag s := by
  fun_induction collapse isSpaceOrTab [' '] s with
  | case1 => exact h
  | case2 c _ d r _ ih => exact hasTag_cons.mpr (.inr (ih h))
  | case3 c _ d r _ ih => exact hasTag_cons.mpr (.inr (ih (hasTag_space_cons.mp h)))
  | case4 c _ => exact absurd (hasTag_space_cons.mp h) not_hasTag_nil
  | case5 c r _ ih =>
      rw [hasTag_cons] at h ⊢
      exact h.imp (fun ⟨hopen, hcloses⟩ => ⟨hopen, closesTag_collapse hcloses⟩) ih

theorem not_doubleSpace_collapse (s : List Char) :
    ¬[' ', ' '] <:+: collapse isSpaceOrTab [' '] s := by
  fun_induction collapse isSpaceOrTab [' '] s with
  | case1 => simp
  | case2 c _ d r _ ih => exact ih
  | case3 c _ d r hd ih =>
      rw [collapse_of_neg _ _ hd] at ih ⊢
      rw [List.singleton_append, List.infix_cons_iff, not_or]
      refine ⟨fun hstart => hd ?_, ih⟩
      obtain ⟨-, hstart⟩ := List.cons_prefix_cons.mp hstart
      obtain ⟨rfl, -⟩ := List.cons_prefix_cons.mp hstart
      rfl
  | case4 c _ => decide
  | case5 c r hc ih =>
      rw [List.infix_cons_iff, not_or]
      refine ⟨fun hstart => hc ?_, ih⟩
      obtain ⟨rfl, -⟩ := List.cons_prefix_cons.mp hstart
      rfl

theorem collapse_eq_self (htab : '\t' ∉ s) (hdouble : ¬[' ', ' '] <:+: s) :
    collapse isSpaceOrTab [' '] s = s := by
  have hspace {c : Char} (hc : isSpaceOrTab c = true) (htab : '\t' ≠ c) : c = ' ' := by
    simpa [isSpaceOrTab, htab.symm] using hc
  fun_induction collapse isSpaceOrTab [' '] s with
  | case1 => rfl
  | case2 c hc d r hd ih =>
      obtain ⟨hc', hd', -⟩ : '\t' ≠ c ∧ '\t' ≠ d ∧ '\t' ∉ r := by simpa using htab
      rw [hspace hc hc', hspace hd hd'] at hdouble
      exact absurd ⟨[], r, rfl⟩ hdouble
  | case3 c hc d r hd ih =>
      rw [List.mem_cons, not_or] at htab
      rw [List.infix_cons_iff, not_or] at hdouble
      rw [hspace hc htab.1, ih htab.2 hdouble.2]
      rfl
  | case4 c hc => rw [hspace hc (fun h => htab (h ▸ List.mem_cons_self))]
  | case5 c r hc ih =>
      rw [List.mem_cons, not_or] at htab
      rw [List.infix_cons_iff, not_or] at hdouble
      rw [ih htab.2 hdouble.2]

/-! ## Tidy texts -/

/-- Texts without tags and tabs, of which the words have single spaces between them and nothing around
them. -/
structure Tidy (s : List Char) : Prop where
  noTag : ¬HasTag s
  noTab : '\t' ∉ s
  noDoubleSpace : ¬[' ', ' '] <:+: s
  startsInside : ∀ c ∈ s.head?, ¬isBlank c = true
  endsInside : ∀ c ∈ s.getLast?, ¬isBlank c = true

theorem trimWhile_infix (p : Char → Bool) (s : List Char) : trimWhile p s <:+: s :=
  (List.rdropWhile_prefix p _).isInfix.trans (List.dropWhile_suffix p).isInfix

theorem not_of_mem_head?_trimWhile {p : Char → Bool} (h : c ∈ (trimWhile p s).head?) : ¬p c = true := by
  obtain ⟨t, ht⟩ := List.head?_eq_some_iff.mp h
  obtain ⟨rest, hrest⟩ : trimWhile p s <+: s.dropWhile p := List.rdropWhile_prefix p _
  have hfront := List.head?_dropWhile_not p s
  rw [← hrest, ht] at hfront
  exact Bool.eq_false_iff.mp hfront

theorem not_of_mem_getLast?_trimWhile {p : Char → Bool} (h : c ∈ (trimWhile p s).getLast?) :
    ¬p c = true := by
  have hne : trimWhile p s ≠ [] := by
    rintro hnil
    rw [hnil] at h
    exact nomatch h
  rw [← List.getLast_of_mem_getLast? h]
  exact List.rdropWhile_last_not p _ hne

theorem trimWhile_eq_self {p : Char → Bool} (hhead : ∀ c ∈ s.head?, ¬p c = true)
    (hlast : ∀ c ∈ s.getLast?, ¬p c = true) : trimWhile p s = s := by
  have hfront : s.dropWhile p = s := by
    cases s with
    | nil => rfl
    | cons c r => exact List.dropWhile_cons_of_neg (hhead c rfl)
  rw [trimWhile, hfront]
  refine List.rdropWhile_eq_self_iff.mpr fun hs => hlast _ ?_
  exact List.getLast?_eq_some_getLast hs

theorem tidy_withoutMarkupChars (s : List Char) : Tidy (withoutMarkupChars s) := by
  have hpart := trimWhile_infix isBlank (collapse isSpaceOrTab [' '] (removeTagsFrom 0 s))
  refine ⟨fun htag => ?_, fun htab => ?_, fun hdouble => ?_, ?_, ?_⟩
  · exact not_hasTag_removeTags 0 s (htag.of_infix hpart).of_collapse
  · rcases mem_collapse (hpart.subset htab) with hmark | ⟨-, hkept⟩
    · exact absurd hmark (by decide)
    · exact hkept rfl
  · exact not_doubleSpace_collapse _ (hdouble.trans hpart)
  · exact fun _ => not_of_mem_head?_trimWhile
  · exact fun _ => not_of_mem_getLast?_trimWhile

theorem withoutMarkupChars_eq_self (h : Tidy s) : withoutMarkupChars s = s := by
  rw [withoutMarkupChars, removeTags_eq_self h.noTag, collapse_eq_self h.noTab h.noDoubleSpace,
    trimWhile_eq_self h.startsInside h.endsInside]

/-- A text without its markup has no tag, no tab, no two spaces in a row and no white space at its ends.
Just the texts for which this is so are left as they are, so taking out the markup again changes nothing. -/
theorem markup_removed (text : String) :
    Tidy (withoutMarkup text).toList ∧ (withoutMarkup text = text ↔ Tidy text.toList) ∧
      withoutMarkup (withoutMarkup text) = withoutMarkup text := by
  have htidy (t : String) : Tidy (withoutMarkup t).toList := by
    rw [withoutMarkup, String.toList_ofList]
    exact tidy_withoutMarkupChars t.toList
  have hself {t : String} (h : Tidy t.toList) : withoutMarkup t = t := by
    rw [withoutMarkup, withoutMarkupChars_eq_self h, String.ofList_toList]
  exact ⟨htidy text, ⟨fun h => h ▸ htidy text, hself⟩, hself (htidy text)⟩

example : withoutMarkup "a <> \t<<b>b> c</i>" = "a <> b> c" := by decide

end Typewright.Text

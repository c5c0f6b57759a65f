/-
# When the name of an operation is an identifier

A verb, the segments of a path in snake case, an underscore between each two of them, and the ending
of a singular or plural: apart from the segments all of it is letters and underscores, and the verb
comes first.  So the name starts with a letter, and its characters are of a class that has letters,
digits and underscores just if the segments have characters of this class (`forall_mem_operation_iff`).

A segment with a letter or a digit in its lower case form is spelled with these.  Any other segment is
kept as it is, whatever it is made of, and then the name has all of its characters.
-/
import Typewright.Name.Operation
import Typewright.Proofs.Name.Identifier
import Typewright.Service.Basic

namespace Typewright.Name

section Classes

variable {p : Char → Prop} {w : List Char} {ws : List (List Char)}

/-! ## Singular and plural -/

theorem forall_mem_mapLast_iff {P : List Char → Prop} {f : List Char → List Char}
    (hf : ∀ w, P (f w) ↔ P w) : (∀ w ∈ mapLast f ws, P w) ↔ ∀ w ∈ ws, P w := by
  fun_induction mapLast f ws with
  | case1 => rfl
  | case2 w => rw [List.forall_mem_singleton, List.forall_mem_singleton, hf]
  | case3 w v r ih =>
      rw [List.forall_mem_cons, ih]
      exact List.forall_mem_cons.symm

variable (hp : ∀ c, isNameChar c = true → p c)

include hp

theorem forall_mem_of_all (h : w.all isNameChar = true) : ∀ c ∈ w, p c :=
  fun c hc => hp c (List.all_eq_true.mp h c hc)

/-- Where the end of a word and what replaces it are characters of names, the replacement does not
matter. -/
theorem forall_mem_replaceEnd_iff {ending : String} {n : Nat} {new : List Char}
    (hend : endsWith w ending = true) (hn : n ≤ ending.toList.length)
    (hending : ending.toList.all isNameChar = true) (hnew : new.all isNameChar = true) :
    (∀ c ∈ dropLast n w ++ new, p c) ↔ ∀ c ∈ w, p c := by
  obtain ⟨u, rfl⟩ := List.isSuffixOf_iff_suffix.mp hend
  have hdrop : dropLast n (u ++ ending.toList) =
      u ++ ending.toList.take (ending.toList.length - n) := by
    rw [dropLast, List.length_append, Nat.add_sub_assoc hn, List.take_length_add_append]
  have hending := forall_mem_of_all hp hending
  have htake : ∀ c ∈ ending.toList.take (ending.toList.length - n), p c :=
    fun c hc => hending c (List.mem_of_mem_take hc)
  rw [hdrop, List.forall_mem_append, List.forall_mem_append, List.forall_mem_append,
    and_iff_left (forall_mem_of_all hp hnew), and_iff_left htake, and_iff_left hending]

theorem forall_mem_singular_iff (w : List Char) :
    (∀ c ∈ singular w, p c) ↔ ∀ c ∈ w, p c := by
  unfold singular
  split
  · rename_i hend
    exact forall_mem_replaceEnd_iff hp hend (by decide) (by decide) (by decide)
  · split
    · rename_i hends
      obtain ⟨ending, hmem, hend⟩ := List.any_eq_true.mp hends
      have hending : ∀ e ∈ ["sses", "xes", "ches", "shes"],
          2 ≤ e.toList.length ∧ e.toList.all isNameChar = true := by
        decide
      obtain ⟨hlength, hall⟩ := hending ending hmem
      rw [← List.append_nil (dropLast 2 w)]
      exact forall_mem_replaceEnd_iff hp hend hlength hall rfl
    · split
      · rename_i hends
        rw [← List.append_nil (dropLast 1 w)]
        exact forall_mem_replaceEnd_iff hp (Bool.and_eq_true_iff.mp hends).1 (by decide)
          (by decide) rfl
      · rfl

theorem forall_mem_plural_iff (w : List Char) : (∀ c ∈ plural w, p c) ↔ ∀ c ∈ w, p c := by
  unfold plural
  split
  · rfl
  · split
    · rename_i hends
      exact forall_mem_replaceEnd_iff hp (Bool.and_eq_true_iff.mp hends).1 (by decide)
        (by decide) (by decide)
    · rw [List.forall_mem_append, and_iff_left (forall_mem_of_all hp (by decide))]

theorem forall_mem_inflect_iff (verb : String) (w : List Char) :
    (∀ c ∈ inflect verb w, p c) ↔ ∀ c ∈ w, p c := by
  unfold inflect
  split
  · exact forall_mem_plural_iff hp w
  · split
    · exact forall_mem_singular_iff hp w
    · rfl

/-! ## Segments -/

/-- A segment with a letter or a digit in its lower case form is spelled with characters of names, and
any other one is kept. -/
theorem forall_mem_snakeChars_iff (s : List Char) :
    (∀ c ∈ snakeChars s, p c) ↔ (∃ c ∈ s, Text.hasWordForm c = true) ∨ ∀ c ∈ s, p c := by
  by_cases hword : ∃ c ∈ s, Text.hasWordForm c = true
  · have hsnake := isSnake_snakeChars (snakeWords_ne_nil_iff.mpr hword)
    have hchars := isPlainIdentifier_all hsnake.isPlainIdentifier
    exact iff_of_true (fun c hc => hp c (hchars c hc)) (.inl hword)
  · have hwordless : snakeWords s = [] :=
      Decidable.not_not.mp fun h => hword (snakeWords_ne_nil_iff.mp h)
    rw [snakeChars_of_wordless hwordless, or_iff_right hword]

/-- The characters of the name of an operation are of a class just if those of the segments are. -/
theorem forall_mem_operation_iff {method path : String}
    (hverb : ∀ c ∈ (verb (Text.lower method) (endsWithParameter path.toList)).toList, p c) :
    (∀ c ∈ (operation method path).toList, p c) ↔
      ∀ s ∈ resources path.toList, (∃ c ∈ s, Text.hasWordForm c = true) ∨ ∀ c ∈ s, p c := by
  have hsegments : (∀ w ∈ (resources path.toList).map snakeChars, ∀ c ∈ w, p c) ↔
      ∀ s ∈ resources path.toList, (∃ c ∈ s, Text.hasWordForm c = true) ∨ ∀ c ∈ s, p c := by
    rw [List.forall_mem_map]
    exact forall₂_congr fun s _ => forall_mem_snakeChars_iff hp s
  rw [← hsegments]
  unfold operation
  dsimp only
  split
  · rename_i hnil
    rw [hnil, String.toList_append, List.forall_mem_append, and_iff_right hverb]
    exact iff_of_true (forall_mem_of_all hp (by decide)) (by simp)
  · rw [String.toList_ofList, forall_mem_joinWords_iff (hp '_' (by decide)), List.forall_mem_cons,
      and_iff_right hverb]
    exact forall_mem_mapLast_iff fun w => forall_mem_inflect_iff hp _ w

end Classes

/-! ## Identifiers of any script -/

theorem inRuns_of_mem {runs : List Text.Run} {first last : Nat} {c : Char}
    (hrun : ⟨first, last, 1⟩ ∈ runs) (hc : first ≤ c.toNat ∧ c.toNat ≤ last) :
    Text.inRuns runs c = true :=
  List.any_eq_true.mpr ⟨_, hrun, by simp [Text.Run.contains, hc, Nat.mod_one]⟩

theorem isIdentifierStart_of_lower {c : Char} (h : Text.isAsciiLower c = true) :
    Text.isIdentifierStart c = true := by
  have hrun : ⟨0x61, 0x7A, 1⟩ ∈ Text.ClassTable.identifierStart := by decide +kernel
  exact inRuns_of_mem hrun (Text.isAsciiLower_iff.mp h)

/-- Letters, digits and underscores may stand in identifiers of any script. -/
theorem isIdentifierRest_of_nameChar {c : Char} (h : isNameChar c = true) :
    Text.isIdentifierRest c = true := by
  have hruns : ⟨0x30, 0x39, 1⟩ ∈ Text.ClassTable.identifierRest ∧
      ⟨0x41, 0x5A, 1⟩ ∈ Text.ClassTable.identifierStart ∧
      ⟨0x5F, 0x5F, 1⟩ ∈ Text.ClassTable.identifierStart := by
    decide +kernel
  obtain ⟨hdigit, hupper, hmark⟩ := hruns
  rw [isNameChar, Text.isWordChar, Bool.or_eq_true, Bool.or_eq_true, Bool.or_eq_true,
    beq_iff_eq] at h
  rw [Text.isIdentifierRest, Bool.or_eq_true]
  rcases h with ((h | h) | h) | rfl
  · exact .inr (inRuns_of_mem hdigit (Text.isAsciiDigit_iff.mp h))
  · exact .inl (inRuns_of_mem hupper (Text.isAsciiUpper_iff.mp h))
  · exact .inl (isIdentifierStart_of_lower h)
  · exact .inl (inRuns_of_mem hmark (by decide))

/-! ## The names of operations -/

/-- Verbs are words of small letters. -/
theorem verb_spec (m : Method) (one : Bool) :
    verb m.name one ≠ "" ∧ (verb m.name one).toList.all Text.isAsciiLower = true := by
  cases m <;> cases one <;> decide

/-- The verb stands first. -/
theorem operation_eq_append (method path : String) : ∃ rest, (operation method path).toList =
    (verb (Text.lower method) (endsWithParameter path.toList)).toList ++ rest := by
  unfold operation
  dsimp only
  split
  · exact ⟨_, String.toList_append⟩
  · rw [String.toList_ofList]
    generalize mapLast _ _ = ws
    cases ws with
    | nil => exact ⟨[], (List.append_nil _).symm⟩
    | cons w ws => exact ⟨_, rfl⟩

section Operations

variable {m : Method} {method : String} (h : Text.lower method = m.name)

include h

theorem isAsciiLower_verb (one : Bool) :
    ∀ c ∈ (verb (Text.lower method) one).toList, Text.isAsciiLower c = true := by
  rw [h]
  exact List.all_eq_true.mp (verb_spec m one).2

/-- The name of an operation starts with a small letter. -/
theorem operation_head (path : String) :
    ∃ c r, (operation method path).toList = c :: r ∧ Text.isAsciiLower c = true := by
  obtain ⟨rest, heq⟩ := operation_eq_append method path
  have hlower := isAsciiLower_verb h (endsWithParameter path.toList)
  cases hv : (verb (Text.lower method) (endsWithParameter path.toList)).toList with
  | nil =>
      rw [String.toList_eq_nil_iff, h] at hv
      exact absurd hv (verb_spec m _).1
  | cons c v =>
      rw [hv] at heq hlower
      exact ⟨c, v ++ rest, heq, hlower c List.mem_cons_self⟩

theorem forall_mem_operation_of_method {p : Char → Prop} (path : String)
    (hp : ∀ c, isNameChar c = true → p c) : (∀ c ∈ (operation method path).toList, p c) ↔
      ∀ s ∈ resources path.toList, (∃ c ∈ s, Text.hasWordForm c = true) ∨ ∀ c ∈ s, p c := by
  refine forall_mem_operation_iff hp fun c hc => hp c (isNameChar_of_word ?_)
  rw [Text.isWordChar, isAsciiLower_verb h _ c hc, Bool.or_true]

theorem isPlainIdentifier_operation_iff (path : String) :
    isPlainIdentifier (operation method path).toList = true ↔
      ∀ s ∈ resources path.toList, (∃ c ∈ s, Text.hasWordForm c = true) ∨ ∀ c ∈ s, c = '_' := by
  have hchars := forall_mem_operation_of_method h path fun _ => id
  obtain ⟨c, r, hname, hlower⟩ := operation_head h path
  have hdigit : ¬Text.isAsciiDigit c = true := by
    rw [Text.isAsciiLower_iff] at hlower
    rw [Text.isAsciiDigit_iff]
    omega
  rw [hname] at hchars ⊢
  rw [isPlainIdentifier_cons, and_iff_right hdigit, hchars]
  refine forall₂_congr fun s _ => Decidable.or_congr_right' fun hword => ?_
  refine forall₂_congr fun d hd => ?_
  -- no letter or digit is left, so that a character of names is an underscore
  have hd : Text.isWordChar d = false := by
    have hform : Text.hasWordForm d = false := by simpa using fun hform => hword ⟨d, hd, hform⟩
    simp only [Text.hasWordForm, Bool.or_eq_false_iff] at hform
    exact hform.1.1
  rw [isNameChar, hd, Bool.false_or, beq_iff_eq]

theorem isIdentifier_operation_iff (path : String) :
    Text.isIdentifier (operation method path).toList = true ↔
      ∀ s ∈ resources path.toList, (∃ c ∈ s, Text.hasWordForm c = true) ∨
        ∀ c ∈ s, Text.isIdentifierRest c = true := by
  have hchars := forall_mem_operation_of_method h path fun _ => isIdentifierRest_of_nameChar
  obtain ⟨c, r, hname, hlower⟩ := operation_head h path
  have hstart := isIdentifierStart_of_lower hlower
  have hrest : Text.isIdentifierRest c = true := by
    rw [Text.isIdentifierRest, hstart, Bool.true_or]
  rw [hname, List.forall_mem_cons, and_iff_right hrest] at hchars
  rw [hname, Text.isIdentifier, hstart, Bool.true_and, List.all_eq_true]
  exact hchars

end Operations

/-- The name of an operation starts with a small letter.  It is an identifier of ASCII just if each
segment of its path has a letter or a digit in its lower case form, or has underscores only; and one of
any script just if each segment without them has nothing but what may stand in such identifiers. -/
theorem operation_identifier_iff (m : Method) {method : String} (path : String)
    (h : Text.lower method = m.name) :
    (∃ c r, (operation method path).toList = c :: r ∧ Text.isAsciiLower c = true) ∧
      (isPlainIdentifier (operation method path).toList = true ↔
        ∀ s ∈ resources path.toList, (∃ c ∈ s, Text.hasWordForm c = true) ∨ ∀ c ∈ s, c = '_') ∧
      (Text.isIdentifier (operation method path).toList = true ↔
        ∀ s ∈ resources path.toList, (∃ c ∈ s, Text.hasWordForm c = true) ∨
          ∀ c ∈ s, Text.isIdentifierRest c = true) :=
  ⟨operation_head h path, isPlainIdentifier_operation_iff h path,
    isIdentifier_operation_iff h path⟩

/-- The middle segment of the first path has neither a letter nor a digit; those of the second one have,
or are parameters. -/
theorem operation_hyphen : Text.lower "GET" = Method.get.name ∧
    operation "GET" "/pets/-/toys" = "list_pets_-_toys" ∧
    isPlainIdentifier (operation "GET" "/pets/-/toys").toList = false ∧
    Text.isIdentifier (operation "GET" "/pets/-/toys").toList = false ∧
    operation "GET" "/9-Lives/{-}/K/straße/__" = "list__9_lives_k_stra_e___s" ∧
    isPlainIdentifier (operation "GET" "/9-Lives/{-}/K/straße/__").toList = true := by
  have hmethod : Text.lower "GET" = Method.get.name := by decide +kernel
  obtain ⟨-, hplain, hany⟩ := operation_identifier_iff .get "/pets/-/toys" hmethod
  obtain ⟨-, hgood, -⟩ := operation_identifier_iff .get "/9-Lives/{-}/K/straße/__" hmethod
  have hhyphen : ['-'] ∈ resources "/pets/-/toys".toList := by decide +kernel
  have hform : Text.hasWordForm '-' = false := by decide +kernel
  have hrest : Text.isIdentifierRest '-' = false := by decide +kernel
  have hsegments : (resources "/9-Lives/{-}/K/straße/__".toList).all
      (fun s => s.any Text.hasWordForm || s.all (· == '_')) = true := by
    decide +kernel
  simp only [List.all_eq_true, Bool.or_eq_true, List.any_eq_true, beq_iff_eq] at hsegments
  refine ⟨hmethod, by decide +kernel, ?_, ?_, by decide +kernel, hgood.mpr hsegments⟩
  · rw [Bool.eq_false_iff]
    intro h
    simpa [hform] using hplain.mp h ['-'] hhyphen
  · rw [Bool.eq_false_iff]
    intro h
    simpa [hform, hrest] using hany.mp h ['-'] hhyphen

end Typewright.Name

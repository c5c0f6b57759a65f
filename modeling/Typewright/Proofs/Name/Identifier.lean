/-
# Spellings are identifiers

An identifier of ASCII is made of letters, digits and underscores, and does not start with a digit
(`isPlainIdentifier`).  Both spellings are: of words the characters are letters and digits, joining
them adds underscores only, and a digit in front is guarded by one.  An identifier stays one with
anything of the kind at its end, so neither the mark of reserved names nor a number can spoil it.
-/
import Typewright.Proofs.Name.Case
import Typewright.Proofs.Name.Fresh

namespace Typewright.Name

/-- Characters of identifiers: letters and digits of ASCII, and the underscore. -/
def isNameChar (c : Char) : Bool := Text.isWordChar c || c == '_'

/-- Identifiers of ASCII: characters of names, of which the first is no digit. -/
def isPlainIdentifier : List Char → Bool
  | [] => false
  | c :: r => !Text.isAsciiDigit c && (c :: r).all isNameChar

variable {s t r w : List Char} {ws : List (List Char)} {c : Char}

theorem isNameChar_of_word (h : Text.isWordChar c = true) : isNameChar c = true := by
  rw [isNameChar, h, Bool.true_or]

theorem isPlainIdentifier_cons : isPlainIdentifier (c :: r) = true ↔
    ¬Text.isAsciiDigit c = true ∧ ∀ d ∈ c :: r, isNameChar d = true := by
  simp [isPlainIdentifier]

theorem isPlainIdentifier_append (hs : isPlainIdentifier s = true)
    (hr : ∀ c ∈ r, isNameChar c = true) : isPlainIdentifier (s ++ r) = true := by
  cases s with
  | nil => exact nomatch hs
  | cons c s =>
      rw [isPlainIdentifier_cons] at hs
      rw [List.cons_append, isPlainIdentifier_cons, ← List.cons_append]
      exact ⟨hs.1, fun d hd => (List.mem_append.mp hd).elim (hs.2 d) (hr d)⟩

theorem isPlainIdentifier_guardDigit (ht : t ≠ []) (hall : ∀ c ∈ t, isNameChar c = true) :
    isPlainIdentifier (guardDigit t) = true := by
  cases t with
  | nil => exact absurd rfl ht
  | cons c t =>
      rw [guardDigit]
      split
      · exact isPlainIdentifier_cons.mpr
          ⟨by decide, List.forall_mem_cons.mpr ⟨by decide, hall⟩⟩
      · rename_i hdigit
        exact isPlainIdentifier_cons.mpr ⟨hdigit, hall⟩

/-! ## The two spellings -/

theorem IsPascal.isPlainIdentifier (h : IsPascal t) : isPlainIdentifier t = true := by
  obtain ⟨w, hw, rfl⟩ := h
  refine isPlainIdentifier_guardDigit ?_ fun c hc => isNameChar_of_word (hw.all c hc)
  rintro rfl
  exact hw

theorem isPlainIdentifier_all (h : isPlainIdentifier t = true) : ∀ c ∈ t, isNameChar c = true := by
  cases t with
  | nil => exact nomatch h
  | cons c t => exact (isPlainIdentifier_cons.mp h).2

theorem IsSnake.isPlainIdentifier (h : IsSnake t) : isPlainIdentifier t = true := by
  obtain ⟨ws, hne, hws, rfl⟩ := h
  refine isPlainIdentifier_guardDigit (joinWords_ne_nil hne hws) ?_
  refine (forall_mem_joinWords_iff (by decide)).mpr fun w hw c hc => ?_
  exact isNameChar_of_word ((hws w hw).2 c hc).1

/-! ## Marks and numbers -/

theorem isPlainIdentifier_underscore {n : String} (h : isPlainIdentifier n.toList = true) :
    isPlainIdentifier (n ++ "_").toList = true := by
  rw [String.toList_append]
  exact isPlainIdentifier_append h (List.all_eq_true.mp (by decide))

theorem isPlainIdentifier_numbered {n : String} (h : isPlainIdentifier n.toList = true) (k : Nat) :
    isPlainIdentifier (numbered n k).toList = true := by
  rw [toList_numbered]
  refine isPlainIdentifier_append h fun c hc => isNameChar_of_word ?_
  exact ((isSnakeWord_toDigits k).2 c hc).1

theorem isPlainIdentifier_fresh (taken : List String) {n : String}
    (h : isPlainIdentifier n.toList = true) :
    isPlainIdentifier (fresh taken n).toList = true := by
  rcases fresh_eq_or taken n with heq | ⟨k, heq⟩
  · rwa [heq]
  · rw [heq]
    exact isPlainIdentifier_numbered h k

end Typewright.Name

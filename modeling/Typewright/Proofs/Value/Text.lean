/-
# Only the empty text is shown as nothing

Every value but the empty text has a plain text that is not empty: numbers have digits, and
everything else shows a mark of its kind.  A title that is given is therefore a hint for a name.
-/
import Typewright.Value.Text

namespace Typewright

namespace Number

theorem decimalDigits_ne_nil (n : Nat) : decimalDigits n ≠ [] :=
  List.ne_nil_of_length_pos Nat.length_toDigits_pos

theorem intText_ne_empty (n : Int) : intText n ≠ "" := by
  have hpos : 0 < (Nat.repr n.natAbs).length := Nat.length_repr_pos
  have hlen : 0 < (intText n).length := by
    unfold intText
    split
    · rw [String.length_append]
      omega
    · exact hpos
  intro h
  rw [h] at hlen
  exact absurd hlen (by decide)

theorem Decimals.render_ne_nil (d : Decimals) : d.render ≠ [] := by
  unfold Decimals.render
  dsimp only
  split
  · simp
  · split
    · simp
    · split <;> simp

theorem Binary64.text_ne_empty (x : Binary64) : x.text ≠ "" := by
  cases x with
  | nan => decide
  | inf s => cases s <;> decide
  | finite s m e =>
      have hbody : (if m == 0 then ['0', '.', '0'] else (Interval.of m e).shortest.render) ≠ [] := by
        split
        · exact List.cons_ne_nil _ _
        · exact Decimals.render_ne_nil _
      intro h
      have hlist := congrArg String.toList h
      rw [Binary64.text, String.toList_ofList] at hlist
      split at hlist
      · exact absurd hlist (List.cons_ne_nil _ _)
      · exact hbody hlist

theorem Decimal.finiteText_ne_nil (coeff : Nat) (exp : Int) : Decimal.finiteText coeff exp ≠ [] := by
  have hdigits := decimalDigits_ne_nil coeff
  have hbody : ∀ point : Int, (
      if point ≤ 0 then '0' :: '.' :: List.replicate (-point).toNat '0' ++ decimalDigits coeff
      else if ((decimalDigits coeff).length : Int) ≤ point then
        decimalDigits coeff ++ List.replicate (point - (decimalDigits coeff).length).toNat '0'
      else (decimalDigits coeff).take point.toNat ++ '.' :: (decimalDigits coeff).drop point.toNat)
      ≠ [] := by
    intro point
    split
    · exact List.cons_ne_nil _ _
    · split
      · exact fun h => hdigits (List.append_eq_nil_iff.mp h).1
      · exact fun h => List.cons_ne_nil _ _ (List.append_eq_nil_iff.mp h).2
  unfold Decimal.finiteText
  dsimp only
  generalize (if exp ≤ 0 && -6 < exp + ((decimalDigits coeff).length : Int)
    then exp + ((decimalDigits coeff).length : Int) else 1) = point
  split
  · exact hbody point
  · exact fun h => List.cons_ne_nil _ _ (List.append_eq_nil_iff.mp (List.append_eq_nil_iff.mp h).1).2

theorem Decimal.text_ne_empty (d : Decimal) : d.text ≠ "" := by
  cases d with
  | finite neg coeff exp =>
      have := Decimal.finiteText_ne_nil coeff exp
      simp [Decimal.text, this]
  | inf neg => simp [Decimal.text]
  | nan neg signalling payload => cases signalling <;> simp [Decimal.text]

theorem text_ne_empty (n : Number) : n.text ≠ "" := by
  cases n with
  | int n => exact intText_ne_empty n
  | float x => exact x.text_ne_empty
  | decimal d => exact d.text_ne_empty

end Number

namespace Value

theorem append_ne_empty {s : String} (h : s ≠ "") (t : String) : s ++ t ≠ "" :=
  fun hst => h (String.append_eq_empty_iff.mp hst).1

theorem ofList_ne_empty {s : List Char} (h : s ≠ []) : String.ofList s ≠ "" :=
  fun hs => h (by simpa using congrArg String.toList hs)

theorem display_ne_empty (v : Value) : v.display ≠ "" := by
  cases v with
  | null => rw [display]; decide
  | bool b => cases b <;> rw [display] <;> decide
  | num n =>
      rw [display]
      cases n with
      | decimal d => exact append_ne_empty (append_ne_empty (by decide) _) _
      | int n => exact Number.text_ne_empty (.int n)
      | float x => exact Number.text_ne_empty (.float x)
  | text s =>
      rw [display]
      exact ofList_ne_empty (List.cons_ne_nil _ _)
  | bytes bs =>
      rw [display]
      exact ofList_ne_empty (List.cons_ne_nil _ _)
  | date d =>
      rw [display]
      exact append_ne_empty (append_ne_empty (by decide) _) _
  | moment m =>
      rw [display]
      exact append_ne_empty (append_ne_empty (by decide) _) _
  | list items =>
      rw [display]
      exact append_ne_empty (append_ne_empty (by decide) _) _
  | tuple items =>
      rw [display]
      split <;> exact append_ne_empty (append_ne_empty (by decide) _) _
  | set items =>
      rw [display]
      split
      · decide
      · exact append_ne_empty (append_ne_empty (by decide) _) _
  | map entries =>
      rw [display]
      exact append_ne_empty (append_ne_empty (by decide) _) _
  | object role content =>
      rw [display]
      exact append_ne_empty (append_ne_empty (by decide) _) _

/-- A value that is given has a plain text. -/
theorem plain_ne_empty {v : Value} (h : v.isGiven = true) : v.plain ≠ "" := by
  cases v with
  | text s => simpa [isGiven, plain] using h
  | num n => exact n.text_ne_empty
  | date d => simp [plain, Time.Date.text, Time.Date.chars]
  | moment m => simp [plain, Time.Moment.text, Time.Moment.chars]
  | _ => exact display_ne_empty _

end Value

end Typewright

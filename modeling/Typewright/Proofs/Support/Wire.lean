/-
# Timestamps over the wire

Moments are written in the notation of ISO 8601 and read back from it, alone or in lists of any depth.
By induction on the lists this gives every moment back as reading its notation does
(`fromWire_toWire`): moments without an offset, with none, or with one of a second or more are kept.
An offset of less than a second is lost, and with it the point of universal time that the moment is at.
-/
import Typewright.Proofs.Time.Iso
import Typewright.Support.Wire

namespace Typewright

namespace Time.Moment

/-- A moment that its notation gives back: without an offset, with none, or with one of a second or
more. -/
def Kept (m : Moment) : Prop := ∀ x ∈ m.offset, x = 0 ∨ second ≤ x.natAbs

theorem offsetBack_eq_iff {x : Int} : Iso.offsetBack x = x ↔ x = 0 ∨ second ≤ x.natAbs := by
  rw [Iso.offsetBack]
  split
  · constructor
    · intro h
      exact .inl h.symm
    · intro h
      omega
  · constructor
    · intro _
      omega
    · intro _
      rfl

theorem map_offsetBack_eq_iff {offset : Option Int} : offset.map Iso.offsetBack = offset ↔
    ∀ x ∈ offset, x = 0 ∨ second ≤ x.natAbs := by
  cases offset with
  | none => simp
  | some x => simp [offsetBack_eq_iff]

theorem readBack_eq_iff (m : Moment) : m.readBack = m ↔ m.Kept := by
  rw [Kept, ← map_offsetBack_eq_iff]
  constructor
  · intro h
    exact congrArg offset h
  · intro h
    cases m
    simp only [readBack, Moment.mk.injEq, true_and]
    exact h

/-- Where a moment is not given back, what is read is at another point of universal time. -/
theorem same_readBack_iff (m : Moment) : m.readBack.same m = true ↔ m.Kept := by
  have hclock : m.readBack.clock = m.clock := rfl
  have hback : m.readBack.offset = m.offset.map Iso.offsetBack := rfl
  rw [same, hback, hclock, Kept]
  cases m.offset with
  | none => simp
  | some x =>
      have hdifference : m.clock - Iso.offsetBack x = m.clock - x ↔ Iso.offsetBack x = x := by omega
      simp [hdifference, offsetBack_eq_iff]

end Time.Moment

namespace Support

open Time (Moment)

variable {P : Moment → Prop} {v : Value} {items : List Value}

/-- Null, a moment, or lists of these at any depth. -/
inductive Times (P : Moment → Prop) : Value → Prop
  | null : Times P .null
  | moment {m : Moment} : P m → Times P (.moment m)
  | list {items : List Value} : (∀ v ∈ items, Times P v) → Times P (.list items)

/-! ## One moment -/

theorem withOffset_chars (m : Moment) : withOffset (m.chars 'T') = m.chars 'T' := by
  unfold withOffset
  split
  · rename_i c hlast
    have hzone : (c == 'Z' || c == 'z') = false := by
      have hwritten := Time.Iso.written_of_mem_chars (List.mem_of_getLast? hlast)
      obtain ⟨hupper, hlower⟩ := hwritten.ne_zone
      rw [beq_false_of_ne hupper, beq_false_of_ne hlower, Bool.or_false]
    rw [hzone, if_neg Bool.false_ne_true]
  · rfl

theorem parseMoment_iso (m : Moment) : parseMoment m.iso = .moment m.readBack := by
  have hchars : String.ofList (withOffset m.iso.toList) = m.iso := by
    rw [Moment.iso, String.toList_ofList, withOffset_chars]
  rw [parseMoment, hchars, Time.Iso.read?_iso]

/-! ## Moments in lists -/

mutual

/-- A value with every moment as it is read back. -/
def momentsBack : Value → Value
  | .list items => .list (itemsBack items)
  | .moment m => .moment m.readBack
  | v => v

/-- Values with every moment as it is read back. -/
def itemsBack : List Value → List Value
  | [] => []
  | v :: r => momentsBack v :: itemsBack r

end

theorem itemsToWire_eq : ∀ items : List Value, itemsToWire items = items.map toWire
  | [] => rfl
  | v :: items => by rw [itemsToWire, itemsToWire_eq items, List.map_cons]

theorem itemsFromWire_eq (hasDto isMoment : Bool) : ∀ items : List Value,
    itemsFromWire hasDto isMoment items = items.map (fromWire hasDto isMoment)
  | [] => rfl
  | v :: items => by rw [itemsFromWire, itemsFromWire_eq hasDto isMoment items, List.map_cons]

theorem itemsBack_eq : ∀ items : List Value, itemsBack items = items.map momentsBack
  | [] => rfl
  | v :: items => by rw [itemsBack, itemsBack_eq items, List.map_cons]

theorem fromWire_toWire_eq (hasDto : Bool) (h : Times P v) :
    fromWire hasDto true (toWire v) = momentsBack v := by
  induction h with
  | null => rfl
  | moment _ => exact parseMoment_iso _
  | list _ ih =>
      rw [toWire, fromWire, momentsBack, itemsToWire_eq, itemsFromWire_eq, itemsBack_eq,
        List.map_map]
      exact congrArg Value.list (List.map_congr_left ih)

theorem momentsBack_eq_iff (h : Times P v) : momentsBack v = v ↔ Times Moment.Kept v := by
  induction h with
  | null => exact iff_of_true rfl .null
  | @moment m _ =>
      rw [momentsBack, Value.moment.injEq, Moment.readBack_eq_iff]
      exact ⟨.moment, fun | .moment h => h⟩
  | @list items _ ih =>
      rw [momentsBack, Value.list.injEq, itemsBack_eq]
      constructor
      · intro h
        refine .list fun v hv => (ih v hv).mp ?_
        exact List.map_inj_left.mp (h.trans (List.map_id items).symm) v hv
      · rintro (_ | _ | hkept)
        calc items.map momentsBack = items.map id :=
              List.map_congr_left fun v hv => (ih v hv).mpr (hkept v hv)
          _ = items := List.map_id items

/-- Moments in lists of any depth come back from the wire as their notations are read: just as they
were if each of them is without an offset, with none, or with one of a second or more.  Each of the
others comes back at another point of universal time. -/
theorem fromWire_toWire (hasDto : Bool) {v : Value} (h : Times (fun _ => True) v) :
    fromWire hasDto true (toWire v) = momentsBack v ∧
      (fromWire hasDto true (toWire v) = v ↔ Times Moment.Kept v) ∧
      ∀ m : Moment, m.readBack.same m = true ↔ m.Kept := by
  rw [fromWire_toWire_eq hasDto h]
  exact ⟨rfl, momentsBack_eq_iff h, Moment.same_readBack_iff⟩

/-- The first of May 2024, with an offset. -/
def firstOfMay (offset : Option Int) (h : Time.isOffset offset = true) : Moment :=
  ⟨⟨2024, 5, 1, by decide⟩, 23, 59, 0, 7, offset, by decide, h⟩

/-- A list of moments of which one, in a list of its own, has an offset of a microsecond. -/
def nestedMoments : Value :=
  .list [.null, .moment (firstOfMay none rfl), .list [.moment (firstOfMay (some 1) rfl)],
    .moment (firstOfMay (some (-5400000001)) rfl)]

theorem nestedMoments_back :
    fromWire false true (toWire nestedMoments) =
        .list [.null, .moment (firstOfMay none rfl), .list [.moment (firstOfMay (some 0) rfl)],
          .moment (firstOfMay (some (-5400000001)) rfl)] ∧
      fromWire false true (toWire nestedMoments) ≠ nestedMoments ∧
      (firstOfMay (some 0) rfl).same (firstOfMay (some 1) rfl) = false := by
  have htimes : Times (fun _ => True) nestedMoments := by
    refine .list ?_
    simp only [List.forall_mem_cons, List.not_mem_nil, false_implies, implies_true, and_true]
    refine ⟨.null, .moment trivial, .list ?_, .moment trivial⟩
    exact List.forall_mem_singleton.mpr (.moment trivial)
  have hlost : ¬ (firstOfMay (some 1) rfl).Kept := fun h => absurd (h 1 rfl) (by decide)
  obtain ⟨hback, hkept, hsame⟩ := fromWire_toWire false htimes
  refine ⟨hback, fun heq => ?_, Bool.eq_false_iff.mpr fun h => hlost ((hsame _).mp h)⟩
  obtain _ | _ | hitems := hkept.mp heq
  obtain _ | _ | hinner := hitems (.list [.moment (firstOfMay (some 1) rfl)]) (by simp)
  obtain _ | h := hinner _ List.mem_cons_self
  exact hlost h

end Support

end Typewright

/-
# Bounds of rationals

A bound from a side is a half line of rationals.  Of several half lines that point the same way one
lies in all the others (`exists_strongest`), so bounds from both sides leave a rational as long as no
two of them exclude each other (`exists_all_iff`).  This is why the bounds of a schema can be compared
two by two, and why the search may stop at the first two that exclude each other
(`emptyBounds_spec`).
-/
import Typewright.Proofs.Schema.Fault
import Mathlib.Algebra.Order.Field.Rat
import Mathlib.Algebra.Order.Field.Basic
import Mathlib.Tactic.Linarith

namespace Typewright

/-! ## Half lines -/

/-- A rational lies on the inner side of a bound. -/
def Within (side : Side) (edge : Edge) (q x : Rat) : Prop :=
  match side, edge with
  | .lower, .inclusive => q ≤ x
  | .lower, .exclusive => q < x
  | .upper, .inclusive => x ≤ q
  | .upper, .exclusive => x < q

section Within

variable {side : Side} {edge e f : Edge} {q r x : Rat}

theorem exists_within (side : Side) (edge : Edge) (q : Rat) : ∃ x, Within side edge q x := by
  cases side with
  | lower => exact ⟨q + 1, by cases edge <;> simp [Within, le_of_lt]⟩
  | upper => exact ⟨q - 1, by cases edge <;> simp [Within, le_of_lt]⟩

/-- Of two half lines that point the same way, one lies in the other. -/
theorem within_total (side : Side) (e f : Edge) (q r : Rat) :
    (∀ x, Within side e q x → Within side f r x) ∨ ∀ x, Within side f r x → Within side e q x := by
  -- where both start at one rational, the open half line lies in the closed one
  rcases lt_trichotomy q r with h | rfl | h
  · cases side with
    | lower => right; cases e <;> cases f <;> simp only [Within] <;> intros <;> linarith
    | upper => left; cases e <;> cases f <;> simp only [Within] <;> intros <;> linarith
  · cases e with
    | exclusive => left; cases side <;> cases f <;> simp only [Within] <;> intros <;> linarith
    | inclusive => right; cases side <;> cases f <;> simp only [Within] <;> intros <;> linarith
  · cases side with
    | lower => left; cases e <;> cases f <;> simp only [Within] <;> intros <;> linarith
    | upper => right; cases e <;> cases f <;> simp only [Within] <;> intros <;> linarith

/-- Half lines that point to each other meet unless they are apart, or touch where one is open. -/
theorem meet_iff : (∃ x, Within .lower e q x ∧ Within .upper f r x) ↔
    ¬ (r < q ∨ q = r ∧ (e = .exclusive ∨ f = .exclusive)) := by
  constructor
  · rintro ⟨x, hlow, hhigh⟩ (h | ⟨rfl, rfl | rfl⟩)
    · cases e <;> cases f <;> simp only [Within] at hlow hhigh <;> linarith
    · cases f <;> simp only [Within] at hlow hhigh <;> linarith
    · cases e <;> simp only [Within] at hlow hhigh <;> linarith
  · intro h
    rw [not_or, not_lt, not_and_or, not_or] at h
    obtain ⟨hle, hne | ⟨he, hf⟩⟩ := h
    · obtain ⟨x, hqx, hxr⟩ := exists_between (lt_of_le_of_ne hle hne)
      exact ⟨x, by cases e <;> simp [Within, hqx, hqx.le], by cases f <;> simp [Within, hxr, hxr.le]⟩
    · cases e with
      | exclusive => exact absurd rfl he
      | inclusive =>
          cases f with
          | exclusive => exact absurd rfl hf
          | inclusive => exact ⟨q, le_refl q, hle⟩

end Within

/-! ## Numbers as bounds -/

namespace Number

/-- A number denotes a rational. -/
def IsRational (n : Number) : Prop := ∃ q, n.place = .at q

/-- Numbers that denote a rational have an order. -/
theorem IsRational.ordered {n : Number} (h : n.IsRational) : n.unordered = false := by
  obtain ⟨q, hq⟩ := h
  cases n with
  | decimal d =>
      cases d with
      | nan => exact nomatch hq
      | _ => rfl
  | _ => rfl

end Number

/-- A rational satisfies a bound from a side: it lies within the rational that the bound denotes. -/
def Satisfies (side : Side) (b : Number × Edge) (x : Rat) : Prop :=
  ∃ q, b.1.place = .at q ∧ Within side b.2 q x

/-- Two bounds leave no rational between them. -/
def Apart (low high : Number × Edge) : Prop :=
  ¬ ∃ x, Satisfies .lower low x ∧ Satisfies .upper high x

section Satisfies

variable {side : Side} {b c low high : Number × Edge} {bs lows highs : List (Number × Edge)}

theorem satisfies_of_place {q x : Rat} (h : b.1.place = .at q) :
    Satisfies side b x ↔ Within side b.2 q x := by
  constructor
  · rintro ⟨r, hr, hwithin⟩
    cases h.symm.trans hr
    exact hwithin
  · exact fun hwithin => ⟨q, h, hwithin⟩

theorem satisfies_total (side : Side) (hb : b.1.IsRational) (hc : c.1.IsRational) :
    (∀ x, Satisfies side b x → Satisfies side c x) ∨
      ∀ x, Satisfies side c x → Satisfies side b x := by
  obtain ⟨q, hq⟩ := hb
  obtain ⟨r, hr⟩ := hc
  simp only [satisfies_of_place hq, satisfies_of_place hr]
  exact within_total side b.2 c.2 q r

/-- One of several bounds from a side is the strongest. -/
theorem exists_strongest (side : Side) :
    ∀ {bs : List (Number × Edge)}, (∀ b ∈ bs, b.1.IsRational) → bs ≠ [] →
      ∃ b ∈ bs, ∀ x, Satisfies side b x → ∀ c ∈ bs, Satisfies side c x
  | [], _, hne => absurd rfl hne
  | [b], _, _ => ⟨b, List.mem_cons_self, fun _ hx _ hc => List.mem_singleton.mp hc ▸ hx⟩
  | b :: b' :: r, h, _ => by
      -- the strongest of the others is compared with the first one
      obtain ⟨hb, hr⟩ := List.forall_mem_cons.mp h
      obtain ⟨c, hc, hstrong⟩ := exists_strongest side hr (List.cons_ne_nil b' r)
      rcases satisfies_total side hb (hr c hc) with hbc | hcb
      · exact ⟨b, List.mem_cons_self, fun x hx =>
          List.forall_mem_cons.mpr ⟨hx, hstrong x (hbc x hx)⟩⟩
      · exact ⟨c, List.mem_cons_of_mem b hc, fun x hx =>
          List.forall_mem_cons.mpr ⟨hcb x hx, hstrong x hx⟩⟩

/-- Bounds from one side alone leave a rational. -/
theorem exists_all (side : Side) (h : ∀ b ∈ bs, b.1.IsRational) : ∃ x, ∀ b ∈ bs, Satisfies side b x := by
  by_cases hne : bs = []
  · subst hne
    exact ⟨0, fun _ hb => absurd hb List.not_mem_nil⟩
  · obtain ⟨b, hb, hstrong⟩ := exists_strongest side h hne
    obtain ⟨q, hq⟩ := h b hb
    obtain ⟨x, hx⟩ := exists_within side b.2 q
    exact ⟨x, hstrong x ⟨q, hq, hx⟩⟩

/-- Bounds from both sides leave a rational exactly if no two of them exclude each other. -/
theorem exists_all_iff (hlows : ∀ b ∈ lows, b.1.IsRational) (hhighs : ∀ b ∈ highs, b.1.IsRational) :
    (∃ x, (∀ b ∈ lows, Satisfies .lower b x) ∧ ∀ b ∈ highs, Satisfies .upper b x) ↔
      ∀ low ∈ lows, ∀ high ∈ highs, ¬ Apart low high := by
  constructor
  · rintro ⟨x, hlow, hhigh⟩ low hl high hh hapart
    exact hapart ⟨x, hlow low hl, hhigh high hh⟩
  · intro h
    by_cases hnelows : lows = []
    · subst hnelows
      obtain ⟨x, hx⟩ := exists_all .upper hhighs
      exact ⟨x, fun _ hb => absurd hb List.not_mem_nil, hx⟩
    · by_cases hnehighs : highs = []
      · subst hnehighs
        obtain ⟨x, hx⟩ := exists_all .lower hlows
        exact ⟨x, hx, fun _ hb => absurd hb List.not_mem_nil⟩
      · obtain ⟨low, hlow, hstronglow⟩ := exists_strongest .lower hlows hnelows
        obtain ⟨high, hhigh, hstronghigh⟩ := exists_strongest .upper hhighs hnehighs
        obtain ⟨x, hxlow, hxhigh⟩ := not_not.mp (h low hlow high hhigh)
        exact ⟨x, hstronglow x hxlow, hstronghigh x hxhigh⟩

end Satisfies

/-! ## The search for bounds that exclude each other -/

namespace Schema

variable {low high : Number × Edge} {pairs : List ((Number × Edge) × (Number × Edge))}

/-- The comparison of two bounds decides whether they are apart. -/
theorem excludes_spec (hlow : low.1.IsRational) (hhigh : high.1.IsRational) :
    ∃ apart, excludes low high = .ok apart ∧ (apart = true ↔ Apart low high) := by
  have hordered : (low.1.unordered || high.1.unordered) = false := by
    rw [hlow.ordered, hhigh.ordered, Bool.or_self]
  obtain ⟨q, hq⟩ := hlow
  obtain ⟨r, hr⟩ := hhigh
  refine ⟨_, by rw [excludes, hordered]; rfl, ?_⟩
  have hmeet : (∃ x, Satisfies .lower low x ∧ Satisfies .upper high x) ↔
      ∃ x, Within .lower low.2 q x ∧ Within .upper high.2 r x :=
    exists_congr fun x => and_congr (satisfies_of_place hq) (satisfies_of_place hr)
  rw [Apart, hmeet, meet_iff, not_not]
  simp only [Number.lt, Number.same, hq, hr, Number.Place.lt, Number.Place.same, Bool.or_eq_true,
    Bool.and_eq_true, decide_eq_true_eq, beq_iff_eq]

/-- The first two of some bounds that exclude each other. -/
def FirstApart (pairs : List ((Number × Edge) × (Number × Edge))) (low high : Number × Edge) : Prop :=
  ∃ before after, pairs = before ++ (low, high) :: after ∧ (∀ p ∈ before, ¬ Apart p.1 p.2) ∧
    Apart low high

theorem FirstApart.mem (h : FirstApart pairs low high) : (low, high) ∈ pairs ∧ Apart low high := by
  obtain ⟨before, after, rfl, -, hapart⟩ := h
  exact ⟨List.mem_append_right before List.mem_cons_self, hapart⟩

/-- The search finds the first two bounds that exclude each other, and nothing if there are none. -/
theorem emptyBounds_spec (h : ∀ p ∈ pairs, p.1.1.IsRational ∧ p.2.1.IsRational) :
    (emptyBounds? pairs = .ok none ∧ ∀ p ∈ pairs, ¬ Apart p.1 p.2) ∨
      ∃ low high, emptyBounds? pairs = .ok (some (low.1, high.1)) ∧ FirstApart pairs low high := by
  induction pairs with
  | nil => exact .inl ⟨rfl, fun _ hp => absurd hp List.not_mem_nil⟩
  | cons p r ih =>
      obtain ⟨hp, hr⟩ := List.forall_mem_cons.mp h
      obtain ⟨apart, hexcludes, hapart⟩ := excludes_spec hp.1 hp.2
      have hcons : emptyBounds? (p :: r) =
          if apart then .ok (some (p.1.1, p.2.1)) else emptyBounds? r := by
        rw [emptyBounds?, hexcludes]
        rfl
      cases apart with
      | true =>
          refine .inr ⟨p.1, p.2, hcons, [], r, rfl, fun _ hp => ?_, hapart.mp rfl⟩
          exact absurd hp List.not_mem_nil
      | false =>
          have hmeet : ¬ Apart p.1 p.2 := fun hp =>
            absurd (hapart.mpr hp) Bool.false_ne_true
          rcases ih hr with ⟨hnone, hall⟩ | ⟨low, high, hsome, before, after, heq, hbefore, hlast⟩
          · exact .inl ⟨hcons.trans hnone, List.forall_mem_cons.mpr ⟨hmeet, hall⟩⟩
          · refine .inr ⟨low, high, hcons.trans hsome, p :: before, after, by rw [heq]; rfl, ?_, hlast⟩
            exact List.forall_mem_cons.mpr ⟨hmeet, hbefore⟩

end Schema

end Typewright

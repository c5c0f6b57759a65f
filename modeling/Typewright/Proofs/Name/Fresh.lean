/-
# Fresh names are free, and no spelling is empty

`fresh` looks for the least number that makes a name free, with as many tries as there are names
taken and one more.  That this is enough is a pigeonhole: the numbered names differ from each other
(`numbered_injective`), so they cannot all be among fewer names that are taken.  Since the number is
the least one, taking other names as well changes nothing (`fresh_eq_of_subset`).

The second half is what an inline type needs besides: a name that is not empty.  A Pascal case
spelling is empty only where the name is, and a number does not shorten a name.
-/
import Typewright.Name.Case
import Typewright.Name.Unique

namespace Typewright.Name

/-! ## Numbered names -/

theorem numbered_injective (name : String) : Function.Injective (numbered name) := by
  intro m n h
  have hdigits : Nat.toDigits 10 m = Nat.toDigits 10 n := by
    have := congrArg String.toList h
    simpa [numbered, Nat.toList_repr] using this
  rw [← Nat.ofDigitChars_ten_toDigits (n := m), hdigits, Nat.ofDigitChars_ten_toDigits]

/-- A number makes a name longer. -/
theorem length_lt_length_numbered (name : String) (n : Nat) : name.length < (numbered name n).length := by
  have hpos : 0 < (Nat.repr n).length := Nat.length_repr_pos
  rw [numbered, String.length_append]
  omega

theorem numbered_ne_empty (name : String) (n : Nat) : numbered name n ≠ "" := by
  intro h
  have hlen := length_lt_length_numbered name n
  rw [h] at hlen
  exact Nat.not_lt_zero _ hlen

/-- A pigeonhole: numbered names that are taken are not more than all names taken. -/
theorem le_length_of_numbered_mem {taken : List String} {name : String} {n m : Nat}
    (h : ∀ i < m, numbered name (n + i) ∈ taken) : m ≤ taken.length := by
  have hsub : (List.range m).map (fun i => numbered name (n + i)) ⊆ taken := by
    intro x hx
    obtain ⟨i, hi, rfl⟩ := List.mem_map.mp hx
    exact h i (List.mem_range.mp hi)
  have hnodup : ((List.range m).map (fun i => numbered name (n + i))).Nodup := by
    refine List.Pairwise.map _ ?_ List.nodup_range
    intro i j hij h
    have := numbered_injective name h
    omega
  have hlen := hnodup.length_le_of_subset hsub
  rwa [List.length_map, List.length_range] at hlen

/-! ## The search for a free number -/

/-- The search ends at the least number that is free. -/
theorem firstFree_least {taken : List String} {name : String} :
    ∀ (tries n : Nat), (∃ i < tries, numbered name (n + i) ∉ taken) →
      ∃ i, firstFree taken name tries n = numbered name (n + i) ∧
        numbered name (n + i) ∉ taken ∧ ∀ j < i, numbered name (n + j) ∈ taken
  | 0, _, ⟨_, hi, _⟩ => absurd hi (Nat.not_lt_zero _)
  | tries + 1, n, ⟨i, hi, hfree⟩ => by
      rw [firstFree]
      split
      · rename_i htaken
        have htaken := List.contains_iff_mem.mp htaken
        match i, hi, hfree with
        | 0, _, hfree => exact absurd htaken hfree
        | i + 1, hi, hfree =>
            have hnext : ∀ j, n + 1 + j = n + (j + 1) := fun j => by omega
            obtain ⟨k, heq, hk, hleast⟩ := firstFree_least tries (n + 1)
              ⟨i, Nat.lt_of_succ_lt_succ hi, by rwa [hnext]⟩
            refine ⟨k + 1, by rw [heq, hnext], by rwa [← hnext], fun j hj => ?_⟩
            match j with
            | 0 => exact htaken
            | j + 1 => exact hnext j ▸ hleast j (by omega)
      · rename_i hfree
        exact ⟨0, rfl, fun h => hfree (List.contains_iff_mem.mpr h),
          fun j hj => absurd hj (Nat.not_lt_zero j)⟩

/-- Among one more number than there are names taken, one is free. -/
theorem exists_free (taken : List String) (name : String) (n : Nat) :
    ∃ i < taken.length + 1, numbered name (n + i) ∉ taken := by
  false_or_by_contra
  rename_i hnone
  have hall : ∀ i < taken.length + 1, numbered name (n + i) ∈ taken := by
    intro i hi
    false_or_by_contra
    rename_i hfree
    exact hnone ⟨i, hi, hfree⟩
  exact Nat.not_succ_le_self _ (le_length_of_numbered_mem hall)

/-- What makes a name that is taken free: the least number that does so. -/
theorem fresh_least {taken : List String} {name : String} (h : name ∈ taken) :
    ∃ i, fresh taken name = numbered name (2 + i) ∧ numbered name (2 + i) ∉ taken ∧
      ∀ j < i, numbered name (2 + j) ∈ taken := by
  unfold fresh
  rw [if_pos (List.contains_iff_mem.mpr h)]
  exact firstFree_least _ _ (exists_free taken name 2)

/-- A name that is not taken is given as it is, any other with a number. -/
theorem fresh_eq_self {taken : List String} {name : String} (h : name ∉ taken) :
    fresh taken name = name := by
  unfold fresh
  exact if_neg fun hc => h (List.contains_iff_mem.mp hc)

theorem fresh_not_mem (taken : List String) (name : String) : fresh taken name ∉ taken := by
  by_cases hname : name ∈ taken
  · obtain ⟨i, heq, hfree, -⟩ := fresh_least hname
    exact heq ▸ hfree
  · rwa [fresh_eq_self hname]

/-- A name is given as it is just if it is free. -/
theorem fresh_eq_self_iff {taken : List String} {name : String} :
    fresh taken name = name ↔ name ∉ taken :=
  ⟨fun h => h ▸ fresh_not_mem taken name, fresh_eq_self⟩

/-- With more names taken, a name is given as before if what was given is still free. -/
theorem fresh_eq_of_subset {taken taken' : List String} {name : String} (hsub : taken' ⊆ taken)
    (hfree : fresh taken' name ∉ taken) : fresh taken name = fresh taken' name := by
  by_cases hname : name ∈ taken'
  · obtain ⟨i, heq, hi, hleast⟩ := fresh_least (hsub hname)
    obtain ⟨i', heq', -, hleast'⟩ := fresh_least hname
    rw [heq'] at hfree
    have hle : ¬i' < i := fun hlt => hfree (hleast i' hlt)
    have hge : ¬i < i' := fun hlt => hi (hsub (hleast' i hlt))
    rw [heq, heq', show i = i' by omega]
  · rw [fresh_eq_self hname] at hfree ⊢
    exact fresh_eq_self hfree

theorem firstFree_ne_empty {taken : List String} {name : String} (h : name ≠ "") :
    ∀ tries n : Nat, firstFree taken name tries n ≠ ""
  | 0, _ => h
  | tries + 1, n => by
      rw [firstFree]
      split
      · exact firstFree_ne_empty h tries (n + 1)
      · exact numbered_ne_empty name n

theorem fresh_ne_empty (taken : List String) {name : String} (h : name ≠ "") :
    fresh taken name ≠ "" := by
  unfold fresh
  split
  · exact firstFree_ne_empty h _ _
  · exact h

theorem firstFree_eq_or (taken : List String) (name : String) :
    ∀ tries n : Nat, firstFree taken name tries n = name ∨
      ∃ k, firstFree taken name tries n = numbered name k
  | 0, _ => .inl rfl
  | tries + 1, n => by
      rw [firstFree]
      split
      · exact firstFree_eq_or taken name tries (n + 1)
      · exact .inr ⟨n, rfl⟩

theorem fresh_eq_or (taken : List String) (name : String) :
    fresh taken name = name ∨ ∃ k, fresh taken name = numbered name k := by
  unfold fresh
  split
  · exact firstFree_eq_or taken name _ _
  · exact .inl rfl

/-! ## One name after the other -/

section All

variable {taken names : List String}

theorem length_freshAll : ∀ taken names : List String,
    (freshAll taken names).length = names.length
  | _, [] => rfl
  | taken, n :: r => congrArg (· + 1) (length_freshAll (fresh taken n :: taken) r)

theorem freshAll_append (taken names more : List String) :
    freshAll taken (names ++ more) =
      freshAll taken names ++ freshAll ((freshAll taken names).reverse ++ taken) more := by
  induction names generalizing taken with
  | nil => rfl
  | cons n names ih => simp [freshAll, ih]

/-- The names that are given differ from each other and from all that were taken. -/
theorem freshAll_apart (taken names : List String) :
    (freshAll taken names).Nodup ∧ ∀ n ∈ freshAll taken names, n ∉ taken := by
  induction names generalizing taken with
  | nil => exact ⟨List.nodup_nil, fun _ hn => absurd hn List.not_mem_nil⟩
  | cons n r ih =>
      obtain ⟨hnodup, hfree⟩ := ih (fresh taken n :: taken)
      constructor
      · exact List.nodup_cons.mpr ⟨fun h => hfree _ h List.mem_cons_self, hnodup⟩
      · intro x hx
        rcases List.mem_cons.mp hx with rfl | hx
        · exact fresh_not_mem taken n
        · exact fun h => hfree x hx (List.mem_cons_of_mem _ h)

/-- Each name that is given is one of the names, or a number makes it of one. -/
theorem mem_freshAll {n : String} (h : n ∈ freshAll taken names) :
    ∃ b ∈ names, n = b ∨ ∃ k, n = numbered b k := by
  induction names generalizing taken with
  | nil => exact absurd h List.not_mem_nil
  | cons b r ih =>
      rcases List.mem_cons.mp h with rfl | h
      · exact ⟨b, List.mem_cons_self, fresh_eq_or taken b⟩
      · obtain ⟨b', hb', hn⟩ := ih h
        exact ⟨b', List.mem_cons_of_mem b hb', hn⟩

/-- A name that is free is given. -/
theorem mem_freshAll_of_mem {n : String} (h : n ∈ names) (hfree : n ∉ taken) :
    n ∈ freshAll taken names := by
  induction names generalizing taken with
  | nil => exact absurd h List.not_mem_nil
  | cons b r ih =>
      rw [freshAll]
      by_cases hgiven : n = fresh taken b
      · exact hgiven ▸ List.mem_cons_self
      · have hrest : n ∈ r := by
          refine (List.mem_cons.mp h).resolve_left ?_
          rintro rfl
          exact hgiven (fresh_eq_self hfree).symm
        refine List.mem_cons_of_mem _ (ih hrest ?_)
        exact List.not_mem_cons_of_ne_of_not_mem hgiven hfree

/-- Names that are apart already are given as they are. -/
theorem freshAll_eq_self (hnodup : names.Nodup) (hfree : ∀ n ∈ names, n ∉ taken) :
    freshAll taken names = names := by
  induction names generalizing taken with
  | nil => rfl
  | cons n r ih =>
      obtain ⟨hn, hr⟩ := List.nodup_cons.mp hnodup
      have hfresh : fresh taken n = n := fresh_eq_self (hfree n List.mem_cons_self)
      rw [freshAll, hfresh, ih hr]
      intro x hx hmem
      rcases List.mem_cons.mp hmem with rfl | hmem
      · exact hn hx
      · exact hfree x (List.mem_cons_of_mem n hx) hmem

end All

/-! ## Spellings that are not empty -/

theorem ne_nil_of_mem_stretches {p : Char → Bool} {s w : List Char}
    (h : w ∈ Text.stretches p s) : w ≠ [] := by
  fun_induction Text.stretches p s <;> grind

theorem capitalize_ne_nil {w : List Char} (h : w ≠ []) : capitalize w ≠ [] := by
  unfold capitalize
  split
  · exact h
  · split
    · exact absurd rfl h
    · exact List.cons_ne_nil _ _

theorem guardDigit_ne_nil {s : List Char} (h : s ≠ []) : guardDigit s ≠ [] := by
  unfold guardDigit
  split
  · exact absurd rfl h
  · split <;> exact List.cons_ne_nil _ _

theorem pascalChars_ne_nil {s : List Char} (h : s ≠ []) : pascalChars s ≠ [] := by
  unfold pascalChars
  split
  · exact h
  · rename_i ws hws
    match hw : wordChars s with
    | [] => exact absurd hw hws
    | w :: ws' =>
        apply guardDigit_ne_nil
        have hne : w ≠ [] := ne_nil_of_mem_stretches (hw ▸ List.mem_cons_self)
        simp only [List.flatMap_cons]
        exact fun h => capitalize_ne_nil hne (List.append_eq_nil_iff.mp h).1

theorem pascal_ne_empty {s : String} (h : s ≠ "") : pascal s ≠ "" := by
  have hs : s.toList ≠ [] := fun h' => h (by simpa using h')
  intro hp
  exact pascalChars_ne_nil hs (by simpa [pascal] using hp)

end Typewright.Name

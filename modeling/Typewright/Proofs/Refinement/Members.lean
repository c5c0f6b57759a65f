/-
# When refining for C# is settled

A field that is spelled like a member of generated types gets an underscore at its end, and a field
whose name is taken gets a number.  The two do not go together: `Value_` is settled, but `Value_2`
is spelled `Value2` when it is refined again.  So it matters how many fields of a model are spelled
like one member.  With at most one for each member nothing is numbered behind an underscore, and
refining is settled; with two the second one is renamed by the next round
(`freshAll_fieldName_iff`).

The next round is the last one that renames anything, since the fields that it gets have different
names, and at most one of them is spelled like each member (`membersApart_freshAll`).
-/
import Typewright.Proofs.Refinement.Idempotent

namespace Typewright

namespace Language

open Name (numbered pascal IsPascal IsPascalWord)

/-! ## Members -/

variable {n r : String}

/-- A name is spelled like a member of generated types. -/
def Clashes (n : String) : Prop := pascal n ∈ csharp.members

/-- Members are Pascal case words that start with a letter. -/
theorem members_spec : ∀ r ∈ csharp.members,
    r.toList.all Text.isWordChar = true ∧ r.toList.head?.any Text.isAsciiUpper = true := by
  decide

theorem keywords_head : ∀ r ∈ csharp.keywords, r.toList.head?.any Text.isAsciiLower = true := by
  decide

theorem isPascalWord_of_member (h : r ∈ csharp.members) : IsPascalWord r.toList := by
  obtain ⟨hall, hhead⟩ := members_spec r h
  cases hr : r.toList with
  | nil =>
      rw [hr] at hhead
      exact nomatch hhead
  | cons c w =>
      rw [hr] at hall hhead
      refine ⟨fun hlower => ?_, List.all_eq_true.mp hall⟩
      have hupper : Text.isAsciiUpper c = true := hhead
      rw [Text.isAsciiUpper_iff] at hupper
      rw [Text.isAsciiLower_iff] at hlower
      omega

theorem guardDigit_of_member (h : r ∈ csharp.members) (w : List Char) :
    Name.guardDigit (r.toList ++ w) = r.toList ++ w := by
  obtain ⟨-, hhead⟩ := members_spec r h
  cases hr : r.toList with
  | nil =>
      rw [hr] at hhead
      exact nomatch hhead
  | cons c s =>
      rw [hr] at hhead
      have hupper : Text.isAsciiUpper c = true := hhead
      refine if_neg fun hdigit => ?_
      rw [Text.isAsciiUpper_iff] at hupper
      rw [Text.isAsciiDigit_iff] at hdigit
      omega

/-- A spelling in Pascal case is no keyword, as keywords start with a small letter. -/
theorem not_keyword (h : IsPascal n.toList) : n ∉ csharp.keywords := by
  intro hmem
  obtain ⟨c, r, heq, -, hlower⟩ := h.head
  have hhead := keywords_head n hmem
  rw [heq] at hhead
  exact hlower hhead

theorem wordChars_ne_nil_of_reserved (h : n ∈ csharp.reservedFields) :
    Name.wordChars n.toList ≠ [] := by
  obtain ⟨c, hc, hword⟩ := List.any_eq_true.mp (reservedFields_spec _ n h).1
  exact Text.stretches_ne_nil hc hword

theorem member_reserved (h : r ∈ csharp.members) : r ∈ csharp.reservedFields :=
  List.mem_append_right _ h

theorem wordChars_append_underscore (h : r ∈ csharp.members) :
    Name.wordChars (r ++ "_").toList ≠ [] := by
  have happend := Text.stretches_append_of_neg r.toList Name.not_isWordChar_underscore
  intro hnil
  exact wordChars_ne_nil_of_reserved (member_reserved h)
    (by simpa [Name.wordChars, happend] using hnil)

/-! ## Names of fields -/

theorem pascal_of_wordless (h : Name.wordChars n.toList = []) : pascal n = n := by
  rw [pascal, Name.pascalChars_of_wordless h, String.ofList_toList]

theorem isPascal_pascal (h : Name.wordChars n.toList ≠ []) : IsPascal (pascal n).toList := by
  rw [pascal, String.toList_ofList]
  exact Name.isPascal_pascalChars h

theorem pascal_eq_self (h : IsPascal n.toList) : pascal n = n := by
  rw [pascal, Name.pascalChars_eq_self h, String.ofList_toList]

/-- Only names that are spelled like a member get an underscore. -/
theorem csharp_fieldName (n : String) :
    csharp.style.fieldName n =
      if pascal n ∈ csharp.members then pascal n ++ "_" else pascal n := by
  show Style.avoid csharp.reservedFields (pascal n) = _
  split
  · rename_i h
    exact Style.avoid_of_mem (member_reserved h)
  · rename_i h
    refine Style.avoid_of_not_mem fun hmem => ?_
    by_cases hword : Name.wordChars n.toList = []
    · rw [pascal_of_wordless hword] at hmem
      exact wordChars_ne_nil_of_reserved hmem hword
    · exact (List.mem_append.mp hmem).elim (not_keyword (isPascal_pascal hword)) h

theorem csharp_fieldName_of_clashes (h : Clashes n) : csharp.style.fieldName n = pascal n ++ "_" :=
  (csharp_fieldName n).trans (if_pos h)

theorem csharp_fieldName_of_not_clashes (h : ¬Clashes n) : csharp.style.fieldName n = pascal n :=
  (csharp_fieldName n).trans (if_neg h)

theorem csharp_fieldName_fieldName (n : String) :
    csharp.style.fieldName (csharp.style.fieldName n) = csharp.style.fieldName n :=
  Style.avoid_avoid Name.pascal_pascal (fun _ hmem heq =>
    (Name.pascal_append_underscore (wordChars_ne_nil_of_reserved hmem)).trans heq) n

/-- A name that is not spelled like a member gets a settled name, whatever is taken, and no such
name as a member gets. -/
theorem fieldName_fresh (h : ¬Clashes n) {taken : List String}
    (hfree : Name.wordChars n.toList = [] → n ∉ taken) :
    ∃ m, Name.fresh taken (csharp.style.fieldName n) = m ∧ csharp.style.fieldName m = m ∧
      (∀ r ∈ csharp.members, m ≠ r ++ "_") ∧ (Name.wordChars m.toList = [] → m = n) := by
  refine ⟨_, rfl, ?_⟩
  rw [csharp_fieldName_of_not_clashes h]
  by_cases hword : Name.wordChars n.toList = []
  · rw [pascal_of_wordless hword, Name.fresh_eq_self (hfree hword)]
    refine ⟨?_, fun r hr heq => ?_, fun _ => rfl⟩
    · rw [csharp_fieldName_of_not_clashes h, pascal_of_wordless hword]
    · rw [heq] at hword
      exact wordChars_append_underscore hr hword
  · have hpascal := isPascal_pascal hword
    have hfresh : IsPascal (Name.fresh taken (pascal n)).toList ∧
        ¬Clashes (Name.fresh taken (pascal n)) := by
      rcases Name.fresh_eq_or taken (pascal n) with heq | ⟨k, heq⟩ <;> rw [heq]
      · refine ⟨hpascal, ?_⟩
        rwa [Clashes, Name.pascal_pascal]
      · have hnumbered : IsPascal (numbered (pascal n) k).toList := by
          rw [Name.toList_numbered]
          exact hpascal.append fun d hd => ((Name.isSnakeWord_toDigits k).2 d hd).1
        refine ⟨hnumbered, fun hclash => ?_⟩
        rw [Clashes, pascal_eq_self hnumbered] at hclash
        exact numbered_not_reserved csharp _ k (member_reserved hclash)
    obtain ⟨hm, hclash⟩ := hfresh
    refine ⟨?_, fun r _ heq => ?_, fun hnil => ?_⟩
    · rw [csharp_fieldName_of_not_clashes hclash, pascal_eq_self hm]
    · refine hm.ne_append_underscore r.toList ?_
      rw [heq, String.toList_append]
      rfl
    · obtain ⟨w, -, -, hwords⟩ := hm.wordChars
      rw [hwords] at hnil
      exact nomatch hnil

theorem wordChars_numbered (h : r ∈ csharp.members) (k : Nat) :
    Name.wordChars (numbered (r ++ "_") k).toList = [r.toList, Nat.toDigits 10 k] := by
  have hr := isPascalWord_of_member h
  have hdigits := Name.isSnakeWord_toDigits k
  have hne : r.toList ≠ [] := fun hnil => by
    rw [hnil] at hr
    exact hr
  have hlist : (numbered (r ++ "_") k).toList = r.toList ++ '_' :: Nat.toDigits 10 k := by
    rw [Name.toList_numbered]
    simp
  rw [hlist, Name.wordChars, Text.stretches_append_neg hne hr.all Name.not_isWordChar_underscore,
    Text.stretches_of_all hdigits.1 fun d hd => (hdigits.2 d hd).1]

/-- A number behind an underscore is joined to the member when the name is spelled again. -/
theorem pascal_numbered (h : r ∈ csharp.members) (k : Nat) :
    pascal (numbered (r ++ "_") k) = numbered r k := by
  have hdigits := Name.isSnakeWord_toDigits k
  have hk : IsPascalWord (Nat.toDigits 10 k) := by
    cases hdig : Nat.toDigits 10 k with
    | nil => exact absurd hdig hdigits.1
    | cons c w =>
        have hmem : c ∈ Nat.toDigits 10 k := hdig ▸ List.mem_cons_self
        refine ⟨fun hlower => ?_, fun d hd => (hdigits.2 d (hdig ▸ hd)).1⟩
        have hdigit := Name.isAsciiDigit_of_mem_toDigits hmem
        rw [Text.isAsciiDigit_iff] at hdigit
        rw [Text.isAsciiLower_iff] at hlower
        omega
  have hchars : Name.pascalChars (numbered (r ++ "_") k).toList = (numbered r k).toList := by
    unfold Name.pascalChars
    rw [wordChars_numbered h]
    simp only [List.flatMap_cons, List.flatMap_nil, List.append_nil,
      Name.capitalize_eq_self (isPascalWord_of_member h), Name.capitalize_eq_self hk,
      guardDigit_of_member h, Name.toList_numbered]
  rw [pascal, hchars, String.ofList_toList]

theorem not_clashes_numbered (h : r ∈ csharp.members) (k : Nat) :
    ¬Clashes (numbered (r ++ "_") k) := by
  rw [Clashes, pascal_numbered h]
  exact fun hmem => numbered_not_reserved csharp r k (member_reserved hmem)

theorem underscore_not_mem_numbered {w : String} (hw : '_' ∉ w.toList) (k : Nat) :
    '_' ∉ (numbered w k).toList := by
  intro hmem
  rw [Name.toList_numbered] at hmem
  refine (List.mem_append.mp hmem).elim hw fun hdigit => Name.not_isWordChar_underscore ?_
  exact ((Name.isSnakeWord_toDigits k).2 _ hdigit).1

/-- A number behind an underscore is not given again. -/
theorem fresh_fieldName_numbered (h : r ∈ csharp.members) (taken : List String) (k : Nat) :
    Name.fresh taken (csharp.style.fieldName (numbered (r ++ "_") k)) ≠ numbered (r ++ "_") k := by
  have hr : '_' ∉ r.toList := fun hmem =>
    Name.not_isWordChar_underscore ((isPascalWord_of_member h).all _ hmem)
  have hfresh : '_' ∉ (Name.fresh taken (numbered r k)).toList := by
    rcases Name.fresh_eq_or taken (numbered r k) with heq | ⟨j, heq⟩ <;> rw [heq]
    · exact underscore_not_mem_numbered hr k
    · exact underscore_not_mem_numbered (underscore_not_mem_numbered hr k) j
  rw [csharp_fieldName_of_not_clashes (not_clashes_numbered h k), pascal_numbered h]
  intro heq
  rw [heq, Name.toList_numbered] at hfresh
  exact hfresh (by simp)

/-! ## The fields of a model -/

section Fields

variable {names taken : List String}

/-- At most one of the names is spelled like each member. -/
def MembersApart (names : List String) : Prop :=
  names.Pairwise fun a b => pascal a = pascal b → ¬Clashes a

theorem membersApart_cons_of_not_clashes (h : ¬Clashes n) :
    MembersApart (n :: names) ↔ MembersApart names :=
  List.pairwise_cons.trans (and_iff_right fun _ _ _ => h)

theorem membersApart_cons_of_clashes (h : Clashes n) :
    MembersApart (n :: names) ↔
      (∀ b ∈ names, Clashes b → pascal b ≠ pascal n) ∧ MembersApart names := by
  refine List.pairwise_cons.trans (and_congr_left fun _ => forall₂_congr fun b _ => ?_)
  constructor
  · exact fun hapart _ heq => hapart heq.symm h
  · intro hapart heq _
    exact hapart (show pascal b ∈ csharp.members from heq ▸ h) heq.symm

/-- A name that is spelled like a member, and for which a number is not needed, gets its underscore.
-/
theorem fresh_of_clashes (h : Clashes n) (hfree : pascal n ++ "_" ∉ taken) :
    Name.fresh taken (csharp.style.fieldName n) = pascal n ++ "_" := by
  rw [csharp_fieldName_of_clashes h, Name.fresh_eq_self hfree]

/-- A name that is spelled like a member gets a number if another one of them came before. -/
theorem fresh_of_clashes_taken (h : Clashes n) (htaken : pascal n ++ "_" ∈ taken) :
    ∃ k, Name.fresh taken (csharp.style.fieldName n) = numbered (pascal n ++ "_") k := by
  rw [csharp_fieldName_of_clashes h]
  refine (Name.fresh_eq_or taken _).resolve_left fun heq => ?_
  exact Name.fresh_not_mem taken (pascal n ++ "_") (heq.symm ▸ htaken)

/-- Names that were given are given again just if at most one of them is spelled like each member,
and none of these had to get a number.  The induction is on the names; none without a word that is
still to come is taken. -/
theorem freshAll_fieldName_iff (hnodup : names.Nodup)
    (hwordless : ∀ t ∈ taken, Name.wordChars t.toList = [] → t ∉ names) :
    Name.freshAll taken ((Name.freshAll taken (names.map csharp.style.fieldName)).map
        csharp.style.fieldName) = Name.freshAll taken (names.map csharp.style.fieldName) ↔
      MembersApart names ∧ ∀ n ∈ names, Clashes n → pascal n ++ "_" ∉ taken := by
  induction names generalizing taken with
  | nil => simp [MembersApart, Name.freshAll]
  | cons n names ih =>
      obtain ⟨hn, hnames⟩ := List.nodup_cons.mp hnodup
      have hrest : ∀ t ∈ taken, Name.wordChars t.toList = [] → t ∉ names :=
        fun t ht hword hmem => hwordless t ht hword (List.mem_cons_of_mem n hmem)
      simp only [List.map_cons, Name.freshAll]
      by_cases hclash : Clashes n
      · by_cases htaken : pascal n ++ "_" ∈ taken
        · -- the name gets a number, and then another one
          obtain ⟨k, hk⟩ := fresh_of_clashes_taken hclash htaken
          rw [hk]
          refine iff_of_false (fun heq => ?_) fun h => ?_
          · exact fresh_fieldName_numbered hclash taken k (List.cons.inj heq).1
          · exact h.2 n List.mem_cons_self hclash htaken
        · have hsettled : csharp.style.fieldName (pascal n ++ "_") = pascal n ++ "_" := by
            rw [← csharp_fieldName_of_clashes hclash, csharp_fieldName_fieldName]
          have hnext : ∀ t ∈ (pascal n ++ "_") :: taken, Name.wordChars t.toList = [] →
              t ∉ names := by
            intro t ht hword
            rcases List.mem_cons.mp ht with rfl | ht
            · exact absurd hword (wordChars_append_underscore hclash)
            · exact hrest t ht hword
          rw [fresh_of_clashes hclash htaken, hsettled, Name.fresh_eq_self htaken, List.cons.injEq,
            and_iff_right rfl, ih hnames hnext, membersApart_cons_of_clashes hclash,
            List.forall_mem_cons]
          simp only [List.mem_cons, not_or, String.append_left_inj]
          constructor
          · rintro ⟨hapart, hothers⟩
            exact ⟨⟨fun b hb hc => (hothers b hb hc).1, hapart⟩, fun _ => htaken,
              fun b hb hc => (hothers b hb hc).2⟩
          · rintro ⟨⟨hothers, hapart⟩, -, hold⟩
            exact ⟨hapart, fun b hb hc => ⟨hothers b hb hc, hold b hb hc⟩⟩
      · obtain ⟨m, hm, hsettled, hmember, hword⟩ := fieldName_fresh hclash
          (fun hnil htaken => hwordless n htaken hnil List.mem_cons_self)
        have hfree : m ∉ taken := hm ▸ Name.fresh_not_mem taken _
        have hnext : ∀ t ∈ m :: taken, Name.wordChars t.toList = [] → t ∉ names := by
          intro t ht hnil
          rcases List.mem_cons.mp ht with rfl | ht
          · exact hword hnil ▸ hn
          · exact hrest t ht hnil
        rw [hm, hsettled, Name.fresh_eq_self hfree, List.cons.injEq, and_iff_right rfl,
          ih hnames hnext]
        rw [membersApart_cons_of_not_clashes hclash, List.forall_mem_cons]
        refine and_congr_right fun _ => ⟨fun h => ⟨fun hc => absurd hc hclash, fun b hb hc => ?_⟩,
          fun h b hb hc => ?_⟩
        · exact fun hmem => h b hb hc (List.mem_cons_of_mem m hmem)
        · exact List.not_mem_cons_of_ne_of_not_mem (hmember _ hc).symm (h.2 b hb hc)

/-- A given name that is spelled like a member is the member with its underscore, and one without a
word is the name that it is given for. -/
theorem fresh_fieldName (hfree : Name.wordChars n.toList = [] → n ∉ taken) :
    ∃ m, Name.fresh taken (csharp.style.fieldName n) = m ∧ (Clashes m → m = pascal m ++ "_") ∧
      (Name.wordChars m.toList = [] → m = n) := by
  by_cases hclash : Clashes n
  · by_cases htaken : pascal n ++ "_" ∈ taken
    · obtain ⟨k, hk⟩ := fresh_of_clashes_taken hclash htaken
      refine ⟨_, hk, fun hc => absurd hc (not_clashes_numbered hclash k), fun hnil => ?_⟩
      rw [wordChars_numbered hclash] at hnil
      exact nomatch hnil
    · refine ⟨_, fresh_of_clashes hclash htaken, fun _ => ?_, fun hnil => ?_⟩
      · rw [Name.pascal_append_underscore (wordChars_ne_nil_of_reserved (member_reserved hclash)),
          Name.pascal_pascal]
      · exact absurd hnil (wordChars_append_underscore hclash)
  · obtain ⟨m, hm, hsettled, hmember, hword⟩ := fieldName_fresh hclash hfree
    refine ⟨m, hm, fun hc => ?_, hword⟩
    rw [csharp_fieldName_of_clashes hc] at hsettled
    exact absurd hsettled.symm (hmember _ hc)

/-- Names that were given leave at most one for each member. -/
theorem membersApart_freshAll (hnodup : names.Nodup) :
    MembersApart (Name.freshAll [] (names.map csharp.style.fieldName)) := by
  have hmarked : ∀ taken : List String,
      (∀ t ∈ taken, Name.wordChars t.toList = [] → t ∉ names) →
        ∀ m ∈ Name.freshAll taken (names.map csharp.style.fieldName),
          Clashes m → m = pascal m ++ "_" := by
    induction names with
    | nil => exact fun _ _ m hm => absurd hm List.not_mem_nil
    | cons n names ih =>
        intro taken hwordless m hm hclash
        obtain ⟨hn, hnames⟩ := List.nodup_cons.mp hnodup
        have hfree : Name.wordChars n.toList = [] → n ∉ taken := fun hnil htaken =>
          hwordless n htaken hnil List.mem_cons_self
        obtain ⟨x, hx, hmark, hword⟩ := fresh_fieldName hfree
        rw [List.map_cons, Name.freshAll, hx] at hm
        rcases List.mem_cons.mp hm with rfl | hm
        · exact hmark hclash
        · refine ih hnames (x :: taken) (fun t ht hnil => ?_) m hm hclash
          rcases List.mem_cons.mp ht with rfl | ht
          · exact hword hnil ▸ hn
          · exact fun hmem => hwordless t ht hnil (List.mem_cons_of_mem n hmem)
  have hnone : ∀ t ∈ ([] : List String), Name.wordChars t.toList = [] → t ∉ names :=
    fun t ht => absurd ht List.not_mem_nil
  refine (Name.freshAll_apart [] _).1.imp_of_mem fun {a b} ha hb hne heq hclash => hne ?_
  have hclash' : Clashes b := by
    rwa [Clashes, ← heq]
  rw [hmarked [] hnone a ha hclash, hmarked [] hnone b hb hclash', heq]

end Fields

end Language

namespace Refiner

open Typewright.Language

/-- Refining for C# a second time changes nothing, and is reported to rename nothing, just if at
most one field of each model is spelled like each member of generated types; refining a third time
always does so.  The fields of a model have different names. -/
theorem csharp_settled_iff (m : Metadata) (hm : ∀ x ∈ m.models, (x.fields.map (·.name)).Nodup) :
    let r : Refiner := [Language.csharp.style]
    let apart := ∀ x ∈ m.models, x.fields.Pairwise fun f g =>
      Name.pascal f.name = Name.pascal g.name → Name.pascal f.name ∉ Language.csharp.members
    (r.apply (r.apply m) = r.apply m ↔ apart) ∧ (r.keeps (r.apply m) = true ↔ apart) ∧
      r.apply (r.apply (r.apply m)) = r.apply (r.apply m) ∧
      r.keeps (r.apply (r.apply m)) = true := by
  have htypes : ∀ n, csharp.style.typeName (csharp.style.typeName n) = csharp.style.typeName n :=
    Style.avoid_avoid Name.pascal_pascal fun n hmem heq => by
      obtain ⟨c, hc, hword⟩ := List.any_eq_true.mp (reservedTypes_worded csharp n hmem)
      exact (Name.pascal_append_underscore (Text.stretches_ne_nil hc hword)).trans heq
  have hfits : ∀ x : Model, (x.fields.map (·.name)).Nodup →
      (csharp.style.Fits (csharp.style.refineModel x) ↔ MembersApart (x.fields.map (·.name))) := by
    intro x hx
    rw [Style.Fits, Style.fieldNames_refineModel, Style.map_name_refineModel, Style.fieldNames_eq,
      freshAll_fieldName_iff hx fun t ht => absurd ht List.not_mem_nil]
    exact and_iff_left fun _ _ _ => List.not_mem_nil
  have honce : (∀ x ∈ m.models, csharp.style.Fits (csharp.style.refineModel x)) ↔
      ∀ x ∈ m.models, MembersApart (x.fields.map (·.name)) :=
    forall₂_congr fun x hx => hfits x (hm x hx)
  have htwice : ∀ x ∈ (csharp.style.refine m).models,
      csharp.style.Fits (csharp.style.refineModel x) := by
    intro y hy
    obtain ⟨x, hx, rfl⟩ := List.mem_map.mp hy
    have hnames : (csharp.style.refineModel x).fields.map (·.name) =
        Name.freshAll [] ((x.fields.map (·.name)).map csharp.style.fieldName) := by
      rw [Style.map_name_refineModel, Style.fieldNames_eq]
    refine (hfits _ (hnames ▸ (Name.freshAll_apart [] _).1)).mpr ?_
    rw [hnames]
    exact membersApart_freshAll (hm x hx)
  have hapart : (∀ x ∈ m.models, MembersApart (x.fields.map (·.name))) ↔
      ∀ x ∈ m.models, x.fields.Pairwise fun f g =>
        Name.pascal f.name = Name.pascal g.name → Name.pascal f.name ∉ Language.csharp.members :=
    forall₂_congr fun x _ => List.pairwise_map
  simp only [apply, List.foldl_cons, List.foldl_nil, keeps, Bool.and_true]
  rw [Style.refine_refine_iff htypes, Style.keeps_refine_iff htypes, honce, hapart,
    Style.refine_refine_iff htypes, Style.keeps_refine_iff htypes]
  exact ⟨Iff.rfl, Iff.rfl, htwice, htwice⟩

/-- A model with two fields that are spelled like the same member. -/
def sameMember : Metadata :=
  ⟨[], [⟨"Note", ["value", "Value"].map fun n =>
    { name := n, dataType := ⟨"Text", .string, [], none, none, .null⟩ }, .entity, none, none⟩]⟩

theorem sameMember_not_settled :
    let r : Refiner := [Language.csharp.style]
    r.apply (r.apply sameMember) ≠ r.apply sameMember ∧
      r.keeps (r.apply sameMember) = false ∧
      (r.apply sameMember).models.flatMap (fun x => x.fields.map (·.name)) =
        ["Value_", "Value_2"] ∧
      (r.apply (r.apply sameMember)).models.flatMap (fun x => x.fields.map (·.name)) =
        ["Value_", "Value2"] := by
  intro r
  obtain ⟨hsame, hkeeps, -⟩ := csharp_settled_iff sameMember (by decide)
  have hclash : ¬∀ x ∈ sameMember.models, x.fields.Pairwise fun f g =>
      Name.pascal f.name = Name.pascal g.name → Name.pascal f.name ∉ Language.csharp.members := by
    decide +kernel
  exact ⟨fun h => hclash (hsame.mp h), Bool.eq_false_iff.mpr fun h => hclash (hkeeps.mp h),
    by decide +kernel, by decide +kernel⟩

end Refiner

end Typewright

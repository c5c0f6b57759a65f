/-
# The shape of a schema is that of its expansion

The expansion of a schema lists the schemas that it is merged from: for each member its own expansion
and then itself, where a reference among the members stands for the schema that it leads to.  It is
defined without a bound and without a record of what has been followed (`Expansion`), so that a schema
with a reference back to itself has none.

`shape_expands` compares the merging with it.  What is declared along the expansion is what the shape
has (`Collects`): names stand where they are declared first, with the schema that is declared last.
The merging always ends; it reports a circle only where the chain of members has no end, and gives no
shape there.
-/
import Typewright.Proofs.Document.Ways
import Typewright.Proofs.Schema.Targets

namespace Typewright.Shape

/-! ## Expansions -/

/-- The schemas in a collection; nothing but a mapping is one. -/
def schemasIn : Value → List Value
  | .list items => items.filter (·.isMap)
  | .tuple items => items.filter (·.isMap)
  | _ => []

theorem schemasIn_eq_nil {v : Value} (hlist : ∀ items, v = .list items → False)
    (htuple : ∀ items, v = .tuple items → False) : schemasIn v = [] := by
  cases v with
  | list items => exact (hlist items rfl).elim
  | tuple items => exact (htuple items rfl).elim
  | _ => rfl

theorem not_isMap {v : Value} (h : ∀ entries, v = .map entries → False) : ¬v.isMap = true := by
  cases v with
  | map entries => exact (h entries rfl).elim
  | _ => exact Bool.false_ne_true

/-- The schemas in the `allOf` list of a schema. -/
def membersOf (schema : Value) : List Value := schemasIn (schema.get "allOf")

/-- What a member stands for: itself, or the schema that its reference leads to.  That schema is taken
as it is written, so that a reference which it consists of is not followed any further. -/
inductive StandsFor (document : Value) : Value → Value → Prop
  | itself {part : Value} : part.get? "$ref" = none → StandsFor document part part
  | target {part ref target : Value} : part.get? "$ref" = some ref →
      Document.resolve document ref = .ok target → StandsFor document part target

theorem StandsFor.unique {document part target target' : Value} (h : StandsFor document part target)
    (h' : StandsFor document part target') : target = target' := by
  cases h with
  | itself hnone =>
      cases h' with
      | itself => rfl
      | target href => exact nomatch hnone.symm.trans href
  | target href htarget =>
      cases h' with
      | itself hnone => exact nomatch hnone.symm.trans href
      | target href' htarget' =>
          obtain rfl := Option.some.inj (href.symm.trans href')
          exact Except.ok.inj (htarget.symm.trans htarget')

/-- One step into the expansion of a schema: to what one of its members stands for. -/
def HasMember (document schema target : Value) : Prop :=
  ∃ part ∈ membersOf schema, StandsFor document part target

/-- The schemas that some members expand to, each after those that its own members expand to. -/
inductive Expansion (document : Value) : List Value → List Value → Prop
  | nil : Expansion document [] []
  | cons {part target : Value} {parts before after : List Value} : StandsFor document part target →
      Expansion document (membersOf target) before → Expansion document parts after →
      Expansion document (part :: parts) (before ++ target :: after)

/-- The properties that a schema declares itself. -/
def declared (schema : Value) : List (String × Value) :=
  match schema.get "properties" with
  | .map entries => entries.map fun e => (e.1.plain, e.2)
  | _ => []

/-- The names that a schema requires itself. -/
def demanded (schema : Value) : List String :=
  match schema.get "required" with
  | .list items => items.map Value.plain
  | _ => []

/-- A shape has what some schemas declare and require, one after the other: each name where it comes
first, with the declaration that comes last. -/
structure Collects (shape : Shape) (order : List Value) : Prop where
  names : shape.properties.map (·.1) = ((order.flatMap declared).map (·.1)).eraseDups
  last : ∀ name, shape.properties.lookup name = (order.flatMap declared).reverse.lookup name
  required : shape.required = (order.flatMap demanded).eraseDups

/-! ## Names in the order of their first occurrence -/

section Require

variable {names : List String} {name : String}

theorem require_of_mem (h : name ∈ names) : require names name = names :=
  if_pos (List.contains_iff_mem.mpr h)

theorem mem_require : name ∈ require names name := by
  unfold require
  split
  · rename_i h
    exact List.contains_iff_mem.mp h
  · exact List.mem_append_right _ List.mem_cons_self

theorem subset_require : names ⊆ require names name := by
  intro n hn
  unfold require
  split
  · exact hn
  · exact List.mem_append_left _ hn

/-- A name that is there already may be left out of those that come. -/
theorem foldl_require_filter (h : name ∈ names) (more : List String) :
    (more.filter fun n => !n == name).foldl require names = more.foldl require names := by
  induction more generalizing names with
  | nil => rfl
  | cons n more ih =>
      by_cases hn : n = name
      · subst hn
        rw [List.filter_cons_of_neg (by simp), List.foldl_cons, require_of_mem h]
        exact ih h
      · rw [List.filter_cons_of_pos (by simpa using hn), List.foldl_cons, List.foldl_cons]
        exact ih (subset_require h)

theorem foldl_require_eraseDups (more names : List String) :
    more.eraseDups.foldl require names = more.foldl require names := by
  match more with
  | [] => rfl
  | n :: more =>
      have hless : (more.filter fun m => !m == n).length < (n :: more).length :=
        Nat.lt_succ_of_le (List.length_filter_le _ _)
      rw [List.eraseDups_cons, List.foldl_cons, List.foldl_cons, foldl_require_eraseDups]
      exact foldl_require_filter mem_require more
termination_by more.length
decreasing_by exact hless

theorem foldl_require (more names : List String) :
    more.foldl require names.eraseDups = (names ++ more).eraseDups := by
  induction more generalizing names with
  | nil => rw [List.append_nil, List.foldl_nil]
  | cons n more ih =>
      have hone : require names.eraseDups n = (names ++ [n]).eraseDups := by
        rw [List.eraseDups_append]
        unfold require
        by_cases hn : n ∈ names
        · simp [List.removeAll, hn]
        · simp [List.removeAll, hn, List.eraseDups_cons]
      rw [List.foldl_cons, hone, ih, List.append_assoc, List.singleton_append]

theorem nodup_eraseDups (names : List String) : names.eraseDups.Nodup := by
  have h : names.eraseDups = names.foldl require [] := (foldl_require names []).symm
  rw [h]
  exact List.foldlRecOn names require List.nodup_nil fun _ h n _ => nodup_require h n

end Require

/-! ## Declarations in turn -/

section Declare

variable {name : String} {schema : Value} {ps : List (String × Value)}

theorem lookup_declare (other : String) :
    (declare name schema ps).lookup other = if other == name then some schema
      else ps.lookup other := by
  induction ps with
  | nil =>
      rw [declare, List.lookup_cons]
      cases other == name <;> rfl
  | cons p ps ih =>
      obtain ⟨n, s⟩ := p
      rw [declare]
      by_cases hn : n = name
      · subst hn
        rw [if_pos (beq_self_eq_true n), List.lookup_cons, List.lookup_cons]
        cases other == n <;> rfl
      · by_cases hother : other = n
        · subst hother
          simp [hn]
        · have hne : (other == n) = false := by simpa using hother
          rw [if_neg (by simpa using hn), List.lookup_cons, List.lookup_cons, hne, ih]

/-- Of several declarations of a name the last one counts. -/
theorem lookup_foldl_declare (ds : List (String × Value)) (other : String) :
    (ds.foldl (fun ps d => declare d.1 d.2 ps) ps).lookup other =
      (ds.reverse.lookup other).or (ps.lookup other) := by
  induction ds generalizing ps with
  | nil => rfl
  | cons d ds ih =>
      obtain ⟨n, s⟩ := d
      rw [List.foldl_cons, ih, lookup_declare, List.reverse_cons, List.lookup_append]
      cases ds.reverse.lookup other with
      | some found => rfl
      | none =>
          simp only [Option.none_or, List.lookup_cons, List.lookup_nil]
          cases other == n <;> rfl

theorem map_foldl_declare (ds : List (String × Value)) :
    (ds.foldl (fun ps d => declare d.1 d.2 ps) ps).map (·.1) =
      (ds.map (·.1)).foldl require (ps.map (·.1)) := by
  induction ds generalizing ps with
  | nil => rfl
  | cons d ds ih => rw [List.foldl_cons, ih, map_declare, List.map_cons, List.foldl_cons]

/-- Where no name is declared twice, the last declaration is the only one. -/
theorem lookup_reverse (h : (ps.map (·.1)).Nodup) (name : String) :
    ps.reverse.lookup name = ps.lookup name := by
  induction ps with
  | nil => rfl
  | cons p ps ih =>
      obtain ⟨n, s⟩ := p
      obtain ⟨hn, hps⟩ := List.nodup_cons.mp h
      rw [List.reverse_cons, List.lookup_append, ih hps, List.lookup_cons, List.lookup_cons]
      by_cases hname : name = n
      · subst hname
        have hnone : ps.lookup name = none := by
          rw [List.lookup_eq_none_iff]
          intro p hp
          simpa using fun h : name = p.1 => hn (List.mem_map.mpr ⟨p, hp, h.symm⟩)
        simp [hnone]
      · have hne : (name == n) = false := by simpa using hname
        rw [hne, List.lookup_nil, Option.or_none]

end Declare

/-! ## Shapes that collect -/

namespace Collects

theorem empty : Collects {} [] := ⟨rfl, fun _ => rfl, rfl⟩

variable {a b : Shape} {before after : List Value}

theorem nodup (h : Collects a before) : (a.properties.map (·.1)).Nodup := by
  rw [h.names]
  exact nodup_eraseDups _

theorem merge (ha : Collects a before) (hb : Collects b after) :
    Collects (a.merge b) (before ++ after) where
  names := by
    rw [Shape.merge, map_foldl_declare, ha.names, hb.names, foldl_require_eraseDups, foldl_require,
      List.flatMap_append, List.map_append]
  last name := by
    rw [Shape.merge, lookup_foldl_declare, lookup_reverse hb.nodup, ha.last, hb.last,
      List.flatMap_append, List.reverse_append, List.lookup_append]
  required := by
    rw [Shape.merge, ha.required, hb.required, foldl_require_eraseDups, foldl_require,
      List.flatMap_append]

end Collects

theorem declared_of_not_isGiven {schema : Value}
    (h : (schema.get "properties").isGiven = false) : declared schema = [] := by
  unfold declared
  split
  · rename_i entries hentries
    rw [hentries] at h
    simpa [Value.isGiven] using h
  · rfl

theorem demanded_of_not_isGiven {schema : Value}
    (h : (schema.get "required").isGiven = false) : demanded schema = [] := by
  unfold demanded
  split
  · rename_i items hitems
    rw [hitems] at h
    simpa [Value.isGiven] using h
  · rfl

/-- What a schema declares and requires itself is taken in turn. -/
theorem own_ok {schema : Value} {shape : Shape} (h : own schema = .ok shape) :
    shape.properties = (declared schema).foldl (fun ps d => declare d.1 d.2 ps) [] ∧
      shape.required = (demanded schema).foldl require [] := by
  have hrequired : ∀ ps : List (String × Value),
      (if !(schema.get "required").isGiven then .ok ⟨ps, []⟩
        else match schema.get "required" with
          | .list items => .ok ⟨ps, (items.map Value.plain).foldl require []⟩
          | _ => .error (.problem .requiredShape)) = (.ok shape : Except Failure Shape) →
      shape = ⟨ps, (demanded schema).foldl require []⟩ := by
    intro ps hps
    split at hps
    · rename_i hgiven
      rw [demanded_of_not_isGiven (by simpa using hgiven)]
      exact (Except.ok.inj hps).symm
    · split at hps
      · rename_i items hitems
        rw [demanded, hitems]
        exact (Except.ok.inj hps).symm
      · exact nomatch hps
  unfold own at h
  dsimp only at h
  split at h
  · rename_i hgiven
    rw [hrequired _ h, declared_of_not_isGiven (by simpa using hgiven)]
    exact ⟨rfl, rfl⟩
  · split at h
    · rename_i es hes
      rw [hrequired _ h, declared, hes]
      exact ⟨by rw [List.foldl_map], rfl⟩
    · exact nomatch h

theorem own_collects {schema : Value} {shape : Shape} (h : own schema = .ok shape) :
    Collects shape [schema] := by
  obtain ⟨hproperties, hrequired⟩ := own_ok h
  exact {
    names := by
      rw [hproperties, map_foldl_declare, List.flatMap_singleton]
      exact foldl_require _ []
    last := fun name => by
      rw [hproperties, lookup_foldl_declare, List.flatMap_singleton, List.lookup_nil,
        Option.or_none]
    required := by
      rw [hrequired, List.flatMap_singleton]
      exact foldl_require _ [] }

/-! ## Merging along an expansion -/

variable {document : Value}

/-- A shape is that of what a reference leads to. -/
def Follows (document ref : Value) (shape : Shape) : Prop :=
  ∃ target order, Document.resolve document ref = .ok target ∧
    Expansion document (membersOf target) order ∧ Collects shape (order ++ [target])

/-- A circle that is found among the members of a schema is found at a reference of one of them. -/
def FoundAt (document : Value) (follow : Value → Except Failure Shape) (schema : Value)
    (e : Failure) : Prop :=
  ∀ r, e = .problem (.circularMembers r) →
    ∃ inner part ref, Relation.ReflTransGen (HasMember document) schema inner ∧
      part ∈ membersOf inner ∧ part.get? "$ref" = some ref ∧ follow ref = .error e

theorem FoundAt.fault {follow : Value → Except Failure Shape} {schema : Value} (f : Fault) :
    FoundAt document follow schema (.fault f) := fun _ h => Failure.noConfusion h

theorem FoundAt.problem {follow : Value → Except Failure Shape} {schema : Value} {p : Problem}
    (h : ∀ r, p ≠ .circularMembers r) : FoundAt document follow schema (.problem p) := by
  intro r hr
  exact absurd (Failure.problem.inj hr) (h r)

/-- No circle is found in what a schema declares and requires itself. -/
theorem own_found (follow : Value → Except Failure Shape) (entries : List (Value × Value)) :
    Yields (Collects · [.map entries]) (FoundAt document follow (.map entries))
      (own (.map entries)) := by
  have hfound : Yields _ (FoundAt document follow (.map entries)) (own (.map entries)) :=
    own_yields (M := fun _ => True) trivial (fun _ _ _ _ _ _ => trivial)
      (.problem fun _ => Problem.noConfusion) (.problem fun _ => Problem.noConfusion)
  cases hown : own (.map entries) with
  | ok shape => exact own_collects hown
  | error e => rwa [hown] at hfound

/-- A circle that is found among the members of a member is found among those of the schema. -/
theorem FoundAt.part {follow : Value → Except Failure Shape} {schema part : Value} {e : Failure}
    (hpart : part ∈ membersOf schema) (href : part.get? "$ref" = none)
    (h : FoundAt document follow part e) : FoundAt document follow schema e := by
  intro r hr
  obtain ⟨inner, part', ref, hinner, hrest⟩ := h r hr
  exact ⟨inner, part', ref, .head ⟨part, hpart, .itself href⟩ hinner, hrest⟩

/-- Merging collects what the expansion of a schema declares and requires, if following a reference
does so for what it leads to. -/
theorem mergeAll_expands {follow : Value → Except Failure Shape}
    (hfollow : ∀ ref shape, follow ref = .ok shape → Follows document ref shape) :
    ∀ v : Value, Yields
      (fun shape => ∃ order, Expansion document (membersOf v) order ∧ Collects shape (order ++ [v]))
      (FoundAt document follow v) (mergeAll follow v) := by
  have hreference : ∀ {schema part ref}, part ∈ membersOf schema → part.get? "$ref" = some ref →
      Yields (Follows document ref) (FoundAt document follow schema) (follow ref) := by
    intro schema part ref hpart href
    cases hf : follow ref with
    | ok shape => exact hfollow ref shape hf
    | error e => exact fun r hr => ⟨schema, part, ref, .refl, hpart, href, hf⟩
  refine (mergeAll.mutual_induct
    (fun v => Yields
      (fun shape => ∃ order, Expansion document (membersOf v) order ∧ Collects shape (order ++ [v]))
      (FoundAt document follow v) (mergeAll follow v))
    (fun es => ∀ schema, membersOf schema = membersOf (.map es) → Yields
      (fun shape => ∃ order, Expansion document (membersOf schema) order ∧ Collects shape order)
      (FoundAt document follow schema) (mergeMembers follow es))
    (fun v => ∀ schema, membersOf schema = schemasIn v → Yields
      (fun shape => ∃ order, Expansion document (membersOf schema) order ∧ Collects shape order)
      (FoundAt document follow schema) (mergeMember follow v))
    (fun done vs => ∀ schema before, vs.filter (·.isMap) ⊆ membersOf schema →
      Collects done before → Yields
        (fun shape => ∃ order, Expansion document (vs.filter (·.isMap)) order ∧
          Collects shape (before ++ order))
        (FoundAt document follow schema) (mergeItems follow done vs))
    ?map ?notMap ?list ?tuple ?set ?mapping ?text ?bytes ?given ?notGiven ?noItem ?reference
    ?schema ?noSchema ?noEntry ?members ?otherEntry).1
  case map =>
    intro es ih
    rw [mergeAll]
    refine (ih (.map es) rfl).bind fun members hmembers => ?_
    obtain ⟨order, horder, hcollects⟩ := hmembers
    refine (own_found follow es).bind fun shape hshape => ?_
    exact ⟨order, horder, hcollects.merge hshape⟩
  case notMap =>
    intro v hv
    rw [mergeAll]
    · exact FoundAt.fault _
    · exact hv
  case list | tuple =>
    intro items ih schema hschema
    rw [mergeMember, hschema]
    exact ih schema [] (hschema ▸ List.Subset.refl _) .empty
  case set | mapping | text | bytes =>
    intro _ schema hschema
    rw [mergeMember, hschema]
    exact ⟨[], .nil, .empty⟩
  case given | notGiven =>
    intro v hlist htuple h₃ h₄ h₅ h₆ hgiven schema hschema
    rw [mergeMember, hschema, schemasIn_eq_nil hlist htuple]
    · simp only [hgiven]
      first | exact FoundAt.fault _ | exact ⟨[], .nil, .empty⟩
    all_goals assumption
  case noItem =>
    intro done schema before _ hdone
    rw [mergeItems]
    exact ⟨[], .nil, by rwa [List.append_nil]⟩
  case reference =>
    intro done es r ref href ih schema before hsub hdone
    rw [List.filter_cons_of_pos rfl] at hsub
    rw [mergeItems, List.filter_cons_of_pos rfl]
    simp only [href]
    refine (hreference (hsub List.mem_cons_self) href).bind fun part hfollows => ?_
    obtain ⟨target, own, htarget, hown, hpart⟩ := hfollows
    have hrest := ih part schema _ (fun _ h => hsub (List.mem_cons_of_mem _ h))
      (hdone.merge hpart)
    refine Yields.imp hrest fun shape hexpands => ?_
    obtain ⟨order, horder, hshape⟩ := hexpands
    exact ⟨_, .cons (.target href htarget) hown horder, by simpa using hshape⟩
  case schema =>
    intro done es r href ihmap ih schema before hsub hdone
    rw [List.filter_cons_of_pos rfl] at hsub
    rw [mergeItems, List.filter_cons_of_pos rfl]
    simp only [href]
    have hpart : Value.map es ∈ membersOf schema := hsub List.mem_cons_self
    refine (ihmap.mono fun e he => he.part hpart href).bind fun part hexpands => ?_
    obtain ⟨own, hown, hshape⟩ := hexpands
    have hrest := ih part schema _ (fun _ h => hsub (List.mem_cons_of_mem _ h))
      (hdone.merge hshape)
    refine Yields.imp hrest fun shape hmerged => ?_
    obtain ⟨order, horder, hshape⟩ := hmerged
    exact ⟨_, .cons (.itself href) hown horder, by simpa using hshape⟩
  case noSchema =>
    intro done v r hv ih schema before hsub hdone
    have hmap : ¬ v.isMap = true := not_isMap hv
    rw [List.filter_cons_of_neg hmap] at hsub
    rw [mergeItems, List.filter_cons_of_neg hmap]
    · exact ih schema before hsub hdone
    · exact hv
  case noEntry =>
    intro schema hschema
    rw [mergeMembers, hschema]
    exact ⟨[], .nil, .empty⟩
  case members =>
    intro k v r hk ih schema hschema
    rw [mergeMembers, if_pos hk]
    exact ih schema (by rw [hschema, membersOf, get_cons, if_pos hk])
  case otherEntry =>
    intro k v r hk ih schema hschema
    rw [mergeMembers, if_neg hk]
    exact ih schema (by rw [hschema, membersOf, get_cons, if_neg hk, membersOf])

/-- What following a reference gives, where some have been followed and some more may be. -/
def follow (document : Value) (more : Nat) (followed : List String) (ref : Value) :
    Except Failure Shape :=
  match ref.keyFault?, ref with
  | some _, _ => .error (.fault .type)
  | none, .text s =>
    if followed.contains s then .error (.problem (.circularMembers s))
    else match Document.resolve document ref with
      | .ok target => after document more (s :: followed) target
      | .error broken => .error (.ofReference broken)
  | none, _ => .error (.ofReference (.unsupported ref))

theorem after_succ (document : Value) (more : Nat) (followed : List String) (v : Value) :
    after document (more + 1) followed v = mergeAll (follow document more followed) v := rfl

/-- A reference is on the way already, or it is followed to the schema that it leads to, or it fails
in a way that has nothing to do with circles. -/
theorem follow_cases (document : Value) (more : Nat) (followed : List String) (ref : Value) :
    (∃ s ∈ followed, ref = .text s ∧
      follow document more followed ref = .error (.problem (.circularMembers s))) ∨
    (∃ s target, Document.resolve document ref = .ok target ∧ ref = .text s ∧
      follow document more followed ref = after document more (s :: followed) target) ∨
    ∃ e, follow document more followed ref = .error e ∧
      ∀ r, e ≠ .problem (.circularMembers r) := by
  unfold follow
  split
  · exact .inr (.inr ⟨_, rfl, fun _ => nofun⟩)
  · rename_i s _
    split
    · rename_i hfollowed
      exact .inl ⟨s, by simpa using hfollowed, rfl, rfl⟩
    · split
      · rename_i target htarget
        exact .inr (.inl ⟨s, target, htarget, rfl, rfl⟩)
      · exact .inr (.inr ⟨_, rfl, fun _ h => nomatch Failure.eq_of_ofReference h⟩)
  · exact .inr (.inr ⟨_, rfl, fun _ h => nomatch Failure.eq_of_ofReference h⟩)

theorem follow_expands : ∀ (more : Nat) (followed : List String) (ref : Value) (shape : Shape),
    follow document more followed ref = .ok shape → Follows document ref shape := by
  intro more
  induction more with
  | zero =>
      intro followed ref shape h
      obtain ⟨s, -, -, hf⟩ | ⟨s, target, -, -, hf⟩ | ⟨e, hf, -⟩ :=
        follow_cases document 0 followed ref
      all_goals exact nomatch hf.symm.trans h
  | succ more ih =>
      intro followed ref shape h
      obtain ⟨s, -, -, hf⟩ | ⟨s, target, htarget, -, hf⟩ | ⟨e, hf, -⟩ :=
        follow_cases document (more + 1) followed ref
      · exact nomatch hf.symm.trans h
      · have hmerged := mergeAll_expands (ih (s :: followed)) target
        rw [← after_succ, hf.symm.trans h] at hmerged
        obtain ⟨order, horder, hshape⟩ := hmerged
        exact ⟨target, order, htarget, horder, hshape⟩
      · exact nomatch hf.symm.trans h

theorem after_merged (document : Value) (more : Nat) (followed : List String) (v : Value) : Yields
    (fun shape => ∃ order, Expansion document (membersOf v) order ∧ Collects shape (order ++ [v]))
    (FoundAt document (follow document more followed) v) (after document (more + 1) followed v) :=
  after_succ document more followed v ▸ mergeAll_expands (follow_expands more followed) v

/-! ## Circles -/

/-- The references that have been followed lead to schemas that the schema is a member of. -/
def Above (document : Value) (followed : List String) (schema : Value) : Prop :=
  ∀ s ∈ followed, ∃ target, Document.resolve document (.text s) = .ok target ∧
    Relation.ReflTransGen (HasMember document) target schema

/-- Where a circle is reported, the chain of members leads back to a schema on it. -/
theorem after_circular : ∀ {more : Nat} {followed : List String} {v : Value} {r : String},
    Above document followed v →
      after document more followed v = .error (.problem (.circularMembers r)) →
      ∃ back, Relation.ReflTransGen (HasMember document) v back ∧
        Relation.TransGen (HasMember document) back back
  | 0, _, _, _, _, h => nomatch h
  | more + 1, followed, v, r, habove, h => by
      have hmerged := after_merged document more followed v
      rw [h] at hmerged
      obtain ⟨inner, part, ref, hinner, hpart, href, hfollow⟩ := hmerged r rfl
      obtain ⟨s, hs, rfl, hf⟩ | ⟨s, target, htarget, rfl, hf⟩ | ⟨e, hf, he⟩ :=
        follow_cases document more followed ref
      · obtain ⟨target, htarget, hdown⟩ := habove s hs
        have hback : HasMember document inner target := ⟨part, hpart, .target href htarget⟩
        exact ⟨inner, hinner, .head' hback (hdown.trans hinner)⟩
      · have hdown : HasMember document inner target := ⟨part, hpart, .target href htarget⟩
        have habove' : Above document (s :: followed) target := by
          refine List.forall_mem_cons.mpr ⟨⟨target, htarget, .refl⟩, fun s' hs' => ?_⟩
          obtain ⟨top, htop, hv⟩ := habove s' hs'
          exact ⟨top, htop, (hv.trans hinner).tail hdown⟩
        obtain ⟨back, hback, hreturn⟩ := after_circular habove' (hf.symm.trans hfollow)
        exact ⟨back, hinner.trans (.head hdown hback), hreturn⟩
      · exact absurd (Except.error.inj (hf.symm.trans hfollow)) (he r)

/-- Nothing that stands in an expansion has an endless chain of members. -/
theorem Expansion.acc {parts order : List Value} (h : Expansion document parts order) :
    ∀ part ∈ parts, ∀ target, StandsFor document part target →
      Acc (fun inner schema => HasMember document schema inner) target := by
  induction h with
  | nil => exact fun _ hp => absurd hp List.not_mem_nil
  | @cons part target parts before after hstands _ _ ihtarget ihparts =>
      refine List.forall_mem_cons.mpr ⟨fun target' hstands' => ?_, ihparts⟩
      rw [hstands'.unique hstands]
      exact .intro _ fun inner ⟨part', hpart', hinner⟩ => ihtarget part' hpart' inner hinner

/-! ## The whole schema -/

/-- One move of the work on a schema: on to a member that is no reference, or through a reference
among the members that is not on the way yet. -/
def Merges (document : Value) : List String × Value → List String × Value → Prop :=
  Document.Goes document
    (fun schema inner => inner ∈ membersOf schema ∧ inner.get? "$ref" = none)
    (fun schema r => ∃ part ∈ membersOf schema, part.get? "$ref" = some (.text r))

theorem mem_of_mem_schemasIn {v part : Value} (h : part ∈ schemasIn v) :
    ∃ items, (v = .list items ∨ v = .tuple items) ∧ part ∈ items := by
  cases v with
  | list items => exact ⟨items, .inl rfl, (List.mem_filter.mp h).1⟩
  | tuple items => exact ⟨items, .inr rfl, (List.mem_filter.mp h).1⟩
  | _ => exact absurd h List.not_mem_nil

theorem sizeOf_member {schema part : Value} (h : part ∈ membersOf schema) :
    sizeOf part < sizeOf schema := by
  have hmap : schema.isMap = true := by
    cases schema with
    | map => rfl
    | _ => exact absurd h List.not_mem_nil
  have hlist : sizeOf (schema.get "allOf") < sizeOf schema := Value.sizeOf_get_lt "allOf" hmap
  refine Nat.lt_trans ?_ hlist
  obtain ⟨items, hitems, hpart⟩ := mem_of_mem_schemasIn h
  have hitem := List.sizeOf_lt_of_mem hpart
  rcases hitems with hitems | hitems
  · rw [hitems, Value.list.sizeOf_spec]
    omega
  · rw [hitems, Value.tuple.sizeOf_spec]
    omega

theorem references_member {schema part : Value} (h : part ∈ membersOf schema) :
    part.references ⊆ schema.references := by
  have hlist : (schema.get "allOf").RefersIn (· ∈ schema.references) :=
    Value.RefersIn.get (fun _ hr => hr) "allOf"
  obtain ⟨items, hitems | hitems, hpart⟩ := mem_of_mem_schemasIn h
  · exact (hitems ▸ hlist).item hpart
  · exact (hitems ▸ hlist).component hpart

theorem merges_narrows : Document.Narrows
    (fun schema inner => inner ∈ membersOf schema ∧ inner.get? "$ref" = none)
    (fun schema r => ∃ part ∈ membersOf schema, part.get? "$ref" = some (.text r)) where
  smaller h := sizeOf_member h.1
  references h := references_member h.1
  refers := fun ⟨part, hpart, href⟩ => references_member hpart <|
    Value.RefersIn.ref_key (A := (· ∈ part.references)) (fun _ hr => hr) href

/-- Members that cannot be merged are not nested too deeply. -/
theorem Unmergeable.ne_nesting {schema : Value} {f : Fault} (h : Unmergeable document schema f) :
    f ≠ .nesting := by
  induction h with
  | members _ h =>
      unfold Document.members at h
      split at h <;> cases h
      exact Fault.noConfusion
  | key | untold => exact Fault.noConfusion
  | target _ _ _ _ ih => exact ih
  | part _ _ _ ih => exact ih

/-- The bound on the number of references that are followed is never met. -/
theorem ofSchema_ne_nesting (document schema : Value) :
    ofSchema document schema ≠ .error (.fault .nesting) := by
  intro h
  cases hmap : schema.isMap with
  | true =>
      have hfaults : Yields (fun _ => True) (FaultIn (Unmergeable document schema))
          (ofSchema document schema) := ofSchema_faults hmap
      rw [h] at hfaults
      exact (hfaults _ rfl).ne_nesting rfl
  | false =>
      cases schema with
      | map entries => exact nomatch hmap
      | _ => exact nomatch h

/-- The merging ends, with any bound on the references that are followed which exceeds their number.
A shape that comes out has, in the order of the expansion and with the schema itself at the end, every
name where it is declared first with what is declared last, and every required name once.  A circle is
reported only where the expansion is infinite, and then there is no shape.

The expansion branches finitely, so that it is infinite just if it has an endless chain. -/
theorem shape_expands (document schema : Value) :
    ¬Endless (Merges document) ([], schema) ∧
    (∀ more, (document.references ++ schema.references).length < more →
      after document more [] schema = ofSchema document schema) ∧
    ofSchema document schema ≠ .error (.fault .nesting) ∧
    (∀ shape, ofSchema document schema = .ok shape →
      ∃ members, Expansion document (membersOf schema) members ∧
        Collects shape (members ++ [schema])) ∧
    (∀ r, ofSchema document schema = .error (.problem (.circularMembers r)) →
      Endless (HasMember document) schema) ∧
    (Endless (HasMember document) schema → ∀ shape, ofSchema document schema ≠ .ok shape) := by
  have hexpands : ∀ shape, ofSchema document schema = .ok shape →
      ∃ members, Expansion document (membersOf schema) members ∧
        Collects shape (members ++ [schema]) := by
    intro shape h
    have hmerged := after_merged document (document.references ++ schema.references).length [] schema
    rwa [← ofSchema, h] at hmerged
  refine ⟨merges_narrows.not_endless document schema, fun more hmore => ?_,
    ofSchema_ne_nesting document schema, hexpands, fun r h => ?_, fun hendless shape h => ?_⟩
  · have hdocument := Document.refersIn_start document schema
    have hsame : SameTargets (fun _ => True) document document := ⟨fun _ _ => trivial, fun _ => rfl⟩
    refine after_eq hsame hdocument hdocument _ _ [] schema (fun r hr => ?_) List.nodup_nil
      (List.nil_subset _) (List.nil_subset _) (Nat.lt_succ_self _) hmore
    exact ⟨trivial, List.mem_append_right _ hr, List.mem_append_right _ hr⟩
  · obtain ⟨back, hback, hreturn⟩ := after_circular (fun _ hs => absurd hs List.not_mem_nil) h
    exact endless_of_return hback hreturn
  · obtain ⟨members, hmembers, -⟩ := hexpands shape h
    refine acc_iff_not_endless.mp (.intro _ fun inner ⟨part, hpart, hinner⟩ => ?_) hendless
    exact hmembers.acc part hpart inner hinner

/-- A document whose schemas `A` and `B` are members of each other. -/
def mutualMembers : Value :=
  .map [(.text "components", .map [(.text "schemas", .map [
    (.text "A", .map [(.text "allOf", .list [.map [(.text "$ref",
      .text "#/components/schemas/B")]])]),
    (.text "B", .map [(.text "allOf", .list [.map [(.text "$ref",
      .text "#/components/schemas/A")]])])])])]

/-- A schema that has one of them as a member, and a property. -/
def memberOfCircle : Value :=
  .map [(.text "allOf", .list [.map [(.text "$ref", .text "#/components/schemas/A")]]),
    (.text "properties", .map [(.text "id", .map [(.text "type", .text "string")])])]

/-- The expansion of the schema has no end, and the merging says so at the reference that it follows
first. -/
theorem mutualMembers_circular :
    ofSchema mutualMembers memberOfCircle =
        .error (.problem (.circularMembers "#/components/schemas/A")) ∧
      Endless (HasMember mutualMembers) memberOfCircle := by
  have hcircle : ofSchema mutualMembers memberOfCircle =
      .error (.problem (.circularMembers "#/components/schemas/A")) := by rfl
  obtain ⟨-, -, -, -, hendless, -⟩ := shape_expands mutualMembers memberOfCircle
  exact ⟨hcircle, hendless _ hcircle⟩

end Typewright.Shape

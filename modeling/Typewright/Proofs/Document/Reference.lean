/-
# References, and what they lead to

`RefersIn A v` says that every text under a `$ref` key in `v` satisfies `A`.  It passes from a value
to its parts, hence to what keys lead to (`RefersIn.follow?`) and to the reference that a schema
consists of (`RefersIn.ref?`).

The second half is about references of one form, those into the component schemas: such a reference
leads to the component schema of the name that it ends with (`resolve_componentRef`).
-/
import Typewright.Document.Reference
import Typewright.Document.Section
import Typewright.Schema.Basic
import Typewright.Schema.Shape

namespace Typewright

namespace Value

/-- Every reference in a value satisfies a predicate. -/
def RefersIn (A : String → Prop) (v : Value) : Prop := ∀ r ∈ v.references, A r

variable {A : String → Prop}

theorem mem_referencesIn {items : List Value} {v : Value} (hv : v ∈ items) {r : String}
    (hr : r ∈ v.references) : r ∈ referencesIn items := by
  induction items with
  | nil => exact absurd hv List.not_mem_nil
  | cons w items ih =>
      rw [referencesIn, List.mem_append]
      rcases List.mem_cons.mp hv with rfl | hv
      · exact .inl hr
      · exact .inr (ih hv)

theorem mem_referencesOf {entries : List (Value × Value)} {e : Value × Value} (he : e ∈ entries)
    {r : String} (hr : r ∈ e.2.references) : r ∈ referencesOf entries := by
  induction entries with
  | nil => exact absurd he List.not_mem_nil
  | cons d entries ih =>
      rw [referencesOf, List.mem_append, List.mem_append]
      rcases List.mem_cons.mp he with rfl | he
      · exact .inl (.inr hr)
      · exact .inr (ih he)

theorem mem_referencesOf_ref {entries : List (Value × Value)} {k : Value} {r : String}
    (he : (k, .text r) ∈ entries) (hk : k.isText "$ref" = true) : r ∈ referencesOf entries := by
  induction entries with
  | nil => exact absurd he List.not_mem_nil
  | cons d entries ih =>
      rw [referencesOf, List.mem_append, List.mem_append]
      rcases List.mem_cons.mp he with rfl | he
      · exact .inl (.inl (by simp [hk, text?]))
      · exact .inr (ih he)

theorem RefersIn.item {items : List Value} (h : RefersIn A (.list items)) {v : Value}
    (hv : v ∈ items) : RefersIn A v :=
  fun r hr => h r (mem_referencesIn hv hr)

theorem RefersIn.component {items : List Value} (h : RefersIn A (.tuple items)) {v : Value}
    (hv : v ∈ items) : RefersIn A v :=
  fun r hr => h r (mem_referencesIn hv hr)

theorem RefersIn.entry {entries : List (Value × Value)} (h : RefersIn A (.map entries))
    {e : Value × Value} (he : e ∈ entries) : RefersIn A e.2 :=
  fun r hr => h r (mem_referencesOf he hr)

theorem refersIn_null : RefersIn A .null := fun _ hr => absurd hr (by simp [references])

/-- The entry that a text key finds. -/
theorem exists_entry_of_get? {v x : Value} {key : String} (h : v.get? key = some x) :
    ∃ entries k, v = .map entries ∧ k.isText key = true ∧ (k, x) ∈ entries := by
  cases v with
  | map entries =>
      obtain ⟨e, he, rfl⟩ := Option.map_eq_some_iff.mp h
      exact ⟨entries, e.1, rfl, by simpa using List.find?_some he, List.mem_of_find?_eq_some he⟩
  | _ => exact nomatch h

theorem RefersIn.get? {v x : Value} {key : String} (h : RefersIn A v) (hx : v.get? key = some x) :
    RefersIn A x := by
  obtain ⟨entries, k, rfl, -, he⟩ := exists_entry_of_get? hx
  exact h.entry he

theorem RefersIn.get {v : Value} (h : RefersIn A v) (key : String) : RefersIn A (v.get key) := by
  unfold Value.get
  cases hx : v.get? key with
  | none => exact refersIn_null
  | some x => exact h.get? hx

theorem RefersIn.ref_key {v : Value} {r : String} (h : RefersIn A v)
    (hr : v.get? "$ref" = some (.text r)) : A r := by
  obtain ⟨entries, k, rfl, hk, he⟩ := exists_entry_of_get? hr
  exact h r (mem_referencesOf_ref he hk)

theorem RefersIn.follow? {x : Value} :
    ∀ {keys : List String} {v : Value}, RefersIn A v → Document.follow? v keys = some x →
      RefersIn A x
  | [], _, h, hx => Option.some.inj hx ▸ h
  | k :: keys, v, h, hx => by
      rw [Document.follow?, Option.bind_eq_some_iff] at hx
      obtain ⟨w, hw, hx⟩ := hx
      exact (h.get? hw).follow? hx

/-- The reference that a schema consists of is one of its references. -/
theorem RefersIn.ref? {v : Value} {r : String} (h : RefersIn A v)
    (hr : Schema.ref? v = some (.text r)) : A r := by
  have hgiven : ∀ {x : Value},
      (if x.isNull then none else some x : Option Value) = some (.text r) → x = .text r := by
    intro x hx
    split at hx
    · exact nomatch hx
    · exact Option.some.inj hx
  unfold Schema.ref? at hr
  dsimp only at hr
  split at hr
  · rename_i ref href
    exact h.ref_key (hgiven hr ▸ href)
  · split at hr
    · rename_i part hpart
      split at hr
      · exact nomatch hr
      · obtain ⟨ref, href, hr⟩ := Option.bind_eq_some_iff.mp hr
        have hall : RefersIn A (.list [part]) := hpart ▸ h.get "allOf"
        exact (hall.item List.mem_cons_self).ref_key (hgiven hr ▸ href)
    · exact nomatch hr

end Value

namespace Document

/-! ## Resolving -/

theorem resolve_eq_ok {document ref target : Value} (h : resolve document ref = .ok target) :
    ∃ s path, ref = .text s ∧ s.toList = '#' :: '/' :: path ∧
      follow? document (keys path) = some target ∧ target.isMap = true := by
  unfold resolve at h
  split at h
  · rename_i s
    split at h
    · rename_i path hs
      split at h
      · rename_i found hfound
        split at h
        · rename_i hmap
          obtain rfl := Except.ok.inj h
          exact ⟨s, path, rfl, hs, hfound, hmap⟩
        · exact nomatch h
      · exact nomatch h
    · exact nomatch h
  · exact nomatch h

theorem exists_text_of_targetName {ref : Value} {name : String}
    (h : targetName ref = .ok name) : ∃ s, ref = .text s := by
  cases ref with
  | text s => exact ⟨s, rfl⟩
  | _ => exact nomatch h

/-- What is shown of a reference that leads nowhere has a text just if the reference has one. -/
theorem hasText_of_resolve {document ref : Value} {broken : BrokenReference}
    (h : resolve document ref = .error broken) :
    (Problem.reference broken).hasText = ref.hasText := by
  unfold resolve at h
  split at h
  · split at h
    · split at h
      · split at h
        · exact nomatch h
        · obtain rfl := Except.error.inj h
          rfl
      · obtain rfl := Except.error.inj h
        rfl
    · obtain rfl := Except.error.inj h
      rfl
  · obtain rfl := Except.error.inj h
    rfl

theorem isMap_of_resolve {document ref target : Value} (h : resolve document ref = .ok target) :
    target.isMap = true := by
  obtain ⟨_, _, _, _, _, hmap⟩ := resolve_eq_ok h
  exact hmap

/-- What references into a document lead to refers to nothing that the document does not. -/
theorem refersIn_resolve {A : String → Prop} {document ref target : Value}
    (hd : document.RefersIn A) (h : resolve document ref = .ok target) : target.RefersIn A := by
  obtain ⟨_, _, _, _, hfollow, _⟩ := resolve_eq_ok h
  exact hd.follow? hfollow

theorem refersIn_sectionOf {A : String → Prop} {v found : Value} {key : String}
    (h : v.RefersIn A) (hfound : sectionOf v key = .ok found) : found.RefersIn A := by
  unfold sectionOf member at hfound
  split at hfound
  · cases hfound
    dsimp only
    split
    · exact h.get key
    · exact fun r hr => absurd hr (by simp [Value.references, Value.referencesOf])
  · exact nomatch hfound

/-- The component schemas of a document refer to nothing that the document does not. -/
theorem refersIn_schemas {A : String → Prop} {document : Value} {schemas : List (String × Value)}
    (hs : Document.schemas document = .ok schemas) (hd : document.RefersIn A) :
    ∀ c ∈ schemas, c.2.RefersIn A := by
  unfold Document.schemas at hs
  cases hcomponents : sectionOf document "components" with
  | error e => simp [hcomponents, bind, Except.bind] at hs
  | ok components =>
      cases hfound : sectionOf components "schemas" with
      | error e => simp [hcomponents, hfound, bind, Except.bind] at hs
      | ok found =>
          have hrefs := refersIn_sectionOf (refersIn_sectionOf hd hcomponents) hfound
          simp only [hcomponents, hfound, bind, Except.bind] at hs
          split at hs
          · cases hs
            intro c hc
            obtain ⟨e, he, rfl⟩ := List.mem_map.mp hc
            exact hrefs.entry he
          · split at hs <;> exact nomatch hs

/-! ## References into the component schemas -/

/-- A reference one segment below the component schemas. -/
def IsComponentRef (r : String) : Prop :=
  ∃ segment : List Char, '/' ∉ segment ∧ r = "#/components/schemas/" ++ String.ofList segment

theorem splitChar_ne_nil {sep : Char} : ∀ s : List Char, Text.splitChar sep s ≠ []
  | [] => List.cons_ne_nil _ _
  | c :: s => by
      rw [Text.splitChar]
      split
      · exact List.cons_ne_nil _ _
      · split
        · exact List.cons_ne_nil _ _
        · exact List.cons_ne_nil _ _

theorem splitChar_of_not_mem {sep : Char} :
    ∀ {s : List Char}, sep ∉ s → Text.splitChar sep s = [s]
  | [], _ => rfl
  | c :: r, h => by
      have hc : (c == sep) = false := by
        simpa using fun hc : c = sep => h (hc ▸ List.mem_cons_self)
      have ih := splitChar_of_not_mem (s := r) fun hr => h (List.mem_cons_of_mem _ hr)
      simp [Text.splitChar, hc, ih]

theorem splitChar_append {sep : Char} :
    ∀ {s : List Char}, sep ∉ s → ∀ r, Text.splitChar sep (s ++ sep :: r) = s :: Text.splitChar sep r
  | [], _, r => by simp [Text.splitChar]
  | c :: s, h, r => by
      have hc : (c == sep) = false := by
        simpa using fun hc : c = sep => h (hc ▸ List.mem_cons_self)
      have ih := splitChar_append (s := s) (fun hs => h (List.mem_cons_of_mem _ hs)) r
      simp [Text.splitChar, hc, ih]

theorem lastSegment_append {segment : List Char} (h : '/' ∉ segment) (s : List Char) :
    lastSegment (s ++ '/' :: segment) = segment := by
  have htake : (segment.reverse ++ '/' :: s.reverse).takeWhile (· != '/') = segment.reverse := by
    rw [List.takeWhile_append_of_pos (fun c hc => ?_)]
    · simp
    · simpa using fun hc' : c = '/' => h (hc' ▸ List.mem_reverse.mp hc)
  simp [lastSegment, htake]

/-- Such a reference ends with a name, and its keys are those of the component schema of that
name. -/
theorem IsComponentRef.keys {r : String} (h : IsComponentRef r) :
    ∃ path name, r.toList = '#' :: '/' :: path ∧ targetName (.text r) = .ok name ∧
      Document.keys path = ["components", "schemas", name] := by
  obtain ⟨segment, hslash, rfl⟩ := h
  refine ⟨"components/schemas/".toList ++ segment, String.ofList (unescape segment), ?_, ?_, ?_⟩
  · simp
  · have hlist : ("#/components/schemas/" ++ String.ofList segment).toList =
        "#/components/schemas".toList ++ '/' :: segment := by simp
    simp only [targetName, hlist, lastSegment_append hslash]
  · have hlist : "components/schemas/".toList ++ segment =
        "components".toList ++ '/' :: ("schemas".toList ++ '/' :: segment) := by simp
    simp only [Document.keys]
    rw [hlist, splitChar_append (by decide), splitChar_append (by decide),
      splitChar_of_not_mem hslash]
    rfl

theorem sectionOf_of_get? {v x : Value} {key : String} (h : v.get? key = some x)
    (hx : x.isGiven = true) : sectionOf v key = .ok x := by
  obtain ⟨entries, _, rfl, _, _⟩ := Value.exists_entry_of_get? h
  have hget : (Value.map entries).get key = x := by rw [Value.get, h]; rfl
  simp only [sectionOf, member, Value.isMap, if_true, Except.map, hget, hx]

theorem isGiven_of_get? {v x : Value} {key : String} (h : v.get? key = some x) :
    v.isGiven = true := by
  obtain ⟨entries, _, rfl, _, hmem⟩ := Value.exists_entry_of_get? h
  simpa [Value.isGiven] using List.ne_nil_of_mem hmem

/-- The component schemas of a document hold what the keys of one lead to. -/
theorem mem_schemas_of_follow? {document target : Value} {name : String}
    {schemas : List (String × Value)} (hs : Document.schemas document = .ok schemas)
    (h : follow? document ["components", "schemas", name] = some target) :
    (name, target) ∈ schemas := by
  simp only [follow?, Option.bind_eq_some_iff] at h
  obtain ⟨components, hcomponents, found, hfound, x, htarget, hx⟩ := h
  obtain rfl : x = target := Option.some.inj hx
  unfold Document.schemas at hs
  rw [sectionOf_of_get? hcomponents (isGiven_of_get? hfound)] at hs
  obtain ⟨entries, k, rfl, hk, hmem⟩ := Value.exists_entry_of_get? htarget
  have hsection : sectionOf components "schemas" = .ok (.map entries) :=
    sectionOf_of_get? hfound (isGiven_of_get? htarget)
  obtain rfl : entries.map (fun e => (e.1.plain, e.2)) = schemas := by
    simpa only [bind, Except.bind, hsection, Except.ok.injEq, pure, Except.pure] using hs
  refine List.mem_map.mpr ⟨(k, x), hmem, ?_⟩
  cases k with
  | text s =>
      have hname : s = name := by simpa [Value.isText] using hk
      exact congrArg (·, x) hname
  | _ => exact nomatch hk

/-- A reference into the component schemas leads to the component schema that it names. -/
theorem resolve_componentRef {document target : Value} {r name : String}
    {schemas : List (String × Value)} (hs : Document.schemas document = .ok schemas)
    (hr : IsComponentRef r) (hname : targetName (.text r) = .ok name)
    (h : resolve document (.text r) = .ok target) : (name, target) ∈ schemas := by
  obtain ⟨path, name', hpath, hname', hkeys⟩ := hr.keys
  obtain rfl : name' = name := Except.ok.inj (hname' ▸ hname)
  obtain ⟨s, path', hs', hpath', hfollow, _⟩ := resolve_eq_ok h
  obtain rfl : r = s := by simpa using hs'
  obtain rfl : path = path' := by simpa [hpath] using hpath'
  exact mem_schemas_of_follow? hs (hkeys ▸ hfollow)

end Document

end Typewright

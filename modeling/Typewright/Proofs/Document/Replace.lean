/-
# Replacing one part of a document

`replaceAt` puts another value where some keys lead.  Keys that lead neither to that place nor past
it or around it lead to what they led to before (`follow?_replaceAt`), hence so do references that
avoid a component schema when the content of the schema is replaced (`resolve_emptied`).
-/
import Typewright.Proofs.Document.Reference

namespace Typewright

namespace Value

/-- A mapping with a function applied to the values of one key. -/
def mapAt (key : String) (f : Value → Value) : Value → Value
  | .map entries => .map (entries.map fun e => if e.1.plain == key then (e.1, f e.2) else e)
  | v => v

/-- A value with another value at the place that some keys lead to. -/
def replaceAt : Value → List String → Value → Value
  | _, [], new => new
  | v, key :: keys, new => v.mapAt key (·.replaceAt keys new)

variable {v new : Value} {key k : String} {f : Value → Value}

theorem plain_of_isText (h : v.isText key = true) : v.plain = key := by
  cases v with
  | text s => exact beq_iff_eq.mp h
  | _ => exact nomatch h

theorem isMap_mapAt : (v.mapAt key f).isMap = v.isMap := by
  cases v <;> rfl

theorem isGiven_mapAt : (v.mapAt key f).isGiven = v.isGiven := by
  cases v with
  | map entries => simp [mapAt, isGiven]
  | _ => rfl

theorem get?_mapAt : (v.mapAt key f).get? k = (v.get? k).map (if k = key then f else id) := by
  cases v with
  | map entries =>
      induction entries with
      | nil => rfl
      | cons e entries ih =>
          simp only [mapAt, get?, List.map_cons, List.find?_cons] at ih ⊢
          have hkey : (if e.1.plain == key then (e.1, f e.2) else e).1 = e.1 := by
            split <;> rfl
          rw [hkey]
          cases hk : e.1.isText k with
          | false => exact ih
          | true =>
              rw [plain_of_isText hk]
              by_cases heq : k = key <;> simp [heq]
  | _ => rfl

end Value

namespace Document

theorem follow?_replaceAt {new : Value} : ∀ {place keys : List String} {v : Value},
    ¬place <+: keys → ¬keys <+: place → follow? (v.replaceAt place new) keys = follow? v keys
  | [], _, _, h, _ => absurd List.nil_prefix h
  | _ :: _, [], _, _, h => absurd List.nil_prefix h
  | key :: place, k :: keys, v, hplace, hkeys => by
      rw [follow?, follow?, Value.replaceAt, Value.get?_mapAt]
      by_cases heq : k = key
      · subst heq
        have hrest : ∀ w : Value, follow? (w.replaceAt place new) keys = follow? w keys := fun w =>
          follow?_replaceAt (fun h => hplace (List.cons_prefix_cons.mpr ⟨rfl, h⟩))
            fun h => hkeys (List.cons_prefix_cons.mpr ⟨rfl, h⟩)
        rw [if_pos rfl]
        cases v.get? k with
        | none => rfl
        | some w => exact hrest w
      · simp [heq]

/-! ## The content of a component schema -/

/-- The keys that lead to a component schema. -/
def placeOf (name : String) : List String := ["components", "schemas", name]

/-- A document in which the content of a component schema is empty. -/
def emptied (document : Value) (name : String) : Value :=
  document.replaceAt (placeOf name) (.map [])

/-- References that lead neither to a component schema, nor into it or to a part of the document
that it is in, and that do not end with its name. -/
def Avoids (name r : String) : Prop :=
  targetName (.text r) ≠ .ok name ∧ ∀ path, r.toList = '#' :: '/' :: path →
    ¬placeOf name <+: keys path ∧ ¬keys path <+: placeOf name

/-- Component schemas of which one is empty. -/
def withEmpty (schemas : List (String × Value)) (name : String) : List (String × Value) :=
  schemas.map fun e => if e.1 == name then (e.1, .map []) else e

theorem withEmpty_names (schemas : List (String × Value)) (name : String) :
    (withEmpty schemas name).map (·.1) = schemas.map (·.1) := by
  rw [withEmpty, List.map_map]
  refine List.map_congr_left fun e _ => ?_
  rw [Function.comp_apply]
  split <;> rfl

theorem eq_of_mem_withEmpty {schemas : List (String × Value)} {name : String} {e : String × Value}
    (he : e ∈ withEmpty schemas name) (hname : e.1 = name) : e.2 = .map [] := by
  obtain ⟨d, -, rfl⟩ := List.mem_map.mp he
  split at hname
  · rename_i hd
    rw [if_pos hd]
  · rename_i hd
    exact absurd (by simpa using hname) hd

theorem withEmpty_of_not_mem {schemas : List (String × Value)} {name : String}
    (h : name ∉ schemas.map (·.1)) : withEmpty schemas name = schemas := by
  have hsame : ∀ e ∈ schemas, (if e.1 == name then (e.1, .map []) else e) = id e := by
    intro e he
    have hne : e.1 ≠ name := fun heq => h (heq ▸ List.mem_map_of_mem he)
    exact if_neg (by simpa using hne)
  rw [withEmpty, List.map_congr_left hsame, List.map_id]

theorem withEmpty_split {before after : List (String × Value)} {name : String} {schema : Value}
    (h : ((before ++ (name, schema) :: after).map (·.1)).Nodup) :
    withEmpty (before ++ (name, schema) :: after) name =
      before ++ (name, .map []) :: after := by
  rw [List.map_append, List.map_cons, List.nodup_append, List.nodup_cons] at h
  obtain ⟨-, ⟨hafter, -⟩, happart⟩ := h
  have hbefore : name ∉ before.map (·.1) := fun hmem =>
    happart name hmem name List.mem_cons_self rfl
  have hself : withEmpty ((name, schema) :: after) name =
      (name, .map []) :: withEmpty after name := by simp [withEmpty]
  calc withEmpty (before ++ (name, schema) :: after) name
      = withEmpty before name ++ withEmpty ((name, schema) :: after) name := List.map_append
    _ = before ++ (name, .map []) :: after := by
        rw [hself, withEmpty_of_not_mem hbefore, withEmpty_of_not_mem hafter]

variable {document : Value} {name r : String}

theorem resolve_emptied (h : Avoids name r) :
    resolve (emptied document name) (.text r) = resolve document (.text r) := by
  unfold resolve
  dsimp only
  split
  · rename_i path hpath
    obtain ⟨hplace, hkeys⟩ := h.2 path hpath
    rw [emptied, follow?_replaceAt hplace hkeys]
  · rfl

theorem sectionOf_mapAt {v : Value} {key : String} {f : Value → Value}
    (hgiven : ∀ w, (f w).isGiven = w.isGiven) (hempty : f (.map []) = .map []) :
    sectionOf (v.mapAt key f) key = (sectionOf v key).map f := by
  unfold sectionOf member
  rw [Value.isMap_mapAt]
  split
  · have hget : (v.mapAt key f).get key = if (v.get? key).isSome then f (v.get key) else .null := by
      rw [Value.get, Value.get?_mapAt, if_pos rfl, Value.get]
      cases v.get? key <;> rfl
    rw [hget]
    cases hv : v.get? key with
    | none => simp [Value.get, hv, Except.map, hempty, Value.isGiven]
    | some w =>
        simp only [Value.get, hv, Option.isSome_some, if_true, Option.getD_some, Except.map, hgiven]
        split <;> simp [hempty]
  · rfl

/-- Emptying a component schema changes no other component schema, and none of their names. -/
theorem schemas_emptied :
    schemas (emptied document name) = (schemas document).map (withEmpty · name) := by
  have hcomponents : sectionOf (emptied document name) "components" =
      (sectionOf document "components").map (·.replaceAt ["schemas", name] (.map [])) :=
    sectionOf_mapAt (fun _ => Value.isGiven_mapAt) rfl
  have hschemas : ∀ components : Value,
      sectionOf (components.replaceAt ["schemas", name] (.map [])) "schemas" =
        (sectionOf components "schemas").map (·.replaceAt [name] (.map [])) := fun _ =>
    sectionOf_mapAt (fun _ => Value.isGiven_mapAt) rfl
  unfold schemas
  rw [hcomponents]
  cases sectionOf document "components" with
  | error f => rfl
  | ok components =>
      simp only [Except.map, bind, Except.bind]
      rw [hschemas]
      cases sectionOf components "schemas" with
      | error f => rfl
      | ok found =>
          simp only [Except.map]
          cases found with
          | map entries =>
              simp only [Value.replaceAt, Value.mapAt, withEmpty, pure, Except.pure, List.map_map]
              congr 1
              refine List.map_congr_left fun e _ => ?_
              simp only [Function.comp_apply]
              split <;> rfl
          | _ => rfl

end Document

end Typewright

/-
# References that are made from keys

A reference is made from keys by escaping each of them and putting a slash before it.  Reading it
gives the keys back (`keys_pointer`), so that it resolves to the mapping that they lead to and ends
with the last of them.  Escaping writes every tilde before anything but a zero or a one can follow
it; this is why the two replacements that undo it may be made one after the other over the whole key
(`unescape_escape`).

Whatever else stands where a reference should be, `resolution_complete` says what resolving it comes
to: a mapping that some keys lead to, or a problem with it.  Only a number that is too long to be
shown stops the telling of the problem.
-/
import Typewright.Proofs.Document.Reference

namespace Typewright

namespace Text

variable {c : Char} {new : List Char}

/-- Replacing one character works character by character. -/
theorem replaceChars_singleton (c : Char) (new : List Char) : ∀ s : List Char,
    replaceChars [c] new s = s.flatMap fun d => if d = c then new else [d]
  | [] => rfl
  | d :: r => by
      have ih := replaceChars_singleton c new r
      rw [replaceChars] at ih ⊢
      by_cases h : d = c
      · simp [replaceFrom, h, ih]
      · simp [replaceFrom, h, Ne.symm h, ih]

end Text

namespace Document

/-! ## Escaping -/

/-- A key as it is written in a reference. -/
def escape (key : List Char) : List Char :=
  Text.replaceChars ['/'] ['~', '1'] (Text.replaceChars ['~'] ['~', '0'] key)

/-- A character of a key as it is written in a reference. -/
def escapeChar (c : Char) : List Char :=
  if c = '~' then ['~', '0'] else if c = '/' then ['~', '1'] else [c]

theorem escape_eq_flatMap (key : List Char) : escape key = key.flatMap escapeChar := by
  have hchar : (fun c : Char => (if c = '~' then ['~', '0'] else [c]).flatMap
      fun d => if d = '/' then ['~', '1'] else [d]) = escapeChar := by
    funext c
    unfold escapeChar
    split
    · rfl
    · simp
  rw [escape, Text.replaceChars_singleton, Text.replaceChars_singleton, List.flatMap_assoc, hchar]

theorem not_mem_escape (key : List Char) : '/' ∉ escape key := by
  rw [escape_eq_flatMap, List.mem_flatMap]
  rintro ⟨c, -, hc⟩
  unfold escapeChar at hc
  split at hc
  · exact absurd hc (by decide)
  · split at hc
    · exact absurd hc (by decide)
    · rename_i hslash
      exact hslash (List.mem_singleton.mp hc).symm

/-- Undoing the slashes of an escaped key leaves its tildes escaped. -/
theorem replace_slashes : ∀ key : List Char,
    Text.replaceChars ['~', '1'] ['/'] (key.flatMap escapeChar) =
      key.flatMap fun c => if c = '~' then ['~', '0'] else [c]
  | [] => rfl
  | c :: key => by
      have ih := replace_slashes key
      rw [Text.replaceChars] at ih ⊢
      rw [List.flatMap_cons, List.flatMap_cons, ← ih, escapeChar]
      by_cases htilde : c = '~'
      · simp [htilde, Text.replaceFrom]
      · by_cases hslash : c = '/'
        · simp [hslash, Text.replaceFrom]
        · simp [htilde, hslash, Ne.symm htilde, Text.replaceFrom]

theorem replace_tildes : ∀ key : List Char,
    Text.replaceChars ['~', '0'] ['~']
      (key.flatMap fun c => if c = '~' then ['~', '0'] else [c]) = key
  | [] => rfl
  | c :: key => by
      have ih := replace_tildes key
      rw [Text.replaceChars] at ih ⊢
      rw [List.flatMap_cons]
      by_cases htilde : c = '~'
      · simp [htilde, Text.replaceFrom, ih]
      · simp [htilde, Ne.symm htilde, Text.replaceFrom, ih]

theorem unescape_escape (key : List Char) : unescape (escape key) = key := by
  rw [unescape, escape_eq_flatMap, replace_slashes, replace_tildes]

/-! ## References made from keys -/

/-- The reference that some keys are written as. -/
def pointer (keys : List String) : String :=
  "#/" ++ Text.join "/" (keys.map fun key => String.ofList (escape key.toList))

/-- The path of a reference that some keys are written as. -/
def path (keys : List String) : List Char :=
  (Text.join "/" (keys.map fun key => String.ofList (escape key.toList))).toList

theorem toList_pointer (keys : List String) : (pointer keys).toList = '#' :: '/' :: path keys := by
  simp [pointer, path]

theorem path_singleton (key : String) : path [key] = escape key.toList := by
  simp [path, Text.join]

theorem path_cons (key next : String) (rest : List String) :
    path (key :: next :: rest) = escape key.toList ++ '/' :: path (next :: rest) := by
  simp [path, Text.join]

theorem ofList_unescape_escape (key : String) :
    String.ofList (unescape (escape key.toList)) = key := by
  rw [unescape_escape, String.ofList_toList]

/-- The keys of a reference are those that it is made from. -/
theorem keys_path : ∀ {keys : List String}, keys ≠ [] → Document.keys (path keys) = keys
  | [], h => absurd rfl h
  | [key], _ => by
      rw [path_singleton, Document.keys, splitChar_of_not_mem (not_mem_escape _),
        List.map_singleton, ofList_unescape_escape]
  | key :: next :: rest, _ => by
      have ih := keys_path (List.cons_ne_nil next rest)
      rw [Document.keys] at ih ⊢
      rw [path_cons, splitChar_append (not_mem_escape _), List.map_cons, ih,
        ofList_unescape_escape]

/-- A reference made from keys ends with the last of them, after a slash. -/
theorem exists_path_append : ∀ {keys : List String} (h : keys ≠ []),
    ∃ before, '/' :: path keys = before ++ '/' :: escape (keys.getLast h).toList
  | [], h => absurd rfl h
  | [key], _ => ⟨[], by rw [path_singleton]; rfl⟩
  | key :: next :: rest, _ => by
      obtain ⟨before, hbefore⟩ := exists_path_append (List.cons_ne_nil next rest)
      refine ⟨'/' :: escape key.toList ++ before, ?_⟩
      rw [path_cons, hbefore, List.getLast_cons (List.cons_ne_nil next rest)]
      simp

theorem targetName_pointer {keys : List String} (h : keys ≠ []) :
    targetName (.text (pointer keys)) = .ok (keys.getLast h) := by
  obtain ⟨before, hbefore⟩ := exists_path_append h
  have hlast : (pointer keys).toList = ('#' :: before) ++ '/' :: escape (keys.getLast h).toList := by
    rw [toList_pointer, hbefore, List.cons_append]
  rw [targetName, hlast, lastSegment_append (not_mem_escape _), ofList_unescape_escape]

/-! ## What keys lead to -/

/-- Keys lead from a value, one mapping deeper with each of them, to another value. -/
inductive LeadTo : Value → List String → Value → Prop
  | here (v : Value) : LeadTo v [] v
  | down {v inner target : Value} {key : String} {keys : List String} :
      v.get? key = some inner → LeadTo inner keys target → LeadTo v (key :: keys) target

theorem follow?_eq_some_iff {target : Value} : ∀ {keys : List String} {v : Value},
    follow? v keys = some target ↔ LeadTo v keys target
  | [], v => by
      constructor
      · intro h
        obtain rfl := Option.some.inj h
        exact .here v
      · rintro ⟨⟩
        rfl
  | key :: keys, v => by
      rw [follow?, Option.bind_eq_some_iff]
      constructor
      · rintro ⟨inner, hinner, h⟩
        exact .down hinner (follow?_eq_some_iff.mp h)
      · rintro (_ | ⟨hinner, h⟩)
        exact ⟨_, hinner, follow?_eq_some_iff.mpr h⟩

/-- What a reference resolves to is a mapping that keys lead to. -/
theorem leadTo_of_resolve {document ref target : Value} (h : resolve document ref = .ok target) :
    target.isMap = true ∧ ∃ keys, keys ≠ [] ∧ LeadTo document keys target := by
  obtain ⟨_, path, _, _, hfollow, hmap⟩ := resolve_eq_ok h
  have hkeys : Document.keys path ≠ [] := fun hnil =>
    splitChar_ne_nil path (List.map_eq_nil_iff.mp hnil)
  exact ⟨hmap, _, hkeys, follow?_eq_some_iff.mp hfollow⟩

theorem resolve_pointer {document target : Value} {keys : List String} (hkeys : keys ≠ [])
    (hlead : LeadTo document keys target) (hmap : target.isMap = true) :
    resolve document (.text (pointer keys)) = .ok target := by
  unfold resolve
  simp only [toList_pointer, keys_path hkeys, follow?_eq_some_iff.mpr hlead, hmap, if_true]

/-! ## Whatever a reference is -/

/-- What resolving a reference comes to, where a problem with it is told. -/
def resolution (document ref : Value) : Except Failure Value :=
  (resolve document ref).mapError .ofReference

theorem resolution_of_ok {document ref target : Value} (h : resolve document ref = .ok target) :
    resolution document ref = .ok target := by
  rw [resolution, h]
  rfl

theorem resolution_of_error {document ref : Value} {broken : BrokenReference}
    (h : resolve document ref = .error broken) : resolution document ref =
      .error (if ref.hasText then .problem (.reference broken) else .fault .value) := by
  rw [← hasText_of_resolve h, resolution, h]
  rfl

/-- A reference made from keys that lead to a mapping resolves to this mapping, and ends with the last
key.  Whatever else is resolved gives a mapping that keys lead to, or a problem with the reference;
but where it is a number that is too long to be shown, or holds one, it ends in a fault. -/
theorem resolution_complete (document : Value) :
    (∀ (keys : List String) (target : Value) (h : keys ≠ []), LeadTo document keys target →
      target.isMap = true → resolution document (.text (pointer keys)) = .ok target ∧
        targetName (.text (pointer keys)) = .ok (keys.getLast h)) ∧
    ∀ ref : Value,
      (ref.hasText = true →
        (∃ target keys, resolution document ref = .ok target ∧ target.isMap = true ∧
          keys ≠ [] ∧ LeadTo document keys target) ∨
        ∃ broken, resolution document ref = .error (.problem (.reference broken))) ∧
      (ref.hasText = false → resolution document ref = .error (.fault .value)) := by
  refine ⟨fun keys target hkeys hlead hmap =>
    ⟨resolution_of_ok (resolve_pointer hkeys hlead hmap), targetName_pointer hkeys⟩,
    fun ref => ⟨fun htext => ?_, fun hno => ?_⟩⟩
  · cases h : resolve document ref with
    | ok target =>
        obtain ⟨hmap, keys, hkeys, hlead⟩ := leadTo_of_resolve h
        exact .inl ⟨target, keys, resolution_of_ok h, hmap, hkeys, hlead⟩
    | error broken => exact .inr ⟨broken, by rw [resolution_of_error h, htext, if_pos rfl]⟩
  · cases h : resolve document ref with
    | ok target =>
        obtain ⟨s, -, rfl, -⟩ := resolve_eq_ok h
        exact nomatch hno
    | error broken =>
        rw [resolution_of_error h, hno, if_neg Bool.false_ne_true]

/-- A document with a schema whose name has a slash and a tilde in it. -/
def slashedName : Value :=
  .record [("schemas", .record [("~1/", .record [("type", .text "string")])])]

theorem slashedName_resolves :
    resolution slashedName (.text "#/schemas/~01~1") = .ok (.record [("type", .text "string")]) ∧
      targetName (.text "#/schemas/~01~1") = .ok "~1/" ∧
      resolution slashedName (.int (Number.tenTo Number.maxDigits)) = .error (.fault .value) := by
  have hpointer : pointer ["schemas", "~1/"] = "#/schemas/~01~1" := by decide +kernel
  obtain ⟨hkeys, hany⟩ := resolution_complete slashedName
  obtain ⟨hresolves, hname⟩ := hkeys ["schemas", "~1/"] _ (List.cons_ne_nil _ _)
    (.down rfl (.down rfl (.here (.record [("type", .text "string")])))) rfl
  rw [hpointer] at hresolves hname
  exact ⟨hresolves, hname, (hany _).2 Number.hasText_tenTo⟩

end Document

end Typewright

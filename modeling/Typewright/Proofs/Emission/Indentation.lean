/-
# A namespace only indents a type

The lines of a wrapping type are written behind an indentation, each one by itself: four spaces inside of
a namespace, nothing outside of any.  It stands before every line that is not empty and before no empty
one, whatever lines there are (`indented_primitiveLines`).

What holds of lines is seen in a text only where no line has a line feed in it (`indentText_render`).
There is none in documentation, which is cut at the breaks of lines (`oneLine_of_mem_documentation`), and
none in the conditions of constraints, which name members and do not repeat values (`BecomeAll.oneLine`).
The name of the type and the declarations of its members are what is left to ask about.
-/
import Typewright.Proofs.Document.Reference
import Typewright.Proofs.Emission.Constants
import Typewright.Proofs.Name.Case
import Typewright.Proofs.Name.Fresh

namespace Typewright.Emission

variable {pad line a b : String} {lines : List String} {o : Options}

/-! ## Lines behind an indentation -/

theorem indented_append (pad : String) (lines lines' : List String) :
    indented pad (lines ++ lines') = indented pad lines ++ indented pad lines' :=
  List.map_append

theorem indented_onlyIf (pad : String) (c : Bool) (lines : List String) :
    indented pad (onlyIf c lines) = onlyIf c (indented pad lines) := by
  cases c <;> rfl

namespace CSharp

theorem indented_summary (pad : String) (doc : List String) :
    indented pad (summary "" doc) = summary pad doc := by
  unfold summary
  cases doc.isEmpty with
  | true => rfl
  | false => simp [indented, indentLine, String.append_assoc]

theorem indented_memberLines (pad : String) (o : Options) (m : Member) :
    indented pad (memberLines "" o m) = memberLines pad o m := by
  simp only [memberLines, indented_append, indented_onlyIf]
  simp [indented, indentLine, String.append_assoc]

/-- The indentation of a wrapping type stands before all of its lines that are not empty. -/
theorem indented_primitiveLines (pad : String) (o : Options) (t : DataType) (type : String)
    (cs : List Check) : indented pad (primitiveLines "" o t type cs) = primitiveLines pad o t type cs := by
  have hmembers : indented pad (cs.flatMap fun c => memberLines "" o c.member) =
      cs.flatMap fun c => memberLines pad o c.member := by
    rw [indented, List.map_flatMap]
    exact congrArg cs.flatMap (funext fun c => indented_memberLines pad o c.member)
  simp only [primitiveLines, indented_append, indented_onlyIf, indented_summary, hmembers]
  simp [indented, indentLine, String.append_assoc]

/-- The lines of a wrapping type are those of one outside of any namespace, put into the namespace. -/
theorem placedLines_eq (o : Options) (t : DataType) (type : String) (cs : List Check) :
    placedLines o t type cs = inNamespace o (primitiveLines "" o t type cs) := by
  unfold placedLines inNamespace
  cases namespaceGiven o with
  | none => rfl
  | some n => rw [indented_primitiveLines]

end CSharp

/-! ## Texts made of lines -/

/-- A text without a line feed. -/
def OneLine (s : String) : Prop := '\n' ∉ s.toList

instance (s : String) : Decidable (OneLine s) := inferInstanceAs (Decidable ('\n' ∉ s.toList))

@[simp]
theorem oneLine_append : OneLine (a ++ b) ↔ OneLine a ∧ OneLine b := by
  rw [OneLine, String.toList_append, List.mem_append, not_or]
  rfl

theorem oneLine_join (h : ∀ line ∈ lines, OneLine line) : OneLine (String.join lines) := by
  intro hmem
  rw [String.toList_join] at hmem
  obtain ⟨line, hline, hmem⟩ := List.mem_flatMap.mp hmem
  exact h line hline hmem

/-- The lines of a text are what stands between its line feeds; an indentation is put before each of
them that is not empty. -/
def indentText (pad s : String) : String := Text.join "\n" (indented pad (Text.split '\n' s))

theorem render_cons (line : String) (lines : List String) :
    render (line :: lines) = line ++ "\n" ++ render lines := by
  simp [render]

theorem render_append (lines lines' : List String) :
    render (lines ++ lines') = render lines ++ render lines' := by
  simp [render]

theorem render_enclosed (n : String) (lines : List String) :
    render (["namespace " ++ n, "\x7b"] ++ lines ++ ["\x7d"]) =
      "namespace " ++ n ++ "\n\x7b\n" ++ render lines ++ "\x7d\n" :=
  String.toList_inj.mp (by simp [render])

/-- A text made of lines has just these lines, and nothing after its last line feed. -/
theorem split_render (h : ∀ line ∈ lines, OneLine line) :
    Text.split '\n' (render lines) = lines ++ [""] := by
  induction lines with
  | nil => rfl
  | cons line lines ih =>
      obtain ⟨hline, hlines⟩ := List.forall_mem_cons.mp h
      have htext : (render (line :: lines)).toList = line.toList ++ '\n' :: (render lines).toList := by
        simp [render_cons]
      rw [Text.split, htext, Document.splitChar_append hline, List.map_cons, String.ofList_toList,
        ← Text.split, ih hlines, List.cons_append]

theorem join_append_empty (lines : List String) : Text.join "\n" (lines ++ [""]) = render lines := by
  induction lines with
  | nil => rfl
  | cons line lines ih =>
      rw [render_cons, ← ih]
      cases lines <;> rfl

/-- The text of some lines is indented by indenting the lines. -/
theorem indentText_render (h : ∀ line ∈ lines, OneLine line) :
    indentText pad (render lines) = render (indented pad lines) := by
  rw [indentText, split_render h, indented_append, ← join_append_empty]
  rfl

/-! ## Lines without line feeds -/

theorem not_isLineBreak_of_mem_lineChars {l s : List Char} {c : Char} (hl : l ∈ Text.lineChars s)
    (hc : c ∈ l) : ¬Text.isLineBreak c = true := by
  fun_induction Text.lineChars s generalizing l with
  | case1 => exact absurd hl List.not_mem_nil
  | case2 r ih =>
      rcases List.mem_cons.mp hl with rfl | hl
      · exact absurd hc List.not_mem_nil
      · exact ih hl hc
  | case3 d r _ _ ih =>
      rcases List.mem_cons.mp hl with rfl | hl
      · exact absurd hc List.not_mem_nil
      · exact ih hl hc
  | case4 d r _ hbreak hr ih =>
      rw [List.mem_singleton.mp hl, List.mem_singleton] at hc
      rwa [hc]
  | case5 d r _ hbreak m ms hr ih =>
      rw [hr] at ih
      rcases List.mem_cons.mp hl with rfl | hl
      · rcases List.mem_cons.mp hc with rfl | hc
        · exact hbreak
        · exact ih List.mem_cons_self hc
      · exact ih (List.mem_cons_of_mem _ hl) hc

theorem mem_of_mem_dropEndWhile {p : Char → Bool} {s : List Char} {c : Char}
    (h : c ∈ Text.dropEndWhile p s) : c ∈ s :=
  List.mem_reverse.mp ((List.dropWhile_sublist p).subset (List.mem_reverse.mp h))

/-- Documentation is cut at the breaks of its lines. -/
theorem oneLine_of_mem_documentation {description : Option String}
    (h : line ∈ documentation o description) : OneLine line := by
  rw [documentation] at h
  split at h
  · obtain ⟨l, hl, rfl⟩ := List.mem_map.mp h
    obtain ⟨cs, hcs, rfl⟩ := List.mem_map.mp hl
    intro hmem
    rw [Text.stripRight, String.toList_ofList, String.toList_ofList] at hmem
    exact not_isLineBreak_of_mem_lineChars hcs (mem_of_mem_dropEndWhile hmem) (by decide)
  · exact absurd h List.not_mem_nil

theorem oneLine_markup (h : OneLine line) : OneLine (markup line) := by
  intro hmem
  rw [markup, String.toList_ofList] at hmem
  obtain ⟨c, hc, hmem⟩ := List.mem_flatMap.mp hmem
  have hfeed : '\n' = c := by
    unfold markupChar at hmem
    split at hmem
    · exact absurd hmem (by decide)
    · split at hmem
      · exact absurd hmem (by decide)
      · split at hmem
        · exact absurd hmem (by decide)
        · exact List.mem_singleton.mp hmem
  exact h (hfeed ▸ hc)

theorem oneLine_fresh (taken : List String) (h : OneLine a) : OneLine (Name.fresh taken a) := by
  rcases Name.fresh_eq_or taken a with heq | ⟨k, heq⟩
  · rwa [heq]
  · rw [heq, OneLine, Name.toList_numbered, List.mem_append, not_or]
    exact ⟨h, fun hdigit => absurd (Name.isAsciiDigit_of_mem_toDigits hdigit) (by decide)⟩

namespace CSharp

variable {t : DataType} {type : String}

theorem typeOf_eq_ok (h : typeOf t = .ok type) : typeOf? t.kind = some type := by
  unfold typeOf at h
  split at h
  · cases h
    assumption
  · exact nomatch h

theorem oneLine_of_typeOf {k : Kind} (h : typeOf? k = some type) : OneLine type := by
  cases k <;> cases h <;> decide

theorem oneLine_memberBase (c : Constraint) : OneLine (memberBase c) := by
  cases c with
  | length side n => cases side <;> simp [memberBase, OneLine]
  | bound side value edge => cases side <;> simp [memberBase, Side.boundName, OneLine]
  | _ => simp [memberBase, OneLine]

theorem oneLine_comparison (side : Side) (edge : Edge) : OneLine (comparison side edge) := by
  cases side <;> cases edge <;> decide

/-- The condition of a constraint names its member, and repeats none of its values. -/
theorem Becomes.oneLine {name : String} {c : Constraint} {k : Check} (h : Becomes t type name c k)
    (hname : OneLine name) : OneLine k.member.marker ∧ OneLine k.condition := by
  have hbase := oneLine_memberBase c
  cases h with
  | pattern => exact ⟨hbase, oneLine_append.mpr ⟨hname, by decide⟩⟩
  | @length side =>
      have hcomparison := oneLine_comparison side .inclusive
      exact ⟨hbase, by simp +decide [hname, hcomparison]⟩
  | @bound side _ edge =>
      have hcomparison := oneLine_comparison side edge
      exact ⟨hbase, by simp +decide [hname, hcomparison]⟩
  | allowed => exact ⟨hbase, oneLine_append.mpr ⟨hname, by decide⟩⟩

theorem BecomeAll.oneLine {taken : List String} {cs : List Constraint} {made : List Check}
    (h : BecomeAll t type taken cs made) :
    ∀ k ∈ made, OneLine k.member.marker ∧ OneLine k.condition := by
  induction h with
  | nil => exact fun k hk => absurd hk List.not_mem_nil
  | required _ ih => exact ih
  | member hk _ ih =>
      exact List.forall_mem_cons.mpr ⟨hk.oneLine (oneLine_fresh _ (oneLine_memberBase _)), ih⟩

/-! ## Wrapping types -/

theorem forall_mem_onlyIf {p : String → Prop} (c : Bool) (h : ∀ line ∈ lines, p line) :
    ∀ line ∈ onlyIf c lines, p line := by
  cases c with
  | false => exact fun line hline => absurd hline List.not_mem_nil
  | true => exact h

theorem summary_oneLine {doc : List String} (h : ∀ line ∈ doc, OneLine line) :
    ∀ line ∈ summary "" doc, OneLine line := by
  unfold summary
  cases doc.isEmpty with
  | true => exact fun line hline => absurd hline List.not_mem_nil
  | false =>
      refine List.forall_mem_append.mpr ⟨List.forall_mem_append.mpr ⟨?_, ?_⟩, ?_⟩
      · exact List.forall_mem_singleton.mpr (by decide)
      · rw [List.forall_mem_map]
        exact fun line hline => oneLine_append.mpr ⟨by decide, oneLine_markup (h line hline)⟩
      · exact List.forall_mem_singleton.mpr (by decide)

theorem memberLines_oneLine {m : Member} (hmarker : OneLine m.marker)
    (hdeclaration : OneLine m.declaration) : ∀ line ∈ memberLines "" o m, OneLine line := by
  refine List.forall_mem_append.mpr ⟨forall_mem_onlyIf _ ?_, ?_⟩
  · rw [List.forall_mem_singleton, oneLine_append, oneLine_append]
    exact ⟨⟨by decide, hmarker⟩, by decide⟩
  · rw [List.forall_mem_cons, List.forall_mem_singleton, oneLine_append]
    exact ⟨⟨by decide, hdeclaration⟩, by decide⟩

/-- The lines of a wrapping type have line feeds in them only from the name of the type and from the
declarations of its members. -/
theorem primitiveLines_oneLine {cs : List Check} (hname : OneLine t.name) (htype : OneLine type)
    (hcs : ∀ k ∈ cs, OneLine k.member.marker ∧ OneLine k.condition)
    (hdeclarations : ∀ k ∈ cs, OneLine k.member.declaration) :
    ∀ line ∈ primitiveLines "" o t type cs, OneLine line := by
  have hconditions : OneLine (String.join (cs.map fun c => " && " ++ c.condition)) := by
    refine oneLine_join (List.forall_mem_map.mpr fun k hk => ?_)
    exact oneLine_append.mpr ⟨by decide, (hcs k hk).2⟩
  have hmembers : ∀ line ∈ cs.flatMap (fun c => memberLines "" o c.member), OneLine line := by
    intro line hline
    obtain ⟨k, hk, hline⟩ := List.mem_flatMap.mp hline
    exact memberLines_oneLine (hcs k hk).1 (hdeclarations k hk) line hline
  have hsummary := summary_oneLine fun line (hline : line ∈ documentation o t.description) =>
    oneLine_of_mem_documentation hline
  have hshown : OneLine (if type = "string" then "value" else "value.ToString()") := by
    split <;> decide
  simp only [primitiveLines, List.forall_mem_append]
  refine ⟨⟨⟨⟨⟨⟨hsummary, forall_mem_onlyIf _ ?_⟩, ?_⟩, hmembers⟩, ?_⟩, forall_mem_onlyIf _ ?_⟩, ?_⟩
  all_goals simp +decide [hname, htype, hconditions, hshown]

/-! ## Files -/

/-- What does not depend on any options: the type of the values of a wrapping type, and what its
constraints become. -/
def translated (t : DataType) : Except EmissionFailure (String × List Check) :=
  if t.isReference then .error (.problem ⟨.reference, t.name, .csharp⟩)
  else do
    let type ← typeOf t
    let cs ← checks t [t.name, "Value", "TryCreate", "Create"] t.constraints
    return (type, cs)

/-- The members that the constraints of a type become, as they are declared. -/
def declarations (t : DataType) : List String :=
  match checks t [t.name, "Value", "TryCreate", "Create"] t.constraints with
  | .error _ => []
  | .ok cs => cs.map (·.member.declaration)

/-- The file of a type, with some text in it. -/
def fileOf (t : DataType) (text : String) : Artifact := ⟨t.name, pathOf .csharp t.name, text⟩

/-- The header of a file and the namespaces that it uses. -/
def front (o : Options) (t : DataType) : String :=
  render (opening o t.name (usings o (primitiveUsings t)))

theorem primitive_eq_map (o : Options) (t : DataType) :
    Emission.primitive .csharp o t = (translated t).map fun p =>
      fileOf t (front o t ++ render (placedLines o t p.1 p.2)) := by
  unfold Emission.primitive CSharp.primitive translated
  cases t.isReference with
  | true => rfl
  | false =>
      cases typeOf t with
      | error f => rfl
      | ok type =>
          cases checks t [t.name, "Value", "TryCreate", "Create"] t.constraints with
          | error f => rfl
          | ok cs => exact congrArg (fun text => Except.ok (fileOf t text)) (render_append _ _)

theorem translated_oneLine {cs : List Check} (h : translated t = .ok (type, cs))
    (hname : OneLine t.name) (hdeclarations : ∀ d ∈ declarations t, OneLine d) :
    ∀ line ∈ primitiveLines "" o t type cs, OneLine line := by
  rw [translated] at h
  split at h
  · exact nomatch h
  · obtain ⟨type', htype, h⟩ := of_bind_eq_ok h
    obtain ⟨cs', hcs, h⟩ := of_bind_eq_ok h
    cases h
    rw [declarations, hcs, List.forall_mem_map] at hdeclarations
    exact primitiveLines_oneLine hname (oneLine_of_typeOf (typeOf_eq_ok htype))
      (checks_become htype hcs).oneLine hdeclarations

/-- What a wrapping type is written as depends on the namespace in nothing but this: behind the header
and the namespaces that are used, the whole text of the type is indented by four spaces, and enclosed in
the namespace.  Where no file comes of a type, the reason is the same with a namespace and without. -/
theorem namespace_indents {n : String} (hgiven : namespaceGiven o = some n) (hname : OneLine t.name)
    (hdeclarations : ∀ d ∈ declarations t, OneLine d) :
    ∃ body : Except EmissionFailure String,
      Emission.primitive .csharp { o with namespaceName := none } t =
        body.map (fun s => fileOf t (front o t ++ s)) ∧
      Emission.primitive .csharp o t = body.map fun s => fileOf t
        (front o t ++ "namespace " ++ n ++ "\n\x7b\n" ++ indentText "    " s ++ "\x7d\n") := by
  refine ⟨(translated t).map fun p => render (primitiveLines "" o t p.1 p.2), ?_, ?_⟩
  · rw [primitive_eq_map]
    cases translated t <;> rfl
  · rw [primitive_eq_map]
    cases h : translated t with
    | error f => rfl
    | ok p =>
        have hlines := translated_oneLine (o := o) h hname hdeclarations
        have htext : front o t ++ render (placedLines o t p.1 p.2) = front o t ++ "namespace " ++ n ++
            "\n\x7b\n" ++ indentText "    " (render (primitiveLines "" o t p.1 p.2)) ++ "\x7d\n" := by
          rw [placedLines_eq, inNamespace, hgiven, indentText_render hlines]
          dsimp only
          rw [render_enclosed]
          simp only [String.append_assoc]
        exact congrArg (fun text => Except.ok (fileOf t text)) htext

/-- A type with a pattern, a length and a description of three lines, of which one is empty. -/
def postcode : DataType where
  name := "Postcode"
  kind := .string
  constraints := [.pattern "^[A-Z0-9 ]+$", .length .upper 8]
  description := some "Where mail is sorted:\n\nin upper case, <with> its space."

/-- Options with a namespace, a header and one more namespace to use. -/
def shop : Options where
  namespaceName := some "Shop.Types"
  fileHeader := some "\x7bname\x7d in \x7blanguage\x7d"
  imports := ["Shop.Shared"]

theorem postcode_indented :
    namespaceGiven shop = some "Shop.Types" ∧ OneLine postcode.name ∧
      (∀ d ∈ declarations postcode, OneLine d) ∧
      ∃ s, Emission.primitive .csharp { shop with namespaceName := none } postcode =
          .ok (fileOf postcode (front shop postcode ++ s)) ∧
        Emission.primitive .csharp shop postcode = .ok (fileOf postcode (front shop postcode ++
          "namespace " ++ "Shop.Types" ++ "\n\x7b\n" ++ indentText "    " s ++ "\x7d\n")) := by
  have hgiven : namespaceGiven shop = some "Shop.Types" := by decide
  have hname : OneLine postcode.name := by decide
  have hdeclarations : ∀ d ∈ declarations postcode, OneLine d := by decide +kernel
  have hok : (Emission.primitive .csharp shop postcode).isOk = true := by decide +kernel
  obtain ⟨body, hbare, hplaced⟩ := namespace_indents hgiven hname hdeclarations
  refine ⟨hgiven, hname, hdeclarations, ?_⟩
  cases body with
  | error f =>
      rw [hplaced] at hok
      exact nomatch hok
  | ok s => exact ⟨s, hbare, hplaced⟩

end CSharp

end Typewright.Emission

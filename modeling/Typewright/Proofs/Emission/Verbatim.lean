/-
# No pattern ends its literal early

A verbatim literal of C# has one rule: two quotes next to each other stand for one, and the first quote
that stands alone ends the literal (`verbatimBody?`).  A run of quotes is read from its front, two by two,
so whether the last quote of a literal is alone depends on all quotes before it.  That every quote of a
text is written twice leaves an even number of them in front of the closing one, character by character
(`verbatimBody?_written`), and the closing quote stands alone just if what follows is no quote.

There is one such literal in each declaration of a regular expression.  In front of it no other quote
can stand, since the name is an identifier, and behind it comes a comma (`WritesPattern.reads`).  So the
reader of a declaration finds the pattern and the code around it, whatever is in the pattern and whatever
follows.
-/
import Mathlib.Data.List.DropRight
import Typewright.Proofs.Emission.Declarations
import Typewright.Proofs.Name.Identifier

namespace Typewright

/-- The patterns of a constraint. -/
def Constraint.patterns : Constraint → List String
  | .pattern regex => [regex]
  | _ => []

/-- The patterns that the constraints of a type demand, in their order. -/
def DataType.patterns (t : DataType) : List String := t.constraints.flatMap (·.patterns)

namespace Emission.CSharp

/-! ## Verbatim literals -/

/-- What a verbatim literal denotes and what follows it, from behind its opening quote: two quotes next
to each other stand for one, and the first quote that stands alone ends the literal. -/
def verbatimBody? : List Char → Option (List Char × List Char)
  | [] => none
  | '"' :: '"' :: r => (verbatimBody? r).map fun (s, rest) => ('"' :: s, rest)
  | '"' :: r => some ([], r)
  | c :: r => (verbatimBody? r).map fun (s, rest) => (c :: s, rest)

/-- What stands in front of the first quote of a text, what the verbatim literal with that quote denotes,
and what follows the literal. -/
def firstVerbatim? : List Char → Option (List Char × List Char × List Char)
  | [] => none
  | '@' :: '"' :: r => (verbatimBody? r).map fun (s, rest) => ([], s, rest)
  | '"' :: _ => none
  | c :: r => (firstVerbatim? r).map fun (front, s, rest) => (c :: front, s, rest)

section Literal

variable {w front s rest : List Char} {c : Char}

theorem verbatimChar_plain (hc : c ≠ '"') : verbatimChar c = [c] := by
  simp [verbatimChar, hc]

theorem verbatimBody?_doubled (w : List Char) : verbatimBody? ('"' :: '"' :: w) =
    (verbatimBody? w).map fun (s, rest) => ('"' :: s, rest) := rfl

theorem verbatimBody?_plain (hc : c ≠ '"') : verbatimBody? (c :: w) =
    (verbatimBody? w).map fun (s, rest) => (c :: s, rest) := by
  simp [verbatimBody?, hc]

theorem verbatimBody?_end (h : rest.head? ≠ some '"') :
    verbatimBody? ('"' :: rest) = some ([], rest) := by
  cases rest with
  | nil => rfl
  | cons c rest => simp_all [verbatimBody?]

/-- What is written for the characters of a text is read as these characters, up to the first quote
behind them. -/
theorem verbatimBody?_written (s : List Char) (h : rest.head? ≠ some '"') :
    verbatimBody? (s.flatMap verbatimChar ++ '"' :: rest) = some (s, rest) := by
  induction s with
  | nil => exact verbatimBody?_end h
  | cons c s ih =>
      by_cases hc : c = '"'
      · subst hc
        show verbatimBody? ('"' :: '"' :: (s.flatMap verbatimChar ++ '"' :: rest)) = _
        rw [verbatimBody?_doubled, ih]
        rfl
      · rw [List.flatMap_cons, verbatimChar_plain hc, List.append_assoc, List.singleton_append,
          verbatimBody?_plain hc, ih]
        rfl

/-- Only what is written for the characters of a text is read as these. -/
theorem eq_of_verbatimBody? (h : verbatimBody? w = some (s, rest)) :
    w = s.flatMap verbatimChar ++ '"' :: rest ∧ rest.head? ≠ some '"' := by
  fun_induction verbatimBody? w generalizing s with
  | case1 => exact nomatch h
  | case2 r ih =>
      obtain ⟨⟨u, rest'⟩, hread, heq⟩ := Option.map_eq_some_iff.mp h
      cases heq
      obtain ⟨rfl, hrest⟩ := ih hread
      exact ⟨rfl, hrest⟩
  | case3 r hr =>
      cases h
      refine ⟨rfl, fun hhead => ?_⟩
      obtain ⟨r', rfl⟩ := List.head?_eq_some_iff.mp hhead
      exact hr r' rfl
  | case4 c r _ hc ih =>
      obtain ⟨⟨u, rest'⟩, hread, heq⟩ := Option.map_eq_some_iff.mp h
      cases heq
      obtain ⟨rfl, hrest⟩ := ih hread
      refine ⟨?_, hrest⟩
      rw [List.flatMap_cons, verbatimChar_plain hc]
      rfl

theorem verbatimChars_append (s rest : List Char) :
    verbatimChars s ++ rest = '@' :: '"' :: (s.flatMap verbatimChar ++ '"' :: rest) := by
  simp [verbatimChars]

theorem firstVerbatim?_plain (hc : c ≠ '"') (hw : w.head? ≠ some '"') : firstVerbatim? (c :: w) =
    (firstVerbatim? w).map fun (front, s, rest) => (c :: front, s, rest) := by
  cases w <;> simp_all [firstVerbatim?]

/-- A literal is found behind anything that has no quote in it. -/
theorem firstVerbatim?_behind (hfront : '"' ∉ front) (h : rest.head? ≠ some '"') :
    firstVerbatim? (front ++ (verbatimChars s ++ rest)) = some (front, s, rest) := by
  induction front with
  | nil =>
      rw [List.nil_append, verbatimChars_append]
      show (verbatimBody? _).map _ = _
      rw [verbatimBody?_written s h]
      rfl
  | cons c front ih =>
      rw [List.mem_cons, not_or] at hfront
      have hnext : (front ++ (verbatimChars s ++ rest)).head? ≠ some '"' := by
        cases front with
        | nil => exact nofun
        | cons d front => exact fun hd => hfront.2 (List.mem_of_mem_head? hd)
      rw [List.cons_append, firstVerbatim?_plain (Ne.symm hfront.1) hnext, ih hfront.2]
      rfl

theorem eq_of_firstVerbatim? (h : firstVerbatim? w = some (front, s, rest)) :
    w = front ++ (verbatimChars s ++ rest) ∧ '"' ∉ front ∧ rest.head? ≠ some '"' := by
  fun_induction firstVerbatim? w generalizing front with
  | case1 => exact nomatch h
  | case2 r =>
      obtain ⟨⟨u, rest'⟩, hread, heq⟩ := Option.map_eq_some_iff.mp h
      cases heq
      obtain ⟨rfl, hrest⟩ := eq_of_verbatimBody? hread
      exact ⟨(verbatimChars_append s rest).symm, List.not_mem_nil, hrest⟩
  | case3 r => exact nomatch h
  | case4 c r _ hc ih =>
      obtain ⟨⟨front', u, rest'⟩, hread, heq⟩ := Option.map_eq_some_iff.mp h
      cases heq
      obtain ⟨rfl, hfront, hrest⟩ := ih hread
      refine ⟨rfl, ?_, hrest⟩
      rw [List.mem_cons, not_or]
      exact ⟨Ne.symm hc, hfront⟩

theorem firstVerbatim?_eq_some_iff : firstVerbatim? w = some (front, s, rest) ↔
    w = front ++ (verbatimChars s ++ rest) ∧ '"' ∉ front ∧ rest.head? ≠ some '"' :=
  ⟨eq_of_firstVerbatim?, fun ⟨hw, hfront, hrest⟩ => hw ▸ firstVerbatim?_behind hfront hrest⟩

end Literal

/-! ## Declarations of regular expressions -/

/-- What stands in front of the pattern in the declaration of a regular expression. -/
def regexFront (pad name : String) : String :=
  pad ++ "private static readonly Regex " ++ name ++ " = new("

/-- What stands behind the pattern in the declaration of a regular expression. -/
def regexBack : String := ", RegexOptions.Compiled);"

/-- Whether a line of a file declares a regular expression: it starts with the type of one, and unlike
a constructor it ends in a semicolon. -/
def declaresRegex (line : String) : Bool :=
  "private static readonly Regex ".toList.isPrefixOf (line.toList.dropWhile (· == ' ')) &&
    line.toList.getLast? == some ';'

/-- A line declares a regular expression under the name of an identifier, with a pattern. -/
def WritesPattern (line pattern : String) : Prop :=
  ∃ pad name, (∀ c ∈ pad.toList, c = ' ') ∧ Name.isPlainIdentifier name.toList = true ∧
    line = regexFront pad name ++ verbatim pattern ++ regexBack

/-- A reader finds the declaration of a regular expression in a line, whatever follows the line: the
first literal denotes the pattern, and what stands around it is the code of the declaration. -/
def ReadsPattern (line pattern : String) : Prop :=
  ∃ pad name, (∀ c ∈ pad.toList, c = ' ') ∧ Name.isPlainIdentifier name.toList = true ∧
    ∀ rest, firstVerbatim? (line.toList ++ rest) =
      some ((regexFront pad name).toList, pattern.toList, regexBack.toList ++ rest)

section Lines

variable {line pattern pad name : String}

theorem quote_not_mem_regexFront (hpad : ∀ c ∈ pad.toList, c = ' ')
    (hname : Name.isPlainIdentifier name.toList = true) : '"' ∉ (regexFront pad name).toList := by
  have hquote : Name.isNameChar '"' = false := by decide
  have hfree : '"' ∉ name.toList := by
    intro hmem
    rw [Name.isPlainIdentifier_all hname '"' hmem] at hquote
    exact nomatch hquote
  have hblank : '"' ∉ pad.toList := fun hmem => absurd (hpad '"' hmem) (by decide)
  simp [regexFront, hfree, hblank]

theorem WritesPattern.reads (h : WritesPattern line pattern) : ReadsPattern line pattern := by
  obtain ⟨pad, name, hpad, hname, rfl⟩ := h
  refine ⟨pad, name, hpad, hname, fun rest => ?_⟩
  have hcomma : (regexBack.toList ++ rest).head? ≠ some '"' := by simp [regexBack]
  have htext : (regexFront pad name ++ verbatim pattern ++ regexBack).toList ++ rest =
      (regexFront pad name).toList ++ (verbatimChars pattern.toList ++ (regexBack.toList ++ rest)) := by
    simp only [verbatim, String.toList_append, String.toList_ofList, List.append_assoc]
  rw [htext]
  exact firstVerbatim?_behind (quote_not_mem_regexFront hpad hname) hcomma

theorem WritesPattern.declaresRegex (h : WritesPattern line pattern) : declaresRegex line = true := by
  obtain ⟨pad, name, hpad, -, rfl⟩ := h
  have hblank : ∀ c ∈ pad.toList, (c == ' ') = true := fun c hc => beq_iff_eq.mpr (hpad c hc)
  have hend : regexBack.toList.getLast? = some ';' := by decide
  simp only [CSharp.declaresRegex, regexFront, String.toList_append, List.append_assoc,
    List.dropWhile_append_of_pos hblank, List.getLast?_append, hend]
  simp

theorem WritesPattern.filter (h : WritesPattern line pattern) :
    List.Forall₂ WritesPattern ([line].filter CSharp.declaresRegex) [pattern] := by
  rw [List.filter_cons_of_pos h.declaresRegex]
  exact .cons h .nil

theorem WritesPattern.indented (h : WritesPattern line pattern) :
    WritesPattern (indentLine "    " line) pattern := by
  obtain ⟨pad, name, hpad, hname, rfl⟩ := h
  refine ⟨"    " ++ pad, name, ?_, hname, ?_⟩
  · rw [String.toList_append, List.forall_mem_append]
    exact ⟨by simp, hpad⟩
  · simp [indentLine, regexFront, String.append_assoc]

/-- Neither empty lines declare regular expressions, nor lines that start with something else. -/
theorem not_declaresRegex (h : ∀ c ∈ line.toList.head?, c ≠ ' ' ∧ c ≠ 'p') :
    declaresRegex line = false := by
  cases hline : line.toList with
  | nil => simp [declaresRegex, hline]
  | cons c r =>
      obtain ⟨hblank, hp⟩ := h c (by rw [hline]; rfl)
      simp [declaresRegex, hline, hblank, Ne.symm hp]

theorem declaresRegex_indentLine (line : String) :
    declaresRegex (indentLine "    " line) = declaresRegex line := by
  by_cases hline : line = ""
  · subst hline
    rfl
  · obtain ⟨s, c, hlast⟩ : ∃ s c, line.toList = s ++ [c] := by
      refine ⟨_, _, (List.dropLast_append_getLast ?_).symm⟩
      simpa using hline
    simp [indentLine, hline, declaresRegex, hlast, List.getLast?_cons]

end Lines

section Types

variable {o : Options} {t : DataType}

theorem filter_indented (lines : List String) :
    (indented "    " lines).filter declaresRegex = indented "    " (lines.filter declaresRegex) := by
  have hsame : declaresRegex ∘ indentLine "    " = declaresRegex := funext declaresRegex_indentLine
  rw [indented, List.filter_map, hsame]
  rfl

theorem not_declaresRegex_header {name line : String} (h : line ∈ header .csharp o name) :
    declaresRegex line = false := by
  unfold header at h
  split at h
  · exact absurd h List.not_mem_nil
  · obtain ⟨l, -, rfl⟩ := List.mem_map.mp h
    -- what is left of a comment line starts as the line does
    have hstart : (Text.stripRight ("//" ++ " " ++ l)).toList <+: '/' :: '/' :: ' ' :: l.toList := by
      rw [Text.stripRight, String.toList_ofList, String.toList_append]
      exact List.rdropWhile_prefix Text.isBlank _
    refine not_declaresRegex fun c hc => ?_
    obtain ⟨r, hr⟩ := List.head?_eq_some_iff.mp hc
    rw [show Language.csharp.commentMark = "//" from rfl] at hr
    rw [hr, List.cons_prefix_cons] at hstart
    rw [hstart.1]
    decide

/-- The header of a file and the namespaces that it uses declare nothing. -/
theorem filter_opening (o : Options) (name : String) (used : List String) :
    (opening o name used).filter declaresRegex = [] := by
  have hspaced {lines : List String} (h : ∀ line ∈ lines, declaresRegex line = false) :
      (spaced lines).filter declaresRegex = [] := by
    have hlines : lines.filter declaresRegex = [] :=
      List.filter_eq_nil_iff.mpr fun line hline => by simp [h line hline]
    have hblank : declaresRegex "" = false := by decide
    unfold spaced
    split
    · rfl
    · rw [List.filter_append, hlines, List.filter_singleton, hblank]
      rfl
  rw [opening, List.filter_append, hspaced, hspaced, List.append_nil]
  · intro line hline
    obtain ⟨u, -, rfl⟩ := List.mem_map.mp hline
    exact not_declaresRegex (by simp)
  · exact fun line => not_declaresRegex_header

theorem filter_summary_regex (doc : List String) : (summary "" doc).filter declaresRegex = [] := by
  refine List.filter_eq_nil_iff.mpr fun line hline => ?_
  obtain ⟨rest, rfl⟩ := eq_of_mem_summary hline
  simp [declaresRegex]

/-- A member is the only line of its block that can declare a regular expression. -/
theorem filter_memberLines_regex (o : Options) (m : Member) :
    (memberLines "" o m).filter declaresRegex = ["    " ++ m.declaration].filter declaresRegex := by
  have hblank : declaresRegex "" = false := by decide
  have hmarker : declaresRegex ("    [" ++ m.marker ++ "]") = false := by simp [declaresRegex]
  simp only [memberLines, String.empty_append, List.filter_append, filter_onlyIf]
  simp [hblank, hmarker, onlyIf_nil, List.filter_cons]

theorem filter_primitiveLines_regex (o : Options) (t : DataType) (type : String) (cs : List Check) :
    (primitiveLines "" o t type cs).filter declaresRegex =
      (cs.flatMap fun k => memberLines "" o k.member).filter declaresRegex := by
  -- a constructor starts with a name of its own, but does not end as a declaration of a member
  have hconstructor (start : String) : declaresRegex (start ++ " value)") = false := by
    simp [declaresRegex]
  have hname := hconstructor ("    private " ++ t.name ++ "(" ++ type)
  simp only [primitiveLines, String.empty_append, List.filter_append, filter_onlyIf,
    filter_summary_regex]
  simpa [List.filter_cons, onlyIf_nil, declaresRegex] using hname

/-- What a constraint becomes declares a regular expression just if the constraint is a pattern. -/
theorem Becomes.patterns {type : String} {taken : List String} {c : Constraint} {k : Check}
    (h : Becomes t type (Name.fresh taken (memberBase c)) c k) : List.Forall₂ WritesPattern
      (["    " ++ k.member.declaration].filter declaresRegex) c.patterns := by
  cases h with
  | pattern =>
      have hname := Name.isPlainIdentifier_fresh taken (n := "Pattern") (by decide)
      refine WritesPattern.filter ⟨"    ", _, by simp, hname, ?_⟩
      simp only [regexFront, regexBack, memberBase, String.append_assoc]
  | length => simp [declaresRegex, Constraint.patterns]
  | bound => simp [declaresRegex, Constraint.patterns]
  | allowed => simp [declaresRegex, Constraint.patterns]

/-- The declarations of regular expressions among the constants of a type have its patterns, one after
the other. -/
theorem BecomeAll.patterns {type : String} {taken : List String} {cs : List Constraint}
    {made : List Check} (h : BecomeAll t type taken cs made) : List.Forall₂ WritesPattern
      ((made.flatMap fun k => memberLines "" o k.member).filter declaresRegex)
      (cs.flatMap (·.patterns)) := by
  induction h with
  | nil => exact .nil
  | required _ ih => exact ih
  | member hk _ ih =>
      rw [List.flatMap_cons, List.filter_append, filter_memberLines_regex, List.flatMap_cons]
      exact List.rel_append hk.patterns ih

/-- The lines of a wrapping type declare a regular expression for each of its patterns. -/
theorem placedLines_patterns {type : String} {taken : List String} {cs : List Check}
    (h : BecomeAll t type taken t.constraints cs) :
    List.Forall₂ WritesPattern ((placedLines o t type cs).filter declaresRegex) t.patterns := by
  have hbody := h.patterns (o := o)
  rw [← filter_primitiveLines_regex o t type] at hbody
  rw [placedLines_eq]
  unfold inNamespace
  split
  · exact hbody
  · rename_i n _
    have hopen : ["namespace " ++ n, "\x7b"].filter declaresRegex = [] := by
      simp [declaresRegex]
    have hclose : ["\x7d"].filter declaresRegex = [] := by decide
    rw [List.filter_append, List.filter_append, hopen, hclose, filter_indented, List.append_nil,
      List.nil_append, indented, List.forall₂_map_left_iff]
    exact hbody.imp fun _ _ hline => hline.indented

end Types

/-- The verbatim literal of a text ends at its last character and denotes the text, and this is the only
literal that does, in front of anything but a quote.  So no pattern ends its literal early: the
declarations of regular expressions in the file of a type are read, one by one, as the declarations of
its patterns. -/
theorem verbatim_denotes (s : String) (o : Options) (t : DataType) :
    firstVerbatim? (verbatim s).toList = some ([], s.toList, []) ∧
      (∀ w rest, firstVerbatim? w = some ([], s.toList, rest) ↔
        w = (verbatim s).toList ++ rest ∧ rest.head? ≠ some '"') ∧
      ∀ a, Emission.primitive .csharp o t = .ok a → ∃ lines, CSharp.primitive o t = .ok lines ∧
        a.content = render lines ∧
          List.Forall₂ ReadsPattern (lines.filter declaresRegex) t.patterns := by
  have hread (w rest : List Char) : firstVerbatim? w = some ([], s.toList, rest) ↔
      w = (verbatim s).toList ++ rest ∧ rest.head? ≠ some '"' := by
    rw [firstVerbatim?_eq_some_iff, List.nil_append, verbatim, String.toList_ofList]
    simp
  refine ⟨(hread _ []).mpr ⟨(List.append_nil _).symm, nofun⟩, hread, fun a ha => ?_⟩
  obtain ⟨type, cs, lines, -, hbecome, rfl, hlines, hcontent⟩ := primitive_ok ha
  refine ⟨_, hlines, hcontent, ?_⟩
  rw [List.filter_append, filter_opening, List.nil_append]
  exact (placedLines_patterns hbecome).imp fun _ _ hline => hline.reads

/-- Two quotes next to each other go on with the literal, and the first one that stands alone ends it. -/
example : firstVerbatim? "f(@\"a\"\"b\", \"c\")".toList =
    some ("f(".toList, "a\"b".toList, ", \"c\")".toList) := by decide

/-- A type with patterns that have quotes at their ends and in a row, a backslash and a line feed. -/
def quotedCode : DataType where
  name := "Code"
  kind := .string
  constraints := [.pattern "\"\"a\\\n\"\"\"", .required, .pattern "\""]

theorem quotedCode_read :
    ∃ a lines, Emission.primitive .csharp { namespaceName := some "Codes" } quotedCode = .ok a ∧
      CSharp.primitive { namespaceName := some "Codes" } quotedCode = .ok lines ∧
        a.content = render lines ∧ List.Forall₂ ReadsPattern (lines.filter declaresRegex)
          ["\"\"a\\\n\"\"\"", "\""] := by
  have hok : (Emission.primitive .csharp { namespaceName := some "Codes" } quotedCode).isOk = true := by
    decide +kernel
  obtain ⟨-, -, hread⟩ := verbatim_denotes "\"" { namespaceName := some "Codes" } quotedCode
  cases h : Emission.primitive .csharp { namespaceName := some "Codes" } quotedCode with
  | error f =>
      rw [h] at hok
      exact nomatch hok
  | ok a =>
      obtain ⟨lines, hlines, hcontent, hpatterns⟩ := hread a h
      exact ⟨a, lines, rfl, hlines, hcontent, hpatterns⟩

end Emission.CSharp

end Typewright

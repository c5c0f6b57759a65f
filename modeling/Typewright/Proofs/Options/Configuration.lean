/-
# What becomes of a configuration

A configuration names options in several spellings; of two keys that spell one name the later one
counts (`lookup_settingsOf`).  Its options are checked in turn and the first that is of a wrong kind is
told (`checkKinds_settingsOf`), so that what is left when no problem was found is of kinds that options
can be made of (`replace_of_problems`).

Three things remain that no check is made for: a key that is too long to be shown, a value of a wrong
kind that is too long to be shown, and imports that are null.  `ofValue_complete` says that these, and
only these, end in a fault.
-/
import Typewright.Options.Basic
import Typewright.Proofs.Store.History

namespace Typewright.Options

variable {entries : List (Value × Value)} {settings : Settings} {name : String} {v : Value}

/-! ## What is given for an option -/

/-- The value that a configuration gives an option: that of the last key that spells its name. -/
def given? (entries : List (Value × Value)) (name : String) : Option Value :=
  (entries.reverse.find? fun e => plainName e.1.plain == name).map (·.2)

theorem set_eq_put (name : String) (v : Value) (settings : Settings) :
    settings.set name v = Named.put name v settings := by
  induction settings with
  | nil => rfl
  | cons s rest ih => rw [Settings.set, Named.put, ih]

theorem settingsOf_concat (entries : List (Value × Value)) (e : Value × Value) :
    settingsOf (entries ++ [e]) = Named.put (plainName e.1.plain) e.2 (settingsOf entries) := by
  rw [settingsOf, List.foldl_append, List.foldl_cons, List.foldl_nil, set_eq_put, settingsOf]

/-- A setting is what the configuration gives for it. -/
theorem lookup_settingsOf (entries : List (Value × Value)) (name : String) :
    (settingsOf entries).lookup name = given? entries name := by
  induction entries using List.reverseRecOn with
  | nil => rfl
  | append_singleton entries e ih =>
      rw [settingsOf_concat, Named.lookup_put, given?, List.reverse_append, List.reverse_singleton,
        List.singleton_append, List.find?_cons]
      by_cases hname : name = plainName e.1.plain
      · simp [hname]
      · rw [if_neg hname, ih, beq_false_of_ne (Ne.symm hname), given?]

/-- The settings have the names that the keys of the configuration spell. -/
theorem mem_names_settingsOf (entries : List (Value × Value)) (name : String) :
    name ∈ (settingsOf entries).map (·.1) ↔ ∃ e ∈ entries, plainName e.1.plain = name := by
  rw [Named.mem_names_iff, lookup_settingsOf, given?, Option.isSome_map, List.find?_isSome]
  simp

/-! ## What is checked -/

/-- The problem with what is given for an option that is true or false. -/
def booleanProblem? (name : String) : Option Value → Option ConfigProblem
  | none | some (.bool _) => none
  | some v => some (.boolean name v)

/-- The problem with what is given for an option that is a text. -/
def textProblem? (name : String) : Option Value → Option ConfigProblem
  | none | some .null | some (.text _) => none
  | some v => some (.text name v)

/-- The problem with what is given for the imports. -/
def importsProblem? : Option Value → Option ConfigProblem
  | none | some .null => none
  | some (.list items) => if items.all fun i => i.text?.isSome then none else some .imports
  | some _ => some .imports

/-- The options of a configuration that are of a wrong kind, in the order in which they are checked. -/
def problems (entries : List (Value × Value)) : List ConfigProblem :=
  booleans.filterMap (fun n => booleanProblem? n (given? entries n)) ++
    texts.filterMap (fun n => textProblem? n (given? entries n)) ++
    (importsProblem? (given? entries "additional_imports")).toList

/-- The outcome of checks: the first problem is told. -/
def verdict : List ConfigProblem → Except OptionsFailure Unit
  | [] => .ok ()
  | p :: _ => .error (.ofProblem p)

theorem verdict_append (ps qs : List ConfigProblem) :
    verdict (ps ++ qs) = (verdict ps >>= fun _ => verdict qs) := by
  cases ps with
  | nil => rfl
  | cons p ps => rfl

/-- Checking names in turn gives the first problem that there is with one of them. -/
theorem forIn_eq_verdict (problem? : String → Option ConfigProblem)
    {check : String → PUnit → Except OptionsFailure (ForInStep PUnit)}
    (hcheck : ∀ n u, check n u = (verdict (problem? n).toList >>= fun _ => pure (.yield u)))
    (ns : List String) : forIn ns PUnit.unit check = verdict (ns.filterMap problem?) := by
  induction ns with
  | nil => rfl
  | cons n ns ih =>
      rw [List.forIn_cons, hcheck, List.filterMap_cons]
      cases problem? n with
      | none => exact ih
      | some p => rfl

theorem checkKinds_settingsOf (entries : List (Value × Value)) :
    checkKinds (settingsOf entries) = verdict (problems entries) := by
  unfold checkKinds valueOf
  simp only [lookup_settingsOf]
  rw [problems, List.append_assoc, verdict_append, verdict_append,
    forIn_eq_verdict (fun n => booleanProblem? n (given? entries n)) ?booleans,
    forIn_eq_verdict (fun n => textProblem? n (given? entries n)) ?texts]
  case booleans =>
    intro n _
    rcases given? entries n with _ | v
    · rfl
    · cases v <;> rfl
  case texts =>
    intro n _
    rcases given? entries n with _ | v
    · rfl
    · cases v <;> rfl
  congr 1
  funext _
  congr 1
  funext _
  rcases given? entries "additional_imports" with _ | v
  · rfl
  · cases v with
    | list items =>
        rw [importsProblem?]
        dsimp only [Option.getD_some]
        split <;> rfl
    | _ => rfl

/-! ## What options are made of -/

/-- A configuration whose keys all spell options. -/
structure Readable (entries : List (Value × Value)) : Prop where
  told : ∀ e ∈ entries, e.1.hasText = true
  known : ∀ e ∈ entries, plainName e.1.plain ∈ names

theorem checkNames_settingsOf_of_known (h : ∀ e ∈ entries, plainName e.1.plain ∈ names) :
    checkNames (settingsOf entries) = .ok () := by
  have hnone : ((settingsOf entries).map (·.1)).filter (fun n => !names.contains n) = [] := by
    rw [List.filter_eq_nil_iff]
    intro n hn
    obtain ⟨e, he, rfl⟩ := (mem_names_settingsOf entries n).mp hn
    simpa using h e he
  rw [checkNames, hnone]

theorem checkNames_settingsOf_of_unknown (h : ¬ ∀ e ∈ entries, plainName e.1.plain ∈ names) :
    ∃ unknown, checkNames (settingsOf entries) = .error (.problem (.unknown unknown)) := by
  push Not at h
  obtain ⟨e, he, hunknown⟩ := h
  rw [checkNames]
  split
  · rename_i hnone
    rw [List.filter_eq_nil_iff] at hnone
    have hname := hnone _ ((mem_names_settingsOf entries _).mpr ⟨e, he, rfl⟩)
    exact absurd hname (by simpa using hunknown)
  · exact ⟨_, rfl⟩

theorem problems_eq_nil_iff : problems entries = [] ↔
    (∀ n ∈ booleans, booleanProblem? n (given? entries n) = none) ∧
    (∀ n ∈ texts, textProblem? n (given? entries n) = none) ∧
    importsProblem? (given? entries "additional_imports") = none := by
  simp only [problems, List.append_eq_nil_iff, List.filterMap_eq_nil_iff, Option.toList_eq_nil_iff,
    and_assoc]

/-- What is no problem for a text is a namespace or none. -/
theorem exists_namespaceIn {given : Option Value} (h : textProblem? name given = none) :
    ∃ space, (given.map namespaceIn).getD (.ok none) = .ok space := by
  cases given with
  | none => exact ⟨none, rfl⟩
  | some v =>
      cases v with
      | null => exact ⟨none, rfl⟩
      | text s => exact ⟨namespaceOf s, rfl⟩
      | _ => cases h

/-- What is no problem for the imports lists some, or is null, which no imports can be made of. -/
theorem importsIn_of_problem {given : Option Value} (h : importsProblem? given = none) :
    (given.map importsIn).getD (.ok []) = .error (.fault .type) ∧ given = some .null ∨
      (∃ imports, (given.map importsIn).getD (.ok []) = .ok imports) ∧ given ≠ some .null := by
  cases given with
  | none => exact .inr ⟨⟨[], rfl⟩, nofun⟩
  | some v =>
      cases v with
      | null => exact .inl ⟨rfl, rfl⟩
      | list items => exact .inr ⟨⟨items, rfl⟩, nofun⟩
      | _ => cases h

/-- Where no problem was found, the settings are made options of unless the imports are null. -/
theorem replace_of_problems (h : problems entries = []) :
    Draft.replace {} (settingsOf entries) = .error (.fault .type) ∧
        given? entries "additional_imports" = some .null ∨
      (∃ d, Draft.replace {} (settingsOf entries) = .ok d) ∧
        given? entries "additional_imports" ≠ some .null := by
  obtain ⟨-, htexts, himports⟩ := problems_eq_nil_iff.mp h
  obtain ⟨space, hspace⟩ := exists_namespaceIn (htexts "namespace" (by decide))
  unfold Draft.replace
  simp only [lookup_settingsOf, hspace]
  obtain ⟨hfault, hnull⟩ | ⟨⟨imports, hok⟩, hnull⟩ := importsIn_of_problem himports
  · exact .inl ⟨by rw [hfault]; rfl, hnull⟩
  · exact .inr ⟨⟨_, by rw [hok]; rfl⟩, hnull⟩

/-! ## Options, a problem or a fault -/

/-- What stops the reading of a configuration: a key or a value of a wrong kind that is too long to be
shown, or imports that are null. -/
inductive Stops (entries : List (Value × Value)) : Fault → Prop
  | untoldKey : (∃ e ∈ entries, e.1.hasText = false) → Stops entries .value
  | untoldValue {p : ConfigProblem} {others : List ConfigProblem} : Readable entries →
      problems entries = p :: others → p.hasText = false → Stops entries .value
  | nullImports : Readable entries → problems entries = [] →
      given? entries "additional_imports" = some .null → Stops entries .type

/-- A configuration that options are made of. -/
structure Accepted (entries : List (Value × Value)) : Prop extends Readable entries where
  kinds : problems entries = []
  imports : given? entries "additional_imports" ≠ some .null

theorem ofValue_map_of_untold (h : ∃ e ∈ entries, e.1.hasText = false) :
    ofValue (.map entries) = .error (.fault .value) := by
  have hall : (entries.all fun e => e.1.hasText) = false := by simpa using h
  simp only [ofValue, hall]
  rfl

theorem ofValue_map_of_told (h : ∀ e ∈ entries, e.1.hasText = true) :
    ofValue (.map entries) = (do
      checkNames (settingsOf entries)
      verdict (problems entries)
      return (← Draft.replace {} (settingsOf entries)).options) := by
  have hall : (entries.all fun e => e.1.hasText) = true := List.all_eq_true.mpr h
  simp only [ofValue, hall, checkKinds_settingsOf]
  rfl

theorem ofValue_map_of_readable (h : Readable entries) :
    ofValue (.map entries) = (do
      verdict (problems entries)
      return (← Draft.replace {} (settingsOf entries)).options) := by
  rw [ofValue_map_of_told h.told, checkNames_settingsOf_of_known h.known]
  rfl

theorem exists_ofValue_of_accepted (h : Accepted entries) :
    ∃ o, ofValue (.map entries) = .ok o := by
  obtain ⟨-, hnull⟩ | ⟨⟨d, hd⟩, -⟩ := replace_of_problems h.kinds
  · exact absurd hnull h.imports
  · exact ⟨d.options, by rw [ofValue_map_of_readable h.toReadable, h.kinds, hd]; rfl⟩

theorem ofValue_of_stops {f : Fault} (h : Stops entries f) :
    ofValue (.map entries) = .error (.fault f) := by
  cases h with
  | untoldKey hkey => exact ofValue_map_of_untold hkey
  | untoldValue hreadable hproblems hno =>
      rw [ofValue_map_of_readable hreadable, hproblems, verdict, OptionsFailure.ofProblem, hno]
      rfl
  | nullImports hreadable hkinds hnull =>
      obtain ⟨hfault, -⟩ | ⟨-, hsome⟩ := replace_of_problems hkinds
      · rw [ofValue_map_of_readable hreadable, hkinds, hfault]
        rfl
      · exact absurd hnull hsome

/-- What neither is accepted nor stops the reading is a problem. -/
theorem exists_problem (haccepted : ¬ Accepted entries) (hstops : ∀ f, ¬ Stops entries f) :
    ∃ p, ofValue (.map entries) = .error (.problem p) := by
  have htold : ∀ e ∈ entries, e.1.hasText = true := fun e he =>
    Bool.not_eq_false _ |>.mp fun hno => hstops .value (.untoldKey ⟨e, he, hno⟩)
  rw [ofValue_map_of_told htold]
  by_cases hknown : ∀ e ∈ entries, plainName e.1.plain ∈ names
  · rw [checkNames_settingsOf_of_known hknown]
    cases hproblems : problems entries with
    | nil =>
        have hnull : given? entries "additional_imports" ≠ some .null := fun hnull =>
          hstops .type (.nullImports ⟨htold, hknown⟩ hproblems hnull)
        exact absurd ⟨⟨htold, hknown⟩, hproblems, hnull⟩ haccepted
    | cons p others =>
        have htext : p.hasText = true := Bool.not_eq_false _ |>.mp fun hno =>
          hstops .value (.untoldValue ⟨htold, hknown⟩ hproblems hno)
        exact ⟨p, by rw [verdict, OptionsFailure.ofProblem, htext]; rfl⟩
  · obtain ⟨unknown, hunknown⟩ := checkNames_settingsOf_of_unknown hknown
    exact ⟨_, by rw [hunknown]; rfl⟩

theorem ofValue_map_ok_iff : (∃ o, ofValue (.map entries) = .ok o) ↔ Accepted entries := by
  refine ⟨fun ⟨o, ho⟩ => ?_, exists_ofValue_of_accepted⟩
  by_contra haccepted
  by_cases hstops : ∃ f, Stops entries f
  · obtain ⟨f, hf⟩ := hstops
    rw [ofValue_of_stops hf] at ho
    cases ho
  · obtain ⟨p, hp⟩ := exists_problem haccepted (not_exists.mp hstops)
    rw [hp] at ho
    cases ho

theorem ofValue_map_fault_iff {f : Fault} :
    ofValue (.map entries) = .error (.fault f) ↔ Stops entries f := by
  refine ⟨fun hfault => ?_, ofValue_of_stops⟩
  have haccepted : ¬ Accepted entries := fun h => by
    obtain ⟨o, ho⟩ := exists_ofValue_of_accepted h
    rw [ho] at hfault
    cases hfault
  by_cases hstops : ∃ g, Stops entries g
  · obtain ⟨g, hg⟩ := hstops
    rw [ofValue_of_stops hg] at hfault
    cases hfault
    exact hg
  · obtain ⟨p, hp⟩ := exists_problem haccepted (not_exists.mp hstops)
    rw [hp] at hfault
    cases hfault

/-- A value makes options just if it is a configuration in which every key spells an option, every
option is of its kind, and the imports are not null.  It ends in a fault just if a key, or the value of
a wrong kind that is to be told, is too long to be shown, or if nothing but null imports is wrong with
it.  So a problem is told in all other cases, and never in one of these. -/
theorem ofValue_complete (v : Value) :
    ((∃ o, ofValue v = .ok o) ↔ ∃ entries, v = .map entries ∧ Accepted entries) ∧
    ∀ f, ofValue v = .error (.fault f) ↔ ∃ entries, v = .map entries ∧ Stops entries f := by
  by_cases hmap : ∃ entries, v = .map entries
  · obtain ⟨entries, rfl⟩ := hmap
    simp only [Value.map.injEq, exists_eq_left', ofValue_map_ok_iff, ofValue_map_fault_iff,
      implies_true, and_self]
  · have hproblem : ofValue v = .error (.problem .notMapping) := by
      cases v with
      | map entries => exact absurd ⟨entries, rfl⟩ hmap
      | _ => rfl
    refine ⟨⟨fun ⟨o, ho⟩ => ?_, fun ⟨entries, hv, _⟩ => absurd ⟨entries, hv⟩ hmap⟩,
      fun f => ⟨fun hf => ?_, fun ⟨entries, hv, _⟩ => absurd ⟨entries, hv⟩ hmap⟩⟩
    · rw [hproblem] at ho
      cases ho
    · rw [hproblem] at hf
      cases hf

/-- A configuration with the imports left empty, and with one option spelled twice. -/
def emptyImports : List (Value × Value) :=
  [(.text "namespace", .int 3), (.text "additional-imports", .null),
    (.text "Namespace", .text "Acme")]

/-- The same configuration with imports. -/
def givenImports : List (Value × Value) :=
  emptyImports ++ [(.text "additionalImports", .list [.text "math"])]

theorem emptyImports_stops :
    ofValue (.map emptyImports) = .error (.fault .type) ∧
      (∃ o, ofValue (.map givenImports) = .ok o) ∧
      ofValue (.map [(.int (Number.tenTo Number.maxDigits), .null)]) = .error (.fault .value) := by
  have hempty : given? emptyImports "additional_imports" = some .null := rfl
  have hgiven : given? givenImports "additional_imports" = some (.list [.text "math"]) := rfl
  have haccepted : Accepted givenImports :=
    ⟨⟨by decide, by decide +kernel⟩, rfl, by rw [hgiven]; nofun⟩
  have hstops : Stops emptyImports .type :=
    .nullImports ⟨by decide, by decide +kernel⟩ rfl hempty
  have hlong : Stops [(.int (Number.tenTo Number.maxDigits), .null)] .value :=
    .untoldKey ⟨_, List.mem_singleton_self _, Number.hasText_tenTo⟩
  exact ⟨((ofValue_complete _).2 .type).mpr ⟨_, rfl, hstops⟩,
    (ofValue_complete _).1.mpr ⟨_, rfl, haccepted⟩,
    ((ofValue_complete _).2 .value).mpr ⟨_, rfl, hlong⟩⟩

end Typewright.Options

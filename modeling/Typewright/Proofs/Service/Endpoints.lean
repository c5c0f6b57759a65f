/-
# No operation is lost

The work on an operation reads nothing of what was noted before it (`NotesOnly`), so that what it
gives and what it notes are its own.  It notes that the operation failed at most once, after all
that it notes besides, and just if it gives no endpoint (`endpoint_accounted`).  Operation by
operation, in the order of the document, this accounts for all endpoints and for all such warnings
(`Accounted`).

The paths and names of endpoints are changed only then, in two rounds.  A name that was made with a
method can be one that another endpoint has already; it is the second round, with numbers, that
makes them different whatever the first one gives (`nodup_keptApart`).
-/
import Typewright.Proofs.Name.Fresh
import Typewright.Proofs.Schema.Facets
import Typewright.Service.Extract

namespace Typewright

/-- Whether a warning says that an operation failed. -/
def Warning.isOperationFailure : Warning → Bool
  | .endpointFailed .. => true
  | _ => false

namespace Service

variable {scope : Scope}

/-! ## What an operation takes and answers -/

/-- Work that does not note that an operation failed. -/
abbrev Quiet {α : Type} (work : Noting α) : Prop :=
  NotesOnly (fun w => w.isOperationFailure = false) work

theorem quiet_checked {α : Type} (x : Except Fault α) : Quiet (checked x) := by
  cases x with
  | ok a => exact .pure a
  | error f => exact .throw _

theorem quiet_noted {α : Type} (x : Except Failure α) : Quiet (noted x) := by
  cases x with
  | ok a => exact .pure a
  | error e => exact .throw e

theorem quiet_dereferenced (document part : Value) : Quiet (dereferenced document part) := by
  unfold dereferenced
  split
  · exact .pure _
  · split
    · exact .pure _
    · exact .throw _

theorem quiet_listOf (v : Value) : Quiet (listOf v) := by
  unfold listOf
  split
  · exact quiet_checked _
  · exact .pure _

theorem quiet_mergedParameters (document item operation : Value) :
    Quiet (mergedParameters document item operation) := by
  unfold mergedParameters
  refine (quiet_listOf _).bind fun shared => (quiet_listOf _).bind fun own => ?_
  refine (NotesOnly.foldlM (fun done raw => ?_) _ _).bind fun _ => .pure _
  have hparameter : Quiet (parameter document raw) := by
    unfold parameter
    split
    · exact quiet_dereferenced document raw
    · exact .throw _
  refine hparameter.bind fun p => ?_
  dsimp only
  split
  · exact .throw _
  · exact .pure _

theorem quiet_scalarType (name : String) (schema : Value) (kind : Kind) :
    Quiet (Schema.scalarType name schema kind) :=
  (Schema.scalarType_notes name schema kind).notesOnly.mono fun w hw => by
    cases w <;> first | rfl | exact nomatch hw

theorem quiet_modelReference (name : String) (schema : Value) :
    Quiet (do return some (← noted (Schema.modelReference name schema))) :=
  (quiet_noted _).bind fun _ => .pure _

theorem quiet_describeWith {document : Value} {follow : Value → Noting (Option DataType)}
    (hfollow : ∀ ref, Quiet (follow ref)) :
    ∀ (schema : Value) (hint : String), Quiet (describeWith document follow schema hint) := by
  refine (describeWith.mutual_induct
    (fun schema hint => Quiet (describeWith document follow schema hint))
    (fun entries hint => Quiet (describeItems document follow entries hint))
    ?empty ?reference ?array ?object ?scalar ?notMap ?noEntry ?items ?otherEntry).1
  case empty =>
    intro entries hint hempty
    rw [describeWith, if_pos hempty]
    exact .pure _
  case reference =>
    intro entries hint schema hgiven ref href
    change Schema.ref? (.map entries) = some ref at href
    rw [describeWith, if_neg hgiven, href]
    exact hfollow ref
  case array =>
    intro entries hint schema type hgiven href harray ih
    change Schema.ref? (.map entries) = none at href
    rw [describeWith, if_neg hgiven, href]
    dsimp only
    rw [if_pos harray]
    exact ih
  case object =>
    intro entries hint schema type hgiven href harray hobject
    change Schema.ref? (.map entries) = none at href
    rw [describeWith, if_neg hgiven, href]
    dsimp only
    rw [if_neg harray, if_pos hobject]
    exact quiet_modelReference _ _
  case scalar =>
    intro entries hint schema type hgiven href harray hobject
    change Schema.ref? (.map entries) = none at href
    rw [describeWith, if_neg hgiven, href]
    dsimp only
    rw [if_neg harray, if_neg hobject]
    refine (quiet_noted _).bind fun isModel => ?_
    cases isModel with
    | true => exact quiet_modelReference _ _
    | false => exact (quiet_scalarType _ _ _).bind fun _ => .pure _
  case notMap =>
    intro v hint hv
    rw [describeWith]
    · exact .pure _
    · exact hv
  case noEntry =>
    intro hint
    rw [describeItems]
    exact .pure _
  case items =>
    intro k v r hint hk ih
    rw [describeItems, if_pos hk]
    exact ih
  case otherEntry =>
    intro k v r hint hk ih
    rw [describeItems, if_neg hk]
    exact ih

theorem quiet_describeReference (document : Value) (known : List (String × DataType)) :
    ∀ (more : Nat) (followed : List String) (ref : Value),
      Quiet (describeReference document known more followed ref)
  | 0, _, _ => .throw _
  | more + 1, followed, ref => by
      rw [describeReference]
      cases Document.targetName ref with
      | error f => exact .throw _
      | ok name =>
          simp only [pure_bind]
          split
          · exact .pure _
          · split
            · exact .throw _
            · split
              · exact .throw _
              · refine (quiet_noted _).bind fun isModel => ?_
                split
                · exact quiet_modelReference _ _
                · exact quiet_describeWith
                    (fun ref => quiet_describeReference document known more _ ref) _ _
          · exact .throw _

theorem quiet_describe (document : Value) (known : List (String × DataType)) (schema : Value)
    (hint : String) : Quiet (describe document known schema hint) :=
  quiet_describeWith (fun ref => quiet_describeReference document known _ _ ref) schema hint

theorem quiet_parameterInput (name : String) (p : Value) :
    Quiet (parameterInput scope name p) := by
  unfold parameterInput
  dsimp only
  split
  · refine (quiet_describe _ _ _ _).bind fun type => ?_
    cases type with
    | none => exact .pure _
    | some t => exact .pure _
  · refine NotesOnly.bind (.note ?_) fun _ => .pure _
    rfl

theorem quiet_bodyInput (name : String) (operation : Value) :
    Quiet (bodyInput scope name operation) := by
  unfold bodyInput
  refine (quiet_dereferenced _ _).bind fun body => ?_
  split
  · exact .pure _
  · refine (quiet_checked _).bind fun schema => (quiet_describe _ _ _ _).bind fun type => ?_
    cases type with
    | none => exact .pure _
    | some t => exact .pure _

theorem quiet_inputs (name : String) (item operation : Value) :
    Quiet (inputs scope name item operation) :=
  (quiet_mergedParameters _ _ _).bind fun _ =>
    (NotesOnly.mapM (quiet_parameterInput name) _).bind fun _ =>
      (quiet_bodyInput name operation).bind fun _ => .pure _

theorem quiet_outputs (name : String) (operation : Value) :
    Quiet (outputs scope name operation) := by
  have houtput : ∀ e : Value × Value, Quiet (output scope name e.1 e.2) := by
    intro e
    unfold output
    refine (quiet_dereferenced _ _).bind fun response => ?_
    split
    · exact .pure _
    · exact (quiet_checked _).bind fun _ => (quiet_describe _ _ _ _).bind fun _ => .pure _
  unfold outputs
  refine (quiet_checked _).bind fun responses => ?_
  split
  · exact (NotesOnly.mapM houtput _).bind fun _ => .pure _
  · exact .throw _

/-! ## What becomes of an operation -/

/-- An operation of a document: its path and the item of the path, its method, and what it holds. -/
abbrev Operation := Value × Value × Method × Value

/-- An operation gives an endpoint, up to its name and path. -/
structure Operation.Gives (scope : Scope) (op : Operation) (e : Endpoint) : Prop where
  httpPath : e.httpPath = op.1
  method : e.method = op.2.2.1
  parts : ∃ name, operationName op.2.2.1 op.1 op.2.2.2 = .ok name ∧
    outcome (inputs scope name op.2.1 op.2.2.2) = .ok e.inputs ∧
    outcome (outputs scope name op.2.2.2) = .ok e.outputs

/-- What an operation takes or answers cannot be worked out. -/
def Operation.Fails (scope : Scope) (op : Operation) (why : Failure) : Prop :=
  ∃ name, operationName op.2.2.1 op.1 op.2.2.2 = .ok name ∧
    (outcome (inputs scope name op.2.1 op.2.2.2) = .error why ∨
      outcome (outputs scope name op.2.2.2) = .error why)

/-- The warning that an operation failed. -/
def Operation.failure (op : Operation) (why : Failure) : Warning :=
  .endpointFailed op.2.2.1.capitals op.1.plain why

/-- What an operation takes and answers is worked out if both can be. -/
theorem parts_spec (name : String) (item operation : Value) :
    let parts : Noting (Option (List Input × List Output)) := do
      let ins ← inputs scope name item operation
      let outs ← outputs scope name operation
      return some (ins, outs)
    Quiet parts ∧
      ((∃ ins outs, outcome parts = .ok (some (ins, outs)) ∧
          outcome (inputs scope name item operation) = .ok ins ∧
          outcome (outputs scope name operation) = .ok outs) ∨
        ∃ why, outcome parts = .error why ∧
          (outcome (inputs scope name item operation) = .error why ∨
            outcome (outputs scope name operation) = .error why)) := by
  intro parts
  have hins : Quiet (inputs scope name item operation) := quiet_inputs name item operation
  have houts : Quiet (outputs scope name operation) := quiet_outputs name operation
  have hparts : outcome parts = (do
      let ins ← outcome (inputs scope name item operation)
      let outs ← outcome (outputs scope name operation)
      return some (ins, outs)) := by
    rw [hins.outcome_bind fun _ => houts.bind fun _ => .pure _]
    exact congrArg _ (funext fun ins => houts.outcome_bind fun _ => .pure _)
  refine ⟨hins.bind fun _ => houts.bind fun _ => .pure _, ?_⟩
  rw [hparts]
  cases outcome (inputs scope name item operation) with
  | error why => exact .inr ⟨why, rfl, .inl rfl⟩
  | ok ins =>
      cases outcome (outputs scope name operation) with
      | error why => exact .inr ⟨why, rfl, .inr rfl⟩
      | ok outs => exact .inl ⟨ins, outs, rfl, rfl, rfl⟩

/-- An operation that does not stop the work gives an endpoint, or a warning that it failed. -/
theorem endpoint_accounted {secured : Bool} {httpPath item operation : Value} {m : Method}
    {found : Option Endpoint} {ws ws' : List Warning}
    (h : (endpoint scope secured httpPath item m operation).run.run ws = (.ok found, ws')) :
    ∃ own : List Warning, (∀ w ∈ own, w.isOperationFailure = false) ∧
      ((∃ e, found = some e ∧ Operation.Gives scope (httpPath, item, m, operation) e ∧
          ws' = ws ++ own) ∨
        ∃ why, found = none ∧ Operation.Fails scope (httpPath, item, m, operation) why ∧
          ws' = ws ++ (own ++ [Operation.failure (httpPath, item, m, operation) why])) := by
  unfold endpoint at h
  cases hname : operationName m httpPath operation with
  | error f =>
      rw [hname] at h
      exact nomatch h
  | ok name =>
      obtain ⟨hquiet, hparts⟩ := parts_spec name item operation
      rw [hname] at h
      simp only [checked, pure_bind] at h
      rw [noting_run_bind, hquiet.run_tryCatch] at h
      rcases hparts with ⟨ins, outs, hout, hins, houts⟩ | ⟨why, hout, hwhy⟩
      · have htags := quiet_listOf (operation.get "tags")
        simp only [hout] at h
        rw [htags.run_bind] at h
        cases hlist : outcome (listOf (operation.get "tags")) with
        | error e =>
            rw [hlist] at h
            exact nomatch h
        | ok tags =>
            rw [hlist] at h
            cases h
            refine ⟨_, fun w hw => (List.mem_append.mp hw).elim (hquiet.own w) (htags.own w),
              .inl ⟨_, rfl, ⟨rfl, rfl, name, hname, hins, houts⟩, List.append_assoc _ _ _⟩⟩
      · refine ⟨_, hquiet.own, .inr ⟨why, ?_⟩⟩
        simp only [hout] at h
        cases why with
        | fault f => exact nomatch h
        | problem p =>
            cases h
            exact ⟨rfl, ⟨name, hname, hwhy⟩, List.append_assoc _ _ _⟩
        | flaw f =>
            cases h
            exact ⟨rfl, ⟨name, hname, hwhy⟩, List.append_assoc _ _ _⟩

/-! ## What becomes of the operations of a document -/

/-- The operations of paths: path by path and, for each path, in the order of the methods. -/
def operationsAt (paths : List (Value × Value)) : List Operation :=
  paths.flatMap fun (httpPath, item) => (operations item).map fun (m, o) => (httpPath, item, m, o)

/-- What becomes of operations in turn: each gives one endpoint, or else one warning that it failed,
after other warnings that are about it. -/
inductive Accounted (scope : Scope) : List Operation → List Endpoint → List Warning → Prop
  | none : Accounted scope [] [] []
  | given {op : Operation} {e : Endpoint} {own ws : List Warning} {ops : List Operation}
      {es : List Endpoint} (gives : op.Gives scope e)
      (quiet : ∀ w ∈ own, w.isOperationFailure = false) (rest : Accounted scope ops es ws) :
      Accounted scope (op :: ops) (e :: es) (own ++ ws)
  | failed {op : Operation} {why : Failure} {own ws : List Warning} {ops : List Operation}
      {es : List Endpoint} (fails : op.Fails scope why)
      (quiet : ∀ w ∈ own, w.isOperationFailure = false) (rest : Accounted scope ops es ws) :
      Accounted scope (op :: ops) es (own ++ op.failure why :: ws)

/-- Where no operation stops the work, all of them are dealt with. -/
theorem endpoints_accounted {secured : Bool} (ops : List Operation) {found : List (Option Endpoint)}
    {ws ws' : List Warning}
    (h : (ops.mapM fun (httpPath, item, m, o) => endpoint scope secured httpPath item m o).run.run
      ws = (.ok found, ws')) :
    ∃ new, ws' = ws ++ new ∧ Accounted scope ops (found.filterMap id) new := by
  induction ops generalizing found ws with
  | nil =>
      cases h
      exact ⟨[], (List.append_nil _).symm, .none⟩
  | cons op ops ih =>
      obtain ⟨httpPath, item, m, o⟩ := op
      rw [List.mapM_cons, noting_run_bind] at h
      rcases hfirst : (endpoint scope secured httpPath item m o).run.run ws
        with ⟨_ | first, ws₁⟩ <;> rw [hfirst] at h
      · exact nomatch h
      · dsimp only at h
        rw [noting_run_bind] at h
        rcases hrest : (ops.mapM fun (httpPath, item, m, o) =>
          endpoint scope secured httpPath item m o).run.run ws₁ with ⟨_ | rest, ws₂⟩ <;>
          rw [hrest] at h
        · exact nomatch h
        · cases h
          obtain ⟨new, rfl, hdealt⟩ := ih hrest
          obtain ⟨own, hquiet, ⟨e, rfl, hgives, rfl⟩ | ⟨why, rfl, hfails, rfl⟩⟩ :=
            endpoint_accounted hfirst
          · exact ⟨own ++ new, List.append_assoc _ _ _, .given hgives hquiet hdealt⟩
          · refine ⟨own ++ Operation.failure (httpPath, item, m, o) why :: new, ?_,
              .failed hfails hquiet hdealt⟩
            simp only [List.append_assoc, List.cons_append, List.nil_append]

/-! ## Names that differ -/

theorem length_withMethods (separator : String) (seen : List String)
    (names : List (String × Method)) :
    (withMethods separator seen names).length = names.length := by
  induction names generalizing seen with
  | nil => rfl
  | cons n names ih => exact congrArg (· + 1) (ih _)

theorem length_keptApart (separator : String) (names : List (String × Method)) :
    (keptApart separator names).length = names.length := by
  rw [keptApart, Name.length_freshAll, length_withMethods]

/-- The names differ, whatever those made with methods are. -/
theorem nodup_keptApart (separator : String) (names : List (String × Method)) :
    (keptApart separator names).Nodup :=
  (Name.freshAll_apart [] _).1

/-- Endpoints under other names and paths. -/
theorem Accounted.rename {ops : List Operation} {es : List Endpoint} {ws : List Warning}
    (h : Accounted scope ops es ws) (names : List (String × String))
    (hlen : names.length = es.length) : Accounted scope ops
      ((es.zip names).map fun (e, path, name) => { e with path := path, name := name }) ws := by
  induction h generalizing names with
  | none => exact .none
  | given gives quiet _ ih =>
      cases names with
      | nil => exact nomatch hlen
      | cons n names =>
          refine .given ⟨gives.httpPath, gives.method, gives.parts⟩ quiet ?_
          exact ih names (Nat.succ.inj hlen)
  | failed fails quiet _ ih => exact .failed fails quiet (ih names hlen)

theorem Accounted.distinct {ops : List Operation} {es : List Endpoint} {ws : List Warning}
    (h : Accounted scope ops es ws) : Accounted scope ops (distinct es) ws := by
  refine h.rename _ ?_
  simp only [List.length_zip, length_keptApart, List.length_map, Nat.min_self]

theorem map_name_distinct (es : List Endpoint) :
    (distinct es).map (·.name) = keptApart "_" (es.map fun e => (e.name, e.method)) := by
  have hpaths := length_keptApart ":" (es.map fun e => (e.path, e.method))
  have hnames := length_keptApart "_" (es.map fun e => (e.name, e.method))
  rw [List.length_map] at hpaths hnames
  calc (distinct es).map (·.name)
      = ((es.zip ((keptApart ":" (es.map fun e => (e.path, e.method))).zip
          (keptApart "_" (es.map fun e => (e.name, e.method))))).map Prod.snd).map Prod.snd := by
        rw [distinct, List.map_map, List.map_map]
        rfl
    _ = keptApart "_" (es.map fun e => (e.name, e.method)) := by
        rw [List.map_snd_zip, List.map_snd_zip]
        · omega
        · rw [List.length_zip]
          omega

/-! ## The endpoints of a document -/

theorem mem_operations {item operation : Value} {m : Method} :
    (m, operation) ∈ operations item ↔
      item.get? m.name = some operation ∧ operation.isMap = true := by
  have hall : ∀ m : Method, m ∈ Method.all := by
    intro m
    cases m <;> decide
  simp only [operations, List.mem_filterMap, Option.map_eq_some_iff, Option.filter_eq_some_iff,
    Prod.mk.injEq]
  constructor
  · rintro ⟨n, -, o, ho, rfl, rfl⟩
    exact ho
  · exact fun h => ⟨m, hall m, operation, h, rfl, rfl⟩

theorem operations_in_order (item : Value) :
    ((operations item).map (·.1)).Sublist Method.all := by
  unfold operations
  induction Method.all with
  | nil => exact List.Sublist.refl []
  | cons m ms ih =>
      rw [List.filterMap_cons]
      split
      · exact ih.cons m
      · rename_i op hop
        obtain ⟨o, -, rfl⟩ := Option.map_eq_some_iff.mp hop
        exact ih.cons_cons m

/-- Where the endpoints of a document are worked out, they and the warnings that operations failed
account for every mapping under a method of a path, in the order of the paths and, for each path, in
the order of the methods; and the endpoints have different names. -/
theorem operations_accounted {endpoints : List Endpoint} {ws ws' : List Warning}
    (h : (endpointsOf scope).run.run ws = (.ok endpoints, ws')) :
    ∃ paths new, Document.paths scope.document = .ok paths ∧ ws' = ws ++ new ∧
      Accounted scope (operationsAt paths) endpoints new ∧
      (∀ item m operation, (m, operation) ∈ operations item ↔
        item.get? m.name = some operation ∧ operation.isMap = true) ∧
      (∀ item, ((operations item).map (·.1)).Sublist Method.all) ∧
      (endpoints.map (·.name)).Nodup := by
  unfold endpointsOf at h
  cases hsecurity : Document.member scope.document "security" with
  | error f =>
      rw [hsecurity] at h
      exact nomatch h
  | ok security =>
      cases hpaths : Document.paths scope.document with
      | error f =>
          rw [hsecurity, hpaths] at h
          exact nomatch h
      | ok paths =>
          rw [hsecurity, hpaths] at h
          simp only [checked, pure_bind] at h
          rw [noting_run_bind] at h
          rcases hrun : ((operationsAt paths).mapM fun (httpPath, item, m, o) =>
              endpoint scope security.isGiven httpPath item m o).run.run ws with
            ⟨_ | found, ws₁⟩
          · rw [operationsAt] at hrun
            rw [hrun] at h
            exact nomatch h
          · obtain ⟨new, rfl, hdealt⟩ := endpoints_accounted _ hrun
            rw [operationsAt] at hrun
            rw [hrun] at h
            cases h
            refine ⟨paths, new, rfl, rfl, hdealt.distinct, fun _ _ _ => mem_operations,
              operations_in_order, ?_⟩
            rw [map_name_distinct]
            exact nodup_keptApart "_" _

/-- A document in which an identifier with a method is the identifier of another operation, and with
an operation that fails. -/
def sharedIdentifiers : Value :=
  .record [("paths", .record [
    ("/a", .record [("get", .record [("operationId", .text "x_put")])]),
    ("/b", .record [
      ("put", .record [("operationId", .text "x")]),
      ("get", .record [("operationId", .text "x")]),
      ("post", .record [("parameters", .list [.int 5])])])])]

theorem sharedIdentifiers_accounted : ∃ endpoints new,
    (endpointsOf ⟨sharedIdentifiers, []⟩).run.run [] = (.ok endpoints, new) ∧
      endpoints.map (fun e => (e.method, e.httpPath.plain, e.name)) =
        [(.get, "/a", "x_put"), (.get, "/b", "x"), (.put, "/b", "x_put2")] ∧
      new.map Warning.message =
        ["Failed to extract endpoint 'POST /b': parameter 5 is not an object"] ∧
      (endpoints.map (·.name)).Nodup := by
  have hvalues : ((endpointsOf ⟨sharedIdentifiers, []⟩).run.run []).1.toOption.map
      (·.map fun e => (e.method, e.httpPath.plain, e.name)) =
        some [(.get, "/a", "x_put"), (.get, "/b", "x"), (.put, "/b", "x_put2")] := by
    decide +kernel
  have hmessages : ((endpointsOf ⟨sharedIdentifiers, []⟩).run.run []).2.map Warning.message =
      ["Failed to extract endpoint 'POST /b': parameter 5 is not an object"] := by
    decide +kernel
  rcases hrun : (endpointsOf ⟨sharedIdentifiers, []⟩).run.run [] with ⟨_ | endpoints, new⟩ <;>
    rw [hrun] at hvalues hmessages
  · exact nomatch hvalues
  · obtain ⟨_, _, -, -, -, -, -, hnodup⟩ := operations_accounted hrun
    exact ⟨endpoints, new, rfl, Option.some.inj hvalues, hmessages, hnodup⟩

end Service

end Typewright

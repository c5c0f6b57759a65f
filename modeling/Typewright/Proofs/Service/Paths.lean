/-
# The paths of a service

An endpoint is found by its canonical path: its HTTP path and its intent, and its method behind them
where an endpoint before it has the same HTTP path and intent (`canonicalPath`).  HTTP paths may have
colons in them, so a canonical path is read from its end.  What stands behind its last colon is an
intent, or a method that is listed after another one of its intent; and no such method has the name of
an intent (`Method.Later.name_ne`).  So a path that was made with a method is never one without
(`Given.form`), each canonical path is new when it is made (`Given.canonicalPath_not_mem`), and the
round that keeps paths apart by numbers finds nothing to do.
-/
import Typewright.Proofs.Schema.Fault
import Typewright.Proofs.Service.Endpoints

namespace Typewright

/-! ## Methods in their order -/

namespace Method

/-- One method is listed before another. -/
def Before (m n : Method) : Prop := [m, n].Sublist all

/-- A method that is listed after another one of its intent. -/
def Later (n : Method) : Prop := n = patch ∨ n = head ∨ n = options

theorem Before.ne {m n : Method} (h : m.Before n) : m ≠ n := by
  have hnodup : all.Nodup := by decide
  intro heq
  have hpair := h.nodup hnodup
  simp [heq] at hpair

theorem Before.later {m n : Method} (h : m.Before n) (hintent : m.intent = n.intent) : n.Later := by
  revert h hintent
  unfold Before Later
  cases m <;> cases n <;> decide

theorem Later.name_ne {n : Method} (h : n.Later) (i : Intent) : i.name ≠ n.name := by
  rcases h with rfl | rfl | rfl <;> cases i <;> decide

theorem name_injective {m n : Method} (h : m.name = n.name) : m = n := by
  revert h
  cases m <;> cases n <;> decide

theorem colon_not_mem_name (m : Method) : ':' ∉ m.name.toList := by
  cases m <;> decide

end Method

theorem Intent.name_injective {i j : Intent} (h : i.name = j.name) : i = j := by
  revert h
  cases i <;> cases j <;> decide

theorem Intent.colon_not_mem_name (i : Intent) : ':' ∉ i.name.toList := by
  cases i <;> decide

/-- The HTTP path of an endpoint as it is written, and its method. -/
abbrev Endpoint.key (e : Endpoint) : String × Method := (e.httpPath.plain, e.method)

namespace Service

/-! ## Paths, read from their ends -/

/-- Lists are cut at the first occurrence of an element in one way only. -/
theorem append_cons_inj {α : Type} {c : α} {s t r r' : List α} (hs : c ∉ s) (ht : c ∉ t)
    (h : s ++ c :: r = t ++ c :: r') : s = t ∧ r = r' := by
  rcases List.append_eq_append_iff.mp h with ⟨u, rfl, hu⟩ | ⟨u, rfl, hu⟩
  · cases u with
    | nil => exact ⟨(List.append_nil s).symm, (List.cons.inj hu).2⟩
    | cons d u => simp [(List.cons.inj hu).1] at ht
  · cases u with
    | nil => exact ⟨List.append_nil t, (List.cons.inj hu).2.symm⟩
    | cons d u => simp [(List.cons.inj hu).1] at hs

/-- Two texts with a last colon are the same just if they are so on both sides of it. -/
theorem append_colon_inj {p q a b : String} (ha : ':' ∉ a.toList) (hb : ':' ∉ b.toList)
    (h : p ++ ":" ++ a = q ++ ":" ++ b) : p = q ∧ a = b := by
  have hreverse : a.toList.reverse ++ ':' :: p.toList.reverse =
      b.toList.reverse ++ ':' :: q.toList.reverse := by
    simpa using congrArg (fun s : String => s.toList.reverse) h
  have ha : ':' ∉ a.toList.reverse := fun hmem => ha (List.mem_reverse.mp hmem)
  have hb : ':' ∉ b.toList.reverse := fun hmem => hb (List.mem_reverse.mp hmem)
  obtain ⟨hends, hstarts⟩ := append_cons_inj ha hb hreverse
  exact ⟨String.toList_inj.mp (List.reverse_inj.mp hstarts),
    String.toList_inj.mp (List.reverse_inj.mp hends)⟩

/-- The path of an operation with its intent. -/
def plainPath (op : String × Method) : String := op.1 ++ ":" ++ op.2.intent.name

/-- The path of an operation with its intent and its method. -/
def methodPath (op : String × Method) : String := plainPath op ++ ":" ++ op.2.name

/-- The canonical path of an operation that comes after some others. -/
def canonicalPath (before : List (String × Method)) (op : String × Method) : String :=
  if before.any fun d => d.1 == op.1 && d.2.intent == op.2.intent then methodPath op
  else plainPath op

/-- The canonical paths of operations that come after some others. -/
def canonicalPaths : List (String × Method) → List (String × Method) → List String
  | _, [] => []
  | before, op :: ops => canonicalPath before op :: canonicalPaths (op :: before) ops

section Paths

variable {x y : String × Method}

theorem plainPath_inj (h : plainPath x = plainPath y) : x.1 = y.1 ∧ x.2.intent = y.2.intent := by
  obtain ⟨hpath, hname⟩ :=
    append_colon_inj (Intent.colon_not_mem_name _) (Intent.colon_not_mem_name _) h
  exact ⟨hpath, Intent.name_injective hname⟩

theorem methodPath_inj (h : methodPath x = methodPath y) : x = y := by
  obtain ⟨hplain, hname⟩ :=
    append_colon_inj (Method.colon_not_mem_name _) (Method.colon_not_mem_name _) h
  exact Prod.ext (plainPath_inj hplain).1 (Method.name_injective hname)

theorem plainPath_ne_methodPath (hy : y.2.Later) : plainPath x ≠ methodPath y := by
  intro h
  obtain ⟨-, hname⟩ :=
    append_colon_inj (Intent.colon_not_mem_name _) (Method.colon_not_mem_name _) h
  exact hy.name_ne _ hname

end Paths

/-! ## Paths made in turn -/

/-- Operations in the order of a document: those of one path in the order of their methods. -/
abbrev InOrder (x y : String × Method) : Prop := x.1 = y.1 → x.2.Before y.2

/-- The paths that have been made for some operations: for each the path with its intent, now or for
an operation before it, and the path with its method only where its method is a later one. -/
structure Given (before : List (String × Method)) (seen : List String) : Prop where
  plain : ∀ y ∈ before, plainPath y ∈ seen
  form : ∀ v ∈ seen, ∃ y ∈ before, v = plainPath y ∨ v = methodPath y ∧ y.2.Later

namespace Given

variable {before : List (String × Method)} {seen : List String} {x : String × Method}

theorem nil : Given [] [] := ⟨by simp, by simp⟩

/-- A path with its intent has been made just if an operation before has the same path and intent. -/
theorem contains_eq (h : Given before seen) : seen.contains (plainPath x) =
    before.any fun d => d.1 == x.1 && d.2.intent == x.2.intent := by
  rw [Bool.eq_iff_iff, List.contains_iff_mem, List.any_eq_true]
  constructor
  · intro hmem
    obtain ⟨y, hy, hform⟩ := h.form _ hmem
    rcases hform with heq | ⟨heq, hlater⟩
    · obtain ⟨hpath, hintent⟩ := plainPath_inj heq
      exact ⟨y, hy, by simp [hpath, hintent]⟩
    · exact absurd heq (plainPath_ne_methodPath hlater)
  · rintro ⟨y, hy, hsame⟩
    simp only [Bool.and_eq_true, beq_iff_eq] at hsame
    have heq : plainPath y = plainPath x := by rw [plainPath, plainPath, hsame.1, hsame.2]
    exact heq ▸ h.plain y hy

/-- What a canonical path is: with its intent and new, or with its method, a later one. -/
theorem canonicalPath_cases (h : Given before seen) (hx : ∀ y ∈ before, InOrder y x) :
    canonicalPath before x = plainPath x ∧ plainPath x ∉ seen ∨
      canonicalPath before x = methodPath x ∧ plainPath x ∈ seen ∧ x.2.Later := by
  have hcontains := h.contains_eq (x := x)
  unfold canonicalPath
  split
  · rename_i hany
    obtain ⟨y, hy, hsame⟩ := List.any_eq_true.mp hany
    simp only [Bool.and_eq_true, beq_iff_eq] at hsame
    exact .inr ⟨rfl, List.contains_iff_mem.mp (hcontains.trans hany),
      (hx y hy hsame.1).later hsame.2⟩
  · rename_i hany
    exact .inl ⟨rfl, fun hmem => hany (hcontains ▸ List.contains_iff_mem.mpr hmem)⟩

/-- A canonical path is one that has not been made before. -/
theorem canonicalPath_not_mem (h : Given before seen) (hx : ∀ y ∈ before, InOrder y x) :
    canonicalPath before x ∉ seen := by
  rcases h.canonicalPath_cases hx with ⟨heq, hnew⟩ | ⟨heq, -, hlater⟩
  · exact heq ▸ hnew
  · intro hmem
    obtain ⟨y, hy, hform⟩ := h.form _ hmem
    rw [heq] at hform
    rcases hform with hplain | ⟨hmethod, -⟩
    · exact plainPath_ne_methodPath hlater hplain.symm
    · obtain rfl := methodPath_inj hmethod
      exact (hx x hy rfl).ne rfl

theorem next (h : Given before seen) (hx : ∀ y ∈ before, InOrder y x) :
    Given (x :: before) (canonicalPath before x :: seen) := by
  have hcases := h.canonicalPath_cases hx
  constructor
  · intro y hy
    rcases List.mem_cons.mp hy with rfl | hy
    · rcases hcases with ⟨heq, -⟩ | ⟨-, hmem, -⟩
      · exact heq ▸ List.mem_cons_self
      · exact List.mem_cons_of_mem _ hmem
    · exact List.mem_cons_of_mem _ (h.plain y hy)
  · intro v hv
    rcases List.mem_cons.mp hv with rfl | hv
    · rcases hcases with ⟨heq, -⟩ | ⟨heq, -, hlater⟩
      · exact ⟨x, List.mem_cons_self, .inl heq⟩
      · exact ⟨x, List.mem_cons_self, .inr ⟨heq, hlater⟩⟩
    · obtain ⟨y, hy, hform⟩ := h.form v hv
      exact ⟨y, List.mem_cons_of_mem _ hy, hform⟩

end Given

/-- The first round makes the canonical paths, each of which is new. -/
theorem withMethods_eq {before ops : List (String × Method)} {seen : List String}
    (h : Given before seen) (hbefore : ∀ y ∈ before, ∀ x ∈ ops, InOrder y x)
    (hops : ops.Pairwise InOrder) :
    withMethods ":" seen (ops.map fun op => (plainPath op, op.2)) = canonicalPaths before ops ∧
      (canonicalPaths before ops).Nodup ∧ ∀ v ∈ canonicalPaths before ops, v ∉ seen := by
  induction ops generalizing before seen with
  | nil => exact ⟨rfl, List.nodup_nil, fun _ hv => absurd hv List.not_mem_nil⟩
  | cons x ops ih =>
      obtain ⟨hx, hops⟩ := List.pairwise_cons.mp hops
      have hxbefore : ∀ y ∈ before, InOrder y x := fun y hy => hbefore y hy x List.mem_cons_self
      have hnew : canonicalPath before x ∉ seen := h.canonicalPath_not_mem hxbefore
      have hnext : ∀ y ∈ x :: before, ∀ z ∈ ops, InOrder y z :=
        List.forall_mem_cons.mpr ⟨hx, fun y hy z hz => hbefore y hy z (List.mem_cons_of_mem x hz)⟩
      obtain ⟨hrest, hnodup, hfree⟩ := ih (h.next hxbefore) hnext hops
      refine ⟨?_, ?_, ?_⟩
      · have hone : (if seen.contains (plainPath x) then plainPath x ++ ":" ++ x.2.name
            else plainPath x) = canonicalPath before x := by
          rw [h.contains_eq, canonicalPath, methodPath]
        rw [List.map_cons, withMethods, canonicalPaths, ← hrest]
        simp only [hone]
      · exact List.nodup_cons.mpr ⟨fun hmem => hfree _ hmem List.mem_cons_self, hnodup⟩
      · exact List.forall_mem_cons.mpr
          ⟨hnew, fun v hv hseen => hfree v hv (List.mem_cons_of_mem _ hseen)⟩

/-- The second round, with numbers, has nothing to do. -/
theorem keptApart_eq {ops : List (String × Method)} (hops : ops.Pairwise InOrder) :
    keptApart ":" (ops.map fun op => (plainPath op, op.2)) =
        withMethods ":" [] (ops.map fun op => (plainPath op, op.2)) ∧
      withMethods ":" [] (ops.map fun op => (plainPath op, op.2)) = canonicalPaths [] ops ∧
      (canonicalPaths [] ops).Nodup := by
  obtain ⟨hfirst, hnodup, -⟩ :=
    withMethods_eq .nil (fun _ hy => absurd hy List.not_mem_nil) hops
  refine ⟨?_, hfirst, hnodup⟩
  rw [keptApart, hfirst]
  exact Name.freshAll_eq_self hnodup fun _ _ => List.not_mem_nil

theorem canonicalPaths_append (before ops rest : List (String × Method)) :
    canonicalPaths before (ops ++ rest) =
      canonicalPaths before ops ++ canonicalPaths (ops.reverse ++ before) rest := by
  induction ops generalizing before with
  | nil => rfl
  | cons x ops ih => simp [canonicalPaths, ih]

theorem length_canonicalPaths (before ops : List (String × Method)) :
    (canonicalPaths before ops).length = ops.length := by
  induction ops generalizing before with
  | nil => rfl
  | cons x ops ih => simp [canonicalPaths, ih]

/-- Each canonical path is that of its operation after all operations before it. -/
theorem eq_canonicalPath {es before after : List Endpoint} {e : Endpoint}
    (h : es.map (·.path) = canonicalPaths [] (es.map (·.key))) (hsplit : es = before ++ e :: after) :
    e.path = canonicalPath (before.map (·.key)) e.key := by
  rw [hsplit, List.map_append, List.map_append, canonicalPaths_append] at h
  have hlen : (before.map (·.path)).length = (canonicalPaths [] (before.map (·.key))).length := by
    rw [length_canonicalPaths, List.length_map, List.length_map]
  obtain ⟨-, hrest⟩ := List.append_inj h hlen
  rw [List.append_nil] at hrest
  have hhead : e.path = canonicalPath (before.map (·.key)).reverse e.key := (List.cons.inj hrest).1
  rw [hhead, canonicalPath, canonicalPath, List.any_reverse]

/-! ## The operations of a document are in order -/

/-- The HTTP path of an operation as it is written, and its method. -/
abbrev Operation.key (op : Operation) : String × Method := (op.1.plain, op.2.2.1)

/-- Paths that are different texts. -/
structure TextKeys (paths : List (Value × Value)) : Prop where
  text : ∀ e ∈ paths, ∃ s, e.1 = .text s
  nodup : (paths.map (·.1)).Nodup

theorem TextKeys.operation {paths : List (Value × Value)} (h : TextKeys paths) :
    ∀ op ∈ operationsAt paths, ∃ s, op.1 = .text s := by
  intro op hop
  obtain ⟨e, he, hop⟩ := List.mem_flatMap.mp hop
  obtain ⟨_, -, rfl⟩ := List.mem_map.mp hop
  exact h.text e he

theorem TextKeys.plain_ne {paths : List (Value × Value)} (h : TextKeys paths) :
    paths.Pairwise fun e f => e.1.plain ≠ f.1.plain := by
  have hpairs : paths.Pairwise fun e f => e.1 ≠ f.1 := List.pairwise_map.mp h.nodup
  refine hpairs.imp_of_mem fun {e f} he hf hne heq => hne ?_
  obtain ⟨s, hs⟩ := h.text e he
  obtain ⟨t, ht⟩ := h.text f hf
  rw [hs, ht] at heq ⊢
  exact congrArg Value.text heq

/-- Operations are gone through path by path and, for each path, in the order of the methods. -/
theorem inOrder_operationsAt {paths : List (Value × Value)} (h : TextKeys paths) :
    (operationsAt paths).Pairwise fun op op' => InOrder op.key op'.key := by
  unfold operationsAt
  rw [List.pairwise_flatMap]
  constructor
  · rintro ⟨httpPath, item⟩ -
    have hmethods : ((operations item).map (·.1)).Pairwise Method.Before := by
      rw [List.pairwise_iff_forall_sublist]
      intro m n hpair
      exact hpair.trans (operations_in_order item)
    rw [List.pairwise_map]
    refine (List.pairwise_map.mp hmethods).imp fun {a b} hbefore => ?_
    intro _
    exact hbefore
  · refine h.plain_ne.imp fun hne op hop op' hop' heq => ?_
    obtain ⟨_, -, rfl⟩ := List.mem_map.mp hop
    obtain ⟨_, -, rfl⟩ := List.mem_map.mp hop'
    exact absurd heq hne

/-- The endpoints that operations give come in the order of the operations. -/
theorem Accounted.keys_sublist {scope : Scope} {ops : List Operation} {es : List Endpoint}
    {ws : List Warning} (h : Accounted scope ops es ws) :
    (es.map (·.key)).Sublist (ops.map (·.key)) := by
  induction h with
  | none => exact .slnil
  | given gives _ _ ih =>
      rw [List.map_cons, List.map_cons, Endpoint.key, gives.httpPath, gives.method]
      exact ih.cons_cons _
  | failed _ _ _ ih => exact ih.cons _

theorem Accounted.texts {scope : Scope} {ops : List Operation} {es : List Endpoint}
    {ws : List Warning} (h : Accounted scope ops es ws) (hops : ∀ op ∈ ops, ∃ s, op.1 = .text s) :
    ∀ e ∈ es, ∃ s, e.httpPath = .text s := by
  induction h with
  | none => exact fun _ he => absurd he List.not_mem_nil
  | given gives _ _ ih =>
      obtain ⟨hop, hops⟩ := List.forall_mem_cons.mp hops
      exact List.forall_mem_cons.mpr ⟨gives.httpPath ▸ hop, ih hops⟩
  | failed _ _ _ ih => exact ih fun op hop => hops op (List.mem_cons_of_mem _ hop)

/-! ## Endpoints before they are kept apart -/

section Drafts

variable {scope : Scope}

/-- The endpoint that an operation gives at first: with its own name, and with the path of its HTTP
path and its intent. -/
structure Operation.Drafts (op : Operation) (e : Endpoint) : Prop where
  name : operationName op.2.2.1 op.1 op.2.2.2 = .ok e.name
  path : e.path = plainPath e.key
  method : e.method = op.2.2.1
  httpPath : e.httpPath = op.1

theorem endpoint_drafts (secured : Bool) (op : Operation) :
    ComesTo (fun found => ∀ e, found = some e → op.Drafts e) (fun _ => True)
      (endpoint scope secured op.1 op.2.1 op.2.2.1 op.2.2.2) := by
  unfold endpoint
  have hname : ComesTo (fun name => operationName op.2.2.1 op.1 op.2.2.2 = .ok name)
      (fun _ => True) (checked (operationName op.2.2.1 op.1 op.2.2.2)) := by
    cases operationName op.2.2.1 op.1 op.2.2.2 with
    | error f => exact .throw trivial
    | ok name => exact .pure rfl
  refine hname.bind fun name hname => ?_
  have hparts := ComesTo.of_notesOnly (@parts_spec scope name op.2.1 op.2.2.2).1
  refine ComesTo.bind (hparts.tryCatch fun why _ => ?_) fun found _ => ?_
  · cases why with
    | fault f => exact .throw trivial
    | problem p => exact (ComesTo.note _).bind fun _ _ => .pure trivial
    | flaw f => exact (ComesTo.note _).bind fun _ _ => .pure trivial
  · cases found with
    | none => exact .pure fun e he => absurd he (Option.some_ne_none e).symm
    | some parts =>
        refine (ComesTo.of_notesOnly (quiet_listOf _)).bind fun tags _ => .pure fun e he => ?_
        cases he
        exact ⟨hname, rfl, rfl, rfl⟩

/-- The endpoints of operations are drafts of some of them, in their order. -/
theorem endpoints_drafts {secured : Bool} (ops : List Operation) {found : List (Option Endpoint)}
    {ws ws' : List Warning}
    (h : (ops.mapM fun (httpPath, item, m, o) => endpoint scope secured httpPath item m o).run.run
      ws = (.ok found, ws')) :
    ∃ given, given.Sublist ops ∧ List.Forall₂ Operation.Drafts given (found.filterMap id) := by
  have hfound : List.Forall₂ (fun (op : Operation) found => ∀ e, found = some e → op.Drafts e)
      ops found := by
    have hall := (ComesTo.mapM_forall₂ fun op (_ : op ∈ ops) =>
      @endpoint_drafts scope secured op) ws
    rw [h] at hall
    exact hall.1
  clear h
  induction hfound with
  | nil => exact ⟨[], .slnil, .nil⟩
  | @cons op first ops found hop _ ih =>
      obtain ⟨given, hsub, hdrafts⟩ := ih
      cases first with
      | none => exact ⟨given, hsub.cons op, hdrafts⟩
      | some e => exact ⟨op :: given, hsub.cons_cons op, .cons (hop e rfl) hdrafts⟩

theorem plainPath_of_drafts {given : List Operation} {drafts : List Endpoint}
    (h : List.Forall₂ Operation.Drafts given drafts) : ∀ e ∈ drafts, e.path = plainPath e.key := by
  induction h with
  | nil => exact fun _ he => absurd he List.not_mem_nil
  | cons hop _ ih => exact List.forall_mem_cons.mpr ⟨hop.path, ih⟩

/-- The endpoints of a document are those that its operations give, kept apart. -/
theorem endpointsOf_drafts {endpoints : List Endpoint} {ws ws' : List Warning}
    (h : (endpointsOf scope).run.run ws = (.ok endpoints, ws')) :
    ∃ paths given drafts new, Document.paths scope.document = .ok paths ∧
      endpoints = distinct drafts ∧ Accounted scope (operationsAt paths) drafts new ∧
      given.Sublist (operationsAt paths) ∧ List.Forall₂ Operation.Drafts given drafts := by
  unfold endpointsOf at h
  cases hsecurity : Document.member scope.document "security" with
  | error f =>
      rw [hsecurity] at h
      cases h
  | ok security =>
      cases hpaths : Document.paths scope.document with
      | error f =>
          rw [hsecurity, hpaths] at h
          cases h
      | ok paths =>
          rw [hsecurity, hpaths] at h
          simp only [checked, pure_bind] at h
          rw [noting_run_bind] at h
          rcases hrun : ((operationsAt paths).mapM fun (httpPath, item, m, o) =>
              endpoint scope security.isGiven httpPath item m o).run.run ws with
            ⟨_ | found, ws₁⟩
          · rw [operationsAt] at hrun
            rw [hrun] at h
            cases h
          · obtain ⟨new, -, hdealt⟩ := endpoints_accounted _ hrun
            obtain ⟨given, hsub, hdrafts⟩ := endpoints_drafts _ hrun
            rw [operationsAt] at hrun
            rw [hrun] at h
            cases h
            exact ⟨paths, given, _, new, rfl, rfl, hdealt, hsub, hdrafts⟩

/-- The endpoints of a service are those of its document. -/
theorem ofDocument_endpoints {service : Service} {ws ws' : List Warning}
    (h : (ofDocument scope).run.run ws = (.ok service, ws')) :
    (endpointsOf scope).run.run ws = (.ok service.endpoints, ws') := by
  unfold ofDocument at h
  cases hinfo : Document.sectionOf scope.document "info" with
  | error f =>
      rw [hinfo] at h
      cases h
  | ok info =>
      cases htitle : Document.member info "title" with
      | error f =>
          rw [hinfo] at h
          simp only [checked, pure_bind, htitle] at h
          cases h
      | ok title =>
          cases hversion : Document.member info "version" with
          | error f =>
              rw [hinfo] at h
              simp only [checked, pure_bind, htitle, hversion] at h
              cases h
          | ok version =>
              rw [hinfo] at h
              simp only [checked, pure_bind, htitle, hversion] at h
              rw [noting_run_bind] at h
              rcases hrun : (endpointsOf scope).run.run ws with ⟨_ | endpoints, ws₁⟩ <;>
                rw [hrun] at h
              · cases h
              · cases h
                rfl

end Drafts

/-! ## The endpoints of a service -/

theorem map_key_distinct (es : List Endpoint) :
    (distinct es).map (·.key) = es.map (·.key) := by
  have hpaths := length_keptApart ":" (es.map fun e => (e.path, e.method))
  have hnames := length_keptApart "_" (es.map fun e => (e.name, e.method))
  rw [List.length_map] at hpaths hnames
  calc (distinct es).map (·.key)
      = ((es.zip ((keptApart ":" (es.map fun e => (e.path, e.method))).zip
          (keptApart "_" (es.map fun e => (e.name, e.method))))).map Prod.fst).map (·.key) := by
        rw [distinct, List.map_map, List.map_map]
        rfl
    _ = es.map (·.key) := by
        rw [List.map_fst_zip]
        rw [List.length_zip]
        omega

theorem map_path_distinct (es : List Endpoint) :
    (distinct es).map (·.path) = keptApart ":" (es.map fun e => (e.path, e.method)) := by
  have hpaths := length_keptApart ":" (es.map fun e => (e.path, e.method))
  have hnames := length_keptApart "_" (es.map fun e => (e.name, e.method))
  rw [List.length_map] at hpaths hnames
  calc (distinct es).map (·.path)
      = ((es.zip ((keptApart ":" (es.map fun e => (e.path, e.method))).zip
          (keptApart "_" (es.map fun e => (e.name, e.method))))).map Prod.snd).map Prod.fst := by
        rw [distinct, List.map_map, List.map_map]
        rfl
    _ = keptApart ":" (es.map fun e => (e.path, e.method)) := by
        rw [List.map_snd_zip, List.map_fst_zip]
        · omega
        · rw [List.length_zip]
          omega

/-- The paths of the endpoints of a document are canonical after the first round, and different. -/
theorem endpoints_canonical {scope : Scope} {endpoints : List Endpoint} {ws ws' : List Warning}
    {paths : List (Value × Value)} (hpaths : Document.paths scope.document = .ok paths)
    (hkeys : TextKeys paths) (h : (endpointsOf scope).run.run ws = (.ok endpoints, ws')) :
    (∀ e ∈ endpoints, ∃ s, e.httpPath = .text s) ∧
      endpoints.map (·.path) = canonicalPaths [] (endpoints.map (·.key)) ∧
      (endpoints.map (·.path)).Nodup ∧
      ∃ drafts, endpoints = distinct drafts ∧
        keptApart ":" (drafts.map fun e => (e.path, e.method)) =
          withMethods ":" [] (drafts.map fun e => (e.path, e.method)) := by
  obtain ⟨paths', given, drafts, new, hpaths', rfl, hdealt, -, hdrafts⟩ := endpointsOf_drafts h
  obtain rfl : paths = paths' := Except.ok.inj (hpaths.symm.trans hpaths')
  have horder : (drafts.map (·.key)).Pairwise InOrder :=
    (List.pairwise_map.mpr (inOrder_operationsAt hkeys)).sublist hdealt.keys_sublist
  have hnamed : (drafts.map fun e => (e.path, e.method)) =
      (drafts.map (·.key)).map fun op => (plainPath op, op.2) := by
    rw [List.map_map]
    refine List.map_congr_left fun e he => ?_
    rw [plainPath_of_drafts hdrafts e he]
    rfl
  obtain ⟨hsecond, hfirst, hnodup⟩ := keptApart_eq horder
  rw [map_path_distinct, map_key_distinct, hnamed, hsecond, hfirst]
  exact ⟨hdealt.distinct.texts hkeys.operation, rfl, hnodup, drafts, rfl, by rw [hnamed, hsecond]⟩

/-- Among endpoints with different paths, the path of one finds it. -/
theorem endpoint?_path {service : Service} (hnodup : (service.endpoints.map (·.path)).Nodup)
    {e : Endpoint} (he : e ∈ service.endpoints) : service.endpoint? e.path = some e := by
  unfold Service.endpoint?
  generalize service.endpoints = es at hnodup he
  induction es with
  | nil => exact absurd he List.not_mem_nil
  | cons d es ih =>
      obtain ⟨hd, hnodup⟩ := List.nodup_cons.mp hnodup
      rcases List.mem_cons.mp he with rfl | he
      · exact List.find?_cons_of_pos (beq_self_eq_true e.path)
      · have hne : d.path ≠ e.path := by
          intro heq
          exact hd (List.mem_map.mpr ⟨e, he, heq.symm⟩)
        simpa [hne] using ih hnodup he

/-- Where the service of a document is worked out, the paths of its endpoints are different, and each
endpoint is found by its path.  The path is the HTTP path with the intent, and with the method behind
them just if an endpoint before has the same HTTP path and intent; numbers are never needed. -/
theorem paths_canonical {scope : Scope} {service : Service} {ws ws' : List Warning}
    {paths : List (Value × Value)} (hpaths : Document.paths scope.document = .ok paths)
    (hkeys : TextKeys paths) (h : (ofDocument scope).run.run ws = (.ok service, ws')) :
    (service.endpoints.map (·.path)).Nodup ∧
      (∀ e ∈ service.endpoints, service.endpoint? e.path = some e) ∧
      (∀ before e after, service.endpoints = before ++ e :: after → ∃ path, e.httpPath = .text path ∧
        e.path = path ++ ":" ++ e.method.intent.name ++
          if before.any fun d => d.httpPath.isText path && d.method.intent == e.method.intent
          then ":" ++ e.method.name else "") ∧
      ∃ drafts, service.endpoints = distinct drafts ∧
        keptApart ":" (drafts.map fun e => (e.path, e.method)) =
          withMethods ":" [] (drafts.map fun e => (e.path, e.method)) := by
  obtain ⟨htexts, hcanonical, hnodup, hdrafts⟩ :=
    endpoints_canonical hpaths hkeys (ofDocument_endpoints h)
  refine ⟨hnodup, fun e he => ?_, fun before e after hsplit => ?_, hdrafts⟩
  · exact endpoint?_path hnodup he
  · obtain ⟨path, hpath⟩ := htexts e (hsplit ▸ List.mem_append_right _ List.mem_cons_self)
    refine ⟨path, hpath, ?_⟩
    have hbefore : ∀ d ∈ before, d.httpPath.isText path = (d.httpPath.plain == path) := by
      intro d hd
      obtain ⟨s, hs⟩ := htexts d (hsplit ▸ List.mem_append_left _ hd)
      rw [hs]
      rfl
    have hany : (before.any fun d => d.httpPath.isText path && d.method.intent == e.method.intent) =
        (before.map (·.key)).any fun d => d.1 == path && d.2.intent == e.method.intent := by
      rw [List.any_map, Bool.eq_iff_iff, List.any_eq_true, List.any_eq_true]
      refine exists_congr fun d => and_congr_right fun hd => ?_
      rw [hbefore d hd]
      rfl
    have hplain : e.httpPath.plain = path := by rw [hpath]; rfl
    rw [eq_canonicalPath hcanonical hsplit, hany, canonicalPath, Endpoint.key, hplain]
    split
    · exact String.append_assoc
    · exact String.append_empty.symm

/-- A document whose paths end like canonical paths of each other, with two operations of one
intent. -/
def nestedPaths : Value :=
  .record [("paths", .record [
    ("/a:query", .record [("trace", .record []), ("delete", .record [])]),
    ("/a", .record [("head", .record []), ("options", .record []), ("patch", .record []),
      ("put", .record [])]),
    ("/a:query:options", .record [("get", .record [])])])]

theorem nestedPaths_canonical : ∃ paths service new,
    Document.paths nestedPaths = .ok paths ∧ TextKeys paths ∧
      (ofDocument ⟨nestedPaths, []⟩).run.run [] = (.ok service, new) ∧
      service.endpoints.map (fun e => (e.method, e.path)) =
        [(.delete, "/a:query:delete"), (.trace, "/a:query:custom"), (.put, "/a:update"),
          (.patch, "/a:update:patch"), (.head, "/a:query"), (.options, "/a:query:options"),
          (.get, "/a:query:options:query")] ∧
      (service.endpoints.map (·.path)).Nodup ∧
      ∀ e ∈ service.endpoints, service.endpoint? e.path = some e := by
  have hvalues : ((ofDocument ⟨nestedPaths, []⟩).run.run []).1.toOption.map
      (·.endpoints.map fun e => (e.method, e.path)) =
        some [(.delete, "/a:query:delete"), (.trace, "/a:query:custom"), (.put, "/a:update"),
          (.patch, "/a:update:patch"), (.head, "/a:query"), (.options, "/a:query:options"),
          (.get, "/a:query:options:query")] := by
    decide +kernel
  have hpaths : ∃ paths, Document.paths nestedPaths = .ok paths ∧ TextKeys paths := by
    refine ⟨_, rfl, ?_, ?_⟩
    · simp
    · simp
  obtain ⟨paths, hpaths, hkeys⟩ := hpaths
  rcases hrun : (ofDocument ⟨nestedPaths, []⟩).run.run [] with ⟨_ | service, new⟩ <;>
    rw [hrun] at hvalues
  · exact nomatch hvalues
  · obtain ⟨hnodup, hfound, -, -⟩ := paths_canonical hpaths hkeys hrun
    exact ⟨paths, service, new, hpaths, hkeys, rfl, Option.some.inj hvalues, hnodup, hfound⟩

end Service

end Typewright

/-
# The names of a service

Each operation has a name by itself, its own name, and its endpoint is called so unless the name is
taken.  Two rounds keep the names apart, the first by methods, the second by numbers, and what they do
together is simple: an endpoint keeps its own name just if no endpoint before it is called so in the
end (`keptApart_split`).  For a name that the first round gives is one that the second round gives as
well, to the same endpoint or to one before it.

It follows when an endpoint loses a name that no other endpoint has by itself.  An endpoint before it
had to be renamed, and the name that was made for it (`Made`) is that one.  Names are made for the
endpoints in turn, without regard to the own names that are still to come.
-/
import Typewright.Proofs.Service.Paths

namespace Typewright.Service

open Name (fresh freshAll numbered)

variable {scope : Scope}

/-! ## Names made in turn -/

/-- The names that are made for an endpoint if its own name is taken: with its method, and with a
number behind either of the two. -/
inductive Made (own : String) (m : Method) : String → Prop
  | method : Made own m (own ++ "_" ++ m.name)
  | number {k : Nat} : 2 ≤ k → Made own m (numbered own k)
  | methodNumber {k : Nat} : 2 ≤ k → Made own m (numbered (own ++ "_" ++ m.name) k)

/-- A name that was made is longer than the own name. -/
theorem Made.ne {own n : String} {m : Method} (h : Made own m n) : n ≠ own := by
  have hmark : "_".length = 1 := rfl
  have hnumber (k : Nat) : 0 < (Nat.repr k).length := Nat.length_repr_pos
  have hlonger : own.length < n.length := by
    cases h with
    | method =>
        simp only [String.length_append]
        omega
    | @number k =>
        have hk := hnumber k
        simp only [numbered, String.length_append]
        omega
    | @methodNumber k =>
        simp only [numbered, String.length_append]
        omega
  rintro rfl
  exact Nat.lt_irrefl _ hlonger

theorem withMethods_append (separator : String) (seen : List String)
    (names more : List (String × Method)) :
    withMethods separator seen (names ++ more) = withMethods separator seen names ++
      withMethods separator ((withMethods separator seen names).reverse ++ seen) more := by
  induction names generalizing seen with
  | nil => rfl
  | cons n names ih => simp [withMethods, ih]

/-- What the first round gives is given in the second one as well. -/
theorem withMethods_subset (separator : String) (names : List (String × Method)) :
    withMethods separator [] names ⊆ keptApart separator names :=
  fun _ h => Name.mem_freshAll_of_mem h List.not_mem_nil

/-- The name of an endpoint depends on those before it only.  It is the own one just if none of them
has been given this name, and one that is made of the own one otherwise. -/
theorem keptApart_split (before : List (String × Method)) (x : String × Method)
    (after : List (String × Method)) :
    ∃ n rest, keptApart "_" (before ++ x :: after) = keptApart "_" before ++ n :: rest ∧
      (n = x.1 ↔ x.1 ∉ keptApart "_" before) ∧ (n = x.1 ∨ Made x.1 x.2 n) := by
  have hnumber {taken : List String} {name : String} (h : name ∈ taken) :
      ∃ k, 2 ≤ k ∧ fresh taken name = numbered name k := by
    obtain ⟨i, heq, -, -⟩ := Name.fresh_least h
    exact ⟨2 + i, by omega, heq⟩
  have htaken (name : String) : name ∈ (keptApart "_" before).reverse ++ [] ↔
      name ∈ keptApart "_" before := by
    rw [List.append_nil, List.mem_reverse]
  rw [keptApart, withMethods_append, Name.freshAll_append, ← keptApart, withMethods, freshAll]
  refine ⟨_, _, rfl, ?_⟩
  by_cases hseen : x.1 ∈ withMethods "_" [] before
  · -- the name gets the method of the endpoint
    have hgiven : x.1 ∈ keptApart "_" before := withMethods_subset "_" before hseen
    have hmade : Made x.1 x.2 (fresh ((keptApart "_" before).reverse ++ [])
        (x.1 ++ "_" ++ x.2.name)) := by
      by_cases hfree : x.1 ++ "_" ++ x.2.name ∈ (keptApart "_" before).reverse ++ []
      · obtain ⟨k, hk, heq⟩ := hnumber hfree
        exact heq ▸ .methodNumber hk
      · exact (Name.fresh_eq_self hfree).symm ▸ .method
    rw [if_pos (List.contains_iff_mem.mpr (by simpa using hseen))]
    exact ⟨iff_of_false hmade.ne (not_not_intro hgiven), .inr hmade⟩
  · rw [if_neg fun h => hseen (by simpa using List.contains_iff_mem.mp h)]
    refine ⟨Name.fresh_eq_self_iff.trans (not_congr (htaken x.1)), ?_⟩
    by_cases hfree : x.1 ∈ (keptApart "_" before).reverse ++ []
    · obtain ⟨k, hk, heq⟩ := hnumber hfree
      exact .inr (heq ▸ .number hk)
    · exact .inl (Name.fresh_eq_self hfree)

/-! ## The endpoints of a document -/

/-- The name that an operation has by itself, if it has one. -/
def Operation.ownName? (op : Operation) : Option String :=
  (operationName op.2.2.1 op.1 op.2.2.2).toOption

/-- An endpoint with its operation and with the name that the operation has by itself. -/
structure Named where
  operation : Operation
  own : String
  endpoint : Endpoint
  own_eq : operationName operation.2.2.1 operation.1 operation.2.2.2 = .ok own
  method_eq : endpoint.method = operation.2.2.1
  httpPath_eq : endpoint.httpPath = operation.1

/-- The own name and the method, of which the name of the endpoint is made. -/
abbrev Named.base (x : Named) : String × Method := (x.own, x.endpoint.method)

theorem map_own (named : List Named) :
    (named.map (·.own)).map some = (named.map (·.operation)).map Operation.ownName? := by
  rw [List.map_map, List.map_map]
  exact List.map_congr_left fun x _ => (congrArg Except.toOption x.own_eq).symm

/-- Endpoints that differ in their names and paths only. -/
def Renamed (d e : Endpoint) : Prop := ∃ path name, e = { d with path := path, name := name }

theorem forall₂_renamed : ∀ {es : List Endpoint} {names : List (String × String)},
    names.length = es.length → List.Forall₂ Renamed es
      ((es.zip names).map fun (e, path, name) => { e with path := path, name := name })
  | [], _, _ => .nil
  | _ :: _, (path, name) :: _, h => .cons ⟨path, name, rfl⟩ (forall₂_renamed (Nat.succ.inj h))

theorem forall₂_distinct (drafts : List Endpoint) :
    List.Forall₂ Renamed drafts (distinct drafts) := by
  refine forall₂_renamed ?_
  simp only [List.length_zip, length_keptApart, List.length_map, Nat.min_self]

theorem exists_named {given : List Operation} {drafts endpoints : List Endpoint}
    (hdrafts : List.Forall₂ Operation.Drafts given drafts)
    (hrenamed : List.Forall₂ Renamed drafts endpoints) :
    ∃ named : List Named, named.map (·.operation) = given ∧ named.map (·.endpoint) = endpoints ∧
      named.map (·.base) = drafts.map fun d => (d.name, d.method) := by
  induction hdrafts generalizing endpoints with
  | nil =>
      cases hrenamed
      exact ⟨[], rfl, rfl, rfl⟩
  | @cons op d ops drafts hop _ ih =>
      cases hrenamed with
      | cons he hes =>
          obtain ⟨path, name, rfl⟩ := he
          obtain ⟨named, hops, hendpoints, hbases⟩ := ih hes
          let e : Endpoint := { d with path := path, name := name }
          refine ⟨⟨op, d.name, e, hop.name, hop.method, hop.httpPath⟩ :: named,
            congrArg (op :: ·) hops, congrArg (e :: ·) hendpoints, ?_⟩
          rw [List.map_cons, List.map_cons, hbases]

section Endpoints

variable {named before after : List Named} {x : Named}

/-- An endpoint keeps its own name just if no endpoint before it is called so. -/
theorem name_eq_own_iff
    (hnames : named.map (·.endpoint.name) = keptApart "_" (named.map (·.base)))
    (hsplit : named = before ++ x :: after) :
    (x.endpoint.name = x.own ↔ ∀ y ∈ before, y.endpoint.name ≠ x.own) ∧
      (x.endpoint.name = x.own ∨ Made x.own x.endpoint.method x.endpoint.name) := by
  obtain ⟨n, rest, heq, hkept, hmade⟩ :=
    keptApart_split (before.map (·.base)) x.base (after.map (·.base))
  rw [hsplit, List.map_append, List.map_append, List.map_cons, List.map_cons, heq] at hnames
  have hlen : (before.map (·.endpoint.name)).length =
      (keptApart "_" (before.map (·.base))).length := by
    rw [length_keptApart, List.length_map, List.length_map]
  obtain ⟨hbefore, hrest⟩ := List.append_inj hnames hlen
  obtain rfl : x.endpoint.name = n := (List.cons.inj hrest).1
  refine ⟨hkept.trans ?_, hmade⟩
  rw [← hbefore, List.mem_map, not_exists]
  exact forall_congr' fun y => not_and

/-- Where an endpoint loses a name that is no other one's, an endpoint before it was renamed to it. -/
theorem exists_renamed
    (hnames : named.map (·.endpoint.name) = keptApart "_" (named.map (·.base)))
    (hsplit : named = before ++ x :: after) (hown : ∀ y ∈ before, y.own ≠ x.own)
    (hlost : x.endpoint.name ≠ x.own) :
    ∃ first y rest, before = first ++ y :: rest ∧ y.endpoint.name = x.own ∧
      Made y.own y.endpoint.method x.own ∧ ∃ z ∈ first, z.endpoint.name = y.own := by
  have htaken : ∃ y ∈ before, y.endpoint.name = x.own := by
    have hnone := (name_eq_own_iff hnames hsplit).1.not.mp hlost
    simpa using hnone
  obtain ⟨y, hy, hname⟩ := htaken
  obtain ⟨first, rest, rfl⟩ := List.append_of_mem hy
  have hother : y.endpoint.name ≠ y.own := fun heq => hown y hy (heq.symm.trans hname)
  have hfirst : named = first ++ y :: (rest ++ x :: after) :=
    hsplit.trans (List.append_assoc first (y :: rest) (x :: after))
  obtain ⟨hkept, hmade⟩ := name_eq_own_iff hnames hfirst
  refine ⟨first, y, rest, rfl, hname, hname ▸ hmade.resolve_left hother, ?_⟩
  have hnone := hkept.not.mp hother
  simpa using hnone

end Endpoints

/-- Where the endpoints of a document are worked out, each is called by its own name just if no
endpoint before it is called so, and by a name that is made of its own one otherwise.  A name that no
other endpoint has by itself is kept unless an endpoint before was renamed to it, since its own name
was taken. -/
theorem own_names_kept {endpoints : List Endpoint} {ws ws' : List Warning}
    (h : (endpointsOf scope).run.run ws = (.ok endpoints, ws')) :
    ∃ paths, ∃ named : List Named, Document.paths scope.document = .ok paths ∧
      (named.map (·.operation)).Sublist (operationsAt paths) ∧
      named.map (·.endpoint) = endpoints ∧
      ∀ before x after, named = before ++ x :: after →
        (x.endpoint.name = x.own ↔ ∀ y ∈ before, y.endpoint.name ≠ x.own) ∧
        (x.endpoint.name = x.own ∨ Made x.own x.endpoint.method x.endpoint.name) ∧
        ((∀ y ∈ before ++ after, y.own ≠ x.own) → x.endpoint.name = x.own ∨
          ∃ first y rest, before = first ++ y :: rest ∧ y.endpoint.name = x.own ∧
            Made y.own y.endpoint.method x.own ∧ ∃ z ∈ first, z.endpoint.name = y.own) := by
  obtain ⟨paths, given, drafts, new, hpaths, rfl, -, hsub, hdrafts⟩ := endpointsOf_drafts h
  obtain ⟨named, hops, hendpoints, hbases⟩ := exists_named hdrafts (forall₂_distinct drafts)
  have hnames : named.map (·.endpoint.name) = keptApart "_" (named.map (·.base)) := by
    rw [hbases, ← map_name_distinct, ← hendpoints, List.map_map]
    rfl
  refine ⟨paths, named, hpaths, hops ▸ hsub, hendpoints, fun before x after hsplit => ?_⟩
  obtain ⟨hkept, hmade⟩ := name_eq_own_iff hnames hsplit
  refine ⟨hkept, hmade, fun hown => ?_⟩
  by_cases hlost : x.endpoint.name = x.own
  · exact .inl hlost
  · refine .inr (exists_renamed hnames hsplit (fun y hy => ?_) hlost)
    exact hown y (List.mem_append_left after hy)

/-- A document in which an identifier that two operations share, with the method of the second one,
is the identifier of a third one. -/
def madeIdentifier : Value :=
  .record [("paths", .record [
    ("/a", .record [("get", .record [("operationId", .text "pets")])]),
    ("/b", .record [("get", .record [("operationId", .text "pets")])]),
    ("/c", .record [("get", .record [("operationId", .text "pets_get")])]),
    ("/d", .record [("post", .record [])])])]

theorem madeIdentifier_taken : ∃ endpoints new, ∃ named : List Named,
    (endpointsOf ⟨madeIdentifier, []⟩).run.run [] = (.ok endpoints, new) ∧
      named.map (·.endpoint) = endpoints ∧
      named.map (·.own) = ["pets", "pets", "pets_get", "create_d"] ∧
      named.map (·.endpoint.name) = ["pets", "pets_get", "pets_get_get", "create_d"] := by
  have hnames : ((endpointsOf ⟨madeIdentifier, []⟩).run.run []).1.toOption.map (·.map (·.name)) =
      some ["pets", "pets_get", "pets_get_get", "create_d"] := by
    decide +kernel
  have howns : (Document.paths madeIdentifier).toOption.map (fun paths =>
      (operationsAt paths).map Operation.ownName?) =
        some [some "pets", some "pets", some "pets_get", some "create_d"] := by
    decide +kernel
  rcases hrun : (endpointsOf ⟨madeIdentifier, []⟩).run.run [] with ⟨_ | endpoints, new⟩ <;>
    rw [hrun] at hnames
  · exact nomatch hnames
  · obtain ⟨paths, named, hpaths, hsub, rfl, -⟩ := own_names_kept hrun
    rw [hpaths] at howns
    have howns : (operationsAt paths).map Operation.ownName? =
      [some "pets", some "pets", some "pets_get", some "create_d"] := Option.some.inj howns
    have hnames : (named.map (·.endpoint)).map (·.name) =
      ["pets", "pets_get", "pets_get_get", "create_d"] := Option.some.inj hnames
    have hops : named.map (·.operation) = operationsAt paths := by
      refine hsub.eq_of_length ?_
      have hlength := congrArg List.length hnames
      have hlength' := congrArg List.length howns
      simp only [List.length_map] at hlength hlength'
      rw [List.length_map, hlength, hlength']
      rfl
    refine ⟨_, new, named, rfl, rfl, ?_, List.map_map.symm.trans hnames⟩
    rw [← hops, ← map_own] at howns
    exact (List.map_inj_right (fun _ _ => Option.some.inj)).mp howns

end Typewright.Service

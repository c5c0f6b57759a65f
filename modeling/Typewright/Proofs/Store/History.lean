/-
# A store holds what was registered last

A store keeps a list of entries for data types and one for models.  Registering replaces the entry of
a name or adds one, so each name has one entry, with what came last under it (`Named.Indexes`).  One
operation appends what it registers, or starts afresh (`Store.Holds.step`); by induction on the
operations a store answers as if each list were a map of names that is written in turn
(`Store.answers_latest`).

The names are listed in the order of their code points, each once, whatever the order of the entries
is.  What a store lists has the names that it is stored under, so registering it again leaves even the
entries as they are.
-/
import Mathlib.Data.List.Dedup
import Mathlib.Data.List.DropRight
import Typewright.Store

namespace Typewright

/-! ## Entries by name -/

namespace Named

section Entries

variable {α : Type} {entries : List (String × α)} {name : String} {a : α}

theorem lookup_put (name : String) (a : α) (entries : List (String × α)) (n : String) :
    (put name a entries).lookup n = if n = name then some a else entries.lookup n := by
  induction entries with
  | nil =>
      by_cases hn : n = name
      · simp [put, hn]
      · simp [put, List.lookup_cons, beq_false_of_ne hn, hn]
  | cons e rest ih =>
      obtain ⟨k, b⟩ := e
      by_cases hk : k = name
      · by_cases hn : n = name
        · simp [put, hk, hn]
        · simp [put, List.lookup_cons, beq_false_of_ne hn, hk, hn]
      · rw [put, if_neg (by simpa using hk)]
        by_cases hn : n = k
        · simp [hn, hk]
        · rw [List.lookup_cons, List.lookup_cons, beq_false_of_ne hn]
          exact ih

theorem names_put (name : String) (a : α) (entries : List (String × α)) :
    (put name a entries).map (·.1) =
      if name ∈ entries.map (·.1) then entries.map (·.1) else entries.map (·.1) ++ [name] := by
  induction entries with
  | nil => simp [put]
  | cons e rest ih =>
      obtain ⟨k, b⟩ := e
      by_cases hk : k = name
      · simp [put, hk]
      · rw [put, if_neg (by simpa using hk), List.map_cons, ih]
        by_cases hrest : name ∈ rest.map (·.1)
        · simp [hrest]
        · simp [hrest, Ne.symm hk]

theorem nodup_put (h : (entries.map (·.1)).Nodup) : ((put name a entries).map (·.1)).Nodup := by
  rw [names_put]
  split
  · exact h
  · rename_i hnew
    exact List.nodup_append.mpr ⟨h, List.nodup_singleton name, fun n hn m hm heq =>
      hnew (List.mem_singleton.mp hm ▸ heq ▸ hn)⟩

/-- What is stored under a name already is not stored again. -/
theorem put_of_lookup (h : entries.lookup name = some a) : put name a entries = entries := by
  induction entries with
  | nil => cases h
  | cons e rest ih =>
      obtain ⟨k, b⟩ := e
      by_cases hk : k = name
      · rw [List.lookup_cons, hk, beq_self_eq_true] at h
        cases h
        simp [put, hk]
      · rw [List.lookup_cons, beq_false_of_ne (Ne.symm hk)] at h
        rw [put, if_neg (by simpa using hk), ih h]

theorem lookup_of_mem (h : (entries.map (·.1)).Nodup) {e : String × α} (he : e ∈ entries) :
    entries.lookup e.1 = some e.2 := by
  induction entries with
  | nil => cases he
  | cons d rest ih =>
      obtain ⟨hd, hrest⟩ := List.nodup_cons.mp h
      rw [List.lookup_cons]
      rcases List.mem_cons.mp he with rfl | he
      · simp
      · have hne : e.1 ≠ d.1 := fun heq => hd (List.mem_map.mpr ⟨e, he, heq⟩)
        rw [beq_false_of_ne hne]
        exact ih hrest he

theorem mem_names_iff {n : String} : n ∈ entries.map (·.1) ↔ (entries.lookup n).isSome = true := by
  rw [List.lookup_isSome_iff, List.mem_map]
  exact exists_congr fun e => and_congr_right fun _ => by rw [beq_iff_eq, eq_comm]

end Entries

/-! ## What came last under a name -/

section Latest

variable {α : Type} {nameOf : α → String} {xs ys : List α} {x : α}

/-- The last of some things that has a name. -/
def latest (nameOf : α → String) (xs : List α) (name : String) : Option α :=
  xs.reverse.find? fun x => nameOf x == name

theorem latest_append (xs ys : List α) (n : String) :
    latest nameOf (xs ++ ys) n = (latest nameOf ys n).or (latest nameOf xs n) := by
  rw [latest, List.reverse_append, List.find?_append]
  rfl

theorem name_of_latest {n : String} (h : latest nameOf xs n = some x) : nameOf x = n := by
  simpa using List.find?_some h

theorem latest_isSome_iff {n : String} :
    (latest nameOf xs n).isSome = true ↔ n ∈ xs.map nameOf := by
  simp [latest]

theorem latest_of_not_mem {n : String} (h : n ∉ xs.map nameOf) : latest nameOf xs n = none := by
  rwa [← latest_isSome_iff, Option.not_isSome_iff_eq_none] at h

/-- Among things of different names, each is the last of its name. -/
theorem latest_of_mem (h : (xs.map nameOf).Nodup) (hx : x ∈ xs) :
    latest nameOf xs (nameOf x) = some x := by
  obtain ⟨y, hy⟩ := Option.isSome_iff_exists.mp
    (latest_isSome_iff.mpr (List.mem_map_of_mem (f := nameOf) hx))
  have hmem : y ∈ xs := List.mem_reverse.mp (List.mem_of_find?_eq_some hy)
  rw [hy, List.inj_on_of_nodup_map h hmem hx (name_of_latest hy)]

/-- Entries with some more, each of which replaces an earlier one of its name. -/
def putAll (nameOf : α → String) (xs : List α) (entries : List (String × α)) : List (String × α) :=
  xs.foldl (fun entries x => put (nameOf x) x entries) entries

theorem lookup_putAll (nameOf : α → String) (xs : List α) (entries : List (String × α))
    (n : String) :
    (putAll nameOf xs entries).lookup n = (latest nameOf xs n).or (entries.lookup n) := by
  induction xs generalizing entries with
  | nil => rfl
  | cons x xs ih =>
      have hcons : latest nameOf (x :: xs) n =
          (latest nameOf xs n).or (if n = nameOf x then some x else none) := by
        rw [← List.singleton_append, latest_append]
        by_cases hn : n = nameOf x
        · simp [latest, hn]
        · simp [latest, hn, Ne.symm hn]
      rw [putAll, List.foldl_cons, ← putAll, ih, lookup_put, hcons, Option.or_assoc]
      by_cases hn : n = nameOf x
      · simp [hn]
      · simp [hn]

theorem nodup_putAll {entries : List (String × α)} (h : (entries.map (·.1)).Nodup) :
    ((putAll nameOf xs entries).map (·.1)).Nodup := by
  induction xs generalizing entries with
  | nil => exact h
  | cons x xs ih => exact ih (nodup_put h)

/-- What is stored already is not stored again. -/
theorem putAll_of_lookup {entries : List (String × α)}
    (h : ∀ x ∈ xs, entries.lookup (nameOf x) = some x) : putAll nameOf xs entries = entries := by
  induction xs with
  | nil => rfl
  | cons x xs ih =>
      obtain ⟨hx, hxs⟩ := List.forall_mem_cons.mp h
      rw [putAll, List.foldl_cons, put_of_lookup hx]
      exact ih hxs

end Latest

/-! ## Listing by name -/

/-- A name comes before another one in the order of their code points. -/
def Precedes (a b : String) : Prop := a.toList.map Char.toNat < b.toList.map Char.toNat

theorem not_lt_iff {a b : String} : (!decide (b < a)) = true ↔ a ≤ b := by
  rw [Bool.not_eq_true', decide_eq_false_iff_not, String.not_lt]

theorem precedes_of_lt {a b : String} (h : a < b) : Precedes a b :=
  List.map_lt (fun _ _ hlt => hlt) h

/-- How things that are written in turn into a map from their names are answered for: which is got
under a name, which names there are, and the things in the order of these names. -/
structure Answers {α : Type} (nameOf : α → String) (xs : List α) (get : String → Option α)
    (names : List String) (values : List α) : Prop where
  get_latest : ∀ n, get n = latest nameOf xs n
  sorted : names.Pairwise Precedes
  mem_names : ∀ n, n ∈ names ↔ n ∈ xs.map nameOf
  named : values.map nameOf = names
  values_get : values.map some = names.map get

/-- Entries with what came last under each name, and each name once. -/
structure Indexes {α : Type} (nameOf : α → String) (xs : List α) (entries : List (String × α)) :
    Prop where
  nodup : (entries.map (·.1)).Nodup
  lookup : ∀ n, entries.lookup n = latest nameOf xs n

namespace Indexes

variable {α : Type} {nameOf : α → String} {xs : List α} {entries : List (String × α)}

theorem empty : Indexes nameOf [] [] := ⟨List.nodup_nil, fun _ => rfl⟩

theorem putAll (h : Indexes nameOf xs entries) (ys : List α) :
    Indexes nameOf (xs ++ ys) (putAll nameOf ys entries) where
  nodup := nodup_putAll h.nodup
  lookup n := by rw [lookup_putAll, h.lookup, latest_append]

theorem mem_names (h : Indexes nameOf xs entries) (n : String) :
    n ∈ entries.map (·.1) ↔ n ∈ xs.map nameOf := by
  rw [mem_names_iff, h.lookup, latest_isSome_iff]

/-- Things are stored under their names. -/
theorem name_eq (h : Indexes nameOf xs entries) {e : String × α} (he : e ∈ entries) :
    nameOf e.2 = e.1 :=
  name_of_latest ((h.lookup e.1).symm.trans (lookup_of_mem h.nodup he))

theorem length_eq (h : Indexes nameOf xs entries) :
    entries.length = (xs.map nameOf).dedup.length := by
  have hperm : (entries.map (·.1)).Perm (xs.map nameOf).dedup :=
    (List.perm_ext_iff_of_nodup h.nodup (List.nodup_dedup _)).mpr fun n => by
      rw [h.mem_names, List.mem_dedup]
  rw [← hperm.length_eq, List.length_map]

theorem pairwise_sorted (h : Indexes nameOf xs entries) :
    ((sorted entries).map (·.1)).Pairwise (· < ·) := by
  have hle : (sorted entries).Pairwise fun a b => a.1 ≤ b.1 := by
    refine (List.pairwise_mergeSort (fun a b c hab hbc => ?_) (fun a b => ?_) entries).imp
      not_lt_iff.mp
    · exact not_lt_iff.mpr (String.le_trans (not_lt_iff.mp hab) (not_lt_iff.mp hbc))
    · rw [Bool.or_eq_true, not_lt_iff, not_lt_iff]
      exact String.le_total a.1 b.1
  have hnodup : ((sorted entries).map (·.1)).Nodup :=
    ((List.mergeSort_perm entries _).map _).nodup_iff.mpr h.nodup
  rw [List.pairwise_map]
  exact (hle.and (List.pairwise_map.mp hnodup)).imp fun h => Std.lt_of_le_of_ne h.1 h.2

theorem answers (h : Indexes nameOf xs entries) :
    Answers nameOf xs (fun n => entries.lookup n) ((sorted entries).map (·.1)) ((sorted entries).map (·.2)) := by
  have hperm : (sorted entries).Perm entries := List.mergeSort_perm _ _
  refine ⟨h.lookup, h.pairwise_sorted.imp precedes_of_lt, fun n => ?_, ?_, ?_⟩
  · rw [(hperm.map (·.1)).mem_iff, h.mem_names]
  · rw [List.map_map]
    exact List.map_congr_left fun e he => h.name_eq (hperm.mem_iff.mp he)
  · rw [List.map_map, List.map_map]
    exact List.map_congr_left fun e he =>
      (lookup_of_mem h.nodup (hperm.mem_iff.mp he)).symm

theorem putAll_sorted (h : Indexes nameOf xs entries) :
    Named.putAll nameOf ((sorted entries).map (·.2)) entries = entries := by
  refine putAll_of_lookup fun x hx => ?_
  obtain ⟨e, he, rfl⟩ := List.mem_map.mp hx
  have he : e ∈ entries := (List.mergeSort_perm _ _).mem_iff.mp he
  rw [h.name_eq he, lookup_of_mem h.nodup he]

end Indexes

end Named

/-! ## Operations on a store -/

namespace Store

variable {s : Store} {m : Metadata}

theorem register_eq (s : Store) (m : Metadata) :
    s.register m = ⟨Named.putAll (·.name) m.dataTypes s.types,
      Named.putAll (·.name) m.models s.models⟩ := by
  have htypes : ∀ (ts : List DataType) (s : Store), ts.foldl registerType s =
      { s with types := Named.putAll (·.name) ts s.types } := by
    intro ts
    induction ts with
    | nil => exact fun _ => rfl
    | cons t ts ih => exact fun s => ih (s.registerType t)
  have hmodels : ∀ (ms : List Model) (s : Store), ms.foldl registerModel s =
      { s with models := Named.putAll (·.name) ms s.models } := by
    intro ms
    induction ms with
    | nil => exact fun _ => rfl
    | cons x ms ih => exact fun s => ih (s.registerModel x)
  rw [register, htypes, hmodels]

/-- What is done to a store. -/
inductive Operation where
  | registerType (t : DataType)
  | registerModel (x : Model)
  | registerAll (types : List DataType) (models : List Model)
  | registerInput (m : Metadata)
  | clear

namespace Operation

/-- A store after an operation. -/
def apply (s : Store) : Operation → Store
  | registerType t => s.registerType t
  | registerModel x => s.registerModel x
  | registerAll types models => s.register ⟨types, models⟩
  | registerInput m => s.register m
  | clear => s.clear

/-- What an operation registers, in turn. -/
def registers : Operation → Metadata
  | registerType t => ⟨[t], []⟩
  | registerModel x => ⟨[], [x]⟩
  | registerAll types models => ⟨types, models⟩
  | registerInput m => m
  | clear => {}

/-- Whether an operation clears the store. -/
def clears : Operation → Bool
  | clear => true
  | _ => false

theorem apply_of_clears {op : Operation} (h : op.clears = true) (s : Store) : op.apply s = {} := by
  cases op with
  | clear => rfl
  | _ => cases h

theorem apply_of_not_clears {op : Operation} (h : op.clears = false) (s : Store) :
    op.apply s = s.register op.registers := by
  cases op with
  | clear => cases h
  | _ => rfl

end Operation

/-- The store after some operations on one without anything. -/
def run (ops : List Operation) : Store := ops.foldl Operation.apply {}

/-- The operations after the last one that clears the store. -/
def sinceClear (ops : List Operation) : List Operation := ops.rtakeWhile fun op => !op.clears

/-- What is registered since the store was last cleared, in turn. -/
def registered (ops : List Operation) : Metadata :=
  ⟨(sinceClear ops).flatMap (·.registers.dataTypes), (sinceClear ops).flatMap (·.registers.models)⟩

/-- A store has an entry for what was registered last under each name. -/
structure Holds (s : Store) (m : Metadata) : Prop where
  types : Named.Indexes (·.name) m.dataTypes s.types
  models : Named.Indexes (·.name) m.models s.models

theorem holds_empty : ({} : Store).Holds {} := ⟨.empty, .empty⟩

theorem Holds.register (h : s.Holds m) (m' : Metadata) :
    (s.register m').Holds ⟨m.dataTypes ++ m'.dataTypes, m.models ++ m'.models⟩ := by
  rw [register_eq]
  exact ⟨h.types.putAll m'.dataTypes, h.models.putAll m'.models⟩

/-- One more operation. -/
theorem Holds.step {ops : List Operation} (h : s.Holds (registered ops)) (op : Operation) :
    (op.apply s).Holds (registered (ops ++ [op])) := by
  cases hclears : op.clears with
  | true =>
      have hnone : registered (ops ++ [op]) = {} := by
        simp [registered, sinceClear, hclears]
      rw [hnone, op.apply_of_clears hclears]
      exact holds_empty
  | false =>
      have hmore : registered (ops ++ [op]) =
          ⟨(registered ops).dataTypes ++ op.registers.dataTypes,
            (registered ops).models ++ op.registers.models⟩ := by
        simp [registered, sinceClear, hclears]
      rw [hmore, op.apply_of_not_clears hclears]
      exact h.register op.registers

theorem holds_run (ops : List Operation) : (run ops).Holds (registered ops) := by
  induction ops using List.reverseRecOn with
  | nil => exact holds_empty
  | append_singleton ops op ih =>
      rw [run, List.foldl_concat]
      exact ih.step op

/-- After any operations a store answers for data types and for models as if each were written in turn
into a map from names that is emptied when the store is cleared: under a name there is what was
registered last, the names are listed once each in the order of their code points, and what is listed
is what is got under them.  The size counts the names of both, a name is contained that either has, and
registering all that is listed once more changes nothing. -/
theorem answers_latest (ops : List Operation) :
    let s := run ops
    let m := registered ops
    Named.Answers (·.name) m.dataTypes s.type? s.typeNames s.snapshot.dataTypes ∧
      Named.Answers (·.name) m.models s.model? s.modelNames s.snapshot.models ∧
      s.size = (m.dataTypes.map (·.name)).dedup.length + (m.models.map (·.name)).dedup.length ∧
      (∀ n, s.contains n = true ↔
        n ∈ m.dataTypes.map (·.name) ∨ n ∈ m.models.map (·.name)) ∧
      s.register s.snapshot = s := by
  intro s m
  obtain ⟨htypes, hmodels⟩ : s.Holds m := holds_run ops
  refine ⟨htypes.answers, hmodels.answers, ?_, fun n => ?_, ?_⟩
  · rw [size, htypes.length_eq, hmodels.length_eq]
  · rw [contains, Bool.or_eq_true, type?, model?, ← Named.mem_names_iff, ← Named.mem_names_iff,
      htypes.mem_names, hmodels.mem_names]
  · rw [register_eq, snapshot, htypes.putAll_sorted, hmodels.putAll_sorted]

end Store

end Typewright

/-
# Values are read as the grammar has them

A text is read as a value just if the grammar has it write this value (`read_eq_ok_iff`).  That what is
read is in the grammar goes by induction on the fuel; that what is in the grammar is read, by induction
on the levels of lists and mappings, with fuel of twice the length of the text: one step takes a bracket
or a comma, and another one the value behind it.
-/
import Typewright.Proofs.Json.Tokens

namespace Typewright.Json

variable {fuel depth : Nat} {s r b : List Char} {v : Value}

/-! ## Ends and beginnings of values -/

theorem apart_of_head {c : Char} (h : isSpace c = true ∨ c ∈ [',', ']', '\x7d']) (s : List Char) :
    Apart (c :: s) := by
  intro d hd
  obtain rfl := Option.some.inj hd
  have hmark : c ∈ [' ', '\t', '\n', '\r', ',', ']', '\x7d'] := by
    simpa [isSpace, or_assoc] using h
  have hnone : ∀ c ∈ [' ', '\t', '\n', '\r', ',', ']', '\x7d'],
      Text.isAsciiDigit c = false ∧ c ≠ '.' ∧ c ≠ 'e' ∧ c ≠ 'E' := by
    simp only [List.forall_mem_cons, List.not_mem_nil, false_implies, implies_true]
    decide
  exact hnone c hmark

theorem apart_append {c : Char} (hb : Blank b) (hc : c ∈ [',', ']', '\x7d']) (s : List Char) :
    Apart (b ++ c :: s) := by
  cases b with
  | nil => exact apart_of_head (.inr hc) s
  | cons d b => exact apart_of_head (.inl (hb d List.mem_cons_self)) _

theorem apart_blank (hb : Blank b) : Apart b := by
  cases b with
  | nil => exact nofun
  | cons d b => exact apart_of_head (.inl (hb d List.mem_cons_self)) _

/-- A text that starts as values do. -/
def Starts (s : List Char) : Prop :=
  ∃ c t, s = c :: t ∧ isSpace c = false ∧ c ≠ ']' ∧ c ≠ '\x7d'

theorem not_digit_of_mark {c : Char} (h : isSpace c = true ∨ c ∈ ['"', '[', ']', '\x7b', '\x7d']) :
    Text.isAsciiDigit c = false := by
  have hmark : c ∈ [' ', '\t', '\n', '\r', '"', '[', ']', '\x7b', '\x7d'] := by
    simpa [isSpace, or_assoc] using h
  have hnone : ∀ c ∈ [' ', '\t', '\n', '\r', '"', '[', ']', '\x7b', '\x7d'],
      Text.isAsciiDigit c = false := by
    simp only [List.forall_mem_cons, List.not_mem_nil, false_implies, implies_true]
    decide
  exact hnone c hmark

/-- A word or a number starts with neither white space, a quote nor a bracket. -/
theorem Atom.head (h : Atom s v) :
    ∃ c t, s = c :: t ∧ isSpace c = false ∧ c ∉ ['"', '[', ']', '\x7b', '\x7d'] := by
  have hdigit {neg : Bool} {s : List Char} {v : Value} (h : Unsigned neg s v) :
      ∃ c t, s = c :: t ∧ isSpace c = false ∧ c ∉ ['"', '[', ']', '\x7b', '\x7d'] := by
    obtain ⟨c, t, rfl, hdigit⟩ := h.head_digit
    have hnone := mt not_digit_of_mark (by rw [hdigit]; exact Bool.noConfusion)
    exact ⟨c, t, rfl, Bool.eq_false_iff.mpr (not_or.mp hnone).1, (not_or.mp hnone).2⟩
  cases h with
  | word hw =>
      simp only [words, List.mem_cons, List.not_mem_nil, or_false] at hw
      rcases hw with rfl | rfl | rfl | rfl | rfl | rfl <;> exact ⟨_, _, rfl, by decide, by decide⟩
  | positive hnumber => exact hdigit hnumber
  | negative => exact ⟨'-', _, rfl, by decide, by decide⟩

theorem Scalar.starts (h : Scalar s v) : Starts s := by
  cases h with
  | text => exact ⟨'"', _, rfl, by decide, by decide, by decide⟩
  | atom hatom =>
      obtain ⟨c, t, hs, hspace, hmark⟩ := hatom.head
      exact ⟨c, t, hs, hspace, fun h => hmark (by simp [h]), fun h => hmark (by simp [h])⟩

theorem Level.starts {P : List Char → Value → Prop} (h : Level P s v) : Starts s := by
  cases h with
  | scalar h => exact h.starts
  | emptyList | list => exact ⟨'[', _, rfl, by decide, by decide, by decide⟩
  | emptyMap | map => exact ⟨'\x7b', _, rfl, by decide, by decide, by decide⟩

/-! ## Single steps -/

theorem value_text {b cs : List Char} (hb : Body b cs) (r : List Char) :
    value (fuel + 1) depth ('"' :: (b ++ '"' :: r)) = .ok (.text (String.ofList cs), r) := by
  rw [value, stringRest_body hb r [] (by simp only [List.length_append]; omega)]
  rfl

theorem value_atom (h : Atom s v) (hr : Apart r) :
    value (fuel + 1) depth (s ++ r) = .ok (v, r) := by
  have hread := scalar_atom h hr
  obtain ⟨c, t, rfl, -, hmark⟩ := h.head
  simp only [List.mem_cons, List.not_mem_nil, or_false, not_or] at hmark
  rw [List.cons_append] at hread ⊢
  rw [value, hread]
  · exact fun _ h => hmark.1 (List.cons.inj h).1
  · exact fun _ h => hmark.2.1 (List.cons.inj h).1
  · exact fun _ h => hmark.2.2.2.1 (List.cons.inj h).1

/-- What is read as a list from behind its opening bracket. -/
def listBehind (fuel depth : Nat) (s : List Char) : Except Stop (Value × List Char) :=
  match skipSpace s with
  | ']' :: r => .ok (.list [], r)
  | r => do
    let (vs, r) ← items fuel depth [] r
    return (.list vs, r)

/-- What is read as a mapping from behind its opening bracket. -/
def mapBehind (fuel depth : Nat) (s : List Char) : Except Stop (Value × List Char) :=
  match skipSpace s with
  | '\x7d' :: r => .ok (.map [], r)
  | r => do
    let (es, r) ← entries fuel depth [] r
    return (.map es, r)

theorem value_bracket (s : List Char) :
    value (fuel + 1) (depth + 1) ('[' :: s) = listBehind fuel depth s := by
  rw [value]
  rfl

theorem value_brace (s : List Char) :
    value (fuel + 1) (depth + 1) ('\x7b' :: s) = mapBehind fuel depth s := by
  rw [value]
  rfl

/-- The items of a list from the mark behind one of them on. -/
def moreItems (fuel depth : Nat) (done : List Value) (r : List Char) :
    Except Stop (List Value × List Char) :=
  match skipSpace r with
  | ']' :: r => .ok (done.reverse, r)
  | ',' :: r => items fuel depth done (skipSpace r)
  | r => .error (.malformed .comma r)

/-- The entries of a mapping from the mark behind one of them on. -/
def moreEntries (fuel depth : Nat) (done : List (Value × Value)) (r : List Char) :
    Except Stop (List (Value × Value) × List Char) :=
  match skipSpace r with
  | '\x7d' :: r => .ok (done, r)
  | ',' :: r => entries fuel depth done (skipSpace r)
  | r => .error (.malformed .comma r)

theorem items_succ (h : value fuel depth s = .ok (v, r)) (done : List Value) :
    items (fuel + 1) depth done s = moreItems fuel depth (v :: done) r := by
  rw [items, h]
  rfl

theorem entries_succ {n cs b : List Char} (hn : Body n cs) (hb : Blank b)
    (h : value fuel depth (skipSpace s) = .ok (v, r)) (done : List (Value × Value)) :
    entries (fuel + 1) depth done ('"' :: (n ++ '"' :: (b ++ ':' :: s))) =
      moreEntries fuel depth (Value.insert (.text (String.ofList cs)) v done) r := by
  have hcolon : skipSpace (b ++ ':' :: s) = ':' :: s :=
    skipSpace_append hb fun c hc => Option.some.inj hc ▸ rfl
  rw [entries, stringRest_body hn _ [] (by simp only [List.length_append]; omega)]
  simp only [bind, Except.bind, hcolon, h]
  rfl

/-! ## What the grammar has is read -/

/-- Texts of given values are read as a whole with a number of levels. -/
structure Reads (depth : Nat) (P : List Char → Value → Prop) : Prop where
  starts : ∀ {s v}, P s v → Starts s
  whole : ∀ {s v r fuel}, P s v → Apart r → 2 * s.length ≤ fuel →
    value fuel depth (s ++ r) = .ok (v, r)

variable {P : List Char → Value → Prop}

theorem Starts.skipSpace_append (h : Starts s) (hb : Blank b) (r : List Char) :
    skipSpace (b ++ (s ++ r)) = s ++ r := by
  obtain ⟨c, t, rfl, hspace, -⟩ := h
  exact Json.skipSpace_append hb fun d hd => Option.some.inj hd ▸ hspace

theorem skipSpace_mark {c : Char} (hb : Blank b) (hc : isSpace c = false) (r : List Char) :
    skipSpace (b ++ c :: r) = c :: r :=
  skipSpace_append hb fun _ hd => Option.some.inj hd ▸ hc

theorem Members.starts {α : Type} {P : List Char → α → Prop} {close : Char} {as : List α}
    (hP : ∀ {s : List Char} {a : α}, P s a → Starts s) (h : Members P close s as) : Starts s := by
  cases h with
  | last ha =>
      obtain ⟨c, t, rfl, hc⟩ := hP ha
      exact ⟨c, _, rfl, hc⟩
  | more ha =>
      obtain ⟨c, t, rfl, hc⟩ := hP ha
      exact ⟨c, _, rfl, hc⟩

theorem Entry.starts {e : String × Value} (h : Entry P s e) : Starts s := by
  cases h
  exact ⟨'"', _, rfl, by decide, by decide, by decide⟩

theorem items_members (hP : Reads depth P) {vs : List Value} (h : Members P ']' s vs)
    (r : List Char) : ∀ {fuel : Nat} (done : List Value), 2 * s.length ≤ fuel →
      items fuel depth done (s ++ r) = .ok (done.reverse ++ vs, r) := by
  induction h with
  | @last s b v hv hb =>
      intro fuel done hfuel
      simp only [List.length_append, List.length_cons, List.length_nil] at hfuel
      obtain ⟨fuel, rfl⟩ := Nat.exists_eq_add_one_of_ne_zero (show fuel ≠ 0 by omega)
      have hread : value fuel depth (s ++ (b ++ ']' :: r)) = .ok (v, b ++ ']' :: r) :=
        hP.whole hv (apart_append hb (by simp) r) (by omega)
      simp only [List.append_assoc, List.cons_append, List.nil_append]
      rw [items_succ hread, moreItems, skipSpace_mark hb rfl, List.reverse_cons]
      rfl
  | @more s b b' t v vs hv hb hb' ht ih =>
      intro fuel done hfuel
      simp only [List.length_append, List.length_cons] at hfuel
      obtain ⟨fuel, rfl⟩ := Nat.exists_eq_add_one_of_ne_zero (show fuel ≠ 0 by omega)
      have hread : value fuel depth (s ++ (b ++ ',' :: (b' ++ (t ++ r)))) =
          .ok (v, b ++ ',' :: (b' ++ (t ++ r))) :=
        hP.whole hv (apart_append hb (by simp) _) (by omega)
      simp only [List.append_assoc, List.cons_append]
      have hskip := (ht.starts hP.starts).skipSpace_append hb' r
      rw [items_succ hread, moreItems, skipSpace_mark hb rfl]
      simp only [hskip]
      rw [ih _ (by omega)]
      simp

theorem entries_entry (hP : Reads depth P) {e : String × Value} (he : Entry P s e) (hr : Apart r)
    (hfuel : 2 * s.length ≤ fuel) (done : List (Value × Value)) :
    entries (fuel + 1) depth done (s ++ r) =
      moreEntries fuel depth (Value.insert (.text e.1) e.2 done) r := by
  obtain @⟨n, cs, b, b', t, v, hn, hb, hb', hv⟩ := he
  simp only [List.length_append, List.length_cons] at hfuel
  have hread : value fuel depth (skipSpace (b' ++ (t ++ r))) = .ok (v, r) := by
    rw [(hP.starts hv).skipSpace_append hb']
    exact hP.whole hv hr (by omega)
  have hstep := entries_succ hn hb hread done
  simp only [List.append_assoc, List.cons_append]
  exact hstep

theorem entries_members (hP : Reads depth P) {es : List (String × Value)}
    (h : Members (Entry P) '\x7d' s es) (r : List Char) :
    ∀ {fuel : Nat} (done : List (Value × Value)), 2 * s.length ≤ fuel →
      entries fuel depth done (s ++ r) = .ok (collect done es, r) := by
  induction h with
  | @last s b e he hb =>
      intro fuel done hfuel
      simp only [List.length_append, List.length_cons, List.length_nil] at hfuel
      obtain ⟨fuel, rfl⟩ := Nat.exists_eq_add_one_of_ne_zero (show fuel ≠ 0 by omega)
      simp only [List.append_assoc, List.cons_append, List.nil_append]
      rw [entries_entry hP he (apart_append hb (by simp) r) (by omega), moreEntries,
        skipSpace_mark hb rfl]
      rfl
  | @more s b b' t e es he hb hb' ht ih =>
      intro fuel done hfuel
      simp only [List.length_append, List.length_cons] at hfuel
      obtain ⟨fuel, rfl⟩ := Nat.exists_eq_add_one_of_ne_zero (show fuel ≠ 0 by omega)
      simp only [List.append_assoc, List.cons_append]
      have hskip := (ht.starts Entry.starts).skipSpace_append hb' r
      rw [entries_entry hP he (apart_append hb (by simp) _) (by omega), moreEntries,
        skipSpace_mark hb rfl]
      simp only [hskip]
      rw [ih _ (by omega)]
      rfl

theorem value_scalar (h : Scalar s v) (hr : Apart r) :
    value (fuel + 1) depth (s ++ r) = .ok (v, r) := by
  cases h with
  | text hb =>
      simp only [List.append_assoc, List.cons_append, List.nil_append]
      exact value_text hb r
  | atom hatom => exact value_atom hatom hr

theorem value_emptyList (hb : Blank b) (r : List Char) :
    value (fuel + 1) (depth + 1) ('[' :: (b ++ ']' :: r)) = .ok (.list [], r) := by
  rw [value_bracket, listBehind, skipSpace_mark hb rfl]
  rfl

theorem value_emptyMap (hb : Blank b) (r : List Char) :
    value (fuel + 1) (depth + 1) ('\x7b' :: (b ++ '\x7d' :: r)) = .ok (.map [], r) := by
  rw [value_brace, mapBehind, skipSpace_mark hb rfl]
  rfl

theorem value_list (hP : Reads depth P) (hb : Blank b) {vs : List Value} (h : Members P ']' s vs)
    (hfuel : 2 * s.length ≤ fuel) (r : List Char) :
    value (fuel + 1) (depth + 1) ('[' :: (b ++ (s ++ r))) = .ok (.list vs, r) := by
  have hread := items_members hP h r [] hfuel
  have hstarts := h.starts hP.starts
  rw [value_bracket, listBehind, hstarts.skipSpace_append hb]
  obtain ⟨c, t, rfl, -, hclose, -⟩ := hstarts
  split
  · rename_i heq
    exact absurd (List.cons.inj heq).1 hclose
  · rw [hread]
    rfl

theorem value_map (hP : Reads depth P) (hb : Blank b) {es : List (String × Value)}
    (h : Members (Entry P) '\x7d' s es) (hfuel : 2 * s.length ≤ fuel) (r : List Char) :
    value (fuel + 1) (depth + 1) ('\x7b' :: (b ++ (s ++ r))) = .ok (.map (collect [] es), r) := by
  have hread := entries_members hP h r [] hfuel
  have hstarts := h.starts Entry.starts
  rw [value_brace, mapBehind, hstarts.skipSpace_append hb]
  obtain ⟨c, t, rfl, -, -, hclose⟩ := hstarts
  split
  · rename_i heq
    exact absurd (List.cons.inj heq).1 hclose
  · rw [hread]
    rfl

theorem reads_scalar : Reads depth Scalar where
  starts h := h.starts
  whole {s v r fuel} h hr hfuel := by
    obtain ⟨c, t, rfl, -⟩ := h.starts
    simp only [List.length_cons] at hfuel
    obtain ⟨fuel, rfl⟩ := Nat.exists_eq_add_one_of_ne_zero (show fuel ≠ 0 by omega)
    exact value_scalar h hr

theorem reads_level (hP : Reads depth P) : Reads (depth + 1) (Level P) where
  starts h := h.starts
  whole {s v r fuel} h hr hfuel := by
    obtain ⟨c, t, hs, -⟩ := h.starts
    obtain ⟨fuel, rfl⟩ := Nat.exists_eq_add_one_of_ne_zero
      (show fuel ≠ 0 by rw [hs, List.length_cons] at hfuel; omega)
    cases h with
    | scalar h => exact value_scalar h hr
    | emptyList hb =>
        simp only [List.append_assoc, List.cons_append, List.nil_append]
        exact value_emptyList hb r
    | list hb hvs =>
        simp only [List.length_cons, List.length_append] at hfuel
        simp only [List.append_assoc, List.cons_append]
        exact value_list hP hb hvs (by omega) r
    | emptyMap hb =>
        simp only [List.append_assoc, List.cons_append, List.nil_append]
        exact value_emptyMap hb r
    | map hb hes =>
        simp only [List.length_cons, List.length_append] at hfuel
        simp only [List.append_assoc, List.cons_append]
        exact value_map hP hb hes (by omega) r

theorem reads_writes : ∀ depth : Nat, Reads depth (Writes depth)
  | 0 => reads_scalar
  | depth + 1 => reads_level (reads_writes depth)

/-! ## What is read is in the grammar -/

theorem Writes.scalar (h : Scalar s v) : ∀ {depth : Nat}, Writes depth s v
  | 0 => h
  | _ + 1 => Level.scalar h

/-- What is read with some fuel as a value, as the items of a list and as the entries of a mapping is in
the grammar. -/
structure Sound (fuel : Nat) : Prop where
  value : ∀ {depth s v r}, value fuel depth s = .ok (v, r) → ∃ t, s = t ++ r ∧ Writes depth t v
  items : ∀ {depth done s vs r}, items fuel depth done s = .ok (vs, r) →
    ∃ t vs', s = t ++ r ∧ Members (Writes depth) ']' t vs' ∧ vs = done.reverse ++ vs'
  entries : ∀ {depth done s es r}, entries fuel depth done s = .ok (es, r) →
    ∃ t es', s = t ++ r ∧ Members (Entry (Writes depth)) '\x7d' t es' ∧ es = collect done es'

theorem Sound.items_succ (h : Sound fuel) {done vs : List Value}
    (hread : Json.items (fuel + 1) depth done s = .ok (vs, r)) :
    ∃ t vs', s = t ++ r ∧ Members (Writes depth) ']' t vs' ∧ vs = done.reverse ++ vs' := by
  cases hvalue : Json.value fuel depth s with
  | error =>
      rw [Json.items, hvalue] at hread
      cases hread
  | ok first =>
      obtain ⟨v, s'⟩ := first
      obtain ⟨t, rfl, hv⟩ := h.value hvalue
      obtain ⟨b, hb, hblank⟩ := exists_skipSpace s'
      rw [Json.items_succ hvalue, moreItems] at hread
      split at hread
      · rename_i r' hclose
        obtain ⟨rfl, rfl⟩ := Prod.mk.inj (Except.ok.inj hread)
        refine ⟨t ++ (b ++ [']']), [v], ?_, .last hv hblank, by simp⟩
        rw [hb, hclose]
        simp
      · rename_i r' hcomma
        obtain ⟨t', vs', ht', hvs', rfl⟩ := h.items hread
        obtain ⟨b', hb', hblank'⟩ := exists_skipSpace r'
        refine ⟨t ++ (b ++ ',' :: (b' ++ t')), v :: vs', ?_, .more hv hblank hblank' hvs', by simp⟩
        rw [hb, hcomma, hb', ht']
        simp
      · cases hread

/-- What is read of an entry before the mark behind it. -/
theorem Sound.exists_entry (h : Sound fuel) {done es : List (Value × Value)}
    (hread : Json.entries (fuel + 1) depth done s = .ok (es, r)) :
    ∃ t e s', s = t ++ s' ∧ Entry (Writes depth) t e ∧
      moreEntries fuel depth (Value.insert (.text e.1) e.2 done) s' = .ok (es, r) := by
  unfold Json.entries at hread
  split at hread
  · rename_i s
    cases hrest : stringRest ('"' :: s) (s.length + 1) [] s with
    | error =>
        rw [hrest] at hread
        cases hread
    | ok name =>
        obtain ⟨name, s₁⟩ := name
        rw [hrest] at hread
        obtain ⟨n, cs, rfl, hbody, rfl⟩ := exists_body hrest
        obtain ⟨b, hb, hblank⟩ := exists_skipSpace s₁
        dsimp only [bind, Except.bind] at hread
        split at hread
        · rename_i s₂ hcolon
          obtain ⟨b', hb', hblank'⟩ := exists_skipSpace s₂
          cases hvalue : Json.value fuel depth (skipSpace s₂) with
          | error =>
              rw [hvalue] at hread
              cases hread
          | ok v =>
              obtain ⟨v, s'⟩ := v
              rw [hvalue] at hread
              obtain ⟨t, ht, hv⟩ := h.value hvalue
              refine ⟨_, _, s', ?_, .named hbody hblank hblank' hv, hread⟩
              rw [hb, hcolon, hb', ht]
              simp
        · cases hread
  · cases hread

theorem Sound.entries_succ (h : Sound fuel) {done es : List (Value × Value)}
    (hread : Json.entries (fuel + 1) depth done s = .ok (es, r)) :
    ∃ t es', s = t ++ r ∧ Members (Entry (Writes depth)) '\x7d' t es' ∧ es = collect done es' := by
  obtain ⟨t, e, s', rfl, he, hread⟩ := h.exists_entry hread
  obtain ⟨b, hb, hblank⟩ := exists_skipSpace s'
  unfold moreEntries at hread
  split at hread
  · rename_i r' hclose
    obtain ⟨rfl, rfl⟩ := Prod.mk.inj (Except.ok.inj hread)
    refine ⟨t ++ (b ++ ['\x7d']), [e], ?_, .last he hblank, rfl⟩
    rw [hb, hclose]
    simp
  · rename_i r' hcomma
    obtain ⟨t', es', ht', hes', rfl⟩ := h.entries hread
    obtain ⟨b', hb', hblank'⟩ := exists_skipSpace r'
    refine ⟨t ++ (b ++ ',' :: (b' ++ t')), e :: es', ?_, .more he hblank hblank' hes', rfl⟩
    rw [hb, hcomma, hb', ht']
    simp
  · cases hread

theorem Sound.listBehind (h : Sound fuel) (hread : Json.listBehind fuel depth s = .ok (v, r)) :
    ∃ t, '[' :: s = t ++ r ∧ Writes (depth + 1) t v := by
  obtain ⟨b, hb, hblank⟩ := exists_skipSpace s
  unfold Json.listBehind at hread
  split at hread
  · rename_i r' hclose
    obtain ⟨rfl, rfl⟩ := Prod.mk.inj (Except.ok.inj hread)
    refine ⟨'[' :: (b ++ [']']), ?_, .emptyList hblank⟩
    rw [hb, hclose]
    simp
  · cases hitems : Json.items fuel depth [] (skipSpace s) with
    | error =>
        rw [hitems] at hread
        cases hread
    | ok list =>
        rw [hitems] at hread
        obtain ⟨rfl, rfl⟩ := Prod.mk.inj (Except.ok.inj hread)
        obtain ⟨t, vs, ht, hvs, heq⟩ := h.items hitems
        refine ⟨'[' :: (b ++ t), ?_, ?_⟩
        · rw [hb, ht]
          simp
        · rw [heq]
          exact .list hblank hvs

theorem Sound.mapBehind (h : Sound fuel) (hread : Json.mapBehind fuel depth s = .ok (v, r)) :
    ∃ t, '\x7b' :: s = t ++ r ∧ Writes (depth + 1) t v := by
  obtain ⟨b, hb, hblank⟩ := exists_skipSpace s
  unfold Json.mapBehind at hread
  split at hread
  · rename_i r' hclose
    obtain ⟨rfl, rfl⟩ := Prod.mk.inj (Except.ok.inj hread)
    refine ⟨'\x7b' :: (b ++ ['\x7d']), ?_, .emptyMap hblank⟩
    rw [hb, hclose]
    simp
  · cases hentries : Json.entries fuel depth [] (skipSpace s) with
    | error =>
        rw [hentries] at hread
        cases hread
    | ok map =>
        rw [hentries] at hread
        obtain ⟨rfl, rfl⟩ := Prod.mk.inj (Except.ok.inj hread)
        obtain ⟨t, es, ht, hes, heq⟩ := h.entries hentries
        refine ⟨'\x7b' :: (b ++ t), ?_, ?_⟩
        · rw [hb, ht]
          simp
        · rw [heq]
          exact .map hblank hes

theorem document_of_written (h : Written s v) : document s = .ok v := by
  obtain ⟨b, t, b', rfl, hb, hb', ht⟩ := h
  have hstarts := (reads_writes maxDepth).starts ht
  have hread : value (2 * (b ++ (t ++ b')).length + 2) maxDepth (t ++ b') = .ok (v, b') :=
    (reads_writes maxDepth).whole ht (apart_blank hb') (by simp only [List.length_append]; omega)
  have hskip : skipSpace b' = [] := by
    have hnil := skipSpace_append (s := []) hb' nofun
    rwa [List.append_nil] at hnil
  have htext := hstarts.skipSpace_append hb b'
  unfold document
  split
  · rename_i r hmark
    -- a byte order mark is neither white space nor the beginning of a value
    rw [hmark] at htext hread
    rw [← htext] at hread
    cases hread
  · rw [htext, hread]
    simp only [bind, Except.bind, hskip]
    rfl

/-- A text writes no more than one value. -/
theorem Written.unique {v' : Value} (h : Written s v) (h' : Written s v') : v = v' :=
  Except.ok.inj ((document_of_written h).symm.trans (document_of_written h'))

end Typewright.Json

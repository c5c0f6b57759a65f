/-
# Types that are emitted with a model

A type that is pending was found for a property of the model that is being built, or of one of its
inline models (`Fields.owned`).  It is that of an inline scalar or of a plain scalar behind a
reference (`Emits`): the type of a reference to a simple schema is never pending.
-/
import Typewright.Proofs.Extraction.Account

namespace Typewright.Extraction

/-- A schema whose type is emitted with the model that it is in: an inline scalar, whose name is
that of no component schema, or a reference to a plain scalar. -/
inductive Emits (document : Value) (names : List String) (s : State) (x : Value) (t : DataType) :
    Prop
  | plain {ref target : Value} {name : String} :
      Schema.ref? x = some ref → referent document ref = .ok (name, target) →
      Schema.isSimple target = false → Schema.isPlain target = true →
      s.known.lookup name = some t → Emits document names s x t
  | scalar : Schema.ref? x = none → Schema.isScalar x = true →
      outcome (scalar t.name x) = .ok t → t.name ∉ names → Emits document names s x t

/-- A type that is emitted with a model among some models, as that of one of its fields. -/
def Owned (document : Value) (D : Model → Value → Prop) (M : List Model) (names : List String)
    (s : State) (t : DataType) : Prop :=
  ∃ m ∈ M, ∃ schema shape, D m schema ∧ Shape.ofSchema document schema = .ok shape ∧
    ∃ p ∈ shape.properties, ∃ f ∈ m.fields, f.name = p.1 ∧ f.dataType = t ∧
      ∃ x isCollection, typeSource document m.name p.1 p.2 = .ok (x, isCollection) ∧
        Emits document names s x t

variable {scope : Scope} {document : Value} {owner : String} {required : List String}
  {s s' : State} {ps : List (String × Value)} {fields : List Field} {names : List String}
  {D D' : Model → Value → Prop} {M M' : List Model} {x : Value} {t : DataType}

theorem Emits.mono (hcarries : Carries s s') :
    Emits document names s x t → Emits document names s' x t
  | .plain href hreferent hsimple hplain hknown =>
      .plain href hreferent hsimple hplain (hcarries.known hknown)
  | .scalar href hscalar ht hname => .scalar href hscalar ht hname

theorem Owned.mono (hD : ∀ {m x}, D m x → D' m x) (hM : M ⊆ M') (hcarries : Carries s s')
    (h : Owned document D M names s t) : Owned document D' M' names s' t := by
  obtain ⟨m, hm, schema, shape, hschema, hshape, p, hp, f, hf, hname, ht, x, c, hx, hemits⟩ := h
  exact ⟨m, hM hm, schema, shape, hD hschema, hshape, p, hp, f, hf, hname, ht, x, c, hx,
    hemits.mono hcarries⟩

theorem Owned.field (h : Owned document D M names s t) :
    ∃ m ∈ M, ∃ f ∈ m.fields, f.dataType = t := by
  obtain ⟨m, hm, _, _, _, _, _, _, f, hf, _, ht, _⟩ := h
  exact ⟨m, hm, f, hf, ht⟩

theorem Owned.emits (h : Owned document D M names s t) : ∃ x, Emits document names s x t := by
  obtain ⟨_, _, _, _, _, _, _, _, _, _, _, _, x, _, _, hemits⟩ := h
  exact ⟨x, hemits⟩

theorem Found.emits {hint : String} (hnames : names ⊆ s.taken) (h : Found scope hint s x t s') :
    ∀ u ∈ s'.pendingTypes, u ∈ s.pendingTypes ∨ u = t ∧ Emits scope.document names s' x t := by
  intro u hu
  cases h with
  | simple _ _ _ hrun => rcases (namedType_ok hrun).2 with rfl | rfl <;> exact .inl hu
  | model _ _ _ _ _ _ => exact .inl hu
  | plain href hreferent hsimple _ hplain hrun =>
      obtain ⟨s₁, hnamed, rfl⟩ := plainType_ok hrun
      obtain ⟨hknown, hs₁⟩ := namedType_ok hnamed
      have hs₁ : s₁.pendingTypes = s.pendingTypes := by rcases hs₁ with rfl | rfl <;> rfl
      split at hu
      · exact .inl (hs₁ ▸ hu)
      · rename_i hemitted
        rcases List.mem_append.mp hu with hu | hu
        · exact .inl (hs₁ ▸ hu)
        · rw [if_neg hemitted]
          exact .inr ⟨List.mem_singleton.mp hu, .plain href hreferent hsimple hplain hknown⟩
  | inlineScalar href hscalar hname ht =>
      rcases List.mem_append.mp hu with hu | hu
      · exact .inl hu
      · have htname := (scalar_name ht).1
        refine .inr ⟨List.mem_singleton.mp hu, .scalar href hscalar (htname ▸ ht) fun hin => ?_⟩
        exact inlineNameOf_not_mem s hint (hname ▸ htname ▸ hnames hin)

/-- The types that are pending after a derivation are those before and types of fields. -/
theorem Fields.owned
    (hD : ∀ {m₀ x₀ m x}, D m₀ x₀ → m ∈ M → PartOf scope.document m₀ x₀ m x → D m x)
    (h : Fields scope owner required s ps fields s') :
    Inside scope.document D M owner ps fields → s'.pendingModels ⊆ M → names ⊆ s.taken →
      ∀ t ∈ s'.pendingTypes, t ∈ s.pendingTypes ∨ Owned scope.document D M names s' t := by
  induction h with
  | nil => exact fun _ _ _ _ ht => .inl ht
  | skip _ _ _ ih => exact fun hinside => ih hinside.skip
  | found hx hfound hrest ih =>
      intro hinside hM hnames t ht
      rcases ih hinside.next hM (fun _ hn => hfound.taken (hnames hn)) t ht with ht | ht
      · rcases hfound.emits hnames t ht with ht | ⟨rfl, hemits⟩
        · exact .inl ht
        · obtain ⟨m, hm, y, shape, hschema, hname, hshape, hps, hfields⟩ := hinside
          exact .inr ⟨m, hm, y, shape, hschema, hshape, _, hps List.mem_cons_self, _,
            hfields List.mem_cons_self, rfl, rfl, _, _, hname ▸ hx,
            hemits.mono hrest.growsAny.carries⟩
      · exact .inr ht
  | @inline owner _ s s₁ s' _ inner _ x _ _ innerFields _ _ _ hx href hscalar hcomplex hinner
      hinnerShape hinnerFields _ ht hrest ihinner ihrest =>
      intro hinside hM hnames t htype
      have hpending := fun m hm => hM (hrest.growsAny.pendingModels.subset (a := m) hm)
      have hlast : modelOf inner x innerFields ∈ M :=
        hpending _ (List.mem_append_right _ List.mem_cons_self)
      have hDinner := hinside.part hD hx href hscalar hcomplex ht hlast
      have hnames' : names ⊆ (s.took inner).taken := fun _ hn => List.mem_cons_of_mem _ (hnames hn)
      rcases ihrest hinside.next hM (fun _ hn => hinnerFields.taken (hnames' hn)) t htype
        with htype | htype
      · rcases ihinner (.whole hlast hDinner hinnerShape)
          (fun m hm => hpending m (List.mem_append_left _ hm)) hnames' t htype with htype | htype
        · exact .inl htype
        · have hpended : Grows scope (Referred scope.document) owner s₁
              (s₁.pendedModel (modelOf inner x innerFields)) := .pendedModel _
          exact .inr (htype.mono id (fun _ h => h)
            (hpended.carries.trans hrest.growsAny.carries))
      · exact .inr htype

end Typewright.Extraction

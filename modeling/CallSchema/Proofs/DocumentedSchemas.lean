import CallSchema.Extraction
import CallSchema.Proofs.DeclaredSchemas
import CallSchema.Proofs.ExtractionResults
import CallSchema.Proofs.ResolvedFragments
import CallSchema.Proofs.SharedHints

/-!
# Schemas of documented functions

The schema of every documented function is valid, whether its parameters are declared in a comment
or have hints, and whichever classes the hints stand for.
-/

namespace CallSchema

lemma DocumentedFunction.make_eq_ok {notice functionName : String} {params : List Param}
    {a : DocumentedFunction} (h : make notice functionName params = .ok a) :
    a.params = params ∧ (params.map (·.name)).Nodup := by
  unfold make at h
  split at h
  · cases h
  · rename_i hnone
    obtain rfl := Except.ok.inj h
    exact ⟨rfl, (repeated?_eq_none_iff.mp hnone).1⟩

namespace Context

variable {ctx : Context} {c : ClassInfo} {f : Callable} {hints : List (String × Hint)}
  {docs : List (String × String)} {ps qs : List Param}

lemma mem_typeNames_of_primitiveOf? {h : Hint} {type : String}
    (htype : h.primitiveOf? = some type) : type ∈ typeNames := by
  unfold Hint.primitiveOf? at htype
  split at htype
  · cases htype
  split at htype
  · obtain rfl := Option.some.inj htype
    decide
  split at htype
  · unfold Hint.primitiveClass? at htype
    split at htype
    all_goals cases htype
    all_goals decide
  · split at htype
    · obtain rfl := Option.some.inj htype
      decide
    · split at htype
      · obtain rfl := Option.some.inj htype
        decide
      · cases htype
    · cases htype

lemma nodup_names_members {ms : List (Member Hint)} (h : (ctx.members c).value = .ok ms) :
    (ms.map (·.name)).Nodup := by
  unfold members at h
  dsimp only at h
  split at h
  · rename_i m _
    obtain rfl := Outcome.value_pure_eq_ok.mp h
    rw [List.map_map]
    exact m.fields.nodup
  · rename_i fields _ _
    split at h
    · obtain rfl := Outcome.value_pure_eq_ok.mp h
      exact List.nodup_nil
    · obtain ⟨hints, -, h⟩ := Outcome.value_bind_eq_ok.mp h
      obtain rfl := Outcome.value_pure_eq_ok.mp h
      rw [List.map_map]
      change (List.map (fun name => name) _).Nodup
      rw [List.map_id']
      exact fields.nodup.sublist (List.filter_sublist.map _)
  · split at h
    · obtain ⟨hints, -, h⟩ := Outcome.value_bind_eq_ok.mp h
      obtain rfl := Outcome.value_pure_eq_ok.mp h
      rw [List.map_map]
      exact hints.nodup
    · obtain rfl := Outcome.value_pure_eq_ok.mp h
      exact List.nodup_nil

lemma wellFormed_graph (ctx : Context) : ctx.graph.WellFormed where
  primitive _ _ h := mem_typeNames_of_primitiveOf? h
  members t ms h := by
    rw [graph, members_graphWith] at h
    cases hc : ctx.classOf? t.strip with
    | some c =>
      rw [hc] at h
      exact nodup_names_members h
    | none =>
      rw [hc] at h
      obtain rfl := Outcome.value_pure_eq_ok.mp h
      exact List.nodup_nil

/-- A hint by which a parameter of a signature is resolved: its own, or one of a field of the typed
dictionary that it stands for. -/
inductive SignatureHint (ctx : Context) (hints : List (String × Hint)) (sp : SignatureParam) :
    Hint → Prop
  | own {h : Hint} (hown : hints.lookup sp.name = some h) : SignatureHint ctx hints sp h
  | field {h : Hint} {c : ClassInfo} {ms : List (Member Hint)} {m : Member Hint}
    (hown : hints.lookup sp.name = some h) (hc : ctx.unpackedFields? h = some c)
    (hms : (ctx.members c).value = .ok ms) (hm : m ∈ ms) : SignatureHint ctx hints sp m.type

/-- A hint by which a parameter of a callable object is resolved. -/
def ParamHint (ctx : Context) (f : Callable) (h : Hint) : Prop :=
  ∃ sps hints sp, f.params = some sps ∧ (f.hints ctx).value = .ok hints ∧ sp ∈ sps ∧
    ctx.SignatureHint hints sp h

/-- A parameter that has been resolved: with the fragment of a hint, if it has one, and without
values of its own. -/
structure IsResolved (ctx : Context) (P : Hint → Prop) (p : Param) : Prop where
  fragment : p.fragment = .unknown none ∨
    ∃ h x, P h ∧ (ctx.resolveOptional h).value = .ok x ∧ p.fragment = x.1
  enumValues : p.enumValues = none

lemma IsResolved.mono {P Q : Hint → Prop} {p : Param} (h : IsResolved ctx P p)
    (hPQ : ∀ h, P h → Q h) : IsResolved ctx Q p := by
  refine ⟨h.fragment.imp_right ?_, h.enumValues⟩
  rintro ⟨hint, x, hhint, hx⟩
  exact ⟨hint, x, hPQ hint hhint, hx⟩

lemma IsResolved.valid {P : Hint → Prop} {p : Param} (h : IsResolved ctx P p) :
    p.fragment.Valid := by
  rcases h.fragment with hnone | ⟨hint, x, -, hx, hfragment⟩
  · exact hnone ▸ .unknown none
  · exact hfragment ▸ TypeGraph.valid_resolveOptional ctx.wellFormed_graph hx

lemma IsResolved.toSchema_eq {P : Hint → Prop} {p : Param} (h : IsResolved ctx P p) :
    p.toSchema = (p.fragment.describe (some p.description)).toSchema := by
  refine Param.toSchema_eq fun v vs hvalues => ?_
  rw [h.enumValues] at hvalues
  cases hvalues

lemma isResolved_fieldParams (h : (ctx.fieldParams docs c).value = .ok ps) {ms : List (Member Hint)}
    (hms : (ctx.members c).value = .ok ms) :
    ∀ p ∈ ps, IsResolved ctx (fun h => ∃ m ∈ ms, m.type = h) p := by
  intro p hp
  obtain ⟨ms', hms', h⟩ := Outcome.value_bind_eq_ok.mp h
  obtain rfl := Except.ok.inj (hms'.symm.trans hms)
  obtain ⟨m, hm, hmember⟩ := exists_of_forall₂ (comes_outcome.mapInOrder h).flip hp
  obtain ⟨x, hx, hmember⟩ := Outcome.value_bind_eq_ok.mp hmember
  obtain rfl := Outcome.value_pure_eq_ok.mp hmember
  exact ⟨.inr ⟨m.type, x, ⟨m, hm, rfl⟩, hx, rfl⟩, rfl⟩

lemma isResolved_signatureParams {sp : SignatureParam}
    (h : (ctx.signatureParams docs hints sp).value = .ok ps) :
    ∀ p ∈ ps, IsResolved ctx (ctx.SignatureHint hints sp) p := by
  unfold signatureParams signatureParamsWith at h
  dsimp only at h
  split at h
  · obtain rfl := Outcome.value_pure_eq_ok.mp h
    exact List.forall_mem_nil _
  split at h
  · split at h
    · rename_i c hc
      obtain ⟨hint, hown, hc⟩ := Option.bind_eq_some_iff.mp hc
      intro p hp
      obtain ⟨ms, hms, -⟩ := Outcome.value_bind_eq_ok.mp h
      refine (isResolved_fieldParams h hms p hp).mono ?_
      rintro _ ⟨m, hm, rfl⟩
      exact .field hown hc hms hm
    · obtain rfl := Outcome.value_pure_eq_ok.mp h
      exact List.forall_mem_nil _
  split at h
  · rename_i hint hown
    obtain ⟨x, hx, h⟩ := Outcome.value_bind_eq_ok.mp h
    obtain rfl := Outcome.value_pure_eq_ok.mp h
    exact List.forall_mem_singleton.mpr ⟨.inr ⟨hint, x, .own hown, hx, rfl⟩, rfl⟩
  · obtain ⟨x, hx, h⟩ := Outcome.value_bind_eq_ok.mp h
    obtain rfl := Outcome.value_pure_eq_ok.mp h
    obtain rfl := Outcome.value_pure_eq_ok.mp hx
    exact List.forall_mem_singleton.mpr ⟨.inl rfl, rfl⟩

lemma subset_of_uniqueParams {function : String} {seen : List String}
    (h : (uniqueParams function seen ps).value = .ok qs) : qs ⊆ ps := by
  induction ps generalizing seen qs with
  | nil =>
    obtain rfl := Outcome.value_pure_eq_ok.mp h
    exact List.Subset.refl _
  | cons p ps ih =>
    rw [uniqueParams] at h
    split at h
    · obtain ⟨-, -, h⟩ := Outcome.value_bind_eq_ok.mp h
      exact List.subset_cons_of_subset p (ih h)
    · obtain ⟨rest, hrest, h⟩ := Outcome.value_bind_eq_ok.mp h
      obtain rfl := Outcome.value_pure_eq_ok.mp h
      exact List.cons_subset_cons p (ih hrest)

lemma isResolved_document {given : Option String} {a : DocumentedFunction}
    (h : (ctx.document f given).value = .ok a) :
    (a.params.map (·.name)).Nodup ∧ ∀ p ∈ a.params, IsResolved ctx (ctx.ParamHint f) p := by
  obtain ⟨doc, -, h⟩ := Outcome.value_bind_eq_ok.mp h
  dsimp only at h
  split at h
  · change DocumentedFunction.make _ _ [] = .ok a at h
    obtain ⟨hparams, hnames⟩ := DocumentedFunction.make_eq_ok h
    rw [hparams]
    exact ⟨hnames, List.forall_mem_nil _⟩
  · rename_i sps hsps
    obtain ⟨hints, hhints, h⟩ := Outcome.value_bind_eq_ok.mp h
    obtain ⟨found, hfound, h⟩ := Outcome.value_bind_eq_ok.mp h
    obtain ⟨unique, hunique, h⟩ := Outcome.value_bind_eq_ok.mp h
    change DocumentedFunction.make _ _ unique = .ok a at h
    obtain ⟨hparams, hnames⟩ := DocumentedFunction.make_eq_ok h
    rw [hparams]
    refine ⟨hnames, fun p hp => ?_⟩
    obtain ⟨ps, hps, hmem⟩ := List.mem_flatten.mp (subset_of_uniqueParams hunique hp)
    obtain ⟨sp, hsp, hparams⟩ := exists_of_forall₂ (comes_outcome.mapInOrder hfound).flip hps
    exact (isResolved_signatureParams hparams p hmem).mono fun h hh =>
      ⟨sps, hints, sp, hsps, hhints, hsp, hh⟩

theorem validSchema_document {given : Option String} {a : DocumentedFunction}
    (h : (ctx.document f given).value = .ok a) :
    (DocumentedFunction.parameters a.params).ValidSchema := by
  obtain ⟨hnames, hresolved⟩ := isResolved_document h
  exact DocumentedFunction.validSchema_parameters hnames fun p hp =>
    ⟨(hresolved p hp).valid, (hresolved p hp).toSchema_eq⟩

end Context

namespace Run

variable {α β : Type} {s : RunState}

lemma run_of_bind {x : Run α} {f : α → Run β} {b : β} (h : ((x >>= f) s).1 = .ok b) :
    ∃ a s', x s = (.ok a, s') ∧ (f a s').1 = .ok b := by
  rw [bind_apply] at h
  split at h
  · rename_i a s' hx
    exact ⟨a, s', hx, h⟩
  · cases h

lemma ok_of_bind {x : Run α} {f : α → Run β} {b : β} (h : ((x >>= f) s).1 = .ok b) :
    ∃ a s', (x s).1 = .ok a ∧ (f a s').1 = .ok b := by
  obtain ⟨a, s', hx, hf⟩ := run_of_bind h
  exact ⟨a, s', congrArg Prod.fst hx, hf⟩

lemma ok_of_attempt {x : Run α} {r : Except Failure α} (h : (attempt x s).1 = .ok r) :
    (x s).1 = r :=
  Except.ok.inj h

lemma ok_of_ofOutcome {o : Outcome α} {a : α} (h : (ofOutcome o s).1 = .ok a) :
    o.value = .ok a := by
  obtain ⟨-, s', -, h⟩ := ok_of_bind h
  rwa [ofExcept_apply] at h

end Run

namespace Sources

variable [ProgramReader] {files : Sources} {path : String} {s : RunState}
  {fs : List DocumentedFunction} {a : DocumentedFunction}

lemma ok_of_withModule {α : Type} {path : List Char} {m : Module} {use : Run α} {x : α}
    (h : (files.withModule path m use s).1 = .ok x) : ∃ s', (use s').1 = .ok x := by
  obtain ⟨-, s₁, -, h⟩ := Run.ok_of_bind h
  obtain ⟨r, s₂, hr, h⟩ := Run.ok_of_bind h
  obtain ⟨-, s₃, -, h⟩ := Run.ok_of_bind h
  rw [Run.ofExcept_apply] at h
  obtain rfl : r = .ok x := h
  obtain ⟨steps, s₄, -, hr⟩ := Run.ok_of_bind (Run.ok_of_attempt hr)
  cases steps with
  | error e =>
    dsimp only at hr
    split at hr <;> cases hr
  | ok => exact ⟨s₄, hr⟩

lemma exists_document_of_typedFunctions (h : (files.typedFunctions path s).1 = .ok fs)
    (ha : a ∈ fs) : ∃ (ctx : Context) (f : Callable) (name : String),
      (ctx.document f (some name)).value = .ok a := by
  obtain ⟨m, s₁, -, h⟩ := Run.ok_of_bind h
  obtain ⟨-, s₂, -, h⟩ := Run.ok_of_bind h
  obtain ⟨s₃, h⟩ := ok_of_withModule h
  obtain ⟨s₄, s₅, -, h⟩ := Run.ok_of_bind h
  have hall := Run.ok_of_ofOutcome h
  rw [value_documentAll] at hall
  obtain ⟨⟨name, f⟩, -, hf⟩ := exists_of_forall₂ (comes_outcome.mapInOrder hall).flip ha
  exact ⟨_, f, name, hf⟩

lemma validSchema_functionsOf {unit : SourceUnit} (h : (files.functionsOf unit s).1 = .ok fs)
    (ha : a ∈ fs) : (DocumentedFunction.parameters a.params).ValidSchema := by
  cases hdialect : unit.dialect with
  | typed =>
    rw [functionsOf, hdialect] at h
    obtain ⟨ctx, f, name, hdocument⟩ := exists_document_of_typedFunctions h ha
    exact Context.validSchema_document hdocument
  | untyped =>
    cases htext : unit.text
    all_goals simp only [functionsOf, hdialect, htext] at h
    all_goals obtain ⟨text, s', -, h⟩ := Run.ok_of_bind h
    all_goals rw [Run.ofExcept_apply] at h
    all_goals exact Jsdoc.validSchema_functions h ha

end Sources

namespace DocumentedFunction

/-- The parameters in the schema of a function make a valid schema. -/
def HasValidSchema (a : DocumentedFunction) : Prop :=
  ∃ d, a.toSchema.at? ["function", "parameters"] = some d ∧ d.ValidSchema

lemma hasValidSchema_iff {a : DocumentedFunction} :
    a.HasValidSchema ↔ (parameters a.params).ValidSchema := by
  have hat : a.toSchema.at? ["function", "parameters"] = some (parameters a.params) := rfl
  simp [HasValidSchema, hat]

/-- Every documented function has a valid schema: those that a text declares, those that objects
with hints are, and all that a source has. Where values are written over the schema of a declared
parameter, they are the values that its fragment has. -/
theorem schemas_valid :
    (∀ text fs, Jsdoc.functions text = .ok fs → ∀ a ∈ fs, a.HasValidSchema ∧
        ∀ p ∈ a.params, p.toSchema.field? "enum" = p.fragment.toSchema.field? "enum") ∧
      (∀ (ctx : Context) (f : Callable) (given : Option String) (a : DocumentedFunction),
        (ctx.document f given).value = .ok a → a.HasValidSchema) ∧
      ∀ [ProgramReader] (files : Sources) (unit : SourceUnit) (s : RunState)
        (fs : List DocumentedFunction), (files.functionsOf unit s).1 = .ok fs →
          ∀ a ∈ fs, a.HasValidSchema := by
  refine ⟨fun text fs h a ha => ⟨?_, fun p hp => Jsdoc.enum_functions h ha hp⟩,
    fun ctx f given a h => ?_, fun {_} files unit s fs h a ha => ?_⟩
  · exact hasValidSchema_iff.mpr (Jsdoc.validSchema_functions h ha)
  · exact hasValidSchema_iff.mpr (Context.validSchema_document h)
  · exact hasValidSchema_iff.mpr (Sources.validSchema_functionsOf h ha)

end DocumentedFunction

end CallSchema

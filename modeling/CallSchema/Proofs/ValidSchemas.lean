import CallSchema.DocumentedFunction
import CallSchema.Fragment.Union
import CallSchema.Proofs.ListSteps
import Mathlib.Logic.Relation

/-!
# Valid schemas

A schema is valid if each schema in it is: it names a known type, its values are of its type, it
requires properties that it has, and no simpler schema says the same as a union in it. Fragments
that keep these rules among themselves have valid schemas.
-/

namespace CallSchema

namespace Document

/-- A schema stands directly in another one: as that of a property, of the items or of a variant. -/
inductive SchemaPart : Document → Document → Prop
  | property {d s : Document} {name : String} {fields : List (String × Document)}
    (hd : d.field? "properties" = some (.object fields)) (hs : (name, s) ∈ fields) : SchemaPart d s
  | items {d s : Document} (hd : d.field? "items" = some s) : SchemaPart d s
  | variant {d s : Document} {key : String} {variants : List Document}
    (hkey : key = "oneOf" ∨ key = "allOf") (hd : d.field? key = some (.list variants))
    (hs : s ∈ variants) : SchemaPart d s

/-- A schema is another one or stands in it, at any depth. -/
abbrev SchemaNode : Document → Document → Prop := Relation.ReflTransGen SchemaPart

/-- A schema that at most describes its values. -/
def IsUnknown (d : Document) : Prop := ∀ key s, d.field? key = some s → key = "description"

/-- A schema that lists values of a type. -/
def IsEnumOf (type : String) (d : Document) : Prop :=
  d.field? "type" = some (.text type) ∧ ∃ values, d.field? "enum" = some values

/-- The rules that a single schema keeps. -/
structure ValidNode (d : Document) : Prop where
  isObject : ∃ fields, d = .object fields
  type : ∀ t, d.field? "type" = some t → ∃ name ∈ typeNames, t = .text name
  enum : ∀ values, d.field? "enum" = some values →
    (d.field? "type" = some (.text "string") ∧ ∃ texts : List String, values = .texts texts) ∨
      (d.field? "type" = some (.text "number") ∧
        ∃ numbers : List Number, values = .list (numbers.map .number))
  properties : ∀ p, d.field? "properties" = some p → ∃ fields, p = .object fields
  required : ∀ names, d.field? "required" = some names →
    ∃ keys fields, names = .texts keys ∧ d.field? "properties" = some (.object fields) ∧
      keys.Nodup ∧ keys.Sublist (Keyed.keys fields) ∧ (Keyed.keys fields).Nodup
  oneOf : ∀ union, d.field? "oneOf" = some union →
    ∃ variants, union = .list variants ∧ 2 ≤ variants.length ∧
      (∀ s ∈ variants, ¬s.IsUnknown) ∧ ¬∃ type, ∀ s ∈ variants, s.IsEnumOf type
  allOf : ∀ parts, d.field? "allOf" = some parts →
    ∃ variants, parts = .list variants ∧ variants ≠ []

/-- A schema with valid schemas at every depth. -/
def ValidSchema (d : Document) : Prop := ∀ s, SchemaNode d s → s.ValidNode

end Document

def EnumValue.base : EnumValue → EnumBase
  | text _ => .string
  | number _ => .number

lemma EnumBase.name_injective : Function.Injective EnumBase.name := by
  rintro (_ | _) (_ | _) h <;> first | rfl | exact absurd h (by decide)

namespace Fragment

variable {f g : Fragment} {fs variants : List Fragment} {d : Option String} {key : String}
  {s : Document} {base : EnumBase} {values : List EnumValue}

/-- A fragment whose schema is valid. -/
inductive Valid : Fragment → Prop
  | primitive (d : Option String) {type : String} (h : type ∈ typeNames) : Valid (primitive d type)
  | enum (d : Option String) {base : EnumBase} {values : List EnumValue}
    (h : ∀ v ∈ values, v.base = base) : Valid (enum d base values)
  | object (d : Option String) {properties : List (String × Fragment)} {required : List String}
    (hkeys : (Keyed.keys properties).Nodup) (hrequired : required.Sublist (Keyed.keys properties))
    (h : ∀ x ∈ properties, Valid x.2) : Valid (object d properties required)
  | array (d : Option String) {items : Fragment} (h : Valid items) : Valid (array d items)
  | oneOf (d : Option String) {variants : List Fragment} (hmany : 2 ≤ variants.length)
    (hknown : ∀ v ∈ variants, v.isUnknown = false) (henums : joinEnums? variants = none)
    (h : ∀ v ∈ variants, Valid v) : Valid (oneOf d variants)
  | allOf (d : Option String) {variants : List Fragment} (hne : variants ≠ [])
    (h : ∀ v ∈ variants, Valid v) : Valid (allOf d variants)
  | unknown (d : Option String) : Valid (unknown d)

lemma Valid.describe (h : f.Valid) (d : Option String) : (f.describe d).Valid := by
  cases h with
  | primitive _ h => exact .primitive d h
  | enum _ h => exact .enum d h
  | object _ hkeys hrequired h => exact .object d hkeys hrequired h
  | array _ h => exact .array d h
  | oneOf _ hmany hknown henums h => exact .oneOf d hmany hknown henums h
  | allOf _ hne h => exact .allOf d hne h
  | unknown => exact .unknown d

section Unions

lemma enum?_eq_some_iff : f.enum? = some (base, values) ↔ ∃ d, f = enum d base values := by
  cases f <;> simp [enum?]

lemma joinEnums?_eq_some_iff : joinEnums? fs = some (base, values) ↔
    ∃ lists, lists ≠ [] ∧ List.Forall₂ (fun f vs => f.enum? = some (base, vs)) fs lists ∧
      values = lists.flatten := by
  constructor
  · intro h
    unfold joinEnums? at h
    split at h
    · rename_i first head rest hlists
      split at h
      · rename_i hall
        obtain ⟨rfl, rfl⟩ := Prod.mk.inj (Option.some.inj h)
        have hrest : rest = (rest.map (·.2)).map (Prod.mk first) := by
          rw [List.map_map]
          refine (List.map_id rest).symm.trans (List.map_congr_left fun l hl => ?_)
          exact Prod.ext (by simpa using List.all_eq_true.mp hall l hl) rfl
        have hjoined := mapM_eq_some_iff.mp hlists
        rw [hrest, ← List.map_cons, List.forall₂_map_right_iff] at hjoined
        exact ⟨head :: rest.map (·.2), List.cons_ne_nil _ _, hjoined, rfl⟩
      · cases h
    · cases h
  · rintro ⟨lists, hne, hlists, rfl⟩
    have hjoined : fs.mapM enum? = some (lists.map (Prod.mk base)) :=
      mapM_eq_some_iff.mpr (List.forall₂_map_right_iff.mpr hlists)
    cases lists with
    | nil => exact absurd rfl hne
    | cons head rest => simp [joinEnums?, hjoined, List.flatMap, Function.comp_def]

lemma exists_enum?_of_joinEnums? (h : joinEnums? fs = some (base, values)) (hf : f ∈ fs) :
    ∃ vs, f.enum? = some (base, vs) := by
  obtain ⟨lists, -, hlists, -⟩ := joinEnums?_eq_some_iff.mp h
  obtain ⟨vs, -, hvs⟩ := exists_of_forall₂ hlists hf
  exact ⟨vs, hvs⟩

lemma exists_variant_of_joinEnums? (h : joinEnums? fs = some (base, values)) {v : EnumValue}
    (hv : v ∈ values) : ∃ f ∈ fs, ∃ vs, f.enum? = some (base, vs) ∧ v ∈ vs := by
  obtain ⟨lists, -, hlists, rfl⟩ := joinEnums?_eq_some_iff.mp h
  obtain ⟨vs, hvs, hmem⟩ := List.mem_flatten.mp hv
  obtain ⟨f, hf, hfvs⟩ := exists_of_forall₂ hlists.flip hvs
  exact ⟨f, hf, vs, hfvs, hmem⟩

lemma joinEnums?_ne_none (base : EnumBase) (hne : fs ≠ [])
    (h : ∀ f ∈ fs, ∃ vs, f.enum? = some (base, vs)) : joinEnums? fs ≠ none := by
  have hlists : ∃ lists, List.Forall₂ (fun f vs => f.enum? = some (base, vs)) fs lists := by
    clear hne
    induction fs with
    | nil => exact ⟨[], .nil⟩
    | cons f fs ih =>
      obtain ⟨vs, hvs⟩ := h f List.mem_cons_self
      obtain ⟨lists, hlists⟩ := ih fun g hg => h g (List.mem_cons_of_mem f hg)
      exact ⟨vs :: lists, .cons hvs hlists⟩
  obtain ⟨lists, hlists⟩ := hlists
  have hlists_ne : lists ≠ [] := by
    rintro rfl
    cases hlists
    exact hne rfl
  rw [joinEnums?_eq_some_iff.mpr ⟨lists, hlists_ne, hlists, rfl⟩]
  exact Option.some_ne_none _

/-- A union of valid fragments is valid. -/
theorem Valid.oneOfAll (h : ∀ f ∈ fs, Valid f) : (oneOfAll fs).Valid := by
  have hknown : ∀ f ∈ fs.filter (!·.isUnknown), f.Valid ∧ f.isUnknown = false := fun f hf => by
    rw [List.mem_filter, Bool.not_eq_true'] at hf
    exact ⟨h f hf.1, hf.2⟩
  unfold Fragment.oneOfAll
  generalize fs.filter (!·.isUnknown) = known at hknown ⊢
  split
  · exact .unknown none
  · exact (hknown _ List.mem_cons_self).1
  · rename_i hnil hone
    split
    · rename_i base values hjoin
      refine .enum none fun v hv => ?_
      obtain ⟨f, hf, vs, henum, hmem⟩ := exists_variant_of_joinEnums? hjoin hv
      obtain ⟨d, rfl⟩ := enum?_eq_some_iff.mp henum
      cases (hknown _ hf).1 with
      | enum _ hvalues => exact hvalues v hmem
    · rename_i hjoin
      refine .oneOf none ?_ (fun f hf => (hknown f hf).2) hjoin fun f hf => (hknown f hf).1
      match known, hnil, hone with
      | [], hnil, _ => exact absurd rfl hnil
      | [f], _, hone => exact absurd rfl (hone f)
      | _ :: _ :: _, _, _ => simp

theorem Valid.allOfAll (h : ∀ f ∈ fs, Valid f) (hf : allOfAll fs = .ok f) : f.Valid := by
  unfold Fragment.allOfAll at hf
  split at hf
  · cases hf
  · rename_i hne
    obtain rfl := Except.ok.inj hf
    exact .allOf none (by simpa using hne) h

end Unions

section Schemas

/-- The fields of a fragment's schema, but for its description. -/
def schemaFields : Fragment → List (String × Document)
  | primitive _ type => [("type", .text type)]
  | enum _ base values =>
    [("type", .text base.name), ("enum", .list (values.map EnumValue.toDocument))]
  | object _ properties required =>
    [("type", .text "object"),
      ("properties", .object (properties.map fun x => (x.1, x.2.toSchema))),
      ("required", .texts required)]
  | array _ items => [("type", .text "array"), ("items", items.toSchema)]
  | oneOf _ variants => [("oneOf", .list (variants.map toSchema))]
  | allOf _ variants => [("allOf", .list (variants.map toSchema))]
  | unknown _ => []

lemma variantSchemas_eq_map (variants : List Fragment) :
    variantSchemas variants = variants.map toSchema := by
  induction variants with
  | nil => rfl
  | cons f fs ih => rw [variantSchemas, ih, List.map_cons]

lemma toSchema_eq (f : Fragment) : f.toSchema = withDescription f.description f.schemaFields := by
  cases f <;> simp only [toSchema, schemaFields, description, propertySchemas_eq_map,
    variantSchemas_eq_map]

lemma field?_toSchema (f : Fragment) (hkey : key ≠ "description") :
    f.toSchema.field? key = f.schemaFields.lookup key := by
  have hnone : (key == "description") = false := by simpa using hkey
  rw [toSchema_eq]
  cases f.description with
  | none => rfl
  | some d =>
    simp only [withDescription, Document.field?, List.lookup_append, List.lookup_cons, hnone,
      List.lookup_nil, Option.or_none]

lemma isUnknown_of_toSchema (h : f.toSchema.IsUnknown) : f.isUnknown = true := by
  have hkeys : ∀ key s, key ≠ "description" → f.schemaFields.lookup key ≠ some s :=
    fun key s hkey hs => hkey (h key s ((field?_toSchema f hkey).trans hs))
  cases f with
  | unknown => rfl
  | oneOf => exact absurd rfl (hkeys "oneOf" _ (by decide))
  | allOf => exact absurd rfl (hkeys "allOf" _ (by decide))
  | primitive | enum | object | array => exact absurd rfl (hkeys "type" _ (by decide))

lemma exists_enum?_of_toSchema {type : String} (h : f.toSchema.IsEnumOf type) :
    ∃ base values, f.enum? = some (base, values) ∧ base.name = type := by
  obtain ⟨htype, s, henum⟩ := h
  rw [field?_toSchema f (by decide)] at htype henum
  cases f with
  | enum d base values =>
    refine ⟨base, values, rfl, ?_⟩
    simpa [schemaFields] using htype
  | _ => simp [schemaFields, List.lookup_cons] at henum

lemma exists_not_isEnumOf {type : String} (hmany : 2 ≤ variants.length)
    (henums : joinEnums? variants = none) : ¬∀ v ∈ variants, v.toSchema.IsEnumOf type := by
  intro h
  obtain ⟨v, hv⟩ : ∃ v, v ∈ variants := List.exists_mem_of_length_pos (by omega)
  obtain ⟨base, _, _, hbase⟩ := exists_enum?_of_toSchema (h v hv)
  refine joinEnums?_ne_none base (List.ne_nil_of_mem hv) (fun f hf => ?_) henums
  obtain ⟨base', values, henum, hbase'⟩ := exists_enum?_of_toSchema (h f hf)
  obtain rfl : base' = base := EnumBase.name_injective (hbase'.trans hbase.symm)
  exact ⟨values, henum⟩

lemma Valid.part (h : f.Valid) (hs : Document.SchemaPart f.toSchema s) :
    ∃ g : Fragment, g.Valid ∧ g.toSchema = s := by
  cases hs with
  | property hd hs =>
    rw [field?_toSchema f (by decide)] at hd
    cases h with
    | object _ _ _ h =>
      obtain rfl := Document.object.inj (Option.some.inj hd)
      obtain ⟨x, hx, heq⟩ := List.mem_map.mp hs
      exact ⟨x.2, h x hx, congrArg Prod.snd heq⟩
    | _ => simp [schemaFields, List.lookup_cons] at hd
  | items hd =>
    rw [field?_toSchema f (by decide)] at hd
    cases h with
    | @array _ items h => exact ⟨items, h, Option.some.inj hd⟩
    | _ => simp [schemaFields, List.lookup_cons] at hd
  | @variant key schemas hkey hd hs =>
    have hvariants :
        ∃ fs : List Fragment, (∀ g ∈ fs, g.Valid) ∧ fs.map Fragment.toSchema = schemas := by
      rcases hkey with rfl | rfl
      · rw [field?_toSchema f (by decide)] at hd
        cases h with
        | @oneOf _ fs _ _ _ h => exact ⟨fs, h, Document.list.inj (Option.some.inj hd)⟩
        | _ => simp [schemaFields, List.lookup_cons] at hd
      · rw [field?_toSchema f (by decide)] at hd
        cases h with
        | @allOf _ fs _ h => exact ⟨fs, h, Document.list.inj (Option.some.inj hd)⟩
        | _ => simp [schemaFields, List.lookup_cons] at hd
    obtain ⟨fs, hfs, rfl⟩ := hvariants
    obtain ⟨g, hg, rfl⟩ := List.mem_map.mp hs
    exact ⟨g, hfs g hg, rfl⟩

lemma exists_texts (h : ∀ v ∈ values, v.base = .string) :
    ∃ texts : List String, values.map EnumValue.toDocument = texts.map .text := by
  induction values with
  | nil => exact ⟨[], rfl⟩
  | cons v vs ih =>
    obtain ⟨hv, hvs⟩ := List.forall_mem_cons.mp h
    obtain ⟨texts, htexts⟩ := ih hvs
    cases v with
    | text value => exact ⟨value :: texts, by rw [List.map_cons, htexts]; rfl⟩
    | number => cases hv

lemma exists_numbers (h : ∀ v ∈ values, v.base = .number) :
    ∃ numbers : List Number, values.map EnumValue.toDocument = numbers.map .number := by
  induction values with
  | nil => exact ⟨[], rfl⟩
  | cons v vs ih =>
    obtain ⟨hv, hvs⟩ := List.forall_mem_cons.mp h
    obtain ⟨numbers, hnumbers⟩ := ih hvs
    cases v with
    | text => cases hv
    | number value => exact ⟨value :: numbers, by rw [List.map_cons, hnumbers]; rfl⟩

theorem Valid.node (h : f.Valid) : f.toSchema.ValidNode where
  isObject := ⟨_, toSchema_eq f⟩
  type t ht := by
    rw [field?_toSchema f (by decide)] at ht
    cases h with
    | primitive _ h => exact ⟨_, h, (Option.some.inj ht).symm⟩
    | @enum _ base _ h =>
      refine ⟨base.name, ?_, (Option.some.inj ht).symm⟩
      cases base <;> decide
    | object => exact ⟨"object", by decide, (Option.some.inj ht).symm⟩
    | array => exact ⟨"array", by decide, (Option.some.inj ht).symm⟩
    | _ => simp [schemaFields, List.lookup_cons] at ht
  enum values hs := by
    rw [field?_toSchema f (by decide)] at hs
    simp only [field?_toSchema f (show "type" ≠ "description" by decide)]
    cases h with
    | @enum _ base _ h =>
      obtain rfl := Option.some.inj hs
      cases base with
      | string =>
        obtain ⟨texts, htexts⟩ := exists_texts h
        exact .inl ⟨rfl, texts, congrArg Document.list htexts⟩
      | number =>
        obtain ⟨numbers, hnumbers⟩ := exists_numbers h
        exact .inr ⟨rfl, numbers, congrArg Document.list hnumbers⟩
    | _ => simp [schemaFields, List.lookup_cons] at hs
  properties p hp := by
    rw [field?_toSchema f (by decide)] at hp
    cases h with
    | object => exact ⟨_, (Option.some.inj hp).symm⟩
    | _ => simp [schemaFields, List.lookup_cons] at hp
  required names hnames := by
    rw [field?_toSchema f (by decide)] at hnames
    simp only [field?_toSchema f (show "properties" ≠ "description" by decide)]
    cases h with
    | @object _ properties required hkeys hrequired h =>
      have hmap : Keyed.keys (properties.map fun x => (x.1, x.2.toSchema)) =
          Keyed.keys properties := by
        simp [Keyed.keys]
      refine ⟨required, _, (Option.some.inj hnames).symm, rfl, hrequired.nodup hkeys, ?_, ?_⟩
      · rwa [hmap]
      · rwa [hmap]
    | _ => simp [schemaFields, List.lookup_cons] at hnames
  oneOf union hunion := by
    rw [field?_toSchema f (by decide)] at hunion
    cases h with
    | @oneOf _ variants hmany hknown henums h =>
      refine ⟨_, (Option.some.inj hunion).symm, by simpa using hmany, ?_, ?_⟩
      · rw [List.forall_mem_map]
        intro v hv hunknown
        have := isUnknown_of_toSchema hunknown
        rw [hknown v hv] at this
        cases this
      · rintro ⟨type, htype⟩
        rw [List.forall_mem_map] at htype
        exact exists_not_isEnumOf hmany henums htype
    | _ => simp [schemaFields, List.lookup_cons] at hunion
  allOf parts hparts := by
    rw [field?_toSchema f (by decide)] at hparts
    cases h with
    | allOf _ hne h => exact ⟨_, (Option.some.inj hparts).symm, by simpa using hne⟩
    | _ => simp [schemaFields, List.lookup_cons] at hparts

/-- The schema of a valid fragment is valid. -/
theorem Valid.toSchema (h : f.Valid) : f.toSchema.ValidSchema := by
  intro s hs
  have hfragment : ∃ g : Fragment, g.Valid ∧ g.toSchema = s := by
    induction hs with
    | refl => exact ⟨f, h, rfl⟩
    | tail _ hpart ih =>
      obtain ⟨g, hg, rfl⟩ := ih
      exact hg.part hpart
  obtain ⟨g, hg, rfl⟩ := hfragment
  exact hg.node

end Schemas

end Fragment

/-- Parameters of different names with valid fragments have a valid schema. -/
theorem DocumentedFunction.validSchema_parameters {params : List Param}
    (hnames : (params.map (·.name)).Nodup) (h : ∀ p ∈ params, p.fragment.Valid ∧
      p.toSchema = (p.fragment.describe (some p.description)).toSchema) :
    (parameters params).ValidSchema := by
  -- the parameters are the properties of an object
  let f : Fragment := .object none
    (params.map fun p => (p.name, p.fragment.describe (some p.description)))
    ((params.filter (!·.isOptional)).map (·.name))
  have hkeys : Keyed.keys (params.map fun p => (p.name, p.fragment.describe (some p.description))) =
      params.map (·.name) := by
    simp [Keyed.keys]
  have hf : f.Valid := by
    refine .object none (hkeys ▸ hnames) (hkeys ▸ List.filter_sublist.map _) ?_
    rw [List.forall_mem_map]
    exact fun p hp => (h p hp).1.describe _
  have hproperties : params.map (fun p => (p.name, p.toSchema)) = Fragment.propertySchemas
      (params.map fun p => (p.name, p.fragment.describe (some p.description))) := by
    rw [Fragment.propertySchemas_eq_map, List.map_map]
    exact List.map_congr_left fun p hp => by rw [(h p hp).2]; rfl
  have hschema : parameters params = f.toSchema := by
    rw [parameters, hproperties]
    rfl
  exact hschema ▸ hf.toSchema

end CallSchema

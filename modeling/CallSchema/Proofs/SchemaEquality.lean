import CallSchema.Document.Equality
import CallSchema.Fragment.Equality
import CallSchema.Proofs.KeyedPairs
import CallSchema.Proofs.ValidSchemas
import Mathlib.Data.List.Perm.Subperm

/-!
# Equal schemas

The kind of a fragment is not written into its schema. Still nothing is lost: the fields that
fragments of different kinds write differ in number, in name or in the type that they tell, and none
of them is a description. So two fragments have equal schemas exactly if they are equal, where
neither the order of properties nor the form of a number counts.
-/

namespace CallSchema

namespace Document

variable {xs ys : List (String × Document)}

/-- Two documents that may be there are both missing, or both there and equal. -/
abbrev SameIfAny : Option Document → Option Document → Prop :=
  Option.Rel fun d e => d.eqv e = true

lemma eqvFields_cons (x : String × Document) (xs ys : List (String × Document)) :
    eqvFields (x :: xs) ys =
      (((Keyed.get? ys x.1).map x.2.eqv).getD false && eqvFields xs ys) := by
  rw [eqvFields]
  cases Keyed.get? ys x.1 <;> rfl

lemma eqvFields_iff : eqvFields xs ys = true ↔
    ∀ x ∈ xs, ∃ e, Keyed.get? ys x.1 = some e ∧ x.2.eqv e = true := by
  induction xs with
  | nil => simp [eqvFields]
  | cons x xs ih =>
    rw [eqvFields_cons, Bool.and_eq_true, ih, List.forall_mem_cons]
    cases Keyed.get? ys x.1 <;> simp

/-- Objects are equal exactly if they have equal fields under each key, in whatever order. -/
theorem eqv_object_iff (hxs : (Keyed.keys xs).Nodup) (hys : (Keyed.keys ys).Nodup) :
    (object xs).eqv (object ys) = true ↔
      ∀ key, SameIfAny (Keyed.get? xs key) (Keyed.get? ys key) := by
  rw [eqv, Bool.and_eq_true, beq_iff_eq, eqvFields_iff]
  constructor
  · rintro ⟨hcount, hfields⟩ key
    have hsubset : Keyed.keys xs ⊆ Keyed.keys ys := by
      intro key hkey
      obtain ⟨x, hx, rfl⟩ := List.mem_map.mp hkey
      obtain ⟨e, he, -⟩ := hfields x hx
      exact Keyed.isSome_get?.mp (he ▸ rfl)
    have hperm : (Keyed.keys xs).Perm (Keyed.keys ys) :=
      (hxs.subperm hsubset).perm_of_length_le (by simp [Keyed.keys, hcount])
    cases hd : Keyed.get? xs key with
    | some d =>
      obtain ⟨e, he, heqv⟩ := hfields (key, d) ((Keyed.get?_eq_some_iff_mem hxs).mp hd)
      rw [he]
      exact .some heqv
    | none =>
      have hnone : Keyed.get? ys key = none := by
        rw [← Option.not_isSome_iff_eq_none, Keyed.isSome_get?, ← hperm.mem_iff,
          ← Keyed.isSome_get?, hd]
        exact Bool.false_ne_true
      rw [hnone]
      exact .none
  · intro h
    have hkeys : ∀ key, key ∈ Keyed.keys xs ↔ key ∈ Keyed.keys ys := by
      intro key
      have hget := h key
      rw [← Keyed.isSome_get?, ← Keyed.isSome_get?]
      generalize Keyed.get? xs key = d, Keyed.get? ys key = e at hget ⊢
      cases hget <;> simp
    have hperm := (List.perm_ext_iff_of_nodup hxs hys).mpr hkeys
    refine ⟨by simpa [Keyed.keys] using hperm.length_eq, fun x hx => ?_⟩
    have hget := h x.1
    rw [(Keyed.get?_eq_some_iff_mem hxs).mpr hx] at hget
    generalize Keyed.get? ys x.1 = found at hget ⊢
    cases hget with
    | some heqv => exact ⟨_, rfl, heqv⟩

end Document

namespace Fragment

open Document (SameIfAny)

variable {f g : Fragment}

/-- The word for what a fragment is. Schemas do not hold it. -/
def kind : Fragment → String
  | primitive .. => "primitive"
  | enum .. => "enum"
  | object .. => "object"
  | array .. => "array"
  | oneOf .. => "oneOf"
  | allOf .. => "allOf"
  | unknown _ => "unknown"

section Descriptions

/-- The description of a fragment, as its schema holds it. -/
def descriptionField (f : Fragment) : List (String × Document) :=
  f.description.toList.map fun d => ("description", .text d)

lemma toSchema_eq_append (f : Fragment) :
    f.toSchema = .object (f.schemaFields ++ f.descriptionField) := by
  rw [toSchema_eq, descriptionField]
  cases f.description with
  | none => rw [Option.toList_none, List.map_nil, List.append_nil, withDescription]
  | some d => rfl

lemma nodup_keys_schemaFields (f : Fragment) : (Keyed.keys f.schemaFields).Nodup := by
  cases f <;> simp [schemaFields, Keyed.keys]

lemma get?_description_schemaFields (f : Fragment) :
    Keyed.get? f.schemaFields "description" = none := by
  cases f <;> simp [schemaFields, Keyed.get?, List.lookup_cons]

lemma nodup_keys_append (f : Fragment) :
    (Keyed.keys (f.schemaFields ++ f.descriptionField)).Nodup := by
  have hnot : "description" ∉ Keyed.keys f.schemaFields := by
    rw [← Keyed.isSome_get?, get?_description_schemaFields]
    exact Bool.false_ne_true
  rw [Keyed.keys, List.map_append]
  refine List.nodup_append.mpr ⟨nodup_keys_schemaFields f, ?_, fun key hkey other hother => ?_⟩
  · cases h : f.description <;> simp [descriptionField, h]
  · obtain ⟨x, hx, rfl⟩ := List.mem_map.mp hother
    obtain ⟨d, -, rfl⟩ := List.mem_map.mp hx
    rintro rfl
    exact hnot hkey

lemma get?_append (f : Fragment) (key : String) :
    Keyed.get? (f.schemaFields ++ f.descriptionField) key =
      if key = "description" then f.description.map .text else Keyed.get? f.schemaFields key := by
  rw [Keyed.get?, List.lookup_append]
  split
  · rename_i hkey
    subst hkey
    rw [← Keyed.get?, get?_description_schemaFields, Option.none_or]
    cases h : f.description <;> simp [descriptionField, h]
  · rename_i hkey
    have hnone : f.descriptionField.lookup key = none := by
      have hne : (key == "description") = false := by simpa using hkey
      cases h : f.description <;> simp [descriptionField, h, List.lookup_cons, hne]
    rw [hnone, Option.or_none]
    rfl

lemma sameIfAny_text_iff {d e : Option String} :
    SameIfAny (d.map .text) (e.map .text) ↔ d = e := by
  cases d <;> cases e <;> simp [SameIfAny, Document.eqv]

lemma eqv_toSchema_eq (f g : Fragment) : f.toSchema.eqv g.toSchema =
    (f.description == g.description &&
      (Document.object f.schemaFields).eqv (.object g.schemaFields)) := by
  rw [Bool.eq_iff_iff, Bool.and_eq_true, beq_iff_eq, toSchema_eq_append, toSchema_eq_append,
    Document.eqv_object_iff (nodup_keys_append f) (nodup_keys_append g),
    Document.eqv_object_iff (nodup_keys_schemaFields f) (nodup_keys_schemaFields g)]
  simp only [get?_append]
  constructor
  · intro h
    refine ⟨sameIfAny_text_iff.mp (by simpa using h "description"), fun key => ?_⟩
    by_cases hkey : key = "description"
    · rw [hkey, get?_description_schemaFields, get?_description_schemaFields]
      exact .none
    · simpa [hkey] using h key
  · rintro ⟨hdescription, hfields⟩ key
    split
    · exact sameIfAny_text_iff.mpr hdescription
    · exact hfields key

end Descriptions

/-- What a schema holds beside its description tells the kind of its fragment. -/
lemma kind_eq_of_eqv_schemaFields
    (h : (Document.object f.schemaFields).eqv (.object g.schemaFields) = true) :
    f.kind = g.kind := by
  cases f <;> cases g <;> first
    | rfl
    | simp [schemaFields, Document.eqv, Document.eqvFields, Keyed.get?, List.lookup_cons,
        EnumBase.name] at h

lemma kind_eq_of_eqv (h : f.eqv g = true) : f.kind = g.kind := by
  cases f <;> cases g <;> first
    | rfl
    | simp [eqv] at h

lemma get?_map_toSchema (properties : List (String × Fragment)) (name : String) :
    Keyed.get? (properties.map fun x => (x.1, x.2.toSchema)) name =
      (Keyed.get? properties name).map toSchema := by
  induction properties with
  | nil => rfl
  | cons x properties ih =>
    rw [List.map_cons, Keyed.get?_cons, Keyed.get?_cons, ih]
    split <;> rfl

lemma eqvItems_map_toDocument (vs ws : List EnumValue) :
    Document.eqvItems (vs.map EnumValue.toDocument) (ws.map EnumValue.toDocument) =
      EnumValue.eqvAll vs ws := by
  induction vs generalizing ws with
  | nil => cases ws <;> rfl
  | cons v vs ih =>
    cases ws with
    | nil => rfl
    | cons w ws =>
      rw [List.map_cons, List.map_cons, Document.eqvItems, EnumValue.eqvAll, ih]
      cases v <;> cases w <;> rfl

lemma eqvItems_texts (xs ys : List String) :
    Document.eqvItems (xs.map .text) (ys.map .text) = (xs == ys) := by
  induction xs generalizing ys with
  | nil => cases ys <;> rfl
  | cons x xs ih =>
    cases ys with
    | nil => rfl
    | cons y ys => rw [List.map_cons, List.map_cons, Document.eqvItems, ih, Document.eqv]; rfl

lemma eqv_toSchema_of_kind_ne (h : f.kind ≠ g.kind) : f.toSchema.eqv g.toSchema = f.eqv g := by
  have hschemas : (Document.object f.schemaFields).eqv (.object g.schemaFields) = false :=
    Bool.eq_false_iff.mpr (mt kind_eq_of_eqv_schemaFields h)
  have hfragments : f.eqv g = false := Bool.eq_false_iff.mpr (mt kind_eq_of_eqv h)
  rw [eqv_toSchema_eq, hschemas, hfragments, Bool.and_false]

mutual

lemma eqv_toSchema (f g : Fragment) : f.toSchema.eqv g.toSchema = f.eqv g := by
  cases f with
  | primitive d type =>
    cases g with
    | primitive e type' =>
      rw [eqv_toSchema_eq]
      simp [schemaFields, description, eqv, Document.eqv, Document.eqvFields_cons,
        Document.eqvFields, Keyed.get?_cons]
    | _ => exact eqv_toSchema_of_kind_ne (by simp [kind])
  | enum d base values =>
    cases g with
    | enum e base' values' =>
      have hbase : (base.name == base'.name) = (base == base') := by
        cases base <;> cases base' <;> rfl
      rw [eqv_toSchema_eq]
      simp [schemaFields, description, eqv, Document.eqv, Document.eqvFields_cons,
        Document.eqvFields, Keyed.get?_cons, hbase,
        eqvItems_map_toDocument, Bool.and_assoc]
    | _ => exact eqv_toSchema_of_kind_ne (by simp [kind])
  | object d properties required =>
    cases g with
    | object e properties' required' =>
      have hproperties := eqvFields_map_toSchema properties properties'
      rw [eqv_toSchema_eq]
      simp [schemaFields, description, eqv, Document.eqv, Document.eqvFields_cons,
        Document.eqvFields, Keyed.get?_cons, Document.texts, hproperties,
        eqvItems_texts]
      ac_rfl
    | _ => exact eqv_toSchema_of_kind_ne (by simp [kind])
  | array d items =>
    cases g with
    | array e items' =>
      have hitems := eqv_toSchema items items'
      rw [eqv_toSchema_eq]
      simp [schemaFields, description, eqv, Document.eqv, Document.eqvFields_cons,
        Document.eqvFields, Keyed.get?_cons, hitems]
    | _ => exact eqv_toSchema_of_kind_ne (by simp [kind])
  | oneOf d variants =>
    cases g with
    | oneOf e variants' =>
      have hvariants := eqvItems_map_toSchema variants variants'
      rw [eqv_toSchema_eq]
      simp [schemaFields, description, eqv, Document.eqv, Document.eqvFields_cons,
        Document.eqvFields, Keyed.get?_cons, hvariants]
    | _ => exact eqv_toSchema_of_kind_ne (by simp [kind])
  | allOf d variants =>
    cases g with
    | allOf e variants' =>
      have hvariants := eqvItems_map_toSchema variants variants'
      rw [eqv_toSchema_eq]
      simp [schemaFields, description, eqv, Document.eqv, Document.eqvFields_cons,
        Document.eqvFields, Keyed.get?_cons, hvariants]
    | _ => exact eqv_toSchema_of_kind_ne (by simp [kind])
  | unknown d =>
    cases g with
    | unknown e =>
      rw [eqv_toSchema_eq]
      simp [schemaFields, description, eqv, Document.eqv, Document.eqvFields]
    | _ => exact eqv_toSchema_of_kind_ne (by simp [kind])

lemma eqvFields_map_toSchema (ps qs : List (String × Fragment)) :
    Document.eqvFields (ps.map fun x => (x.1, x.2.toSchema))
      (qs.map fun x => (x.1, x.2.toSchema)) = eqvProperties ps qs := by
  match ps with
  | [] => rfl
  | (name, f) :: ps =>
    rw [List.map_cons, Document.eqvFields, eqvProperties, get?_map_toSchema,
      eqvFields_map_toSchema ps]
    cases Keyed.get? qs name with
    | none => rfl
    | some g => simp only [Option.map_some, eqv_toSchema f g]

lemma eqvItems_map_toSchema (fs gs : List Fragment) :
    Document.eqvItems (fs.map toSchema) (gs.map toSchema) = eqvVariants fs gs := by
  cases fs with
  | nil => cases gs <;> rfl
  | cons f fs =>
    cases gs with
    | nil => rfl
    | cons g gs =>
      rw [List.map_cons, List.map_cons, Document.eqvItems, eqvVariants, eqv_toSchema f,
        eqvItems_map_toSchema fs]

end

/-- Two fragments have equal schemas exactly if they are equal. So the schemas of fragments of
different kinds are never equal, whatever the fragments hold. -/
theorem eqv_toSchema_iff (f g : Fragment) :
    (f.toSchema.eqv g.toSchema = true ↔ f.eqv g = true) ∧
      (f.kind ≠ g.kind → f.toSchema.eqv g.toSchema = false) := by
  refine ⟨by rw [eqv_toSchema], fun hkind => ?_⟩
  rw [eqv_toSchema]
  exact Bool.eq_false_iff.mpr (mt kind_eq_of_eqv hkind)

/-- A number and a whole number of its value are equal in both, and the order of properties does not
count. -/
example :
    let small : Fragment := .enum none .number [.number (.int 1)]
    let same : Fragment := .enum none .number [.number (.float (.finite false 1 0))]
    let name : Fragment := .primitive (some "A name") "string"
    (object none [("size", small), ("name", name)] []).toSchema.eqv
      (object none [("name", name), ("size", same)] []).toSchema = true := by
  decide +kernel

end Fragment

end CallSchema

import CallSchema.Jsdoc.Fold
import CallSchema.Proofs.KeyedPairs

/-!
# Fields directly below a declaration

The fields below a name are those whose dotted names are declared, in the order in which these names
were first declared, each with its last declaration.
-/

namespace CallSchema.Jsdoc

open Text

variable {parent name field : String} {nested ds : List Declaration} {d child : Declaration}

/-- A name of a single field: not empty and without dots. -/
def IsField (field : String) : Prop := field ≠ "" ∧ '.' ∉ field.toList

instance : Decidable (IsField field) := inferInstanceAs (Decidable (_ ∧ _))

/-- The dotted name of a field. -/
def fieldName (parent field : String) : String := parent ++ "." ++ field

/-- The last of the declarations of a name. -/
def lastNamed? (ds : List Declaration) (name : String) : Option Declaration :=
  (ds.filter (·.name = name)).getLast?

lemma toList_fieldName :
    (fieldName parent field).toList = parent.toList ++ ['.'] ++ field.toList := by
  simp [fieldName, String.toList_append]

lemma fieldBelow?_eq_some_iff :
    fieldBelow? parent name = some field ↔ IsField field ∧ name = fieldName parent field := by
  unfold fieldBelow?
  constructor
  · intro h
    split at h
    · rename_i rest hrest
      split at h
      · cases h
      · rename_i hfield
        obtain rfl := Option.some.inj h
        simp only [Bool.or_eq_true, List.isEmpty_iff, List.contains_iff_mem, not_or] at hfield
        refine ⟨⟨?_, by simpa using hfield.2⟩, ?_⟩
        · intro hempty
          exact hfield.1 (by simpa using congrArg String.toList hempty)
        · apply String.toList_injective
          simpa [toList_fieldName] using dropStart?_eq_some hrest
    · cases h
  · rintro ⟨⟨hempty, hdot⟩, rfl⟩
    have hne : field.toList ≠ [] := fun h => hempty (String.toList_injective (by simpa using h))
    rw [toList_fieldName, dropStart?_append]
    simp [hne, hdot]

lemma fieldsBelow_filter {p : Declaration → Bool}
    (h : ∀ d field, fieldBelow? parent d.name = some field → p d = true) (ds : List Declaration) :
    fieldsBelow parent (ds.filter p) = fieldsBelow parent ds := by
  rw [fieldsBelow, fieldsBelow, List.filterMap_filter]
  congr 1
  refine List.filterMap_congr fun d _ => ?_
  by_cases hd : p d = true
  · rw [if_pos hd]
  · have hnone : fieldBelow? parent d.name = none :=
      Option.eq_none_iff_forall_ne_some.mpr fun field hfield => hd (h d field hfield)
    rw [if_neg hd, hnone, Option.map_none]

lemma lastNamed?_mem (h : lastNamed? ds name = some d) : d ∈ ds ∧ d.name = name := by
  have := List.mem_of_getLast? h
  simpa using this

lemma isSome_lastNamed? : (lastNamed? ds name).isSome ↔ ∃ d ∈ ds, d.name = name := by
  simp [lastNamed?]

/-- Each name with its last declaration, in the order in which the names were first declared. -/
def byName (ds : List Declaration) : List (String × Declaration) :=
  Keyed.ofPairs (ds.map fun d => (d.name, d))

lemma keys_byName : Keyed.keys (byName ds) = (ds.map (·.name)).eraseDups := by
  rw [byName, Keyed.keys_ofPairs, List.map_map]
  rfl

lemma mem_byName : (name, d) ∈ byName ds ↔ lastNamed? ds name = some d := by
  rw [byName, ← Keyed.get?_eq_some_iff_mem (Keyed.nodup_keys_ofPairs _), Keyed.get?_ofPairs,
    lastNamed?, List.filter_map, List.getLast?_map, Option.map_map]
  simp [Function.comp_def]

lemma keys_fieldsBelow : Keyed.keys (fieldsBelow parent nested) =
    (nested.map (·.name)).eraseDups.filterMap (fieldBelow? parent) := by
  have hnames : (nested.filterMap fun d => (fieldBelow? parent d.name).map (·, d)).map (·.1) =
      (nested.map (·.name)).filterMap (fieldBelow? parent) := by
    induction nested with
    | nil => rfl
    | cons d ds ih => cases h : fieldBelow? parent d.name <;> simp [h, ih]
  rw [fieldsBelow, Keyed.keys_ofPairs, hnames]
  refine Keyed.eraseDups_filterMap (fun ha hb => ?_) _
  rw [(fieldBelow?_eq_some_iff.mp ha).2, (fieldBelow?_eq_some_iff.mp hb).2]

lemma get?_fieldsBelow (h : IsField field) :
    Keyed.get? (fieldsBelow parent nested) field = lastNamed? nested (fieldName parent field) := by
  have hpairs : ((nested.filterMap fun d => (fieldBelow? parent d.name).map (·, d)).filter
      (·.1 = field)).map (·.2) = nested.filter (·.name = fieldName parent field) := by
    induction nested with
    | nil => rfl
    | cons d ds ih =>
      by_cases hd : d.name = fieldName parent field
      · have hself : fieldBelow? parent (fieldName parent field) = some field :=
          fieldBelow?_eq_some_iff.mpr ⟨h, rfl⟩
        simp [hself, hd, ih]
      · cases hf : fieldBelow? parent d.name with
        | none => simp [hf, hd, ih]
        | some f =>
          have hne : f ≠ field := fun hff => hd (hff ▸ (fieldBelow?_eq_some_iff.mp hf).2)
          simp [hf, hd, hne, ih]
  rw [fieldsBelow, Keyed.get?_ofPairs, lastNamed?, ← hpairs, List.getLast?_map]

lemma mem_keys_fieldsBelow : field ∈ Keyed.keys (fieldsBelow parent nested) ↔
    IsField field ∧ ∃ d ∈ nested, d.name = fieldName parent field := by
  simp only [keys_fieldsBelow, List.mem_filterMap, List.mem_eraseDups, fieldBelow?_eq_some_iff,
    List.mem_map]
  constructor
  · rintro ⟨name, ⟨d, hd, rfl⟩, hfield, hname⟩
    exact ⟨hfield, d, hd, hname⟩
  · rintro ⟨hfield, d, hd, hname⟩
    exact ⟨d.name, ⟨d, hd, rfl⟩, hfield, hname⟩

lemma nodup_keys_fieldsBelow : (Keyed.keys (fieldsBelow parent nested)).Nodup :=
  Keyed.nodup_keys_ofPairs _

lemma sublist_fieldsBelow :
    ((Keyed.keys (fieldsBelow parent nested)).map (fieldName parent)).Sublist
      (nested.map (·.name)).eraseDups := by
  rw [keys_fieldsBelow]
  generalize (nested.map (·.name)).eraseDups = names
  induction names with
  | nil => exact .slnil
  | cons name names ih =>
    cases h : fieldBelow? parent name with
    | none => simpa [h] using ih.cons name
    | some field =>
      obtain ⟨-, rfl⟩ := fieldBelow?_eq_some_iff.mp h
      simpa [h] using ih.cons_cons (fieldName parent field)

end CallSchema.Jsdoc

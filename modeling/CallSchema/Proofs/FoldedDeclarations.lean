import CallSchema.Proofs.DeclaredFields
import CallSchema.Proofs.FragmentPaths
import CallSchema.Proofs.ListSteps

/-!
# Folded declarations

Folding a declaration succeeds if the enumerations list texts or numbers. The result is what the
declaration gives seen alone, or, for an object with fields below it, an object with the folded
last declarations of these fields.
-/

namespace CallSchema.Jsdoc

variable {nested : List Declaration} {d child : Declaration} {field : String} {f g base : Fragment}

/-- An enumeration lists texts or numbers. -/
def Declaration.HasEnumBase (d : Declaration) : Prop :=
  d.isEnum = true → d.enumValues ≠ none → d.typeToken = "string" ∨ d.typeToken = "number"

instance : Decidable d.HasEnumBase := inferInstanceAs (Decidable (_ → _ → _ ∨ _))

/-- A declaration of an object. -/
def Declaration.IsObject (d : Declaration) : Prop := d.base = .ok (.primitive none "object")

lemma isObject_iff : d.IsObject ↔
    (d.unionTypes = none ∨ d.unionTypes = some []) ∧ d.isEnum = false ∧ d.typeToken = "object" := by
  unfold Declaration.IsObject Declaration.base
  rcases d.unionTypes with _ | _ | ⟨t, ts⟩
  · repeat' split
    all_goals simp_all
  · repeat' split
    all_goals simp_all
  · simp

instance : Decidable d.IsObject := decidable_of_iff _ isObject_iff.symm

lemma exists_base (h : d.HasEnumBase) : ∃ base, d.base = .ok base := by
  unfold Declaration.base
  split
  · exact ⟨_, rfl⟩
  split
  · rename_i henum
    split
    · exact ⟨_, rfl⟩
    · rename_i hvalues
      rcases h henum (by simp [hvalues]) with htoken | htoken <;> simp [htoken]
  · exact ⟨_, rfl⟩

lemma base_plain (h : d.base = .ok base) : base.description = none ∧ base.properties = [] := by
  unfold Declaration.base at h
  repeat' split at h
  all_goals cases h
  all_goals exact ⟨rfl, rfl⟩

/-- A field with the fragment of its declaration. -/
def foldField (nested : List Declaration) (x : String × Declaration) :
    Except Failure (String × Fragment) := do
  pure (x.1, (← fold x.2 nested).describe (some x.2.description))

lemma foldField_eq_ok_iff {x : String × Declaration} {y : String × Fragment} :
    foldField nested x = .ok y ↔
      ∃ f, fold x.2 nested = .ok f ∧ y = (x.1, f.describe (some x.2.description)) :=
  bind_pure_eq_ok_iff

lemma fold_of_fields (hobject : d.IsObject) (hfields : fieldsBelow d.name nested ≠ []) :
    fold d nested = (do
      let properties ← (fieldsBelow d.name nested).mapM (foldField nested)
      pure (.object none properties (requiredFields (fieldsBelow d.name nested)))) := by
  rw [fold, hobject, ← mapM_attach (f := foldField nested)]
  change (if (fieldsBelow d.name nested).isEmpty then _ else _) = _
  rw [if_neg (by simpa using hfields)]
  rfl

lemma fold_of_leaf (hbase : d.base = .ok base)
    (hleaf : d.IsObject → fieldsBelow d.name nested = []) : fold d nested = .ok base := by
  rw [fold, hbase]
  simp only [bind, Except.bind]
  split
  · rename_i description
    obtain rfl : description = none := (base_plain hbase).1
    simp [hleaf hbase]
  · rfl

lemma fold_eq_base (hleaf : d.IsObject → fieldsBelow d.name nested = []) :
    fold d nested = d.base := by
  cases hbase : d.base with
  | error e => simp [fold, hbase, bind, Except.bind]
  | ok base => exact fold_of_leaf hbase hleaf

/-- What folding a declaration gives: the fragment of the declaration seen alone, or an object with
fields. -/
lemma fold_cases (h : fold d nested = .ok f) :
    (d.base = .ok f ∧ (d.IsObject → fieldsBelow d.name nested = [])) ∨
      ∃ properties, d.IsObject ∧ fieldsBelow d.name nested ≠ [] ∧
        (fieldsBelow d.name nested).mapM (foldField nested) = .ok properties ∧
        f = .object none properties (requiredFields (fieldsBelow d.name nested)) := by
  by_cases hleaf : d.IsObject → fieldsBelow d.name nested = []
  · rw [fold_eq_base hleaf] at h
    exact .inl ⟨h, hleaf⟩
  · push Not at hleaf
    obtain ⟨hobject, hfields⟩ := hleaf
    rw [fold_of_fields hobject hfields] at h
    cases hproperties : (fieldsBelow d.name nested).mapM (foldField nested) with
    | error e => simp [hproperties, bind, Except.bind] at h
    | ok properties =>
      rw [hproperties] at h
      exact .inr ⟨properties, hobject, hfields, rfl, (Except.ok.inj h).symm⟩

theorem exists_fold (hnested : ∀ c ∈ nested, c.HasEnumBase) (d : Declaration) (h : d.HasEnumBase) :
    ∃ f, fold d nested = .ok f := by
  by_cases hleaf : d.IsObject → fieldsBelow d.name nested = []
  · obtain ⟨base, hbase⟩ := exists_base h
    exact ⟨base, fold_of_leaf hbase hleaf⟩
  · push Not at hleaf
    obtain ⟨hobject, hfields⟩ := hleaf
    have hfield : ∀ x ∈ fieldsBelow d.name nested, ∃ y, foldField nested x = .ok y := by
      rintro ⟨field, child⟩ hx
      -- the recursion goes to longer names, and no declared name is longer than the longest
      have hlonger := longest_sub_lt_of_mem_fieldsBelow hx
      obtain ⟨f, hf⟩ := exists_fold hnested child (hnested child (mem_fieldsBelow hx).1)
      exact ⟨_, foldField_eq_ok_iff.mpr ⟨f, hf, rfl⟩⟩
    obtain ⟨properties, hproperties⟩ := exists_mapM_eq_ok hfield
    rw [fold_of_fields hobject hfields, hproperties]
    exact ⟨_, rfl⟩
termination_by longest nested - d.name.length

lemma description_fold (h : fold d nested = .ok f) : f.description = none := by
  rcases fold_cases h with ⟨hbase, -⟩ | ⟨properties, -, -, -, rfl⟩
  · exact (base_plain hbase).1
  · rfl

section Properties

variable {fields : List (String × Declaration)} {properties : List (String × Fragment)}

lemma keys_of_foldField (h : fields.mapM (foldField nested) = .ok properties) :
    Keyed.keys properties = Keyed.keys fields := by
  refine map_eq_map_of_mapM h fun x _ y hxy => ?_
  obtain ⟨f, -, rfl⟩ := foldField_eq_ok_iff.mp hxy
  rfl

lemma get?_of_foldField (h : fields.mapM (foldField nested) = .ok properties) :
    Keyed.get? properties field = some g ↔ ∃ c f, Keyed.get? fields field = some c ∧
      fold c nested = .ok f ∧ g = f.describe (some c.description) := by
  induction mapM_eq_ok_iff.mp h with
  | nil => simp [Keyed.get?]
  | @cons x y fields properties hxy hrest ih =>
    obtain ⟨f, hf, rfl⟩ := foldField_eq_ok_iff.mp hxy
    rw [Keyed.get?_cons, Keyed.get?_cons]
    split
    · simp [hf, eq_comm]
    · exact ih (mapM_eq_ok_iff.mpr hrest)

end Properties

/-- The properties of a folded declaration: the fields below the name of an object, each with its
folded last declaration. -/
lemma get?_properties_fold (h : fold d nested = .ok f) : Keyed.get? f.properties field = some g ↔
    IsField field ∧ d.IsObject ∧ ∃ c f', lastNamed? nested (fieldName d.name field) = some c ∧
      fold c nested = .ok f' ∧ g = f'.describe (some c.description) := by
  rcases fold_cases h with ⟨hbase, hleaf⟩ | ⟨properties, hobject, -, hproperties, rfl⟩
  · rw [(base_plain hbase).2]
    refine ⟨fun hnone => by simp [Keyed.get?] at hnone, ?_⟩
    rintro ⟨hfield, hobject, c, -, hc, -⟩
    rw [← get?_fieldsBelow hfield, hleaf hobject] at hc
    simp [Keyed.get?] at hc
  · rw [Fragment.properties_object, get?_of_foldField hproperties]
    constructor
    · rintro ⟨c, f', hc, hf', rfl⟩
      have hfield : IsField field :=
        (mem_keys_fieldsBelow.mp (Keyed.isSome_get?.mp (Option.isSome_of_eq_some hc))).1
      exact ⟨hfield, hobject, c, f', by rwa [← get?_fieldsBelow hfield], hf', rfl⟩
    · rintro ⟨hfield, -, c, f', hc, hf', rfl⟩
      exact ⟨c, f', by rwa [get?_fieldsBelow hfield], hf', rfl⟩

lemma keys_properties_fold (h : fold d nested = .ok f) (hobject : d.IsObject) :
    Keyed.keys f.properties = Keyed.keys (fieldsBelow d.name nested) := by
  rcases fold_cases h with ⟨hbase, hleaf⟩ | ⟨properties, -, -, hproperties, rfl⟩
  · rw [(base_plain hbase).2, hleaf hobject]
    rfl
  · exact keys_of_foldField hproperties

lemma exists_fold_of_lastNamed? (h : fold d nested = .ok f) (hobject : d.IsObject)
    (hfield : IsField field) (hchild : lastNamed? nested (fieldName d.name field) = some child) :
    ∃ f', fold child nested = .ok f' := by
  have hkey : field ∈ Keyed.keys f.properties := by
    rw [keys_properties_fold h hobject, ← Keyed.isSome_get?, get?_fieldsBelow hfield, hchild]
    rfl
  obtain ⟨g, hg⟩ := Option.isSome_iff_exists.mp (Keyed.isSome_get?.mpr hkey)
  obtain ⟨-, -, c, f', hc, hf', -⟩ := (get?_properties_fold h).mp hg
  obtain rfl := Option.some.inj (hchild.symm.trans hc)
  exact ⟨f', hf'⟩

end CallSchema.Jsdoc

import CallSchema.Proofs.DocumentedParams

/-!
# Nested declarations

Declarations can be put below an object: each takes the name of the object and a dot before its own
name. The object then has as its fields what the declarations gave as parameters, and its schema is
the one of the parameters.
-/

namespace CallSchema.Jsdoc

variable {parent above field : String} {ds ds' nested nested' : List Declaration}
  {d d' root : Declaration}

/-- The second declaration is the first one below a parent, with either tag. -/
def Declaration.Below (parent : String) (d d' : Declaration) : Prop :=
  ∃ isProperty, d' = { d with name := fieldName parent d.name, isProperty }

lemma fieldName_assoc : fieldName (fieldName parent above) field =
    fieldName parent (fieldName above field) := by
  simp [fieldName, String.append_assoc]

lemma fieldName_inj {a b : String} : fieldName parent a = fieldName parent b ↔ a = b := by
  refine ⟨fun h => String.toList_injective ?_, fun h => h ▸ rfl⟩
  have hlist := congrArg String.toList h
  rw [toList_fieldName, toList_fieldName] at hlist
  exact List.append_cancel_left hlist

lemma fieldBelow?_fieldName (name : String) :
    fieldBelow? (fieldName parent above) (fieldName parent name) = fieldBelow? above name := by
  refine Option.ext fun field => ?_
  rw [fieldBelow?_eq_some_iff, fieldBelow?_eq_some_iff, fieldName_assoc, fieldName_inj]

lemma fieldBelow?_fieldName_self (name : String) :
    fieldBelow? parent (fieldName parent name) = if IsField name then some name else none := by
  refine Option.ext fun field => ?_
  rw [fieldBelow?_eq_some_iff, fieldName_inj]
  split
  · rename_i hname
    rw [Option.some.injEq]
    exact ⟨fun h => h.2, fun h => ⟨h ▸ hname, h⟩⟩
  · rename_i hname
    refine ⟨fun h => absurd (h.2 ▸ h.1) hname, fun h => nomatch h⟩

lemma mem_toList_fieldName : '.' ∈ (fieldName parent field).toList := by
  simp [toList_fieldName]

lemma isNested_of_dot (h : '.' ∈ d.name.toList) : d.isNested = true := by
  simp [Declaration.isNested, h]

lemma fieldsBelow_filter_isNested :
    fieldsBelow above (ds.filter (·.isNested)) = fieldsBelow above ds :=
  fieldsBelow_filter (fun _ _ hfield =>
    isNested_of_dot ((fieldBelow?_eq_some_iff.mp hfield).2 ▸ mem_toList_fieldName)) ds

lemma requiredFields_of_buildParams {params : List Param} (h : buildParams ds = .ok params) :
    requiredFields (byName (ds.filter (!·.isNested))) =
      (params.filter (!·.isOptional)).map (·.name) := by
  rw [buildParams_eq_mapM] at h
  have hpairs : params.map (fun p => (p.name, p.isOptional)) =
      (byName (ds.filter (!·.isNested))).map fun y => (y.1, y.2.isOptional) := by
    refine map_eq_map_of_mapM h fun y hy p hp => ?_
    obtain ⟨f, -, rfl⟩ := foldParam_eq_ok_iff.mp hp
    rw [(lastNamed?_mem (mem_byName.mp hy)).2]
  have hnames := congrArg (fun l => (l.filter (!·.2)).map (·.1)) hpairs
  simpa [requiredFields, List.filter_map, Function.comp_def] using hnames.symm

section Below

variable (h : List.Forall₂ (Declaration.Below parent) ds ds')

include h

lemma alike_fieldsBelow : Keyed.Alike (Declaration.Below parent) (fieldsBelow above ds)
    (fieldsBelow (fieldName parent above) ds') := by
  refine Keyed.Alike.ofPairs ?_
  induction h with
  | nil => exact .nil
  | @cons d d' ds ds' hd _ ih =>
    obtain ⟨isProperty, rfl⟩ := hd
    rw [List.filterMap_cons, List.filterMap_cons, fieldBelow?_fieldName]
    cases fieldBelow? above d.name with
    | none => exact ih
    | some field => exact .cons ⟨rfl, isProperty, rfl⟩ ih

lemma alike_byName (hnames : ∀ d ∈ ds, '.' ∉ d.name.toList → d.name ≠ "" ∧ d.isProperty = false) :
    Keyed.Alike (Declaration.Below parent) (byName (ds.filter (!·.isNested)))
      (fieldsBelow parent ds') := by
  refine Keyed.Alike.ofPairs ?_
  induction h with
  | nil => exact .nil
  | @cons d d' ds ds' hd _ ih =>
    have hrest := ih fun c hc => hnames c (List.mem_cons_of_mem d hc)
    obtain ⟨isProperty, rfl⟩ := hd
    rw [List.filterMap_cons, fieldBelow?_fieldName_self]
    by_cases hdot : '.' ∈ d.name.toList
    · have hnot : ¬IsField d.name := fun hfield => hfield.2 hdot
      rw [if_neg hnot, List.filter_cons_of_neg (by simp [isNested_of_dot hdot])]
      exact hrest
    · obtain ⟨hempty, hproperty⟩ := hnames d List.mem_cons_self hdot
      have htop : d.isNested = false := by simp [Declaration.isNested, hproperty, hdot]
      rw [if_pos ⟨hempty, hdot⟩, List.filter_cons_of_pos (by simp [htop]), List.map_cons]
      exact .cons ⟨rfl, isProperty, rfl⟩ hrest

omit h in
lemma requiredFields_below {xs ys : List (String × Declaration)}
    (hxy : Keyed.Alike (Declaration.Below parent) xs ys) :
    requiredFields ys = requiredFields xs := by
  induction hxy with
  | nil => rfl
  | @cons x y xs ys hxy _ ih =>
    obtain ⟨hkey, isProperty, hy⟩ := hxy
    simp only [requiredFields] at ih ⊢
    rw [List.filter_cons, List.filter_cons, hy]
    split <;> simp [ih, hkey]

lemma fold_below (d d' : Declaration) (hd : d.Below parent d') :
    fold d' ds' = fold d (ds.filter (·.isNested)) := by
  have hfields : Keyed.Alike (Declaration.Below parent)
      (fieldsBelow d.name (ds.filter (·.isNested))) (fieldsBelow d'.name ds') := by
    obtain ⟨isProperty, rfl⟩ := hd
    rw [fieldsBelow_filter_isNested]
    exact alike_fieldsBelow h
  have hbase : d'.base = d.base := by
    obtain ⟨isProperty, rfl⟩ := hd
    rfl
  have hobject : d'.IsObject ↔ d.IsObject := by rw [Declaration.IsObject, hbase]; rfl
  by_cases hleaf : d.IsObject → fieldsBelow d.name (ds.filter (·.isNested)) = []
  · have hleaf' : d'.IsObject → fieldsBelow d'.name ds' = [] := by
      intro ho
      rw [hleaf (hobject.mp ho)] at hfields
      exact List.forall₂_nil_left_iff.mp hfields
    rw [fold_eq_base hleaf, fold_eq_base hleaf', hbase]
  · push Not at hleaf
    obtain ⟨ho, hne⟩ := hleaf
    have hne' : fieldsBelow d'.name ds' ≠ [] := by
      intro hnil
      rw [hnil] at hfields
      exact hne (List.forall₂_nil_right_iff.mp hfields)
    have hmapM : (fieldsBelow d'.name ds').mapM (foldField ds') = List.map id <$>
        (fieldsBelow d.name (ds.filter (·.isNested))).mapM
          (foldField (ds.filter (·.isNested))) := by
      refine mapM_of_forall₂ (((List.forall₂_and_left _ _).mpr ⟨fun _ hx => hx, hfields⟩).imp ?_)
      rintro ⟨field, c⟩ ⟨field', c'⟩ ⟨hmem, hkey, hc⟩
      -- a field has a longer name than its object, and no name is longer than the longest
      have hlonger := longest_sub_lt_of_mem_fieldsBelow hmem
      have hfold : fold c' ds' = fold c (ds.filter (·.isNested)) := fold_below c c' hc
      obtain ⟨isProperty, rfl⟩ := hc
      obtain rfl : field = field' := hkey
      simp [foldField, hfold]
    rw [fold_of_fields ho hne, fold_of_fields (hobject.mpr ho) hne', hmapM,
      requiredFields_below hfields]
    simp
termination_by longest (ds.filter (·.isNested)) - d.name.length

lemma mapM_foldField_parent
    (hnames : ∀ d ∈ ds, '.' ∉ d.name.toList → d.name ≠ "" ∧ d.isProperty = false) :
    (fieldsBelow parent ds').mapM (foldField ds') =
      List.map (fun p => (p.name, p.fragment.describe (some p.description))) <$> buildParams ds := by
  rw [buildParams_eq_mapM]
  have hkeys : ∀ y ∈ byName (ds.filter (!·.isNested)), y.2.name = y.1 :=
    fun y hy => (lastNamed?_mem (mem_byName.mp hy)).2
  refine mapM_of_forall₂
    (((List.forall₂_and_left _ _).mpr ⟨hkeys, alike_byName h hnames⟩).imp ?_)
  rintro ⟨name, d⟩ ⟨name', d'⟩ ⟨hkey, hname, hd⟩
  have hfold := fold_below h d d' hd
  obtain ⟨isProperty, rfl⟩ := hd
  obtain rfl : name = name' := hname
  obtain rfl : d.name = name := hkey
  simp [foldField, foldParam, hfold]

/-- An object with declarations below it has the parameters of these declarations as its fields. -/
lemma fold_parent (hroot : root.IsObject) (hname : root.name = parent)
    (hnames : ∀ d ∈ ds, '.' ∉ d.name.toList → d.name ≠ "" ∧ d.isProperty = false)
    (hsome : ∃ d ∈ ds, '.' ∉ d.name.toList) {params : List Param}
    (hparams : buildParams ds = .ok params) :
    fold root ds' = .ok (.object none
      (params.map fun p => (p.name, p.fragment.describe (some p.description)))
      ((params.filter (!·.isOptional)).map (·.name))) := by
  subst hname
  have hfields := alike_byName h hnames
  have hne : fieldsBelow root.name ds' ≠ [] := by
    intro hnil
    rw [hnil] at hfields
    obtain ⟨d, hd, hdot⟩ := hsome
    have htop : d.isNested = false := by simp [Declaration.isNested, (hnames d hd hdot).2, hdot]
    have hmem : d.name ∈ Keyed.keys (byName (ds.filter (!·.isNested))) := by
      rw [keys_byName, List.mem_eraseDups]
      exact List.mem_map_of_mem (List.mem_filter.mpr ⟨hd, by simp [htop]⟩)
    rw [List.forall₂_nil_right_iff.mp hfields] at hmem
    cases hmem
  have hrequired : requiredFields (fieldsBelow root.name ds') =
      (params.filter (!·.isOptional)).map (·.name) := by
    rw [requiredFields_below hfields, requiredFields_of_buildParams hparams]
  rw [fold_of_fields hroot hne, mapM_foldField_parent h hnames, hparams, hrequired]
  rfl

lemma filter_isNested_below : ds'.filter (·.isNested) = ds' := by
  induction h with
  | nil => rfl
  | @cons d d' ds ds' hd _ ih =>
    obtain ⟨isProperty, rfl⟩ := hd
    have hnested : Declaration.isNested
        { d with name := fieldName parent d.name, isProperty } = true := by
      apply isNested_of_dot
      exact mem_toList_fieldName
    rw [List.filter_cons_of_pos hnested, ih]

lemma buildParams_parent (hproperty : root.isProperty = false) (hdot : '.' ∉ root.name.toList) :
    buildParams (root :: ds') = (fun p => [p]) <$> foldParam ds' (root.name, root) := by
  have htop : root.isNested = false := by simp [Declaration.isNested, hproperty, hdot]
  have hnone : ds'.filter (!·.isNested) = [] := by
    rw [← filter_isNested_below h, List.filter_filter]
    simp
  rw [buildParams_eq_mapM, List.filter_cons_of_neg (by simp [htop]), filter_isNested_below h,
    List.filter_cons_of_pos (by simp [htop]), hnone]
  change List.mapM _ [(root.name, root)] = _
  rw [List.mapM_cons, List.mapM_nil]
  cases foldParam ds' (root.name, root) <;> rfl

end Below

/-- Declarations put below an object nest their schema: the schema of the object is the one of the
parameters that the declarations give, with the object's own description after it. -/
theorem schema_nested (notice functionName : String) (ds ds' : List Declaration)
    (root : Declaration) (hds : ∀ d ∈ ds, d.WellFormed)
    (hnames : ∀ d ∈ ds, '.' ∉ d.name.toList → d.name ≠ "" ∧ d.isProperty = false)
    (hsome : ∃ d ∈ ds, '.' ∉ d.name.toList)
    (hroot : root.IsObject) (hproperty : root.isProperty = false) (hdot : '.' ∉ root.name.toList)
    (h : List.Forall₂ (Declaration.Below root.name) ds ds') :
    ∃ f f', documented notice functionName ds = .ok f ∧
      documented notice functionName (root :: ds') = .ok f' ∧
      ∃ properties required,
        f.toSchema.at? ["function", "parameters"] = some (.object
          [("type", .text "object"), ("properties", properties), ("required", required)]) ∧
        f'.toSchema.at? ["function", "parameters", "properties", root.name] = some (.object
          [("type", .text "object"), ("properties", properties), ("required", required),
            ("description", .text root.description)]) := by
  obtain ⟨params, hparams⟩ := exists_buildParams fun d hd => (hds d hd).enumBase
  have hfold := fold_parent h hroot rfl hnames hsome hparams
  have hparams' := buildParams_parent h hproperty hdot
  rw [foldParam_eq_ok_iff.mpr ⟨_, hfold, rfl⟩] at hparams'
  refine ⟨_, _, documented_of_buildParams hparams notice functionName,
    documented_of_buildParams hparams' notice functionName, _, _, rfl, ?_⟩
  have hschemas : Fragment.propertySchemas
      (params.map fun p => (p.name, p.fragment.describe (some p.description))) =
        params.map fun p => (p.name, p.toSchema) := by
    rw [Fragment.propertySchemas_eq_map, List.map_map]
    refine List.map_congr_left fun p hp => ?_
    rw [toSchema_of_mem_buildParams hds hparams hp]
    rfl
  rw [← hschemas]
  refine (DocumentedFunction.at?_properties_singleton notice functionName _).trans ?_
  -- the object lists no values, so that only its description is written over its fragment
  simp only [(isObject_iff.mp hroot).2.1]
  rfl

/-- An object for the declarations of a server, with a description of its own. -/
def optionsDeclaration : Declaration :=
  { isProperty := false, typeToken := "object", name := "options", description := "all settings" }

theorem schema_nested_serverDeclarations :
    ∃ f f', documented "Starts." "start" serverDeclarations = .ok f ∧
      documented "Starts." "start" (optionsDeclaration :: serverDeclarations.map fun d =>
        { d with name := fieldName "options" d.name, isProperty := true }) = .ok f' ∧
      ∃ properties required,
        f.toSchema.at? ["function", "parameters"] = some (.object
          [("type", .text "object"), ("properties", properties), ("required", required)]) ∧
        f'.toSchema.at? ["function", "parameters", "properties", "options"] = some (.object
          [("type", .text "object"), ("properties", properties), ("required", required),
            ("description", .text "all settings")]) :=
  schema_nested "Starts." "start" serverDeclarations _ optionsDeclaration (by decide) (by decide)
    (by decide) (by decide) rfl (by decide)
    (List.forall₂_map_right_iff.mpr (List.forall₂_same.mpr fun _ _ => ⟨true, rfl⟩))

end CallSchema.Jsdoc

import CallSchema.Proofs.NestedDeclarations
import Mathlib.Data.List.DropRight

/-!
# The order of siblings

The parameters that declarations give depend on the order of those that stand directly under one
parent, and on no other order: a field may come before the object it belongs to, and declarations of
other objects between its own.
-/

namespace CallSchema.Jsdoc

variable {parent field name : String} {ds ds' nested nested' : List Declaration}

/-- The part of a dotted name before its last dot. -/
def parentName? (name : String) : Option String :=
  match name.toList.rdropWhile (· != '.') with
  | [] => none
  | front => some (String.ofList front.dropLast)

/-- The declarations made directly under a parent, in order. At the top level these are the
declarations of parameters; a property without a dot in its name is under no parent. -/
def siblings (ds : List Declaration) : Option String → List Declaration
  | none => ds.filter (!·.isNested)
  | some parent => ds.filter (parentName? ·.name = some parent)

lemma parentName?_fieldName (hdot : '.' ∉ field.toList) :
    parentName? (fieldName parent field) = some parent := by
  have hfield : ∀ c ∈ field.toList.reverse, (c != '.') = true := by
    intro c hc
    rw [bne_iff_ne]
    rintro rfl
    exact hdot (List.mem_reverse.mp hc)
  have hfront : (fieldName parent field).toList.rdropWhile (· != '.') =
      parent.toList ++ ['.'] := by
    rw [toList_fieldName, List.rdropWhile, List.reverse_append,
      List.dropWhile_append_of_pos hfield, List.reverse_append]
    simp
  rw [parentName?, hfront]
  split <;> simp_all

lemma fieldsBelow_siblings :
    fieldsBelow parent (siblings ds (some parent)) = fieldsBelow parent ds := by
  refine fieldsBelow_filter (fun d field hfield => ?_) ds
  obtain ⟨⟨-, hdot⟩, hname⟩ := fieldBelow?_eq_some_iff.mp hfield
  rw [hname, parentName?_fieldName hdot, decide_eq_true_eq]

lemma fold_congr (h : ∀ parent, fieldsBelow parent nested = fieldsBelow parent nested')
    (d : Declaration) : fold d nested = fold d nested' := by
  by_cases hleaf : d.IsObject → fieldsBelow d.name nested = []
  · have hleaf' : d.IsObject → fieldsBelow d.name nested' = [] := by rwa [← h d.name]
    rw [fold_eq_base hleaf, fold_eq_base hleaf']
  · push Not at hleaf
    obtain ⟨hobject, hfields⟩ := hleaf
    have hfields' : fieldsBelow d.name nested' ≠ [] := by rwa [← h d.name]
    have hmapM : (fieldsBelow d.name nested).mapM (foldField nested) =
        (fieldsBelow d.name nested).mapM (foldField nested') := by
      refine mapM_congr_left fun x hx => ?_
      -- the recursion goes to longer names, and no declared name is longer than the longest
      have hlonger := longest_sub_lt_of_mem_fieldsBelow hx
      rw [foldField, foldField, fold_congr h x.2]
    rw [fold_of_fields hobject hfields, fold_of_fields hobject hfields', hmapM, h d.name]
termination_by longest nested - d.name.length

/-- Two lists of declarations that have the same declarations in the same order directly under each
parent give the same parameters, with the same properties and required fields in the same order, or
fail alike. So two permutations of one list do, if they keep the order of siblings. -/
theorem buildParams_of_siblings (h : ∀ parent, siblings ds parent = siblings ds' parent) :
    buildParams ds = buildParams ds' := by
  have htop : ds.filter (!·.isNested) = ds'.filter (!·.isNested) := h none
  have hfields : ∀ parent, fieldsBelow parent (ds.filter (·.isNested)) =
      fieldsBelow parent (ds'.filter (·.isNested)) := by
    intro parent
    rw [fieldsBelow_filter_isNested, fieldsBelow_filter_isNested, ← fieldsBelow_siblings,
      h (some parent), fieldsBelow_siblings]
  rw [buildParams_eq_mapM, buildParams_eq_mapM, htop]
  refine mapM_congr_left fun x _ => ?_
  rw [foldParam, foldParam, fold_congr hfields x.2]

/-- An object whose fields are declared behind it. -/
def orderedDeclarations : List Declaration :=
  [{ isProperty := false, typeToken := "object", name := "user" },
    { isProperty := true, typeToken := "string", name := "user.name" },
    { isProperty := true, typeToken := "object", name := "user.home", isOptional := true },
    { isProperty := true, typeToken := "string", name := "user.home.city" },
    { isProperty := false, typeToken := "number", name := "limit" }]

/-- The same declarations: a field of a field comes first, and another parameter stands between the
object and its last field. -/
def scatteredDeclarations : List Declaration :=
  [{ isProperty := true, typeToken := "string", name := "user.home.city" },
    { isProperty := true, typeToken := "string", name := "user.name" },
    { isProperty := false, typeToken := "object", name := "user" },
    { isProperty := false, typeToken := "number", name := "limit" },
    { isProperty := true, typeToken := "object", name := "user.home", isOptional := true }]

theorem buildParams_scatteredDeclarations :
    scatteredDeclarations.Perm orderedDeclarations ∧
      (∀ parent, siblings scatteredDeclarations parent = siblings orderedDeclarations parent) ∧
      buildParams scatteredDeclarations = buildParams orderedDeclarations := by
  have hsiblings : ∀ parent,
      siblings scatteredDeclarations parent = siblings orderedDeclarations parent := by
    have hname : parentName? "user.name" = some "user" := by decide
    have hhome : parentName? "user.home" = some "user" := by decide
    have hcity : parentName? "user.home.city" = some "user.home" := by decide
    have huser : parentName? "user" = none := by decide
    have hlimit : parentName? "limit" = none := by decide
    intro parent
    cases parent with
    | none => decide
    | some parent =>
      by_cases hparent : parent = "user"
      · subst hparent
        decide
      · simp [siblings, scatteredDeclarations, orderedDeclarations, List.filter_cons, hname, hhome,
          hcity, huser, hlimit, Ne.symm hparent]
  exact ⟨by decide, hsiblings, buildParams_of_siblings hsiblings⟩

end CallSchema.Jsdoc

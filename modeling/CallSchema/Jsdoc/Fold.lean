import CallSchema.DocumentedFunction
import CallSchema.Jsdoc.Declaration

/-!
Folding: declarations with dotted names document the fields of the objects that other declarations
name, to any depth.
-/

namespace CallSchema.Jsdoc

open Text

/-- The fragment of a declaration seen alone. -/
def Declaration.base (d : Declaration) : Except Failure Fragment :=
  match d.unionTypes with
  | some (t :: ts) => .ok (.oneOf none ((t :: ts).map (.primitive none)))
  | _ =>
    if d.isEnum then
      match d.enumValues with
      | none => .ok (.unknown none)
      | some values =>
        if d.typeToken = "string" then .ok (.enum none .string values)
        else if d.typeToken = "number" then .ok (.enum none .number values)
        else .error .invalidData
    else .ok (.primitive none d.typeToken)

/-- The field that `name` names directly below `parent`. -/
def fieldBelow? (parent name : String) : Option String :=
  match dropStart? (parent.toList ++ ['.']) name.toList with
  | some field =>
    if field.isEmpty || field.contains '.' then none else some (String.ofList field)
  | none => none

/-- The declarations directly below `parent`, by field: in order of first declaration, each field
with its last one. -/
def fieldsBelow (parent : String) (nested : List Declaration) : List (String × Declaration) :=
  Keyed.ofPairs (nested.filterMap fun d => (fieldBelow? parent d.name).map (·, d))

/-- The length of the longest declared name. -/
def longest (nested : List Declaration) : Nat :=
  (nested.map (·.name.length)).foldl max 0

theorem length_lt_of_fieldBelow? {parent name field : String}
    (h : fieldBelow? parent name = some field) : parent.length < name.length := by
  unfold fieldBelow? at h
  split at h
  · rename_i rest hrest
    have := congrArg List.length (dropStart?_eq_some hrest)
    simp only [List.length_append, List.length_cons, List.length_nil, String.length_toList] at this
    omega
  · simp at h

theorem mem_put {α : Type} {xs : List (String × α)} {key : String} {value : α}
    {x : String × α} (h : x ∈ Keyed.put xs key value) : x = (key, value) ∨ x ∈ xs := by
  induction xs with
  | nil => simpa [Keyed.put] using h
  | cons y ys ih =>
    by_cases hy : y.1 = key
    · simp only [Keyed.put, hy, if_true, List.mem_cons] at h
      exact h.imp_right (List.mem_cons_of_mem _)
    · simp only [Keyed.put, hy, if_false, List.mem_cons] at h
      rcases h with h | h
      · exact .inr (by simp [h])
      · exact (ih h).imp_right (List.mem_cons_of_mem _)

theorem mem_putAll {α : Type} {xs ys : List (String × α)} {x : String × α}
    (h : x ∈ Keyed.putAll xs ys) : x ∈ xs ∨ x ∈ ys := by
  induction ys generalizing xs with
  | nil => exact .inl h
  | cons y ys ih =>
    rcases @ih (Keyed.put xs y.1 y.2) h with h | h
    · rcases mem_put h with h | h
      · exact .inr (by simp [h])
      · exact .inl h
    · exact .inr (List.mem_cons_of_mem _ h)

theorem mem_fieldsBelow {parent : String} {nested : List Declaration} {field : String}
    {d : Declaration} (h : (field, d) ∈ fieldsBelow parent nested) :
    d ∈ nested ∧ fieldBelow? parent d.name = some field := by
  rcases mem_putAll h with h | h
  · simp at h
  · simp only [List.mem_filterMap, Option.map_eq_some_iff] at h
    obtain ⟨e, he, _, hf, heq⟩ := h
    cases heq
    exact ⟨he, hf⟩

theorem length_le_longest {nested : List Declaration} {d : Declaration} (h : d ∈ nested) :
    d.name.length ≤ longest nested := by
  have key : ∀ (ns : List Nat) (m : Nat), m ≤ ns.foldl max m ∧ ∀ n ∈ ns, n ≤ ns.foldl max m := by
    intro ns
    induction ns with
    | nil => simp
    | cons a as ih =>
      intro m
      obtain ⟨h₁, h₂⟩ := ih (max m a)
      simp only [List.foldl_cons, List.mem_cons, forall_eq_or_imp]
      exact ⟨by omega, by omega, h₂⟩
  exact (key _ 0).2 _ (List.mem_map_of_mem h)

/-- Dotted names get longer from a declaration to the fields below it. -/
theorem longest_sub_lt_of_mem_fieldsBelow {parent field : String} {nested : List Declaration}
    {d : Declaration} (h : (field, d) ∈ fieldsBelow parent nested) :
    longest nested - d.name.length < longest nested - parent.length := by
  obtain ⟨hmem, hfield⟩ := mem_fieldsBelow h
  have h₁ := length_lt_of_fieldBelow? hfield
  have h₂ := length_le_longest hmem
  omega

/-- The fields that must be given. -/
def requiredFields (fields : List (String × Declaration)) : List String :=
  (fields.filter (!·.2.isOptional)).map (·.1)

/-- The fragment of a declaration with the fields that the nested declarations give it. Only an
object takes fields, and a field that must be given is listed as required. -/
def fold (d : Declaration) (nested : List Declaration) : Except Failure Fragment := do
  let base ← d.base
  match base with
  | .primitive _ "object" =>
    if (fieldsBelow d.name nested).isEmpty then .ok base
    else
      let properties ← (fieldsBelow d.name nested).attach.mapM fun ⟨(field, child), _⟩ => do
        pure (field, (← fold child nested).describe (some child.description))
      .ok (.object none properties (requiredFields (fieldsBelow d.name nested)))
  | _ => .ok base
termination_by longest nested - d.name.length
decreasing_by exact longest_sub_lt_of_mem_fieldsBelow ‹_›

def Declaration.isNested (d : Declaration) : Bool := d.isProperty || d.name.toList.contains '.'

/-- The parameters that a list of declarations gives. A name declared twice keeps its first place
and takes its last declaration. -/
def buildParams (ds : List Declaration) : Except Failure (List Param) :=
  let nested := ds.filter (·.isNested)
  let top := Keyed.ofPairs ((ds.filter (!·.isNested)).map fun d => (d.name, d))
  top.mapM fun (_, d) => do
    pure
      { name := d.name, description := d.description, fragment := ← fold d nested,
        enumValues := if d.isEnum then d.enumValues else none, isOptional := d.isOptional }

end CallSchema.Jsdoc

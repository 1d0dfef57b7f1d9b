import CallSchema.Proofs.FoldedDeclarations

/-!
# The declared tree

Dotted names declare a tree below each parameter. A path is in this tree if each of its steps is
declared and each declaration above its end is one of an object. The fragment of a parameter has
exactly the declared paths, and its node at a path is given by the last declaration of the path.
-/

namespace CallSchema.Jsdoc

variable {nested : List Declaration} {root d c : Declaration} {name x : String}
  {path : List String} {f g : Fragment}

/-- The dotted name of a path below a name. -/
def pathName (name : String) (path : List String) : String := path.foldl fieldName name

/-- The declaration that governs a path below a root: the last one of the path. -/
def governing? (nested : List Declaration) (root : Declaration) : List String → Option Declaration
  | [] => some root
  | x :: path => lastNamed? nested (pathName root.name (x :: path))

/-- A path below a root whose steps are all declared, each below an object. -/
structure DeclaredPath (nested : List Declaration) (root : Declaration) (path : List String) :
    Prop where
  fields : ∀ x ∈ path, IsField x
  named : ∀ q, q <+: path → q ≠ [] → ∃ d ∈ nested, d.name = pathName root.name q
  objects : ∀ q, q <+: path → q ≠ path → ∃ d, governing? nested root q = some d ∧ d.IsObject

lemma name_of_governing? (h : governing? nested root path = some d) :
    d.name = pathName root.name path := by
  cases path with
  | nil => exact congrArg _ (Option.some.inj h).symm
  | cons x path => exact (lastNamed?_mem h).2

lemma governing?_concat : governing? nested root (path ++ [x]) =
    lastNamed? nested (fieldName (pathName root.name path) x) := by
  have hname : pathName root.name (path ++ [x]) = fieldName (pathName root.name path) x := by
    simp [pathName]
  rw [← hname]
  cases path <;> rfl

/-- A path below a field is governed as below the last declaration of the field. -/
lemma governing?_cons (h : lastNamed? nested (fieldName root.name x) = some c) :
    governing? nested root (x :: path) = governing? nested c path := by
  cases path with
  | nil => exact h
  | cons y path =>
    rw [governing?, governing?, (lastNamed?_mem h).2]
    rfl

lemma declaredPath_nil : DeclaredPath nested root [] where
  fields := by simp
  named q hq hne := absurd (List.prefix_nil.mp hq) hne
  objects q hq hne := absurd (List.prefix_nil.mp hq) hne

lemma declaredPath_cons : DeclaredPath nested root (x :: path) ↔ IsField x ∧ root.IsObject ∧
    ∃ c, lastNamed? nested (fieldName root.name x) = some c ∧ DeclaredPath nested c path := by
  constructor
  · intro h
    obtain ⟨_, hroot, hobject⟩ := h.objects [] List.nil_prefix (by simp)
    obtain rfl := Option.some.inj hroot
    have hfirst : [x] <+: x :: path := by simp
    obtain ⟨c, hc⟩ := Option.isSome_iff_exists.mp
      (isSome_lastNamed?.mpr (h.named [x] hfirst (by simp)))
    refine ⟨h.fields x List.mem_cons_self, hobject, c, hc, ?_, fun q hq hne => ?_,
      fun q hq hne => ?_⟩
    · exact fun y hy => h.fields y (List.mem_cons_of_mem x hy)
    · rw [(lastNamed?_mem hc).2]
      exact h.named (x :: q) (List.cons_prefix_cons.mpr ⟨rfl, hq⟩) (by simp)
    · rw [← governing?_cons hc]
      exact h.objects (x :: q) (List.cons_prefix_cons.mpr ⟨rfl, hq⟩) (by simpa using hne)
  · rintro ⟨hfield, hobject, c, hc, h⟩
    refine ⟨?_, fun q hq hne => ?_, fun q hq hne => ?_⟩
    · simpa using ⟨hfield, h.fields⟩
    · obtain rfl | ⟨q, rfl, hqpath⟩ := List.prefix_cons_iff.mp hq
      · exact absurd rfl hne
      -- the first step is named by `c` itself, and longer paths as they are below `c`
      by_cases hnil : q = []
      · subst hnil
        exact ⟨c, lastNamed?_mem hc⟩
      · have := h.named q hqpath hnil
        rwa [(lastNamed?_mem hc).2] at this
    · obtain rfl | ⟨q, rfl, hqpath⟩ := List.prefix_cons_iff.mp hq
      · exact ⟨root, rfl, hobject⟩
      · rw [governing?_cons hc]
        exact h.objects q hqpath (by simpa using hne)

instance decidableDeclaredPath (nested : List Declaration) :
    ∀ root path, Decidable (DeclaredPath nested root path)
  | _, [] => .isTrue declaredPath_nil
  | root, x :: path =>
    match h : lastNamed? nested (fieldName root.name x) with
    | none => .isFalse fun hpath => by simp [declaredPath_cons, h] at hpath
    | some c =>
      have := decidableDeclaredPath nested c path
      decidable_of_iff (IsField x ∧ root.IsObject ∧ DeclaredPath nested c path)
        (by simp [declaredPath_cons, h])

/-- The paths of a folded declaration are the declared paths below it. -/
theorem isSome_at?_fold (h : fold d nested = .ok f) :
    (f.at? path).isSome ↔ DeclaredPath nested d path := by
  induction path generalizing d f with
  | nil => simpa using declaredPath_nil
  | cons x path ih =>
    rw [declaredPath_cons, Option.isSome_iff_exists]
    simp only [Fragment.at?_cons_eq_some_iff, get?_properties_fold h]
    constructor
    · rintro ⟨g, _, ⟨hfield, hobject, c, f', hc, hf', rfl⟩, hg⟩
      refine ⟨hfield, hobject, c, hc, (ih hf').mp ?_⟩
      rw [← Fragment.isSome_at?_describe]
      exact Option.isSome_of_eq_some hg
    · rintro ⟨hfield, hobject, c, hc, hpath⟩
      obtain ⟨f', hf'⟩ := exists_fold_of_lastNamed? h hobject hfield hc
      rw [← ih hf', ← Fragment.isSome_at?_describe (some c.description)] at hpath
      obtain ⟨g, hg⟩ := Option.isSome_iff_exists.mp hpath
      exact ⟨g, _, ⟨hfield, hobject, c, f', hc, hf', rfl⟩, hg⟩

/-- The description of the node at a path: the root has none of its own. -/
def nodeDescription (d : Declaration) (path : List String) : Option String :=
  if path = [] then none else some d.description

lemma at?_fold (h : fold d nested = .ok f) (hg : f.at? path = some g) :
    ∃ e f', governing? nested d path = some e ∧ fold e nested = .ok f' ∧
      g = f'.describe (nodeDescription e path) := by
  induction path generalizing d f with
  | nil =>
    obtain rfl := Option.some.inj hg
    refine ⟨d, f, rfl, h, ?_⟩
    rw [nodeDescription, if_pos rfl, ← description_fold h, Fragment.describe_description]
  | cons x path ih =>
    obtain ⟨_, hx, hg⟩ := Fragment.at?_cons_eq_some_iff.mp hg
    obtain ⟨-, -, c, f', hc, hf', rfl⟩ := (get?_properties_fold h).mp hx
    rw [governing?_cons hc]
    cases path with
    | nil => exact ⟨c, f', rfl, hf', (Option.some.inj hg).symm⟩
    | cons y path => exact ih hf' (by simpa [Fragment.at?] using hg)

/-- A path must be given if its last declaration is not optional. -/
def isRequired (nested : List Declaration) (root : Declaration) (path : List String) : Bool :=
  (governing? nested root path).any (!·.isOptional)

/-- What the node at a path is: what the last declaration of the path gives seen alone, or, if paths
go on from it, an object with the next steps in the order in which they were first declared. -/
structure IsNode (nested : List Declaration) (root : Declaration) (path : List String)
    (d : Declaration) (f : Fragment) : Prop where
  governed : governing? nested root path = some d
  described : f.description = nodeDescription d path
  leaf : (∀ x, ¬DeclaredPath nested root (path ++ [x])) →
    ∃ base, d.base = .ok base ∧ f = base.describe f.description
  inner : ∀ x, DeclaredPath nested root (path ++ [x]) → f = .object f.description f.properties
    ((Keyed.keys f.properties).filter fun y => isRequired nested root (path ++ [y]))
  children : ∀ x, x ∈ Keyed.keys f.properties ↔ DeclaredPath nested root (path ++ [x])
  nodup : (Keyed.keys f.properties).Nodup
  ordered : ((Keyed.keys f.properties).map (fieldName (pathName root.name path))).Sublist
    (nested.map (·.name)).eraseDups

lemma requiredFields_fieldsBelow (h : d.name = pathName root.name path) :
    requiredFields (fieldsBelow d.name nested) =
      (Keyed.keys (fieldsBelow d.name nested)).filter fun x =>
        isRequired nested root (path ++ [x]) := by
  rw [requiredFields, Keyed.keys, List.filter_map]
  congr 1
  refine List.filter_congr fun y hy => ?_
  have hc := (Keyed.get?_eq_some_iff_mem nodup_keys_fieldsBelow).mpr hy
  rw [get?_fieldsBelow (fieldBelow?_eq_some_iff.mp (mem_fieldsBelow hy).2).1, h,
    ← governing?_concat] at hc
  simp [isRequired, hc]

/-- Each node of a folded declaration is what the last declaration of its path gives. -/
theorem isNode_fold (h : fold root nested = .ok f) (hg : f.at? path = some g) :
    ∃ d, IsNode nested root path d g := by
  -- the children of a node are the paths of the whole tree that go on from it
  have hchildren : ∀ x, x ∈ Keyed.keys g.properties ↔ DeclaredPath nested root (path ++ [x]) := by
    intro x
    rw [← isSome_at?_fold h, Fragment.at?_append, hg, ← Keyed.isSome_get?]
    simp [Fragment.at?]
  obtain ⟨d, f', hd, hf', rfl⟩ := at?_fold h hg
  have hname := name_of_governing? hd
  rw [Fragment.properties_describe] at hchildren
  rcases fold_cases hf' with ⟨hbase, -⟩ | ⟨properties, hobject, hfields, hproperties, rfl⟩
  · have hnone : f'.properties = [] := (base_plain hbase).2
    refine ⟨d, hd, by simp, fun _ => ⟨f', hbase, by simp⟩, fun x hx => ?_, by simpa using hchildren,
      by simp [hnone, Keyed.keys], by simp [hnone, Keyed.keys]⟩
    have := (hchildren x).mpr hx
    simp [hnone, Keyed.keys] at this
  · have hkeys : Keyed.keys properties = Keyed.keys (fieldsBelow d.name nested) :=
      keys_of_foldField hproperties
    refine ⟨d, hd, by simp, fun hleaf => ?_, fun _ _ => ?_, by simpa using hchildren, ?_, ?_⟩
    · have hnil : Keyed.keys (fieldsBelow d.name nested) = [] := by
        rw [← hkeys]
        exact List.eq_nil_iff_forall_not_mem.mpr fun x hx => hleaf x ((hchildren x).mp hx)
      exact absurd (List.map_eq_nil_iff.mp hnil) hfields
    · rw [Fragment.description_describe, Fragment.properties_describe, Fragment.properties_object,
        Fragment.describe_object, hkeys, requiredFields_fieldsBelow hname]
    · rw [Fragment.properties_describe, Fragment.properties_object, hkeys]
      exact nodup_keys_fieldsBelow
    · rw [Fragment.properties_describe, Fragment.properties_object, hkeys, ← hname]
      exact sublist_fieldsBelow

end CallSchema.Jsdoc

import CallSchema.Proofs.DeclaredTree

/-!
# Declared parameters

A list of declarations gives a parameter for each name that stands alone, and the declarations with
dotted names and the properties give the tree below it.
-/

namespace CallSchema.Jsdoc

/-- A parameter with the fragment of its declaration. -/
def foldParam (nested : List Declaration) (x : String × Declaration) : Except Failure Param := do
  pure
    { name := x.2.name, description := x.2.description, fragment := ← fold x.2 nested,
      enumValues := if x.2.isEnum then x.2.enumValues else none, isOptional := x.2.isOptional }

lemma buildParams_eq_mapM (ds : List Declaration) : buildParams ds =
    (byName (ds.filter (!·.isNested))).mapM (foldParam (ds.filter (·.isNested))) := rfl

lemma foldParam_eq_ok_iff {y : String × Declaration} {p : Param} :
    foldParam nested y = .ok p ↔ ∃ f, fold y.2 nested = .ok f ∧ p =
      { name := y.2.name, description := y.2.description, fragment := f,
        enumValues := if y.2.isEnum then y.2.enumValues else none, isOptional := y.2.isOptional } :=
  bind_pure_eq_ok_iff

/-- The parameters that declarations give are the names that are neither nested nor properties, each
once and in the order in which they were first declared, and each as its last declaration says. The
fragment of a parameter has exactly the paths that are declared below it, and its node at a path is
what the last declaration of the path gives. -/
theorem buildParams_declaredTree (ds : List Declaration) (h : ∀ d ∈ ds, d.HasEnumBase) :
    ∃ params, buildParams ds = .ok params ∧
      params.map (·.name) = ((ds.filter (!·.isNested)).map (·.name)).eraseDups ∧
      ∀ p ∈ params, ∃ root, lastNamed? (ds.filter (!·.isNested)) p.name = some root ∧
        p.description = root.description ∧ p.isOptional = root.isOptional ∧
        p.enumValues = (if root.isEnum then root.enumValues else none) ∧
        ∀ path,
          ((p.fragment.at? path).isSome ↔ DeclaredPath (ds.filter (·.isNested)) root path) ∧
          ∀ f, p.fragment.at? path = some f →
            ∃ d, IsNode (ds.filter (·.isNested)) root path d f := by
  have hlast : ∀ y ∈ byName (ds.filter (!·.isNested)),
      lastNamed? (ds.filter (!·.isNested)) y.1 = some y.2 := fun _ => mem_byName.mp
  have hfold : ∀ y ∈ byName (ds.filter (!·.isNested)),
      ∃ p, foldParam (ds.filter (·.isNested)) y = .ok p := by
    intro y hy
    have hroot : y.2 ∈ ds := (List.mem_filter.mp (lastNamed?_mem (hlast y hy)).1).1
    obtain ⟨f, hf⟩ := exists_fold (fun c hc => h c (List.mem_filter.mp hc).1) y.2 (h y.2 hroot)
    exact ⟨_, foldParam_eq_ok_iff.mpr ⟨f, hf, rfl⟩⟩
  obtain ⟨params, hparams⟩ := exists_mapM_eq_ok hfold
  refine ⟨params, (buildParams_eq_mapM ds).trans hparams, ?_, fun p hp => ?_⟩
  · rw [← keys_byName]
    refine map_eq_map_of_mapM hparams fun y hy p hp => ?_
    obtain ⟨f, -, rfl⟩ := foldParam_eq_ok_iff.mp hp
    exact (lastNamed?_mem (hlast y hy)).2
  · obtain ⟨y, hy, hyp⟩ := exists_of_mem_mapM hparams hp
    obtain ⟨f, hf, rfl⟩ := foldParam_eq_ok_iff.mp hyp
    refine ⟨y.2, ?_, rfl, rfl, rfl, fun path => ⟨isSome_at?_fold hf, fun g => isNode_fold hf⟩⟩
    rw [(lastNamed?_mem (hlast y hy)).2]
    exact hlast y hy

/-- A server declared twice, first as a text, with nested fields before their parents, and a field
below a number. -/
def serverDeclarations : List Declaration :=
  [{ isProperty := false, typeToken := "string", name := "server" },
    { isProperty := true, typeToken := "number", name := "server.port", isOptional := true },
    { isProperty := true, typeToken := "string", name := "server.port.range" },
    { isProperty := false, typeToken := "string", name := "server.proxy.user" },
    { isProperty := false, typeToken := "string", isEnum := true,
      enumValues := some [.text "fast", .text "safe"], name := "mode" },
    { isProperty := true, typeToken := "object", name := "server.proxy" },
    { isProperty := false, typeToken := "object", name := "server" }]

theorem buildParams_serverDeclarations : (∀ d ∈ serverDeclarations, d.HasEnumBase) ∧
    ∃ params, buildParams serverDeclarations = .ok params ∧
      params.map (·.name) = ["server", "mode"] ∧
      ∀ p ∈ params, p.name = "server" →
        p.isOptional = false ∧ (p.fragment.at? ["proxy", "user"]).isSome ∧
          p.fragment.at? ["port", "range"] = none := by
  have hbase : ∀ d ∈ serverDeclarations, d.HasEnumBase := by decide
  obtain ⟨params, hparams, hnames, hp⟩ := buildParams_declaredTree serverDeclarations hbase
  refine ⟨hbase, params, hparams, hnames.trans (by decide), fun p hmem hname => ?_⟩
  obtain ⟨root, hroot, -, hopt, -, hpaths⟩ := hp p hmem
  have hlast : lastNamed? (serverDeclarations.filter (!·.isNested)) "server" =
      some { isProperty := false, typeToken := "object", name := "server" } := by decide
  rw [hname, hlast] at hroot
  obtain rfl := Option.some.inj hroot
  refine ⟨hopt, (hpaths ["proxy", "user"]).1.mpr (by decide), ?_⟩
  have hrange := (hpaths ["port", "range"]).1.not.mpr (by decide)
  simpa using hrange

end CallSchema.Jsdoc

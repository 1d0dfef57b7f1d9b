import CallSchema.Module.Source
import CallSchema.Proofs.DocumentedSchemas

/-!
# The functions of a module

The functions of a module are told by its statements, whether they run or not: each name once, where
it is bound first. What is documented under a name is the object that the name is bound to once all
statements have run. Both views are joined name by name, as far as the module itself answers for the
name: its class answers for some.
-/

namespace CallSchema

namespace Statement

mutual

/-- The simple statements and the definitions in a statement, in the order in which they are
written, whether they run or not. What stands in functions and classes does not count. -/
def leaves : Statement → List Statement
  | branch _ body orelse => leavesOfAll body ++ leavesOfAll orelse
  | attempt body none orelse final =>
    leavesOfAll body ++ leavesOfAll orelse ++ leavesOfAll final
  | attempt body (some handler) orelse final =>
    leavesOfAll body ++ leavesOfAll handler ++ leavesOfAll orelse ++ leavesOfAll final
  | within body | loop _ body => leavesOfAll body
  | s => [s]

def leavesOfAll : List Statement → List Statement
  | [] => []
  | s :: ss => leaves s ++ leavesOfAll ss

end

/-- The names that a statement by itself binds to a function, or to a lambda that is assigned. -/
def functionNames : Statement → List String
  | define _ f => [f.name]
  | lambda target names _ => if target.assignsLambda then names else []
  | _ => []

mutual

lemma names_functions : ∀ s : Statement, s.functions.map (·.1) = s.leaves.flatMap functionNames
  | branch _ body orelse => by
    rw [functions, leaves, List.map_append, List.flatMap_append, names_functionsOfAll body,
      names_functionsOfAll orelse]
  | attempt body none orelse final => by
    rw [functions, leaves]
    simp only [List.map_append, List.flatMap_append, names_functionsOfAll body,
      names_functionsOfAll orelse, names_functionsOfAll final]
  | attempt body (some handler) orelse final => by
    rw [functions, leaves]
    simp only [List.map_append, List.flatMap_append, names_functionsOfAll body,
      names_functionsOfAll handler, names_functionsOfAll orelse, names_functionsOfAll final]
  | within body => by
    rw [functions, leaves, names_functionsOfAll body]
  | loop _ body => by
    rw [functions, leaves, names_functionsOfAll body]
  | lambda target names params => by
    have hleaves : (lambda target names params).leaves = [lambda target names params] := rfl
    rw [functions, hleaves, List.flatMap_singleton, functionNames]
    split
    · rw [List.map_map]
      exact List.map_id names
    · rfl
  | define .. | classDef .. | field .. | bareTuple .. | assign .. | rebind .. | delete .. | raise ..
  | warn .. | importModule .. | importNames .. => rfl

lemma names_functionsOfAll : ∀ ss : List Statement,
    (functionsOfAll ss).map (·.1) = (leavesOfAll ss).flatMap functionNames
  | [] => rfl
  | s :: ss => by
    rw [functionsOfAll, leavesOfAll, List.map_append, List.flatMap_append, names_functions s,
      names_functionsOfAll ss]

end

end Statement

namespace Module

/-- The names that the statements of a module bind to functions and lambdas, in order. -/
def functionNames (m : Module) : List String :=
  (Statement.leavesOfAll m.statements).flatMap Statement.functionNames

lemma names_functions (m : Module) : m.functions.map (·.1) = m.functionNames.eraseDups := by
  rw [functionNames, ← Statement.names_functionsOfAll, functions]
  generalize Statement.functionsOfAll m.statements = found
  induction found using List.reverseRecOn with
  | nil => rfl
  | append_singleton found f ih =>
    have hhas : ∀ fs : List (String × FunctionKind), Keyed.has fs f.1 = true ↔ f.1 ∈ fs.map (·.1) :=
      fun fs => Keyed.isSome_get?
    rw [List.foldl_concat, List.map_append, List.map_singleton, Keyed.eraseDups_concat, ← ih]
    by_cases hmem : f.1 ∈ found.map (·.1)
    · rw [if_pos hmem, if_pos ((hhas _).mpr (ih ▸ List.mem_eraseDups.mpr hmem))]
    · rw [if_neg hmem, if_neg fun h => hmem (List.mem_eraseDups.mp (ih ▸ (hhas _).mp h)),
        List.map_append, List.map_singleton]

end Module

namespace Context

variable {ctx : Context} {home n : String}

/-- The object that a name of a module is bound to, if it can be called. -/
def finalCallable? (ctx : Context) (home n : String) : Option Callable :=
  (Keyed.get? (ctx.namesOf home) n).bind ctx.callable?

/-- The module itself answers for a name: its class does not answer first, and if the name is not
bound, its class does not answer either. -/
structure IsOwnName (ctx : Context) (home n : String) : Prop where
  notReserved : ModuleClass.reserved.lookup n = none
  bound : Keyed.get? (ctx.namesOf home) n = none → ModuleClass.methods.lookup n = none

lemma moduleAttribute?_of_own (h : ctx.IsOwnName home n) :
    ctx.moduleAttribute? home n = ctx.finalCallable? home n := by
  rw [moduleAttribute?, finalCallable?, h.notReserved]
  cases hget : Keyed.get? (ctx.namesOf home) n with
  | some b => rfl
  | none =>
    rw [ModuleClass.method?, h.bound hget]
    rfl

end Context

lemma Run.run_of_attempt {α : Type} {x : Run α} {s s' : RunState} {r : Except Failure α}
    (h : attempt x s = (.ok r, s')) : x s = (r, s') := by
  have hended : (attempt x s).2 = s' := congrArg Prod.snd h
  exact Prod.ext (ok_of_attempt (congrArg Prod.fst h)) hended

lemma Callable.registeredName_some {f : Callable} {n : String} (hempty : n ≠ "")
    (hlambda : n ≠ lambdaName) : f.registeredName (some n) = n := by
  unfold registeredName
  extract_lets name
  have hname : name = n := by
    unfold name
    split
    · rename_i heq
      exact absurd (Option.some.inj heq) hempty
    · rename_i heq
      cases heq
    · rename_i heq
      exact (Option.some.inj heq).symm
  rw [hname]
  simp [hempty, hlambda]

lemma DocumentedFunction.functionName_make {notice functionName : String} {params : List Param}
    {d : DocumentedFunction} (h : make notice functionName params = .ok d) :
    d.functionName = functionName := by
  unfold make at h
  split at h
  · cases h
  · obtain rfl := Except.ok.inj h
    rfl

lemma Context.functionName_document {ctx : Context} {f : Callable} {given : Option String}
    {d : DocumentedFunction} (h : (ctx.document f given).value = .ok d) :
    d.functionName = f.registeredName given := by
  obtain ⟨doc, -, h⟩ := Outcome.value_bind_eq_ok.mp h
  dsimp only at h
  split at h
  · change DocumentedFunction.make _ _ [] = .ok d at h
    exact DocumentedFunction.functionName_make h
  · obtain ⟨hints, -, h⟩ := Outcome.value_bind_eq_ok.mp h
    obtain ⟨found, -, h⟩ := Outcome.value_bind_eq_ok.mp h
    obtain ⟨unique, -, h⟩ := Outcome.value_bind_eq_ok.mp h
    change DocumentedFunction.make _ _ unique = .ok d at h
    exact DocumentedFunction.functionName_make h

namespace Sources

variable {files : Sources} {ctx : Context} {home path : String} {m : Module} {s : RunState}
  {ds : List DocumentedFunction}

lemma names_callables (ctx : Context) (home : String) (m : Module) :
    (callables ctx home m).map (·.1) =
      m.functionNames.eraseDups.filter fun n => (ctx.moduleAttribute? home n).isSome := by
  rw [callables, ← m.names_functions]
  induction m.functions with
  | nil => rfl
  | cons f fs ih =>
    cases hattribute : ctx.moduleAttribute? home f.1 with
    | none => simpa [hattribute] using ih
    | some c => simpa [hattribute] using ih

lemma moduleAttribute?_of_mem_callables {c : Callable} {n : String}
    (h : (n, c) ∈ callables ctx home m) : ctx.moduleAttribute? home n = some c := by
  obtain ⟨⟨name, kind⟩, -, hpair⟩ := List.mem_filterMap.mp h
  obtain ⟨found, hfound, heq⟩ := Option.map_eq_some_iff.mp hpair
  obtain ⟨rfl, rfl⟩ := Prod.mk.inj heq
  exact hfound

/-- Runs the statements of the module at a path, as one that has bound no name yet. -/
def running [ProgramReader] (files : Sources) (path : List Char) (m : Module) : Run Unit := do
  let home := String.ofList path
  Run.setNames home []
  let place : Place :=
    { home, lateHints := m.lateHints,
      load := files.load (Path.directory path) (files.fileCount + 1) }
  place.steps m.statements

lemma running_of_withModule [ProgramReader] {α : Type} {path : List Char} {use : Run α} {x : α}
    (h : (files.withModule path m use s).1 = .ok x) :
    ∃ ended, files.running path m s = (.ok (), ended) ∧ (use ended).1 = .ok x := by
  obtain ⟨_, s₁, hset, h⟩ := Run.run_of_bind h
  obtain ⟨r, s₂, hr, h⟩ := Run.run_of_bind h
  obtain ⟨-, s₃, -, h⟩ := Run.run_of_bind h
  rw [Run.ofExcept_apply] at h
  obtain rfl : r = .ok x := h
  obtain ⟨steps, s₄, hsteps, hr⟩ := Run.run_of_bind (Run.ok_of_attempt (congrArg Prod.fst hr))
  cases steps with
  | error e =>
    dsimp only at hr
    split at hr <;> cases hr
  | ok u =>
    refine ⟨s₄, ?_, hr⟩
    rw [running, Run.bind_apply, hset]
    exact Run.run_of_attempt hsteps

lemma mem_functionNames_of_mem_callables {c : String × Callable} (h : c ∈ callables ctx home m) :
    c.1 ∈ m.functionNames := by
  have hname := List.mem_map_of_mem h (f := Prod.fst)
  rw [names_callables] at hname
  exact List.mem_eraseDups.mp (List.mem_of_mem_filter hname)

lemma documents_of_documentAll (hnames : ∀ n ∈ m.functionNames, n ≠ "" ∧ n ≠ lambdaName)
    (h : (documentAll ctx home m).value = .ok ds) :
    List.Forall₂ (fun c d => d.functionName = c.1 ∧ (ctx.document c.2 (some c.1)).value = .ok d)
      (callables ctx home m) ds := by
  rw [value_documentAll] at h
  have hnamed : ∀ c ∈ callables ctx home m, c.1 ≠ "" ∧ c.1 ≠ lambdaName := fun c hc =>
    hnames c.1 (mem_functionNames_of_mem_callables hc)
  have hall := (List.forall₂_and_left _ _).mpr ⟨hnamed, comes_outcome.mapInOrder h⟩
  refine hall.imp fun c d ⟨hc, hdocument⟩ => ⟨?_, hdocument⟩
  rw [Context.functionName_document hdocument, Callable.registeredName_some hc.1 hc.2]

/-- What the documented functions of a module have to do with the module, and with the names that it
has bound in the end. -/
structure JoinsNames (ctx : Context) (home : String) (m : Module) (ds : List DocumentedFunction) :
    Prop where
  nodup : (ds.map (·.functionName)).Nodup
  /-- They come in the order in which the module binds their names first. -/
  sublist : (ds.map (·.functionName)).Sublist m.functionNames.eraseDups
  mem_iff : ∀ n, ctx.IsOwnName home n →
    (n ∈ ds.map (·.functionName) ↔ n ∈ m.functionNames ∧ (ctx.finalCallable? home n).isSome = true)
  describes : ∀ d ∈ ds, ctx.IsOwnName home d.functionName →
    ∃ f, ctx.finalCallable? home d.functionName = some f ∧
      (ctx.document f (some d.functionName)).value = .ok d

lemma names_of_documentAll (hnames : ∀ n ∈ m.functionNames, n ≠ "" ∧ n ≠ lambdaName)
    (h : (documentAll ctx home m).value = .ok ds) : ds.map (·.functionName) =
      m.functionNames.eraseDups.filter fun n => (ctx.moduleAttribute? home n).isSome := by
  rw [← names_callables]
  exact map_eq_map_of_forall₂ (documents_of_documentAll hnames h) fun c d hd => hd.1

lemma joinsNames_of_documentAll (hnames : ∀ n ∈ m.functionNames, n ≠ "" ∧ n ≠ lambdaName)
    (h : (documentAll ctx home m).value = .ok ds) : JoinsNames ctx home m ds := by
  have hdocuments := documents_of_documentAll hnames h
  have heq := names_of_documentAll hnames h
  refine ⟨?_, ?_, fun n hn => ?_, fun d hd hown => ?_⟩
  · rw [heq]
    exact (Keyed.nodup_eraseDups _).filter _
  · rw [heq]
    exact List.filter_sublist
  · rw [heq, List.mem_filter, List.mem_eraseDups, Context.moduleAttribute?_of_own hn]
  · obtain ⟨c, hc, hname, hdocument⟩ := exists_of_forall₂ hdocuments.flip hd
    refine ⟨c.2, ?_, hname ▸ hdocument⟩
    rw [← Context.moduleAttribute?_of_own hown, hname]
    exact moduleAttribute?_of_mem_callables hc

/-- The documented functions of a module have different names, in the order in which its statements
bind them first to functions or lambdas: they are the names that stand for an object that can be
called once the module has run, and that object is what is documented. Only of the names for which
the class of the module answers is nothing said. -/
theorem joinsNames_typedFunctions [ProgramReader] (files : Sources) (path : String)
    (s : RunState) (m : Module) (ds : List DocumentedFunction)
    (hread : files.readModule (Path.clean path.toList) = .ok m)
    (hnames : ∀ n ∈ m.functionNames, n ≠ "" ∧ n ≠ lambdaName)
    (h : (files.typedFunctions path s).1 = .ok ds) :
    ∃ ended, files.running (Path.clean path.toList) m s = (.ok (), ended) ∧
      JoinsNames ended.ctx (String.ofList (Path.clean path.toList)) m ds := by
  obtain ⟨m', s₁, hmodule, h⟩ := Run.run_of_bind h
  rw [Run.ofExcept_apply, hread] at hmodule
  obtain ⟨hm, rfl⟩ := Prod.mk.inj hmodule
  obtain rfl : m = m' := Except.ok.inj hm
  obtain ⟨_, s₂, hpath, h⟩ := Run.run_of_bind h
  rw [Run.ofExcept_apply] at hpath
  obtain ⟨-, rfl⟩ := Prod.mk.inj hpath
  obtain ⟨ended, hrun, h⟩ := running_of_withModule h
  obtain ⟨_, s₃, hget, h⟩ := Run.run_of_bind h
  obtain ⟨hstate, rfl⟩ := Prod.mk.inj hget
  obtain rfl := Except.ok.inj hstate
  have hall := Run.ok_of_ofOutcome h
  exact ⟨ended, hrun, joinsNames_of_documentAll hnames hall⟩

section Examples

open PlainProgram

/-- A module that binds its names in many ways: twice to functions, where it does not run, to a
lambda together with another name, and then to something else or to nothing. -/
def tools : Module :=
  { statements :=
      [.define false { name := "load", params := [{ name := "path", hint := some (.name "str") }] },
        .branch false [.define true { name := "never" }] [],
        .lambda .names ["size", "weight"] [{ name := "row" }],
        .define false { name := "limit" },
        .classDef { name := "Row" } [.define false { name := "get" }],
        .define false
          { name := "load", params := [{ name := "count", hint := some (.name "int") }] },
        .rebind "weight" "load", .assign "limit" (.constant (.bool true)),
        .define false { name := "gone" }, .delete "gone"] }

def toolFiles : Sources := .directory [("tools.py", .file (.program tools))]

theorem joinsNames_typedFunctions_tools :
    ∃ ds ended, (toolFiles.typedFunctions "tools.py" {}).1 = .ok ds ∧
      ds.map (fun d => (d.functionName, d.params.map (·.name))) =
        [("load", ["count"]), ("size", ["row"]), ("weight", ["count"])] ∧
      toolFiles.running (Path.clean "tools.py".toList) tools {} = (.ok (), ended) ∧
      JoinsNames ended.ctx (String.ofList (Path.clean "tools.py".toList)) tools ds := by
  have hfound : (toolFiles.typedFunctions "tools.py" {}).1.toOption.map
      (·.map fun d => (d.functionName, d.params.map (·.name))) =
        some [("load", ["count"]), ("size", ["row"]), ("weight", ["count"])] := by
    decide +kernel
  cases hds : (toolFiles.typedFunctions "tools.py" {}).1 with
  | error e =>
    rw [hds] at hfound
    cases hfound
  | ok ds =>
    rw [hds] at hfound
    obtain ⟨ended, hrun, hjoins⟩ := joinsNames_typedFunctions toolFiles "tools.py" {} tools ds rfl
      (by decide) hds
    exact ⟨ds, ended, rfl, Option.some.inj hfound, hrun, hjoins⟩

/-- A module with a function whose name is the one of the dictionary of its names. -/
def namespaceModule : Module :=
  { statements :=
      [.define false
        { name := "__dict__", params := [{ name := "x", hint := some (.name "int") }] }] }

def namespaceFiles : Sources := .directory [("m.py", .file (.program namespaceModule))]

/-- The function is what its name is bound to in the end, but it is not documented. -/
theorem typedFunctions_namespaceModule :
    namespaceModule.functionNames = ["__dict__"] ∧
      ((namespaceFiles.running (Path.clean "m.py".toList) namespaceModule {}).2.ctx.finalCallable?
        "m.py" "__dict__").map (·.name) = some (some "__dict__") ∧
      (namespaceFiles.typedFunctions "m.py" {}).1.toOption.map List.length = some 0 := by
  refine ⟨rfl, ?_, ?_⟩
  · decide +kernel
  · decide +kernel

end Examples

end Sources

end CallSchema

import CallSchema.Function.Document
import CallSchema.Module.Attribute
import CallSchema.Module.Reader
import CallSchema.Module.Run
import CallSchema.Sources

/-!
Loading modules from files, with the modules beside them that they import, and the documented
functions of a module.
-/

namespace CallSchema

namespace Run

/-- Sets what the names of a module are. -/
def setNames (home : String) (names : Names) : Run Unit :=
  modify fun s => { s with ctx := { s.ctx with modules := Keyed.put s.ctx.modules home names } }

/-- Forgets a module. -/
def forget (home : String) : Run Unit :=
  modify fun s => { s with ctx := { s.ctx with modules := Keyed.erase s.ctx.modules home } }

end Run

namespace Sources

variable [ProgramReader]

/-- The module that the bytes of a file are when it is imported. -/
def importBytes (file : List Char) (bytes : List UInt8) : Except Failure Module :=
  let bytes := Text.dropEncodingMark bytes
  match textOf bytes, Text.undecodable? bytes with
  | .ok cs, _ => Module.ofText file cs
  | .error _, some e => .error (e.failure file)
  | .error e, none => .error e

def importContent (path : List Char) : SourceContent → Except Failure Module
  | .program m => .ok m
  | .bytes bs => importBytes (Path.name path) bs

/-- The file of a module in a directory: of a package, or one of its own. -/
def moduleFile? (files : Sources) (directory : List Char) (name : String) :
    Option (List Char × SourceContent) :=
  let own := Path.join directory name.toList
  [Path.join own "__init__.py".toList, own ++ ".py".toList].findSome? fun path =>
    ((files.node? path).bind FileTree.content?).map (path, ·)

/-- Loads a module of a directory, once. `fuel` bounds the number of modules that import one
another. -/
def load (files : Sources) (directory : List Char) : (fuel : Nat) → String → Run Unit
  | 0, _ => throw .tooDeep
  | fuel + 1, name => do
    if Keyed.has (← get).ctx.modules name then return
    match files.moduleFile? directory name with
    | some (path, content) => do
      let m ← Run.ofExcept (importContent path content)
      Run.setNames name []
      let place : Place :=
        { home := name, lateHints := m.lateHints, load := load files directory fuel }
      match ← Run.attempt (Run.withBodies [] (place.steps m.statements)) with
      | .ok _ => pure ()
      | .error e => do
        Run.forget name
        throw e
    | none =>
      if files.hasDirectory (Path.join directory name.toList) then Run.setNames name []
      else throw (raised "ModuleNotFoundError" ("No module named " ++ Text.quoted name))

/-- An exception with the name of its class. -/
def described (e : Failure) : String := e.kind ++ ": " ++ e.message

/-- Runs the statements of the module at a path, and then `use`. The names of the module are
forgotten after that. An exception of its statements means that there is no such source, unless it
asks the whole program to end. -/
def withModule {α : Type} (files : Sources) (path : List Char) (m : Module) (use : Run α) :
    Run α := do
  let home := String.ofList path
  Run.setNames home []
  let place : Place :=
    { home, lateHints := m.lateHints,
      load := files.load (Path.directory path) (files.fileCount + 1) }
  let r ← Run.attempt do
    match ← Run.attempt (place.steps m.statements) with
    | .ok _ => use
    | .error e => throw (if e.endsProgram then e else .sourceNotFound home (described e))
  Run.forget home
  Run.ofExcept r

/-- Checks that a path can be the one of a module. -/
def checkModulePath (files : Sources) (path : List Char) : Except Failure Unit :=
  if !files.hasFile path then .error (.sourceNotFound (String.ofList path) "no such file")
  else if !Text.endsWith ".py".toList path then
    .error (.sourceNotFound (String.ofList path) "cannot be loaded as a Python module")
  else .ok ()

/-- Loads the module at a path, and does nothing with it. -/
def loadOnly (files : Sources) (path : String) : Run Unit := do
  let path := Path.clean path.toList
  Run.ofExcept (files.checkModulePath path)
  let m ← match files.read path with
    | .error e => throw e
    | .ok content => match importContent path content with
      | .ok m => pure m
      | .error e => throw (.sourceNotFound (String.ofList path) (described e))
  files.withModule path m (pure ())

/-- The module at a path, read from its text. -/
def readModule (files : Sources) (path : List Char) : Except Failure Module :=
  let shown := String.ofList path
  match files.read path with
  | .error e => .error (unreadable shown e)
  | .ok (.program m) => .ok m
  | .ok (.bytes bs) =>
    match textOf bs with
    | .error e => .error (unreadable shown e)
    | .ok cs =>
      if cs.contains '\x00' then Module.ofText (Path.name path) cs
      else match Module.ofText (Path.name path) cs with
        | .ok m => .ok m
        | .error e => .error (.sourceNotFound shown ("SyntaxError: " ++ e.message))

/-- The functions that stand in the module whose names are in a context, each with the callable
object that the module gives for its name, if it gives one. -/
def callables (ctx : Context) (home : String) (m : Module) : List (String × Callable) :=
  m.functions.filterMap fun (name, _) => (ctx.moduleAttribute? home name).map (name, ·)

/-- The documented functions of a module. The hints of classes are shared between them. -/
def documentAll (ctx : Context) (home : String) (m : Module) : Outcome (List DocumentedFunction) :=
  (mapInOrder (fun (name, f) => ctx.documentShared f (some name)) (callables ctx home m)).alone

/-- What `describe` tells of the module at a path once it has run. -/
def describing {α : Type} (files : Sources)
    (describe : Context → (home : String) → Module → Outcome α) (path : String) : Run α := do
  let path := Path.clean path.toList
  let m ← Run.ofExcept (files.readModule path)
  Run.ofExcept (files.checkModulePath path)
  files.withModule path m do
    Run.ofOutcome (describe (← get).ctx (String.ofList path) m)

/-- The documented functions of the module at a path. -/
def typedFunctions (files : Sources) (path : String) : Run (List DocumentedFunction) :=
  files.describing documentAll path

end Sources

end CallSchema

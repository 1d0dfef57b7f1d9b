import CallSchema.Document.Writer
import CallSchema.Jsdoc.Source
import CallSchema.Module.Load

/-!
Extracting the documented functions of source files. A failure of one source is a result like any
other, so that it does not stop the next.
-/

namespace CallSchema

/-- A source of a dialect; its text, if it has been read. -/
structure SourceUnit where
  path : String
  dialect : Dialect
  text : Option String := none
  deriving Repr, Inhabited

/-- Why a source gave no functions. -/
structure Problem where
  kind : String
  text : String
  deriving DecidableEq, Repr, Inhabited

/-- What a source gave. -/
structure Extraction where
  source : String
  dialect : Dialect
  result : Except Problem (List DocumentedFunction)

namespace Extraction

def functions (x : Extraction) : List DocumentedFunction := x.result.toOption.getD []

def schemas (x : Extraction) : List Document := x.functions.map (·.toSchema)

end Extraction

namespace Problem

def ofFailure (e : Failure) : Problem := ⟨e.kind, e.message⟩

/-- Any exception that a program brings up while it is being read. -/
def unexpected (e : Failure) : Problem := ⟨"UnexpectedError", Sources.described e⟩

end Problem

namespace Sources

/-- The failure of a source whose suffix belongs to no dialect. -/
def unsupported (path : String) : Failure :=
  .sourceNotFound path
    ("unsupported file type " ++ String.ofList (Text.quotedList (Path.suffix path.toList)))

/-- The text of an untyped source. -/
def untypedText (files : Sources) (path : String) : Except Failure String :=
  match files.readText path with
  | .ok cs => .ok (String.ofList cs)
  | .error e => .error (unreadable path e)

/-- The source at a path. Only the text of untyped sources is read. -/
def unit (files : Sources) (path : String) : Except Failure SourceUnit :=
  match Dialect.ofPath? path.toList with
  | none => .error (unsupported path)
  | some .typed => .ok { path, dialect := .typed }
  | some .untyped => do pure { path, dialect := .untyped, text := some (← files.untypedText path) }

section Reading

variable [ProgramReader]

/-- The documented functions of a source. -/
def functionsOf (files : Sources) (u : SourceUnit) : Run (List DocumentedFunction) :=
  match u.dialect with
  | .typed => files.typedFunctions u.path
  | .untyped => do
    let text ← match u.text with
      | some text => pure text
      | none => Run.ofExcept (files.untypedText u.path)
    Run.ofExcept (Jsdoc.functions text.toList)

/-- Extracts a source. Failures of the source are part of the result, and so is every exception of
a program that does not ask for the end of everything; any other failure ends the run. -/
def extractUnit (files : Sources) (u : SourceUnit) : Run Extraction := do
  let result (r : Except Problem (List DocumentedFunction)) : Run Extraction :=
    pure { source := u.path, dialect := u.dialect, result := r }
  match ← Run.attempt (files.functionsOf u) with
  | .ok fs => result (.ok fs)
  | .error e =>
    if e.isSourceError then result (.error (.ofFailure e))
    else if u.dialect = .typed && !e.endsProgram then result (.error (.unexpected e))
    else throw e

/-- Extracts the source at a path. That no source can be read there is part of the result. -/
def extract (files : Sources) (path : String) : Run Extraction :=
  match files.unit path with
  | .ok u => files.extractUnit u
  | .error e =>
    if e.isSourceError then
      pure
        { source := path, dialect := (Dialect.ofPath? path.toList).getD .untyped,
          result := .error (.ofFailure e) }
    else throw e

/-- The documented functions of the source at a path. -/
def parse (files : Sources) (path : String) : Run (List DocumentedFunction) := do
  files.functionsOf (← Run.ofExcept (files.unit path))

end Reading

/-- Writes schemas as a list, with a newline after it. A number that has no text ends the writing,
and what was written before it stays in the file. -/
def writeSchemas (files : Sources) (path : String) (schemas : List Document)
    (indent : Option Nat) : Except Failure Unit × Sources :=
  let (text, ending) := (Document.list schemas).print indent
  match files.writeWithin path.toList (.ofText (text ++ if ending.isOk then "\n" else "")) with
  | .error e => (.error e, files)
  | .ok files => (ending, files)

end Sources

end CallSchema

import CallSchema.CommandLine.Arguments
import CallSchema.CommandLine.Markup
import CallSchema.Extraction

/-!
The command: it extracts every source below a directory, tells of each, and writes all schemas to
one file.
-/

namespace CallSchema

namespace Terminal

def reset : String := "\x1b[0m"

def coloured (code : Nat) (s : String) : String := "\x1b[" ++ toString code ++ "m" ++ s ++ reset

def red : String → String := coloured 31

def green : String → String := coloured 32

def yellow : String → String := coloured 33

/-- One line of the header, white on blue. -/
def headerLine (s : String) : String := "\x1b[44m\x1b[37m" ++ s ++ reset ++ "\n"

def headerWidth : Nat := 60

/-- A title in a frame. -/
def header (title : String) : String :=
  let title := " " ++ title ++ " "
  let line := String.ofList (List.replicate headerWidth '─')
  let blanks (n : Nat) : String := String.ofList (List.replicate n ' ')
  let before := (headerWidth - title.length) / 2
  "\n" ++ headerLine ("┌" ++ line ++ "┐")
    ++ headerLine ("│" ++ blanks before ++ title ++ blanks (headerWidth - title.length - before)
      ++ "│")
    ++ headerLine ("└" ++ line ++ "┘") ++ "\n"

def sourceLine (path : String) (count : Nat) : String :=
  green "  ✓" ++ " " ++ path ++ " " ++ yellow (toString count) ++ " function(s)\n"

def warningLine (w : Warning) : String := yellow ("    ! " ++ w.message) ++ "\n"

def problemLine (path : String) (p : Problem) : String :=
  red "  ✗" ++ " " ++ path ++ " " ++ red ("[" ++ p.kind ++ "] " ++ p.text) ++ "\n"

def nothingFound (directory : String) : String :=
  yellow ("No source files found in " ++ directory) ++ "\n"

/-- The line about the schemas that were written, with marks for its styles. -/
def writtenLine (count : Nat) (path : String) : String :=
  "[bold green]Schema generation completed![/] " ++ toString count ++ " schemas written to [blue]"
    ++ path ++ "[/]"

def failedLine (count : Nat) : String := toString count ++ " file(s) failed\n"

end Terminal

/-- What extracting a source gave, with the warnings given on the way. -/
structure SourceReport where
  extraction : Extraction
  warnings : List Warning

namespace SourceReport

def hasFailed (r : SourceReport) : Bool := r.extraction.result.toOption.isNone

/-- What is told of a source: warnings only of one that did not fail. -/
def shown (r : SourceReport) : String :=
  match r.extraction.result with
  | .ok fs =>
    Terminal.sourceLine r.extraction.source fs.length
      ++ String.join (r.warnings.map Terminal.warningLine)
  | .error p => Terminal.problemLine r.extraction.source p

end SourceReport

/-- Files, with the modules that have been loaded from them. -/
structure Workspace where
  files : Sources := .directory []
  loaded : Context := {}
  deriving Inhabited

namespace Workspace

/-- Runs in the modules loaded so far, and keeps the ones that it loads. -/
def run {α : Type} (w : Workspace) (x : Run α) : Except Failure α × List Warning × Workspace :=
  let (r, s) := x { ctx := w.loaded }
  (r, s.warnings, { w with loaded := s.ctx })

section Reading

variable [ProgramReader]

/-- Extracts sources one after another, up to the first that fails if `failFast`. The reports of
those before an exception are kept. -/
def extractAll (failFast : Bool) : Workspace → List String →
    List SourceReport × Except Failure Unit × Workspace
  | w, [] => ([], .ok (), w)
  | w, path :: paths =>
    match w.run (w.files.extract path) with
    | (.error e, _, w) => ([], .error e, w)
    | (.ok extraction, warnings, w) =>
      let report : SourceReport := { extraction, warnings }
      if report.hasFailed && failFast then ([report], .ok (), w)
      else
        let (reports, ending, w) := extractAll failFast w paths
        (report :: reports, ending, w)

end Reading

end Workspace

/-- How a command ended: what it printed, and its exit code unless an exception ended it. -/
structure CommandResult where
  output : String
  error : String := ""
  ending : Except Failure Nat

namespace Workspace

/-- The schemas of all sources that did not fail, in order. -/
def schemasOf (reports : List SourceReport) : List Document :=
  reports.flatMap fun r => r.extraction.schemas

def failuresOf (reports : List SourceReport) : Nat := (reports.filter (·.hasFailed)).length

/-- Writes the schemas of reports, and tells of it. -/
def finish (w : Workspace) (output : String) (reports : List SourceReport) (path : String) :
    CommandResult × Workspace :=
  let schemas := schemasOf reports
  let failed := failuresOf reports
  let (ending, files) := w.files.writeSchemas path schemas (some 2)
  let w := { w with files }
  match ending with
  | .error e => ({ output, ending := .error e }, w)
  | .ok _ =>
    match Markup.plain (Terminal.writtenLine schemas.length path) with
    | .error message => ({ output, ending := .error (raised "MarkupError" message) }, w)
    | .ok line =>
      if failed = 0 then ({ output := output ++ line ++ "\n", ending := .ok 0 }, w)
      else
        ({ output := output ++ line ++ "\n" ++ Terminal.failedLine failed, ending := .ok 1 }, w)

variable [ProgramReader]

/-- Extracts the sources of the settings' directory and writes their schemas. -/
def generate (w : Workspace) (settings : Settings) : CommandResult × Workspace :=
  let files := w.files.sourceFiles settings.sourceDirectory.toList []
  let start := Terminal.header "SCHEMA GENERATION"
    ++ if files.isEmpty then Terminal.nothingFound settings.sourceDirectory else ""
  let (reports, ending, w) := w.extractAll settings.failFast files
  let output := start ++ String.join (reports.map (·.shown))
  match ending with
  | .error e => ({ output, ending := .error e }, w)
  | .ok _ => w.finish output reports settings.outputFile

/-- The command with arguments. -/
def command (w : Workspace) (settings : Settings) (arguments : List String) :
    CommandResult × Workspace :=
  match settings.request arguments with
  | .error e =>
    ({ output := "", error := "docschema: error: " ++ e.message ++ "\n", ending := .ok 2 }, w)
  | .ok .help => ({ output := "", ending := .ok 0 }, w)
  | .ok (.run settings) => w.generate settings

end Workspace

end CallSchema

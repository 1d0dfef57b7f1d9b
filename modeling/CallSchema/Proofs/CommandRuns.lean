import Mathlib.Algebra.Group.Int.Defs
import CallSchema.CommandLine.Run
import CallSchema.Proofs.ExtractionResults
import CallSchema.Proofs.FoundSources
import CallSchema.Proofs.MarkedLines
import CallSchema.Proofs.WrittenFiles
import CallSchema.Proofs.WrittenPieces

/-!
# Runs of the command

A run extracts the sources below a directory one after another. What it writes are the schemas of
the sources that did not fail, in order, up to and including the first that failed if it is to stop
there; its exit code tells whether one of these failed. Only a whole number with too many digits
ends the writing, and with it the run.
-/

namespace CallSchema

/-- Extracting sources one after another gives reports, each in the modules that are loaded when its
turn comes. -/
inductive Workspace.Extracts [ProgramReader] : Workspace → List String → List SourceReport → Prop
  | nil (w : Workspace) : Extracts w [] []
  | cons {w w' : Workspace} {path : String} {paths : List String} {extraction : Extraction}
      {warnings : List Warning} {reports : List SourceReport}
      (run : w.run (w.files.extract path) = (.ok extraction, warnings, w'))
      (rest : Extracts w' paths reports) :
      Extracts w (path :: paths) ({ extraction, warnings } :: reports)

namespace SourceReport

variable {r : SourceReport} {reports : List SourceReport}

/-- The reports that a run covers: all, or only those up to and including the first that failed. -/
def covered (failFast : Bool) (reports : List SourceReport) : List SourceReport :=
  if failFast then reports.take (reports.findIdx (·.hasFailed) + 1) else reports

lemma covered_nil (failFast : Bool) : covered failFast [] = [] := by
  cases failFast <;> rfl

lemma covered_cons (failFast : Bool) (r : SourceReport) (reports : List SourceReport) :
    covered failFast (r :: reports) =
      if r.hasFailed && failFast then [r] else r :: covered failFast reports := by
  cases failFast with
  | false => simp [covered]
  | true => cases hfailed : r.hasFailed <;> simp [covered, List.findIdx_cons, hfailed]

/-- The functions that sources without a failure gave. -/
def functions (reports : List SourceReport) : List DocumentedFunction :=
  (reports.filterMap (·.extraction.result.toOption)).flatten

/-- What a run writes: the schemas of the sources that it covers and that did not fail. -/
def document (failFast : Bool) (reports : List SourceReport) : Document :=
  .list ((functions (covered failFast reports)).map (·.toSchema))

/-- The exit code of a run. -/
def exitCode (failFast : Bool) (reports : List SourceReport) : Nat :=
  if (covered failFast reports).any (·.hasFailed) then 1 else 0

end SourceReport

namespace Workspace

open SourceReport

variable {w w' : Workspace} {paths : List String} {reports : List SourceReport}
  {defaults settings : Settings} {arguments : List String} {path output : String}

lemma files_of_run {α : Type} {x : Run α} {r : Except Failure α} {warnings : List Warning}
    (h : w.run x = (r, warnings, w')) : w'.files = w.files := by
  cases h
  rfl

lemma schemasOf_eq_map (reports : List SourceReport) :
    schemasOf reports = (functions reports).map (·.toSchema) := by
  induction reports with
  | nil => rfl
  | cons r reports ih =>
    rw [schemasOf, List.flatMap_cons, functions, List.filterMap_cons, Extraction.schemas,
      Extraction.functions]
    cases r.extraction.result.toOption with
    | none => exact ih
    | some fs =>
      rw [List.flatten_cons, List.map_append]
      exact congrArg _ ih

lemma failuresOf_eq_zero_iff : failuresOf reports = 0 ↔ reports.any (·.hasFailed) = false := by
  rw [failuresOf, List.length_eq_zero_iff, List.filter_eq_nil_iff, List.any_eq_false]

/-- Where a path can be written, finishing prints the schemas there, and gives an exit code if that
comes to its end. -/
lemma finish_of_writable {content : SourceContent} {files : Sources} {text : String}
    {ending : Except Failure Unit} (hpath : '[' ∉ path.toList)
    (hprint : (Document.list (schemasOf reports)).print (some 2) = (text, ending))
    (hwritable : w.files.writeWithin path.toList content = .ok files) :
    (w.finish output reports path).2.files.read path.toList =
        .ok (.ofText (text ++ if ending.isOk then "\n" else "")) ∧
      (w.finish output reports path).1.ending =
        ending.map fun _ => if reports.any (·.hasFailed) then 1 else 0 := by
  obtain ⟨written, hwritten⟩ := FileTree.exists_writeWithin hwritable
    (.ofText (text ++ if ending.isOk then "\n" else ""))
  obtain ⟨line, hline⟩ := Markup.exists_plain_writtenLine hpath (schemasOf reports).length
  have hread := FileTree.read_of_writeWithin hwritten
  unfold finish Sources.writeSchemas
  simp only [hprint, hwritten, hline, failuresOf_eq_zero_iff]
  cases ending with
  | error e => exact ⟨hread, rfl⟩
  | ok =>
    cases hfailed : reports.any (·.hasFailed) with
    | false => exact ⟨hread, rfl⟩
    | true => exact ⟨hread, rfl⟩

section Reading

variable [ProgramReader]

-- the run of the first source stays closed, so that only the loop is opened
seal run in
lemma extractAll_cons {extraction : Extraction} {warnings : List Warning} (failFast : Bool)
    (run : w.run (w.files.extract path) = (.ok extraction, warnings, w')) :
    w.extractAll failFast (path :: paths) =
      if SourceReport.hasFailed { extraction, warnings } && failFast then
        ([{ extraction, warnings }], .ok (), w')
      else ({ extraction, warnings } :: (w'.extractAll failFast paths).1,
        (w'.extractAll failFast paths).2) := by
  dsimp only [extractAll]
  rw [run]

/-- The loop covers sources up to the first failure, or all, and changes no file. -/
theorem extractAll_of_extracts (failFast : Bool) (h : Extracts w paths reports) :
    ∃ w', w.extractAll failFast paths = (covered failFast reports, .ok (), w') ∧
      w'.files = w.files := by
  induction h with
  | nil w =>
    rw [covered_nil]
    exact ⟨w, rfl, rfl⟩
  | @cons w w₁ path paths extraction warnings reports run rest ih =>
    obtain ⟨w', hw', hfiles⟩ := ih
    have hfirst := files_of_run run
    rw [covered_cons, extractAll_cons failFast run]
    split
    · exact ⟨w₁, rfl, hfirst⟩
    · rw [hw']
      exact ⟨w', rfl, hfiles.trans hfirst⟩

section Writing

variable (hrequest : defaults.request arguments = .ok (.run settings))
  (hpath : '[' ∉ settings.outputFile.toList)
  (hwritable : ∃ content files,
    w.files.writeWithin settings.outputFile.toList content = .ok files)
  (h : Extracts w (w.files.sourceFiles settings.sourceDirectory.toList []) reports)

include hrequest hpath hwritable h

lemma command_of_print {text : String} {ending : Except Failure Unit}
    (hprint : (document settings.failFast reports).print (some 2) = (text, ending)) :
    (w.command defaults arguments).2.files.read settings.outputFile.toList =
        .ok (.ofText (text ++ if ending.isOk then "\n" else "")) ∧
      (w.command defaults arguments).1.ending =
        ending.map fun _ => exitCode settings.failFast reports := by
  obtain ⟨content, files, hfiles⟩ := hwritable
  obtain ⟨w', hw', hkept⟩ := extractAll_of_extracts settings.failFast h
  rw [← hkept] at hfiles
  rw [document, ← schemasOf_eq_map] at hprint
  rw [command, hrequest]
  dsimp only
  rw [generate, hw']
  exact finish_of_writable hpath hprint hfiles

lemma command_of_print_eq_error {text : String} {e : Failure}
    (hprint : (document settings.failFast reports).print (some 2) = (text, .error e)) :
    (w.command defaults arguments).2.files.read settings.outputFile.toList = .ok (.ofText text) ∧
      (w.command defaults arguments).1.ending = .error e := by
  obtain ⟨hread, hending⟩ := command_of_print hrequest hpath hwritable h hprint
  rw [Except.isOk, Except.toBool, if_neg Bool.false_ne_true, String.append_empty] at hread
  exact ⟨hread, hending⟩

end Writing

lemma run_extract_of_text {text : List Char} {r : Except Failure (List DocumentedFunction)}
    (hdialect : Dialect.ofPath? path.toList = some .untyped)
    (hread : w.files.readText path = .ok text) (hr : Jsdoc.functions text = r)
    (hsource : ∀ e, r = .error e → e.isSourceError = true) :
    w.run (w.files.extract path) = (.ok (Sources.extracted path (r.mapError .of)), [], w) := by
  have hunit : w.files.unit path =
      .ok { path, dialect := .untyped, text := some (String.ofList text) } := by
    unfold Sources.unit Sources.untypedText
    rw [hdialect, hread]
    rfl
  have hfunctions : w.files.functionsOf
      { path, dialect := .untyped, text := some (String.ofList text) } { ctx := w.loaded } =
        (r, { ctx := w.loaded }) := by
    rw [Sources.functionsOf_text, String.toList_ofList, hr]
  have hextract := Sources.extract_of_reported hunit rfl hdialect fun e he => by
    rw [hfunctions] at he
    exact .inl (hsource e he)
  rw [run, hextract, Sources.parse_of_unit hunit, hfunctions]

end Reading

section Examples

open PlainProgram

def badSource : String := "/** @param \x7btext\x7d a */\nfunction f() \x7b\x7d\n"

def goodSource : String := "/** Greets. */\nfunction greet() \x7b\x7d\n"

/-- A directory with a source that fails before one that does not. -/
def greetings : Workspace :=
  { files := .directory [("src", .directory
      [("a.js", .file (.ofText badSource)), ("b.js", .file (.ofText goodSource))])] }

def greetingReports : List SourceReport :=
  [⟨Sources.extracted "src/a.js" (.error (.of (.invalidType "text"))), []⟩,
    ⟨Sources.extracted "src/b.js" (.ok [⟨"Greets.", "greet", []⟩]), []⟩]

lemma extracts_greetings : Extracts greetings ["src/a.js", "src/b.js"] greetingReports := by
  have hbad : Jsdoc.functions badSource.toList = .error (.invalidType "text") := by
    with_unfolding_all rfl
  have hgood : Jsdoc.functions goodSource.toList = .ok [⟨"Greets.", "greet", []⟩] := by
    with_unfolding_all rfl
  have hfirst : greetings.files.readText "src/a.js" = .ok badSource.toList := by
    decide +kernel
  have hsecond : greetings.files.readText "src/b.js" = .ok goodSource.toList := by
    decide +kernel
  refine .cons (run_extract_of_text (by decide +kernel) hfirst hbad ?_)
    (.cons (run_extract_of_text (by decide +kernel) hsecond hgood fun _ h => by cases h)
      (.nil greetings))
  rintro e he
  obtain rfl := Except.error.inj he
  rfl

/-- A literal of a whole number with 4301 digits. -/
def longLiteral : HintExpr :=
  let factor : HintExpr := .constant (.number (.int (10 ^ 2150)))
  .subscript (.ofPath ["typing"] "Literal") [.arithmetic '*' factor factor]

/-- A program with a function that takes this number only. -/
def scaling : Module where
  statements :=
    [.importModule "typing",
      .define false { name := "scale", params := [{ name := "by", hint := some longLiteral }] }]

def scalings : Workspace :=
  { files := .directory [("src", .directory [("scale.py", .file (.program scaling))])] }

/-- What a run writes before the number. -/
def scalingsText : String :=
  "[\n  \x7b\n    \"type\": \"function\",\n    \"function\": \x7b\n      \"name\": \"scale\",\n"
    ++ "      \"description\": \"\",\n      \"parameters\": \x7b\n        \"type\": \"object\",\n"
    ++ "        \"properties\": \x7b\n          \"by\": \x7b\n            \"type\": \"number\",\n"
    ++ "            \"enum\": "

/-- The report of an extraction that has come to its end. -/
def reportOf? (out : Except Failure Extraction × List Warning × Workspace) : Option SourceReport :=
  out.1.toOption.map fun extraction => { extraction, warnings := out.2.1 }

lemma exists_extracts_scalings : ∃ r, Extracts scalings ["src/scale.py"] [r] ∧
    r.hasFailed = false ∧ ((document false [r]).print (some 2)).2.isOk = false ∧
    ((document false [r]).print (some 2)).1 = scalingsText := by
  have hrun : ((reportOf? (scalings.run (scalings.files.extract "src/scale.py"))).any fun r =>
      !r.hasFailed && !((document false [r]).print (some 2)).2.isOk
        && ((document false [r]).print (some 2)).1 == scalingsText) = true := by decide +kernel
  cases h : scalings.run (scalings.files.extract "src/scale.py") with
  | mk result rest =>
    rw [h] at hrun
    cases result with
    | error e => cases hrun
    | ok extraction =>
      refine ⟨{ extraction, warnings := rest.1 }, .cons h (.nil rest.2), ?_⟩
      simpa [reportOf?, Except.toOption, and_assoc] using hrun

end Examples

end Workspace

end CallSchema

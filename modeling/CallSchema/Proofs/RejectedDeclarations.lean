import CallSchema.Jsdoc.Source
import CallSchema.Proofs.DocumentedParams
import CallSchema.Proofs.LongNumbers

/-!
# Rejected declarations

A source fails to be read if and only if one of its declaration lines is rejected, and it fails as
the first of them does: what is read of a declaration always makes a parameter. A line is rejected
for its shape, for its type, or for a listed number with too many digits.
-/

namespace CallSchema

namespace Jsdoc

open Text

variable {ls : List (List Char)} {line : List Char} {d : Declaration} {ds : List Declaration}
  {b : Block} {e : Failure}

section Lines

/-- Listed values and the numbers that they are read as, where they are numbers. -/
def classified (values : List (List Char)) (numbers : List (Option Number)) :
    String × List EnumValue :=
  match numbers.mapM id with
  | some ns => ("number", ns.map EnumValue.number)
  | none => ("string", values.map fun v => EnumValue.text (String.ofList v))

lemma classifyValues_eq (values : List (List Char)) : classifyValues values = (do
    let numbers ← values.mapM Number.parse?
    pure (classified values numbers)) := by
  unfold classifyValues
  cases values.mapM Number.parse? with
  | error e => rfl
  | ok numbers =>
    simp only [bind, Except.bind, classified]
    cases numbers.mapM id <;> rfl

lemma classifyValues_base {values : List (List Char)} {base : String} {vs : List EnumValue}
    (h : classifyValues values = .ok (base, vs)) : base = "string" ∨ base = "number" := by
  rw [classifyValues_eq, bind_pure_eq_ok_iff] at h
  obtain ⟨numbers, -, hpair⟩ := h
  rw [classified] at hpair
  split at hpair
  · exact .inr (congrArg Prod.fst hpair)
  · exact .inl (congrArg Prod.fst hpair)

theorem wellFormed_of_parse (h : Declaration.parse line = .ok d) : d.WellFormed := by
  rw [Declaration.parse] at h
  split at h
  · cases h
  · rename_i p hp
    dsimp only at h
    split at h
    · obtain ⟨members, -, rfl⟩ := bind_pure_eq_ok_iff.mp h
      exact ⟨nofun, nofun⟩
    · split at h
      · split at h
        · obtain rfl := Except.ok.inj h
          exact ⟨fun _ hvalues => absurd rfl hvalues, fun _ => rfl⟩
        · obtain ⟨⟨base, values⟩, hclassify, rfl⟩ := bind_pure_eq_ok_iff.mp h
          exact ⟨fun _ _ => classifyValues_base hclassify, fun _ => rfl⟩
      · obtain ⟨type, -, rfl⟩ := bind_pure_eq_ok_iff.mp h
        exact ⟨nofun, nofun⟩

/-- The values in the brackets of a line that declares an enumeration. -/
def listedValues (line : List Char) : List (List Char) :=
  match parts? line with
  | none => []
  | some p =>
    if normalToken p.type = enumToken then ((enumList? (trim p.rest)).map (·.1)).getD [] else []

lemma exists_isTooLong {values : List (List Char)} (h : classifyValues values = .error e) :
    ∃ value ∈ values,
      Number.IsTooLong value ∧ e = .tooManyDigits (Number.takeSign value).2.length := by
  rw [classifyValues_eq, bind_pure_eq_error_iff, ← failure?_eq_some_iff, failure?_mapM] at h
  obtain ⟨value, hvalue, herror⟩ := List.exists_of_findSome?_eq_some h
  exact ⟨value, hvalue, Number.parse?_eq_error_iff.mp (failure?_eq_some_iff.mp herror)⟩

lemma isSourceError_checkType {token : List Char} (h : checkType token = .error e) :
    e.isSourceError = true := by
  rw [checkType] at h
  split at h
  · cases h
  · obtain rfl := Except.error.inj h
    rfl

lemma isSourceError_checkUnion {token : List Char} (h : checkUnion token = .error e) :
    e.isSourceError = true := by
  simp only [checkUnion] at h
  split at h
  · cases h
  · obtain rfl := Except.error.inj h
    rfl

/-- A declaration line is rejected for what it says of the source, or for a listed number with too
many digits. -/
theorem parse_error_cases (h : Declaration.parse line = .error e) :
    e.isSourceError = true ∨ ∃ value ∈ listedValues line,
      Number.IsTooLong value ∧ e = .tooManyDigits (Number.takeSign value).2.length := by
  rw [Declaration.parse] at h
  split at h
  · obtain rfl := Except.error.inj h
    exact .inl rfl
  · rename_i p hp
    dsimp only at h
    split at h
    · exact .inl (isSourceError_checkUnion (bind_pure_eq_error_iff.mp h))
    · split at h
      · rename_i henum
        split at h
        · cases h
        · rename_i values rest hlist
          have hvalues : listedValues line = values := by
            simp only [listedValues, hp, henum, if_true, hlist, Option.map_some, Option.getD_some]
          rw [hvalues]
          exact .inr (exists_isTooLong (bind_pure_eq_error_iff.mp h))
      · exact .inl (isSourceError_checkType (bind_pure_eq_error_iff.mp h))

end Lines

/-- The failure of the first line of a list that declares nothing. -/
def rejection? (ls : List (List Char)) : Option Failure :=
  ls.findSome? fun line => failure? (Declaration.parse line)

lemma rejection?_flatMap {α : Type} (g : α → List (List Char)) (as : List α) :
    rejection? (as.flatMap g) = as.findSome? fun a => rejection? (g a) := by
  induction as with
  | nil => rfl
  | cons a as ih =>
    rw [List.flatMap_cons, rejection?, List.findSome?_append, List.findSome?_cons, ← ih]
    change (rejection? (g a)).or _ = _
    cases rejection? (g a) <;> rfl

def documentedBy (notice functionName : String) (ls : List (List Char)) :
    Except Failure DocumentedFunction := do
  documented notice functionName (← ls.mapM Declaration.parse)

lemma exists_documentedBy (h : ls.mapM Declaration.parse = .ok ds) (notice functionName : String) :
    ∃ params, buildParams ds = .ok params ∧
      documentedBy notice functionName ls = .ok { notice, functionName, params } := by
  have hbase : ∀ d ∈ ds, d.HasEnumBase := fun d hd => by
    obtain ⟨line, -, hline⟩ := exists_of_mem_mapM h hd
    exact (wellFormed_of_parse hline).enumBase
  obtain ⟨params, hparams⟩ := exists_buildParams hbase
  refine ⟨params, hparams, ?_⟩
  rw [documentedBy, h]
  exact documented_of_buildParams hparams notice functionName

lemma documentedBy_eq_ok_iff {notice functionName : String} {f : DocumentedFunction} :
    documentedBy notice functionName ls = .ok f ↔
      f.functionName = functionName ∧ f.notice = notice ∧
        ∃ ds, ls.mapM Declaration.parse = .ok ds ∧ buildParams ds = .ok f.params := by
  cases hds : ls.mapM Declaration.parse with
  | error e =>
    rw [documentedBy, hds]
    exact iff_of_false nofun fun ⟨_, _, _, hds', _⟩ => nomatch hds'
  | ok ds =>
    obtain ⟨params, hparams, hdocumented⟩ := exists_documentedBy hds notice functionName
    rw [hdocumented]
    constructor
    · rintro ⟨⟩
      exact ⟨rfl, rfl, ds, rfl, hparams⟩
    · rintro ⟨rfl, rfl, ds', hds', hparams'⟩
      obtain rfl := Except.ok.inj hds'
      rw [hparams] at hparams'
      obtain rfl := Except.ok.inj hparams'
      rfl

lemma failure?_documentedBy (notice functionName : String) (ls : List (List Char)) :
    failure? (documentedBy notice functionName ls) = rejection? ls := by
  rw [rejection?, ← failure?_mapM]
  cases hds : ls.mapM Declaration.parse with
  | error e =>
    rw [documentedBy, hds]
    rfl
  | ok ds =>
    obtain ⟨params, -, hdocumented⟩ := exists_documentedBy hds notice functionName
    rw [hdocumented]
    rfl

namespace Block

/-- The lines of a comment as they are read. -/
def shownLines (b : Block) : List (List Char) := (lines b.body).map stripDecoration

/-- The declaration lines of a comment, none if it is commented out. -/
def declarationLines (b : Block) : List (List Char) :=
  if b.isCommentedOut then [] else b.shownLines.filter isDeclaration

/-- The description that a comment gives. -/
def notice (b : Block) : String :=
  if (explicitDescription b.shownLines).isEmpty then .ofList (leadingDescription b.shownLines)
  else .ofList (explicitDescription b.shownLines)

lemma readBody_body (b : Block) : readBody b.body = (do
    let ds ← (b.shownLines.filter isDeclaration).mapM Declaration.parse
    pure (b.notice, ds)) := by
  rw [readBody, notice, shownLines]
  split <;> rfl

lemma function?_of_isCommentedOut (h : b.isCommentedOut = true) : b.function? = .ok none := by
  rw [function?, if_pos h]
  rfl

lemma function?_of_shown (h : b.isCommentedOut = false) :
    b.function? = match functionName? b.after with
      | none => do
        let _ ← b.declarationLines.mapM Declaration.parse
        pure none
      | some name => (do pure (some (← documentedBy b.notice name b.declarationLines))) := by
  rw [function?, declarationLines, h, readBody_body]
  simp only [Bool.false_eq_true, if_false, documentedBy, documented]
  cases (b.shownLines.filter isDeclaration).mapM Declaration.parse with
  | error e => cases functionName? b.after <;> rfl
  | ok ds =>
    cases functionName? b.after with
    | none => rfl
    | some name =>
      simp only [bind, Except.bind, pure, Except.pure]
      cases buildParams ds <;> rfl

lemma failure?_function? (b : Block) : failure? b.function? = rejection? b.declarationLines := by
  cases hout : b.isCommentedOut with
  | true =>
    rw [function?_of_isCommentedOut hout, declarationLines, hout]
    rfl
  | false =>
    rw [function?_of_shown hout]
    cases functionName? b.after with
    | none => exact (failure?_bind_pure _ _).trans (failure?_mapM _ _)
    | some name => exact (failure?_bind_pure _ _).trans (failure?_documentedBy _ _ _)

end Block

/-- The declaration lines of a source, in order. -/
def declarationLines (source : List Char) : List (List Char) :=
  (Block.all source).flatMap Block.declarationLines

theorem failure?_functions (source : List Char) :
    failure? (functions source) = rejection? (declarationLines source) := by
  rw [functions, failure?_bind_pure, failure?_mapM, declarationLines, rejection?_flatMap]
  simp only [Block.failure?_function?]

/-- A source fails to be read if and only if one of its declaration lines does, as the first of
them. -/
theorem functions_eq_error_iff (source : List Char) (e : Failure) :
    functions source = .error e ↔ rejection? (declarationLines source) = some e := by
  rw [← failure?_functions, failure?_eq_some_iff]

end Jsdoc

end CallSchema

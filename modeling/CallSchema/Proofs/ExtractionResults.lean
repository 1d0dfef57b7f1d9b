import CallSchema.Extraction
import CallSchema.Module.Source
import CallSchema.Proofs.FileFaults
import CallSchema.Proofs.WrittenFunctions
import Mathlib.Data.List.TakeWhile

/-!
# Results of extractions

Extracting a source answers as parsing it does, and a failure is a part of the answer. Two failures
of untyped sources are none of the source's own and end the extraction: a path that is none, and a
listed number with too many digits in the first bad declaration line.
-/

namespace CallSchema

namespace Run

lemma ofExcept_apply {α : Type} (x : Except Failure α) (s : RunState) : ofExcept x s = (x, s) := by
  cases x <;> rfl

lemma bind_apply {α β : Type} (x : Run α) (f : α → Run β) (s : RunState) :
    (x >>= f) s = match x s with
      | (.ok a, s') => f a s'
      | (.error e, s') => (.error e, s') := by
  change (ExceptT.bindCont f (x s).1) (x s).2 = _
  cases hx : x s with
  | mk r s' => cases r <;> rfl

end Run

namespace Problem

/-- How a failure is told of in a result. -/
def of (e : Failure) : Problem := if e.isSourceError then ofFailure e else unexpected e

end Problem

namespace Jsdoc

/-- The failure of a text whose first bad declaration line lists a number with too many digits. -/
def overlong? (text : List Char) : Option Failure :=
  match rejection? (declarationLines text) with
  | some (.tooManyDigits n) => some (.tooManyDigits n)
  | _ => none

variable {ls : List (List Char)} {text : List Char} {e : Failure} {fs : List DocumentedFunction}

lemma isSourceError_or_tooManyDigits (h : rejection? ls = some e) :
    e.isSourceError = true ∨ ∃ n, e = .tooManyDigits n := by
  obtain ⟨line, -, hline⟩ := List.exists_of_findSome?_eq_some h
  refine (parse_error_cases (failure?_eq_some_iff.mp hline)).imp_right ?_
  rintro ⟨value, -, -, he⟩
  exact ⟨_, he⟩

lemma overlong?_of_error (h : functions text = .error e) :
    overlong? text = if e.isSourceError then none else some e := by
  have hrejection := (functions_eq_error_iff text e).mp h
  rw [overlong?, hrejection]
  rcases isSourceError_or_tooManyDigits hrejection with hsource | ⟨n, rfl⟩
  · rw [if_pos hsource]
    cases e <;> first | rfl | cases hsource
  · rfl

lemma overlong?_of_ok (h : functions text = .ok fs) : overlong? text = none := by
  rw [overlong?, ← failure?_functions, h]
  rfl

section Enumerations

open Text

variable {value : List Char}

/-- A declaration line that lists one value. -/
def enumLine (value : List Char) : List Char :=
  "@param".toList ++ (" \x7benum\x7d size [".toList ++ (value ++ [']']))

lemma forall_mem_enumLine {q : Char → Prop} (hvalue : ∀ c ∈ value, q c)
    (hform : ∀ c ∈ enumLine [], q c) : ∀ c ∈ enumLine value, q c := by
  have hsplit : ∀ ds, (∀ c ∈ enumLine ds, q c) ↔ (∀ c ∈ "@param".toList, q c) ∧
      (∀ c ∈ " \x7benum\x7d size [".toList, q c) ∧ (∀ c ∈ ds, q c) ∧ ∀ c ∈ [']'], q c := by
    intro ds
    rw [← List.forall_mem_append, ← List.forall_mem_append, ← List.forall_mem_append]
    rfl
  obtain ⟨htag, htype, -, hend⟩ := (hsplit []).mp hform
  exact (hsplit value).mpr ⟨htag, htype, hvalue, hend⟩

lemma parts?_enumLine (h : '\n' ∉ value) : parts? (enumLine value) =
    some
      { isProperty := false, type := "enum".toList, name := "size".toList
        rest := '[' :: (value ++ [']']) } := by
  have htag : takeTag? (enumLine value) =
      some (false, " \x7benum\x7d size [".toList ++ (value ++ [']'])) := rfl
  have htype : takeType? (trimLeft (" \x7benum\x7d size [".toList ++ (value ++ [']']))) =
      some ("enum".toList, "size [".toList ++ (value ++ [']'])) := rfl
  have hname : takeName? ("size [".toList ++ (value ++ [']'])) =
      some ("size".toList, " [".toList ++ (value ++ [']'])) := rfl
  have hblank : trimLeft (" [".toList ++ (value ++ [']'])) = '[' :: (value ++ [']']) := rfl
  have hrest : takeRest? (" [".toList ++ (value ++ [']'])) = some ('[' :: (value ++ [']'])) := by
    have hline : ∀ c ∈ '[' :: (value ++ [']']), (c != '\n') = true := by
      intro c hc
      have hne : c ≠ '\n' := by
        rintro rfl
        simp [h] at hc
      simpa using hne
    have hdrop : ('[' :: (value ++ [']'])).dropWhile (· != '\n') = [] :=
      List.dropWhile_eq_nil_iff.mpr hline
    rw [takeRest?, hblank]
    simp only [hdrop]
  simp only [parts?, htag, htype, hname, hrest, Option.bind_eq_bind, Option.bind_some]

lemma parse_enumLine (hdigits : ∀ c ∈ value, isDigit c = true) (hlong : maxDigits < value.length) :
    Declaration.parse (enumLine value) = .error (.tooManyDigits value.length) := by
  have hnone : ∀ c, isDigit c = false → c ∉ value := fun c hc hmem => by
    rw [hdigits c hmem] at hc
    cases hc
  have hblank : ∀ c ∈ value, isBlank c = false := fun c hc => isBlank_of_isDigit (hdigits c hc)
  have htrim : trim ('[' :: (value ++ [']'])) = '[' :: (value ++ [']']) := by
    rw [trim, trimLeft_cons (by decide), ← List.cons_append, trimRight_concat (by decide)]
  have hsplit : splitOn ',' value = [value] := by
    refine splitWhere_of_forall fun c hc => beq_eq_false_iff_ne.mpr ?_
    rintro rfl
    exact hnone ',' (by decide) hc
  have hlist : enumList? ('[' :: (value ++ [']'])) = some ([value], []) := by
    rw [enumList?, cutAt?_singleton (hnone ']' (by decide)), Option.map_some]
    dsimp only
    rw [trimLeft_of_forall hblank, hsplit, List.map_singleton, trim_of_forall hblank]
    rfl
  have hsign : Number.takeSign value = (false, value) := by
    fun_cases Number.takeSign value with
    | case1 cs => exact absurd List.mem_cons_self (hnone '-' (by decide))
    | case2 cs => exact absurd List.mem_cons_self (hnone '+' (by decide))
    | case3 => rfl
  have hparse : Number.parse? value = .error (.tooManyDigits value.length) := by
    have hlong' : Number.IsTooLong value := by
      rw [Number.IsTooLong, hsign]
      exact ⟨hdigits, hlong⟩
    rw [Number.parse?_of_isTooLong hlong', hsign]
  have hvalues : classifyValues [value] = .error (.tooManyDigits value.length) := by
    rw [classifyValues, List.mapM_cons, hparse]
    rfl
  have htoken : normalToken "enum".toList = enumToken := by decide
  have hunion : isUnionToken enumToken.toList = false := by decide
  rw [Declaration.parse, parts?_enumLine (hnone '\n' (by decide))]
  simp only [htoken, htrim, hlist, hunion, hvalues, Bool.false_eq_true, if_false, if_true]
  rfl

def sizedBy (value : List Char) : Documentation where
  name := "scale".toList
  notice := []
  declarations := [⟨[' '], enumLine value⟩]

lemma proper_sizedBy (h : ∀ c ∈ value, isDigit c = true) : (sizedBy value).Proper := by
  have htrim : trim (enumLine value) = enumLine value := by
    have hfirst : enumLine value =
        '@' :: ("param".toList ++ (" \x7benum\x7d size [".toList ++ (value ++ [']']))) := rfl
    have hlast : enumLine value =
        '@' :: ("param".toList ++ (" \x7benum\x7d size [".toList ++ value)) ++ [']'] := by
      rw [hfirst, List.cons_append, List.append_assoc, List.append_assoc]
    rw [trim, hlast, List.cons_append, trimLeft_cons (by decide), ← List.cons_append,
      trimRight_concat (by decide)]
  have hends : ∀ c ∈ enumLine value, isLineEnd c = false := by
    refine forall_mem_enumLine (fun c hc => ?_) (forall_of_any (by decide))
    exact isLineEnd_of_not_isBlank (isBlank_of_isDigit (h c hc))
  have hform : '*' ∉ enumLine [] := by decide
  have hstar : ∀ c ∈ enumLine value, c ≠ '*' := by
    refine forall_mem_enumLine (fun c hc => ?_) fun c hc hstar => hform (hstar ▸ hc)
    rintro rfl
    exact absurd (h '*' hc) (by decide)
  have hclosing : contains Block.closing (enumLine value) = false :=
    contains_of_not_mem (c := '*') (by decide) fun hc => hstar '*' hc rfl
  have hnonempty : enumLine value ≠ [] := List.append_ne_nil_of_left_ne_nil (by decide) _
  have hline : CommentLine.Proper ⟨[' '], enumLine value⟩ :=
    ⟨by simp, htrim, hnonempty, hends, hclosing⟩
  have htagged : IsTagged (enumLine value) := by
    refine ⟨"@param".toList, List.mem_cons_self, _, rfl, fun c hc => ?_⟩
    obtain rfl : ' ' = c := Option.some.inj hc
    decide
  have hname : IsIdentifier "scale".toList := by decide
  exact ⟨hname, List.forall_mem_singleton.mpr hline, List.forall_mem_nil _,
    List.forall_mem_singleton.mpr htagged⟩

lemma functions_sizedBy (hdigits : ∀ c ∈ value, isDigit c = true)
    (hlong : maxDigits < value.length) :
    functions (written [sizedBy value]) = .error (.tooManyDigits value.length) := by
  have hproper : ∀ d ∈ [sizedBy value], d.Proper :=
    List.forall_mem_singleton.mpr (proper_sizedBy hdigits)
  have hread : (sizedBy value).read = .error (.tooManyDigits value.length) := by
    rw [← failure?_eq_some_iff, Documentation.read, failure?_documentedBy]
    change rejection? [enumLine value] = _
    rw [rejection?, List.findSome?_singleton, parse_enumLine hdigits hlong]
    rfl
  rw [functions_written_eq_mapM hproper, List.mapM_cons, hread]
  rfl

end Enumerations

end Jsdoc

namespace Failure

variable {e : Failure}

lemma isSourceError_of_endsProgram (h : e.endsProgram = true) : e.isSourceError = false := by
  cases e with
  | fault raised => rfl
  | _ => cases h

end Failure

namespace Sources

open Jsdoc

variable {files : Sources} {path : String} {u : SourceUnit} {e : Failure} {s : RunState}

/-- The failure of the source at a path that is none of an untyped source's own: it is looked for at
a path that is none, or its first bad declaration line lists a number with too many digits. -/
def escaping? (files : Sources) (path : String) : Option Failure :=
  if Dialect.ofPath? path.toList = some .untyped then
    if Path.hasNull path.toList then some .nullInPath
    else match files.readText path with
      | .error _ => none
      | .ok text => overlong? text
  else none

/-- A failure to parse the source at a path ends its extraction instead of being a part of the
result. Where programs are read, such a failure asks for the end of everything. -/
def Escapes (files : Sources) (path : String) (e : Failure) : Prop :=
  if Dialect.ofPath? path.toList = some .typed then e.endsProgram = true
  else files.escaping? path = some e

lemma escapes_iff_of_not_typed (h : Dialect.ofPath? path.toList ≠ some .typed) :
    files.Escapes path e ↔ files.escaping? path = some e := by
  rw [Escapes, if_neg h]

/-- What extracting the source at a path gives. -/
def extracted (path : String) (result : Except Problem (List DocumentedFunction)) : Extraction :=
  { source := path, dialect := (Dialect.ofPath? path.toList).getD .untyped, result }

section Readers

variable [ProgramReader]

lemma extractUnit_eq (files : Sources) (u : SourceUnit) (s : RunState) :
    files.extractUnit u s = match files.functionsOf u s with
      | (.ok fs, s') => (.ok { source := u.path, dialect := u.dialect, result := .ok fs }, s')
      | (.error e, s') =>
        if e.isSourceError = false ∧ (u.dialect = .typed → e.endsProgram = true) then (.error e, s')
        else (.ok { source := u.path, dialect := u.dialect, result := .error (.of e) }, s') := by
  have hattempt : Run.attempt (files.functionsOf u) s =
      (.ok (files.functionsOf u s).1, (files.functionsOf u s).2) := rfl
  rw [extractUnit, Run.bind_apply, hattempt]
  cases files.functionsOf u s with
  | mk r s' =>
    cases r with
    | ok fs => rfl
    | error e =>
      cases hsource : e.isSourceError with
      | true =>
        simp only [hsource, Problem.of, if_true, Bool.true_eq_false, false_and, if_false]
        rfl
      | false =>
        cases hends : e.endsProgram <;> cases hdialect : u.dialect <;>
        · simp only [hsource, hends, Problem.of, Bool.false_eq_true, reduceCtorEq, if_true,
            if_false, decide_true, decide_false, Bool.not_true, Bool.not_false, Bool.and_true,
            Bool.and_false, imp_true_iff, false_imp_iff, true_imp_iff, and_true, and_false]
          rfl

lemma functionsOf_text (files : Sources) (path text : String) (s : RunState) :
    files.functionsOf { path, dialect := .untyped, text := some text } s =
      (Jsdoc.functions text.toList, s) :=
  Run.ofExcept_apply _ s

lemma parse_of_unit (h : files.unit path = .ok u) : files.parse path s = files.functionsOf u s := by
  rw [parse, Run.bind_apply, Run.ofExcept_apply, h]

lemma parse_of_error (h : files.unit path = .error e) : files.parse path s = (.error e, s) := by
  rw [parse, Run.bind_apply, Run.ofExcept_apply, h]

lemma extract_of_unit (h : files.unit path = .ok u) :
    files.extract path s = files.extractUnit u s := by
  unfold extract
  rw [h]

lemma extract_of_sourceError (h : files.unit path = .error e) (hsource : e.isSourceError = true) :
    files.extract path s = (.ok (extracted path ((files.parse path s).1.mapError .of)),
      (files.parse path s).2) := by
  have hof : Problem.of e = .ofFailure e := if_pos hsource
  unfold extract
  simp only [h, parse_of_error h, hsource, if_true, Except.mapError, hof]
  rfl

lemma extract_of_escaping (h : files.unit path = .ok u)
    (herror : (files.functionsOf u s).1 = .error e) (hsource : e.isSourceError = false)
    (hends : u.dialect = .typed → e.endsProgram = true) :
    files.extract path s = (.error e, (files.parse path s).2) := by
  rw [extract_of_unit h, parse_of_unit h, extractUnit_eq]
  cases hfunctions : files.functionsOf u s with
  | mk r s' =>
    rw [hfunctions] at herror
    obtain rfl : r = .error e := herror
    exact if_pos ⟨hsource, hends⟩

lemma extract_of_reported (h : files.unit path = .ok u) (hpath : u.path = path)
    (hdialect : Dialect.ofPath? path.toList = some u.dialect)
    (hreported : ∀ e, (files.functionsOf u s).1 = .error e →
      e.isSourceError = true ∨ u.dialect = .typed ∧ e.endsProgram = false) :
    files.extract path s = (.ok (extracted path ((files.parse path s).1.mapError .of)),
      (files.parse path s).2) := by
  rw [extract_of_unit h, parse_of_unit h, extractUnit_eq]
  cases hfunctions : files.functionsOf u s with
  | mk r s' =>
    have hextracted : ∀ result, extracted path result =
        { source := u.path, dialect := u.dialect, result } := by
      intro result
      rw [extracted, hdialect, hpath]
      rfl
    cases r with
    | ok fs =>
      rw [hextracted]
      rfl
    | error e =>
      have hkept : ¬(e.isSourceError = false ∧ (u.dialect = .typed → e.endsProgram = true)) := by
        rintro ⟨hother, hends⟩
        rcases hreported e (congrArg Prod.fst hfunctions) with hsource | ⟨htyped, hstays⟩
        · rw [hsource] at hother
          cases hother
        · rw [hends htyped] at hstays
          cases hstays
      simp only [if_neg hkept, hextracted]
      rfl

/-- How parsing and extracting the source at a path answer: with the same functions, or with one
failure, which is a part of the result unless it escapes. -/
structure AnswersAlike (files : Sources) (path : String) (s : RunState) : Prop where
  answers : (∀ e, (files.parse path s).1 = .error e → ¬files.Escapes path e) →
    files.extract path s =
      (.ok (extracted path ((files.parse path s).1.mapError .of)), (files.parse path s).2)
  escapes : ∀ e, (files.parse path s).1 = .error e → files.Escapes path e →
    files.extract path s = (.error e, (files.parse path s).2)
  /-- Whether a failure of an untyped source escapes is seen from the source alone. -/
  fails : ∀ e, files.escaping? path = some e → files.parse path s = (.error e, s)

lemma AnswersAlike.of_error (hdialect : Dialect.ofPath? path.toList = some .untyped)
    (hescaping : files.escaping? path = some e) (hparse : files.parse path s = (.error e, s))
    (h : files.extract path s = (.error e, s)) : files.AnswersAlike path s := by
  have hescapes : ∀ e', files.Escapes path e' ↔ e = e' := fun e' => by
    rw [escapes_iff_of_not_typed (by rw [hdialect]; decide), hescaping, Option.some.injEq]
  refine ⟨fun hnone => ?_, fun e' _ he => ?_, fun e' he => ?_⟩
  · exact absurd ((hescapes e).mpr rfl) (hnone e (by rw [hparse]))
  · obtain rfl := (hescapes e').mp he
    rw [h, hparse]
  · rw [hescaping] at he
    obtain rfl := Option.some.inj he
    exact hparse

lemma AnswersAlike.of_untyped (hdialect : Dialect.ofPath? path.toList ≠ some .typed)
    (hescaping : files.escaping? path = none)
    (h : files.extract path s =
      (.ok (extracted path ((files.parse path s).1.mapError .of)), (files.parse path s).2)) :
    files.AnswersAlike path s := by
  refine ⟨fun _ => h, fun e _ he => ?_, fun e he => ?_⟩
  · rw [escapes_iff_of_not_typed hdialect, hescaping] at he
    cases he
  · rw [hescaping] at he
    cases he

lemma answersAlike_of_unread (hdialect : Dialect.ofPath? path.toList = some .untyped)
    (hread : files.readText path = .error e) (s : RunState) : files.AnswersAlike path s := by
  have hunit : files.unit path = .error (unreadable path e) := by
    unfold unit untypedText
    rw [hdialect, hread]
    rfl
  have hescaping : files.escaping? path =
      if Path.hasNull path.toList then some .nullInPath else none := by
    rw [escaping?, hdialect, if_pos rfl, hread]
  cases hnull : Path.hasNull path.toList with
  | true =>
    rw [readText_eq_nullInPath_iff.mpr hnull] at hread
    obtain rfl := (Except.error.inj hread).symm
    refine .of_error hdialect (hescaping.trans (by rw [hnull]; rfl)) (parse_of_error hunit) ?_
    unfold extract
    rw [hunit]
    rfl
  | false =>
    have hother : e ≠ .nullInPath := by
      rintro rfl
      rw [readText_eq_nullInPath_iff.mp hread] at hnull
      cases hnull
    have hreason : unreadable path e = .sourceNotFound path e.message := by
      rw [unreadable]
      exact hother
    exact .of_untyped (by rw [hdialect]; decide) (hescaping.trans (by rw [hnull]; rfl))
      (extract_of_sourceError (hunit.trans (congrArg _ hreason)) rfl)

lemma answersAlike_of_text {text : List Char}
    (hdialect : Dialect.ofPath? path.toList = some .untyped)
    (hread : files.readText path = .ok text) (s : RunState) : files.AnswersAlike path s := by
  have hnull : Path.hasNull path.toList = false := by
    refine Bool.eq_false_iff.mpr fun hnull => ?_
    rw [readText_eq_nullInPath_iff.mpr hnull] at hread
    cases hread
  have hunit : files.unit path =
      .ok { path, dialect := .untyped, text := some (String.ofList text) } := by
    unfold unit untypedText
    rw [hdialect, hread]
    rfl
  have hfunctions : files.functionsOf
      { path, dialect := .untyped, text := some (String.ofList text) } s =
        (Jsdoc.functions text, s) := by
    rw [functionsOf_text, String.toList_ofList]
  have hescaping : files.escaping? path = overlong? text := by
    rw [escaping?, hdialect, if_pos rfl, hnull, hread]
    rfl
  have huntyped : Dialect.ofPath? path.toList ≠ some .typed := by
    rw [hdialect]
    decide
  cases hresult : Jsdoc.functions text with
  | ok fs =>
    refine .of_untyped huntyped (hescaping.trans (overlong?_of_ok hresult))
      (extract_of_reported hunit rfl hdialect fun e he => ?_)
    rw [hfunctions, hresult] at he
    cases he
  | error e =>
    rw [overlong?_of_error hresult] at hescaping
    cases hsource : e.isSourceError with
    | true =>
      refine .of_untyped huntyped (hescaping.trans (by rw [hsource]; rfl))
        (extract_of_reported hunit rfl hdialect fun e' he => .inl ?_)
      rw [hfunctions, hresult] at he
      obtain rfl := Except.error.inj he
      exact hsource
    | false =>
      have hparse : files.parse path s = (.error e, s) := by
        rw [parse_of_unit hunit, hfunctions, hresult]
      refine .of_error hdialect (hescaping.trans (by rw [hsource]; rfl)) hparse ?_
      rw [extract_of_escaping hunit (by rw [hfunctions, hresult]) hsource nofun, hparse]

lemma answersAlike_of_typed (hdialect : Dialect.ofPath? path.toList = some .typed) (s : RunState) :
    files.AnswersAlike path s := by
  have hunit : files.unit path = .ok { path, dialect := .typed } := by
    unfold unit
    rw [hdialect]
  have hescapes : ∀ e, files.Escapes path e ↔ e.endsProgram = true := fun e => by
    rw [Escapes, if_pos hdialect]
  refine ⟨fun hstays => ?_, fun e herror hends => ?_, fun e he => ?_⟩
  · refine extract_of_reported hunit rfl hdialect fun e herror => .inr ⟨rfl, ?_⟩
    rw [← parse_of_unit hunit] at herror
    exact Bool.eq_false_iff.mpr fun hends => hstays e herror ((hescapes e).mpr hends)
  · rw [parse_of_unit hunit] at herror
    have hends := (hescapes e).mp hends
    exact extract_of_escaping hunit herror (Failure.isSourceError_of_endsProgram hends)
      fun _ => hends
  · rw [escaping?, hdialect, if_neg (by decide)] at he
    cases he

lemma answersAlike (files : Sources) (path : String) (s : RunState) :
    files.AnswersAlike path s := by
  cases hdialect : Dialect.ofPath? path.toList with
  | none =>
    have hunit : files.unit path = .error (unsupported path) := by
      unfold unit
      rw [hdialect]
    refine .of_untyped (by rw [hdialect]; decide) ?_ (extract_of_sourceError hunit rfl)
    rw [escaping?, hdialect, if_neg (by decide)]
  | some dialect =>
    cases dialect with
    | typed => exact answersAlike_of_typed hdialect s
    | untyped =>
      cases hread : files.readText path with
      | error e => exact answersAlike_of_unread hdialect hread s
      | ok text => exact answersAlike_of_text hdialect hread s

lemma extractUnit_text_eq_error_iff {text : String} :
    (files.extractUnit { path, dialect := .untyped, text := some text } s).1 = .error e ↔
      overlong? text.toList = some e := by
  rw [extractUnit_eq, functionsOf_text]
  cases hresult : Jsdoc.functions text.toList with
  | ok fs =>
    rw [overlong?_of_ok hresult]
    exact iff_of_false nofun nofun
  | error e' =>
    rw [overlong?_of_error hresult]
    cases hsource : e'.isSourceError with
    | true => simp [hsource]
    | false => simp [hsource]

/-- Every source that is looked for is answered: extracting it gives what parsing it gives, and a
failure is a part of the result, but for those that escape. These are the exceptions of programs
that ask for the end of everything, and two failures of untyped sources: a path that is none, and a
number with too many digits in the first bad declaration line of a text. -/
theorem extract_answers (files : Sources) (s : RunState) :
    (∀ path, files.AnswersAlike path s) ∧ ∀ path text e,
      (files.extractUnit { path, dialect := .untyped, text := some text } s).1 = .error e ↔
        overlong? text.toList = some e :=
  ⟨fun path => answersAlike files path s, fun _ _ _ => extractUnit_text_eq_error_iff⟩

end Readers

open PlainProgram

example :
    (match (extract (.directory [("stop.py", .file (.program
        { statements := [.raise "SystemExit" "done"] }))]) "stop.py" {}).1 with
      | .error e => some e
      | .ok _ => none) = some (.fault ⟨"SystemExit", "done", true⟩) := by decide +kernel

/-- A text whose only declaration lists a number of 4301 digits is not answered. -/
theorem extractUnit_of_4301_digits :
    (extractUnit (.directory [])
      { path := "scale.js", dialect := .untyped
        text := some (String.ofList (written [sizedBy (List.replicate 4301 '7')])) } {}).1 =
      .error (.tooManyDigits 4301) := by
  have hdigits : ∀ c ∈ List.replicate 4301 '7', Text.isDigit c = true := by
    intro c hc
    rw [List.eq_of_mem_replicate hc]
    decide
  have hlength : (List.replicate 4301 '7').length = 4301 := List.length_replicate
  have hlong : maxDigits < (List.replicate 4301 '7').length := by
    rw [hlength]
    decide
  have hfails := functions_sizedBy hdigits hlong
  rw [hlength] at hfails
  rw [extractUnit_text_eq_error_iff, String.toList_ofList, overlong?_of_error hfails]
  rfl

end Sources

end CallSchema

import CallSchema.Proofs.CommentPlaces
import CallSchema.Proofs.ExtractionResults

/-!
# Line ends with carriage returns

A source whose newlines are all written with a carriage return before them has the same comments on
the same lines. It documents the same functions, or fails alike, and so does the file that holds it,
whose line ends are read as newlines.
-/

namespace CallSchema

namespace Text

variable {mark cs before after : List Char} {c : Char}

/-- Writes a carriage return before every newline. -/
def withReturns : List Char → List Char
  | [] => []
  | c :: cs => if c = '\n' then '\r' :: '\n' :: withReturns cs else c :: withReturns cs

lemma withReturns_newline (cs : List Char) :
    withReturns ('\n' :: cs) = '\r' :: '\n' :: withReturns cs := if_pos rfl

lemma withReturns_cons (hc : c ≠ '\n') (cs : List Char) :
    withReturns (c :: cs) = c :: withReturns cs := if_neg hc

lemma withReturns_append (cs ds : List Char) :
    withReturns (cs ++ ds) = withReturns cs ++ withReturns ds := by
  induction cs with
  | nil => rfl
  | cons c cs ih =>
    by_cases hc : c = '\n'
    · subst hc
      rw [List.cons_append, withReturns_newline, withReturns_newline, ih]
      rfl
    · rw [List.cons_append, withReturns_cons hc, withReturns_cons hc, ih]
      rfl

lemma unifyNewlines_withReturns (h : '\r' ∉ cs) : unifyNewlines (withReturns cs) = cs := by
  induction cs with
  | nil => rfl
  | cons c cs ih =>
    have hcs := ih fun hmem => h (List.mem_cons_of_mem c hmem)
    by_cases hc : c = '\n'
    · subst hc
      rw [withReturns_newline, unifyNewlines, hcs]
    · have hreturn : c ≠ '\r' := fun heq => h (heq ▸ List.mem_cons_self)
      rw [withReturns_cons hc, unifyNewlines, if_neg hreturn, hcs]
      exact fun _ heq => absurd heq hreturn

section Marks

variable (hnewline : '\n' ∉ mark) (hreturn : '\r' ∉ mark)
include hnewline hreturn

lemma dropStart?_withReturns (cs : List Char) :
    dropStart? mark (withReturns cs) = (dropStart? mark cs).map withReturns := by
  induction mark generalizing cs with
  | nil => rfl
  | cons m mark ih =>
    have hrest := ih (fun h => hnewline (List.mem_cons_of_mem m h))
      (fun h => hreturn (List.mem_cons_of_mem m h))
    have hm : m ≠ '\n' := fun h => hnewline (h ▸ List.mem_cons_self)
    have hm' : m ≠ '\r' := fun h => hreturn (h ▸ List.mem_cons_self)
    cases cs with
    | nil => rfl
    | cons c cs =>
      by_cases hc : c = '\n'
      · subst hc
        rw [withReturns_newline, dropStart?, dropStart?, if_neg hm, if_neg hm']
        rfl
      · rw [withReturns_cons hc, dropStart?, dropStart?]
        split
        · exact hrest cs
        · rfl

lemma cutAt?_withReturns (hmark : mark ≠ []) (cs : List Char) :
    cutAt? mark (withReturns cs) =
      (cutAt? mark cs).map fun (before, after) => (withReturns before, withReturns after) := by
  induction cs with
  | nil => cases mark <;> trivial
  | cons c cs ih =>
    have hdrop := dropStart?_withReturns hnewline hreturn (c :: cs)
    have hnone : ∀ d ds, d ∉ mark → dropStart? mark (d :: ds) = none := by
      intro d ds hd
      obtain ⟨m, mark, rfl⟩ := List.exists_cons_of_ne_nil hmark
      rw [dropStart?, if_neg fun h : m = d => hd (h ▸ List.mem_cons_self)]
    by_cases hc : c = '\n'
    · subst hc
      rw [withReturns_newline, cutAt?, hnone _ _ hreturn, cutAt?, hnone _ _ hnewline, ih, cutAt?,
        hnone _ _ hnewline]
      cases cutAt? mark cs with
      | none => rfl
      | some found => simp [withReturns]
    · rw [withReturns_cons hc] at hdrop ⊢
      rw [cutAt?, hdrop, cutAt?]
      cases dropStart? mark (c :: cs) with
      | some rest => rfl
      | none =>
        simp only [Option.map_none, ih]
        cases cutAt? mark cs with
        | none => rfl
        | some found => simp [withReturns_cons hc]

end Marks

lemma takeWhile_reverse_withReturns (cs : List Char) :
    (withReturns cs).reverse.takeWhile (· != '\n') = cs.reverse.takeWhile (· != '\n') := by
  induction cs using List.reverseRecOn with
  | nil => rfl
  | append_singleton cs c ih =>
    by_cases hc : c = '\n'
    · subst hc
      simp [withReturns_append, withReturns]
    · simp [withReturns_append, withReturns, hc, ih]

lemma cutLine_withReturns (h : '\r' ∉ cs) :
    (cutLine (withReturns cs)).1 = (cutLine cs).1 ∧
      (cutLine (withReturns cs)).2.2 = withReturns (cutLine cs).2.2 := by
  induction cs with
  | nil => exact ⟨rfl, rfl⟩
  | cons c cs ih =>
    have hcs := ih fun hmem => h (List.mem_cons_of_mem c hmem)
    have hreturn : c ≠ '\r' := fun heq => h (heq ▸ List.mem_cons_self)
    have hpair : ∀ ds rest : List Char, c = '\r' → ds = '\n' :: rest → False :=
      fun _ _ heq _ => hreturn heq
    by_cases hc : c = '\n'
    · subst hc
      rw [withReturns_newline, cutLine, cutLine_end isLineEnd_newline (hpair cs)]
      exact ⟨rfl, rfl⟩
    · rw [withReturns_cons hc]
      cases hend : isLineEnd c with
      | true =>
        rw [cutLine_end hend (hpair _), cutLine_end hend (hpair _)]
        exact ⟨rfl, rfl⟩
      | false =>
        rw [cutLine_cons hend, cutLine_cons hend]
        exact ⟨congrArg (c :: ·) hcs.1, hcs.2⟩

/-- A carriage return and the newline after it end one line, like the newline by itself. -/
theorem lines_withReturns (cs : List Char) (h : '\r' ∉ cs) :
    lines (withReturns cs) = lines cs := by
  cases cs with
  | nil => rfl
  | cons c cs =>
    have hshorter : (cutLine (c :: cs)).2.2.length < (c :: cs).length := length_cutLine_rest_lt
    have hrest : '\r' ∉ (cutLine (c :: cs)).2.2 := by
      intro hmem
      refine h ?_
      rw [← cutLine_append (c :: cs)]
      exact List.mem_append_right _ hmem
    have hne : withReturns (c :: cs) ≠ [] := by
      rw [withReturns]
      split <;> exact List.cons_ne_nil _ _
    obtain ⟨hline, hafter⟩ := cutLine_withReturns h
    rw [lines_of_ne_nil hne, lines, hline, hafter, lines_withReturns _ hrest]
termination_by cs.length

end Text

namespace Jsdoc

open Text

variable {b : Block}

namespace Block

/-- The comment in the source with carriage returns. -/
def withReturns (b : Block) : Block :=
  { b with body := Text.withReturns b.body, after := Text.withReturns b.after }

lemma written_withReturns (b : Block) : b.withReturns.written = Text.withReturns b.written := by
  rw [written, written, withReturns_append, withReturns_append]
  rfl

lemma here_withReturns (done skipped body after : List Char) :
    here (Text.withReturns done).reverse (Text.withReturns skipped) (Text.withReturns body)
        (Text.withReturns after) =
      ((Text.withReturns (here done.reverse skipped body after).1.reverse).reverse,
        (here done.reverse skipped body after).2.withReturns) := by
  have hlead : ((Text.withReturns skipped).reverse ++ (Text.withReturns done).reverse).takeWhile
      (· != '\n') = (skipped.reverse ++ done.reverse).takeWhile (· != '\n') := by
    rw [← List.reverse_append, ← List.reverse_append, ← withReturns_append,
      takeWhile_reverse_withReturns]
  simp only [here, hlead]
  refine Prod.ext ?_ rfl
  simp only [written, List.reverse_append, List.reverse_reverse, withReturns_append]
  rfl

lemma next?_withReturns (done cs : List Char) :
    next? (Text.withReturns done).reverse (Text.withReturns cs) =
      (next? done.reverse cs).map fun (before', b) =>
        ((Text.withReturns before'.reverse).reverse, b.withReturns) := by
  rw [next?_eq, next?_eq, cutAt?_withReturns (by decide) (by decide) (by decide)]
  cases cutAt? opening cs with
  | none => rfl
  | some found =>
    obtain ⟨skipped, inner⟩ := found
    simp only [Option.map_some, Option.bind_some]
    rw [cutAt?_withReturns (by decide) (by decide) (by decide)]
    cases cutAt? closing inner with
    | none => rfl
    | some ends => exact congrArg some (here_withReturns done skipped ends.1 ends.2)

lemma allFrom_withReturns (done cs : List Char) :
    allFrom (Text.withReturns done).reverse (Text.withReturns cs) =
      (allFrom done.reverse cs).map withReturns := by
  rw [allFrom_eq, allFrom_eq, next?_withReturns]
  cases hnext : next? done.reverse cs with
  | none => rfl
  | some found =>
    obtain ⟨before', b⟩ := found
    have hshorter := length_after_lt_of_next? hnext
    have hrest := allFrom_withReturns before'.reverse b.after
    rw [List.reverse_reverse] at hrest
    exact congrArg (b.withReturns :: ·) hrest
termination_by cs.length

lemma function?_withReturns (hwritten : '\r' ∉ b.written) (hafter : '\r' ∉ b.after) :
    b.withReturns.function? = b.function? := by
  have hbody : '\r' ∉ b.body := by
    refine fun h => hwritten ?_
    rw [written]
    exact List.mem_append_left _ (List.mem_append_right _ h)
  have hout : b.withReturns.isCommentedOut = b.isCommentedOut := by
    rw [isCommentedOut, isCommentedOut, written_withReturns, lines_withReturns _ hwritten]
    rfl
  have hread : readBody b.withReturns.body = readBody b.body := by
    change readBody (Text.withReturns b.body) = _
    rw [readBody, readBody, lines_withReturns _ hbody]
  have hname : functionName? b.withReturns.after = functionName? b.after := by
    change functionName? (Text.withReturns b.after) = _
    rw [functionName?, functionName?, lines_withReturns _ hafter]
  rw [function?, function?, hout, hread, hname]

end Block

lemma functions_withReturns {source : List Char} (h : '\r' ∉ source) :
    functions (Text.withReturns source) = functions source := by
  have hall : Block.all (Text.withReturns source) = (Block.all source).map Block.withReturns :=
    Block.allFrom_withReturns [] source
  have hsame : ∀ b ∈ Block.all source, b.withReturns.function? = b.function? := by
    intro b hb
    obtain ⟨earlier, later, heq⟩ := List.append_of_mem hb
    obtain ⟨hsuffix, -⟩ := Block.allFrom_eq_append heq
    refine Block.function?_withReturns (fun hmem => h ?_) (fun hmem => h ?_)
    · exact hsuffix.subset (List.mem_append_left _ hmem)
    · exact hsuffix.subset (List.mem_append_right _ hmem)
  rw [functions, functions, hall, List.mapM_map]
  exact congrArg (· >>= _) (mapM_congr_left hsame)

end Jsdoc

namespace Sources

variable {files : Sources} {path : String} {content : SourceContent} {source : List Char}

lemma untypedText_withReturns (h : '\r' ∉ source)
    (hread : files.read (Path.clean path.toList) = .ok content)
    (htext : Text.decode content.data = .ok (Text.withReturns source)) :
    files.untypedText path = .ok (String.ofList source) := by
  have hunified : files.readText path = .ok source := by
    rw [readText, hread]
    change textOf content.data = .ok source
    rw [textOf, htext]
    exact congrArg Except.ok (Text.unifyNewlines_withReturns h)
  rw [untypedText, hunified]

lemma extractUnit_congr [ProgramReader] {u u' : SourceUnit} (hpath : u.path = u'.path)
    (hdialect : u.dialect = u'.dialect) (h : files.functionsOf u = files.functionsOf u') :
    files.extractUnit u = files.extractUnit u' := by
  unfold extractUnit
  rw [hpath, hdialect, h]

/-- A source documents the same functions, or fails alike, whether its lines end in newlines or in
carriage returns and newlines. Given as a text with carriage returns it is extracted as the file
that holds this text is. -/
theorem extract_withReturns [ProgramReader] (source : List Char) (h : '\r' ∉ source) :
    Jsdoc.functions (Text.withReturns source) = Jsdoc.functions source ∧
      ∀ (files : Sources) (path : String) (content : SourceContent),
        files.read (Path.clean path.toList) = .ok content →
        Text.decode content.data = .ok (Text.withReturns source) →
        let given : SourceUnit :=
          { path, dialect := .untyped, text := some (String.ofList (Text.withReturns source)) }
        files.extractUnit given = files.extractUnit { path, dialect := .untyped } ∧
          (Dialect.ofPath? path.toList = some .untyped →
            files.extract path = files.extractUnit given) := by
  have hsame := Jsdoc.functions_withReturns h
  refine ⟨hsame, fun files path content hread htext => ?_⟩
  have hfile := untypedText_withReturns h hread htext
  -- a text with carriage returns, the text of the file and no text at all give the same functions
  have hfunctions : ∀ text ∈ [some (String.ofList (Text.withReturns source)),
      some (String.ofList source), none],
      files.functionsOf { path, dialect := .untyped, text } =
        Run.ofExcept (Jsdoc.functions source) := by
    intro text htext
    simp only [List.mem_cons, List.not_mem_nil, or_false] at htext
    obtain rfl | rfl | rfl := htext
    · change Run.ofExcept (Jsdoc.functions (String.ofList _).toList) = _
      rw [String.toList_ofList, hsame]
    · change Run.ofExcept (Jsdoc.functions (String.ofList _).toList) = _
      rw [String.toList_ofList]
    · change (Run.ofExcept (files.untypedText path) >>= fun text =>
        Run.ofExcept (Jsdoc.functions text.toList)) = _
      rw [hfile]
      change Run.ofExcept (Jsdoc.functions (String.ofList _).toList) = _
      rw [String.toList_ofList]
  refine ⟨?_, fun hdialect => ?_⟩
  · exact extractUnit_congr rfl rfl
      ((hfunctions _ (by simp)).trans (hfunctions _ (by simp)).symm)
  · have hunit : files.unit path =
        .ok { path, dialect := .untyped, text := some (String.ofList source) } := by
      unfold unit
      simp only [hdialect, hfile]
      rfl
    refine (funext fun s => extract_of_unit hunit).trans (extractUnit_congr rfl rfl ?_)
    exact (hfunctions _ (by simp)).trans (hfunctions _ (by simp)).symm

section Examples

open PlainProgram

/-- A function with a documented object. -/
def windSource : List Char :=
  ("/**\n * Reads the wind.\n * @param \x7bobject\x7d site\n" ++
    " * @param \x7bstring\x7d site.name\n */\nfunction wind(site) \x7b\x7d\n").toList

/-- What a file with carriage returns holds. -/
def windContent : SourceContent := .ofText (String.ofList (Text.withReturns windSource))

def windFiles : Sources := .directory [("wind.js", .file windContent)]

/-- The file with carriage returns is extracted as its text is, and documents what the text with
newlines documents. -/
theorem extract_withReturns_wind : '\r' ∉ windSource ∧
    windFiles.read (Path.clean "wind.js".toList) = .ok windContent ∧
    Text.decode windContent.data = .ok (Text.withReturns windSource) ∧
    Dialect.ofPath? "wind.js".toList = some .untyped ∧
    Jsdoc.functions (Text.withReturns windSource) = Jsdoc.functions windSource ∧
    windFiles.extract "wind.js" = windFiles.extractUnit
      { path := "wind.js", dialect := .untyped,
        text := some (String.ofList (Text.withReturns windSource)) } ∧
    (Jsdoc.functions windSource).toOption.map (·.map (·.functionName)) = some ["wind"] := by
  have hreturn : '\r' ∉ windSource := by decide +kernel
  have hread : windFiles.read (Path.clean "wind.js".toList) = .ok windContent := rfl
  have htext : Text.decode windContent.data = .ok (Text.withReturns windSource) := by
    decide +kernel
  have hdialect : Dialect.ofPath? "wind.js".toList = some .untyped := by decide +kernel
  obtain ⟨hsame, hfiles⟩ := extract_withReturns windSource hreturn
  have hunits := hfiles windFiles "wind.js" windContent hread htext
  exact ⟨hreturn, hread, htext, hdialect, hsame, hunits.2 hdialect, by decide +kernel⟩

end Examples

end Sources

end CallSchema

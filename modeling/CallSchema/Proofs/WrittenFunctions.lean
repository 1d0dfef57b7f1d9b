import CallSchema.Proofs.CommentBlocks
import CallSchema.Proofs.RecognisedShapes
import CallSchema.Proofs.RejectedDeclarations

/-!
# Written functions

Functions that are written with their documentation, one after another, are read back as they are:
no text of a comment is taken for a part of the source's form.
-/

namespace CallSchema.Jsdoc

open Text

variable {line tail : List Char}

section FunctionLine

variable {name : List Char}

/-- What stands after the name of a function without parameters and statements. -/
def afterName : List Char := ['(', ')', ' ', '\x7b', '\x7d']

def functionLine (name : List Char) : List Char :=
  ['f', 'u', 'n', 'c', 't', 'i', 'o', 'n', ' '] ++ name ++ afterName

lemma IsIdentifier.declares_functionLine (h : IsIdentifier name) :
    Declares [' ', '\x7b', '\x7d'] name (functionLine name) := by
  obtain ⟨f, hf⟩ : ∃ f : NamedFunction, f = ⟨[], [' '], name, [], [')', ' ', '\x7b', '\x7d']⟩ :=
    ⟨_, rfl⟩
  have htext : f.text = functionLine name := by
    simp [hf, NamedFunction.text, NamedFunction.before, NamedFunction.lead, NamedFunction.after,
      functionLine, afterName]
  have hproper : f.Proper := by
    subst hf
    exact ⟨List.forall_mem_nil _, ⟨[' '], [], by decide, by decide, .inl rfl⟩, h,
      List.forall_mem_nil _⟩
  have hnone : (Parameters.list []).Proper := List.forall_mem_nil _
  have hdeclares : Declares [' ', '\x7b', '\x7d'] f.name f.text :=
    .named hproper (hf ▸ (by decide : Shape.named [] ∈ shapes)) (by simp [hf]) hnone
      (by simp [hf, Parameters.inner, listText, joinWith])
  rw [← htext]
  simpa [hf] using hdeclares

lemma IsIdentifier.isLineEnd_functionLine (h : IsIdentifier name) :
    ∀ c ∈ functionLine name, isLineEnd c = false := by
  intro c hc
  have hword : ∀ c ∈ ['f', 'u', 'n', 'c', 't', 'i', 'o', 'n', ' '], isLineEnd c = false :=
    forall_of_any (by decide)
  have hend : ∀ c ∈ afterName, isLineEnd c = false := forall_of_any (by decide)
  rcases List.mem_append.mp hc with hc | hc
  · rcases List.mem_append.mp hc with hc | hc
    · exact hword c hc
    · exact isLineEnd_of_not_isBlank (isBlank_of_isIdentChar (h.2 c hc))
  · exact hend c hc

lemma IsIdentifier.slash_not_mem (h : IsIdentifier name) : '/' ∉ functionLine name := by
  have hname : '/' ∉ name := fun hslash => absurd (h.2 '/' hslash) (by decide)
  simp [functionLine, afterName, hname]

end FunctionLine

/-- A text that starts with the tag of a declaration as a whole word. -/
def IsTagged (line : List Char) : Prop :=
  ∃ tag ∈ ["@param".toList, "@property".toList], ∃ rest,
    line = tag ++ rest ∧ ∀ c ∈ rest.head?, isWord c = false

lemma takeTag?_eq_some {isProperty : Bool} {rest : List Char}
    (h : takeTag? line = some (isProperty, rest)) :
    ∃ tag ∈ ["@param".toList, "@property".toList], line = tag ++ rest := by
  rw [takeTag?] at h
  split at h
  · rename_i found hparam
    obtain ⟨-, rfl⟩ := Prod.mk.inj (Option.some.inj h)
    exact ⟨_, by simp, dropStart?_eq_some hparam⟩
  · obtain ⟨found, hproperty, hpair⟩ := Option.map_eq_some_iff.mp h
    obtain ⟨-, rfl⟩ := Prod.mk.inj hpair
    exact ⟨_, by simp, dropStart?_eq_some hproperty⟩

lemma isDeclaration_iff : isDeclaration line = true ↔ IsTagged line := by
  constructor
  · intro h
    rw [isDeclaration] at h
    split at h
    · rename_i isProperty htag
      obtain ⟨tag, hmem, hline⟩ := takeTag?_eq_some htag
      exact ⟨tag, hmem, [], hline, nofun⟩
    · rename_i isProperty c cs htag
      obtain ⟨tag, hmem, hline⟩ := takeTag?_eq_some htag
      exact ⟨tag, hmem, c :: cs, hline, by simpa using h⟩
    · cases h
  · rintro ⟨tag, hmem, rest, rfl, hrest⟩
    have htag : ∃ isProperty, takeTag? (tag ++ rest) = some (isProperty, rest) := by
      rcases List.mem_pair.mp hmem with rfl | rfl
      · exact ⟨false, rfl⟩
      · exact ⟨true, rfl⟩
    obtain ⟨isProperty, htag⟩ := htag
    rw [isDeclaration, htag]
    cases rest with
    | nil => rfl
    | cons c rest => simp [hrest c rfl]

lemma IsTagged.head? (h : IsTagged line) : line.head? = some '@' := by
  obtain ⟨tag, hmem, rest, rfl, -⟩ := h
  rcases List.mem_pair.mp hmem with rfl | rfl <;> rfl

lemma IsTagged.not_description (h : IsTagged line) :
    dropStart? "@description".toList line = none := by
  obtain ⟨tag, hmem, rest, rfl, -⟩ := h
  rcases List.mem_pair.mp hmem with rfl | rfl <;> rfl

instance : Decidable (IsTagged line) := decidable_of_iff _ isDeclaration_iff

/-- A line of a comment: a text, and what stands before its star. -/
structure CommentLine where
  indent : List Char
  text : List Char
  deriving DecidableEq, Repr

namespace CommentLine

def written (l : CommentLine) : List Char := l.indent ++ '*' :: ' ' :: l.text

/-- A line that is not mixed up with what stands around it. -/
structure Proper (l : CommentLine) : Prop where
  indented : ∀ c ∈ l.indent, c = ' ' ∨ c = '\t'
  trimmed : trim l.text = l.text
  nonempty : l.text ≠ []
  oneLine : ∀ c ∈ l.text, isLineEnd c = false
  unclosed : contains Block.closing l.text = false

variable {l : CommentLine}

lemma checks_iff : ((l.indent.all fun c => c == ' ' || c == '\t') = true ∧ trim l.text = l.text ∧
    l.text ≠ [] ∧ l.text.any isLineEnd = false ∧ contains Block.closing l.text = false) ↔
      l.Proper := by
  constructor
  · rintro ⟨hindent, htrim, hne, hends, hclosing⟩
    exact ⟨by simpa using hindent, htrim, hne, forall_of_any hends, hclosing⟩
  · intro h
    exact ⟨by simpa using h.indented, h.trimmed, h.nonempty, by simpa using h.oneLine, h.unclosed⟩

instance : Decidable l.Proper := decidable_of_iff _ checks_iff

namespace Proper

lemma isBlank_indent (h : l.Proper) : ∀ c ∈ l.indent, isBlank c = true := by
  intro c hc
  rcases h.indented c hc with rfl | rfl <;> decide

lemma stripDecoration_written (h : l.Proper) : stripDecoration l.written = l.text := by
  have hleft : trimLeft l.written = '*' :: ' ' :: l.text := by
    rw [written, trimLeft_append h.isBlank_indent, trimLeft_cons (by decide)]
  rw [stripDecoration, hleft]
  exact (trim_cons (by decide) l.text).trans h.trimmed

lemma isLineEnd_written (h : l.Proper) : ∀ c ∈ l.written, isLineEnd c = false := by
  intro c hc
  rcases List.mem_append.mp hc with hindent | htext
  · rcases h.indented c hindent with rfl | rfl <;> decide
  · rcases List.mem_cons.mp htext with rfl | htext
    · decide
    · rcases List.mem_cons.mp htext with rfl | htext
      · decide
      · exact h.oneLine c htext

lemma contains_closing_written (h : l.Proper) : contains Block.closing l.written = false := by
  have hindent : '*' ∉ l.indent := fun hstar => by
    rcases h.indented '*' hstar with hstar | hstar <;> cases hstar
  rw [written, Block.closing, contains_cons_append hindent, contains_cons, contains_cons,
    ← Block.closing, h.unclosed]
  rfl

lemma not_lineComment (h : l.Proper) : startsWith ['/', '/'] (trimLeft l.written) = false := by
  rw [written, trimLeft_append h.isBlank_indent, trimLeft_cons (by decide)]
  rfl

end Proper

end CommentLine

/-- A function with its documentation. -/
structure Documentation where
  name : List Char
  notice : List CommentLine
  declarations : List CommentLine
  deriving DecidableEq, Repr

namespace Documentation

def inner (d : Documentation) : List (List Char) :=
  (d.notice ++ d.declarations).map CommentLine.written

/-- The lines of the comment and of the function. -/
def lines (d : Documentation) : List (List Char) :=
  Block.opening :: d.inner ++ [' ' :: Block.closing, functionLine d.name]

def declared (d : Documentation) : List (List Char) := d.declarations.map (·.text)

/-- The lines of the comment as they are read. -/
def shown (d : Documentation) : List (List Char) :=
  [] :: d.notice.map (·.text) ++ d.declared ++ [[]]

/-- The description that the comment gives. -/
def description (d : Documentation) : String :=
  String.ofList (joinWith [' '] (d.notice.map (·.text)))

/-- What the documented function is read as. -/
def read (d : Documentation) : Except Failure DocumentedFunction :=
  documentedBy d.description (String.ofList d.name) d.declared

/-- The documentation is the one of the function given. -/
def Documents (d : Documentation) (f : DocumentedFunction) : Prop :=
  f.functionName = String.ofList d.name ∧ f.notice = d.description ∧
    ∃ decls, d.declared.mapM Declaration.parse = .ok decls ∧ buildParams decls = .ok f.params

/-- Documentation whose parts are not mixed up. -/
structure Proper (d : Documentation) : Prop where
  name : IsIdentifier d.name
  texts : ∀ l ∈ d.notice ++ d.declarations, l.Proper
  untagged : ∀ l ∈ d.notice, l.text.head? ≠ some '@'
  tagged : ∀ l ∈ d.declarations, IsTagged l.text

/-- The comment, when `tail` follows the function. -/
def block (d : Documentation) (tail : List Char) : Block where
  lead := []
  body := ofLines ([] :: d.inner) ++ [' ']
  after := ofLines [[], functionLine d.name] ++ tail

variable {d : Documentation}

instance : Decidable d.Proper :=
  decidable_of_iff
    (IsIdentifier d.name ∧ (∀ l ∈ d.notice ++ d.declarations, l.Proper) ∧
      (∀ l ∈ d.notice, l.text.head? ≠ some '@') ∧ ∀ l ∈ d.declarations, IsTagged l.text)
    ⟨fun ⟨h₁, h₂, h₃, h₄⟩ => ⟨h₁, h₂, h₃, h₄⟩, fun ⟨h₁, h₂, h₃, h₄⟩ => ⟨h₁, h₂, h₃, h₄⟩⟩

namespace Proper

lemma isLineEnd_inner (h : d.Proper) : ∀ line ∈ d.inner, ∀ c ∈ line, isLineEnd c = false := by
  intro line hline
  obtain ⟨l, hl, rfl⟩ := List.mem_map.mp hline
  exact (h.texts l hl).isLineEnd_written

lemma contains_closing_inner (h : d.Proper) :
    ∀ line ∈ d.inner, contains Block.closing line = false := by
  intro line hline
  obtain ⟨l, hl, rfl⟩ := List.mem_map.mp hline
  exact (h.texts l hl).contains_closing_written

lemma contains_opening_functionLine (h : d.Proper) :
    contains Block.opening ('\n' :: functionLine d.name) = false := by
  refine contains_of_not_mem (c := '/') (by decide) fun hslash => ?_
  exact h.name.slash_not_mem ((List.mem_cons.mp hslash).resolve_left (by decide))

lemma all_lines_append (h : d.Proper) (tail : List Char) :
    Block.all (ofLines d.lines ++ tail) = d.block tail :: Block.all tail := by
  have hlines : ofLines d.lines ++ tail = Block.opening ++ (ofLines ([] :: d.inner) ++
      (' ' :: (Block.closing ++ (d.block tail).after))) := by
    simp [Documentation.lines, block, ofLines, ofLines_append]
  have hopening : ∀ rest, cutAt? Block.opening (Block.opening ++ rest) = some ([], rest) :=
    fun rest => rfl
  have hend : ∀ rest, cutAt? Block.closing (' ' :: (Block.closing ++ rest)) = some ([' '], rest) :=
    fun rest => rfl
  have hclosing : ∀ line ∈ [] :: d.inner, contains Block.closing line = false :=
    List.forall_mem_cons.mpr ⟨rfl, h.contains_closing_inner⟩
  have hafter : (d.block tail).after = '\n' :: functionLine d.name ++ '\n' :: tail := by
    simp [block, ofLines]
  rw [hlines, Block.all, Block.allFrom_eq, Block.next?_eq, hopening]
  simp only [Option.bind_some, cutAt?_ofLines (by decide) (by decide) hclosing, hend,
    Option.map_some, Block.here]
  rw [hafter, Block.allFrom_append_newline h.contains_opening_functionLine, ← hafter]
  rfl

lemma isCommentedOut_block (h : d.Proper) (tail : List Char) :
    (d.block tail).isCommentedOut = false := by
  have hwritten : (d.block tail).written =
      ofLines (Block.opening :: d.inner) ++ ' ' :: Block.closing := by
    simp [Block.written, block, ofLines]
  have hends : ∀ line ∈ Block.opening :: d.inner, ∀ c ∈ line, isLineEnd c = false :=
    List.forall_mem_cons.mpr ⟨forall_of_any (by decide), h.isLineEnd_inner⟩
  have hlast : Text.lines (' ' :: Block.closing) = [' ' :: Block.closing] :=
    lines_last (forall_of_any (by decide)) (by decide)
  have hcomment : ∀ line ∈ Block.opening :: d.inner ++ [' ' :: Block.closing],
      startsWith ['/', '/'] (trimLeft line) = false := by
    intro line hline
    rcases List.mem_append.mp hline with hline | hline
    · rcases List.mem_cons.mp hline with rfl | hline
      · decide
      · obtain ⟨l, hl, rfl⟩ := List.mem_map.mp hline
        exact (h.texts l hl).not_lineComment
    · obtain rfl := List.mem_singleton.mp hline
      decide
  have hlead : contains ['/', '/'] (d.block tail).lead = false := rfl
  rw [Block.isCommentedOut, hwritten, lines_ofLines hends, hlast, hlead, Bool.false_or]
  exact List.any_eq_false.mpr fun line hline => by simp [hcomment line hline]

lemma shownLines_block (h : d.Proper) (tail : List Char) : (d.block tail).shownLines = d.shown := by
  have hends : ∀ line ∈ [] :: d.inner, ∀ c ∈ line, isLineEnd c = false :=
    List.forall_mem_cons.mpr ⟨nofun, h.isLineEnd_inner⟩
  have hlast : Text.lines [' '] = [[' ']] :=
    lines_last (forall_of_any (by decide)) (by decide)
  have htexts : d.inner.map stripDecoration = (d.notice ++ d.declarations).map (·.text) := by
    rw [inner, List.map_map]
    exact List.map_congr_left fun l hl => (h.texts l hl).stripDecoration_written
  rw [Block.shownLines, block, lines_ofLines hends, hlast, List.map_append, List.map_cons, htexts,
    List.map_append]
  rfl

lemma functionName?_block (h : d.Proper) (tail : List Char) :
    functionName? (d.block tail).after = some (String.ofList d.name) := by
  have hends : ∀ line ∈ [[], functionLine d.name], ∀ c ∈ line, isLineEnd c = false :=
    List.forall_mem_cons.mpr ⟨nofun, List.forall_mem_singleton.mpr h.name.isLineEnd_functionLine⟩
  have hblank : ∀ l ∈ [([] : List Char)], IsSkipped l :=
    List.forall_mem_singleton.mpr (.inl nofun)
  have hname :
      nameInLines? ([[]] ++ ([] ++ functionLine d.name) :: Text.lines tail) = some d.name :=
    h.name.declares_functionLine.nameInLines? (by decide) nofun hblank
  have hlines : [[], functionLine d.name] ++ Text.lines tail =
      [[]] ++ ([] ++ functionLine d.name) :: Text.lines tail := rfl
  rw [functionName?, block, lines_ofLines hends, hlines, hname]
  rfl

lemma isTagged_declared (h : d.Proper) : ∀ line ∈ d.declared, IsTagged line :=
  List.forall_mem_map.mpr h.tagged

lemma untagged_notice (h : d.Proper) :
    ∀ line ∈ [] :: d.notice.map (·.text), line.head? ≠ some '@' :=
  List.forall_mem_cons.mpr ⟨nofun, List.forall_mem_map.mpr h.untagged⟩

lemma leadingDescription_shown (h : d.Proper) :
    leadingDescription d.shown = joinWith [' '] (d.notice.map (·.text)) := by
  have hnotice : ∀ line ∈ [] :: d.notice.map (·.text), (line.head? != some '@') = true := by
    simpa using h.untagged_notice
  have hnonempty : (d.notice.map (·.text)).filter (!·.isEmpty) = d.notice.map (·.text) := by
    refine List.filter_eq_self.mpr (List.forall_mem_map.mpr fun l hl => ?_)
    simpa using (h.texts l (List.mem_append_left _ hl)).nonempty
  -- without declarations the last line of the comment is read on, and it is empty
  have hrest : List.filter (fun line : List Char => !line.isEmpty)
      ((d.declared ++ [[]]).takeWhile fun line => line.head? != some '@') = [] := by
    cases hdeclared : d.declared with
    | nil => rfl
    | cons line ls =>
      have htagged : IsTagged line := h.isTagged_declared line (by simp [hdeclared])
      rw [List.cons_append, List.takeWhile_cons_of_neg (by simp [htagged.head?])]
      rfl
  rw [leadingDescription, shown, List.append_assoc, List.takeWhile_append_of_pos hnotice,
    List.filter_append, hrest, List.append_nil, List.filter_cons_of_neg (by simp), hnonempty]

lemma explicitDescription_shown (h : d.Proper) : explicitDescription d.shown = [] := by
  have hnone : ∀ line ∈ d.shown, dropStart? "@description".toList line = none := by
    intro line hline
    rcases List.mem_append.mp hline with hline | hline
    · rcases List.mem_append.mp hline with hline | hline
      · exact dropStart?_cons_of_head? (h.untagged_notice line hline) _
      · exact (h.isTagged_declared line hline).not_description
    · obtain rfl := List.mem_singleton.mp hline
      rfl
  have hfind : d.shown.findSome? (fun line => (dropStart? "@description".toList line).map trim) =
      none := by
    refine List.findSome?_eq_none_iff.mpr fun line hline => ?_
    rw [hnone line hline]
    rfl
  rw [explicitDescription, hfind]
  rfl

lemma notice_block (h : d.Proper) (tail : List Char) :
    (d.block tail).notice = d.description := by
  rw [Block.notice, h.shownLines_block, h.explicitDescription_shown, h.leadingDescription_shown]
  rfl

lemma declarationLines_block (h : d.Proper) (tail : List Char) :
    (d.block tail).declarationLines = d.declared := by
  have hnotice : ([] :: d.notice.map (·.text)).filter isDeclaration = [] := by
    refine List.filter_eq_nil_iff.mpr fun line hline hdeclaration => ?_
    exact h.untagged_notice line hline (isDeclaration_iff.mp hdeclaration).head?
  have hdeclared : d.declared.filter isDeclaration = d.declared :=
    List.filter_eq_self.mpr fun line hline => isDeclaration_iff.mpr (h.isTagged_declared line hline)
  rw [Block.declarationLines, h.isCommentedOut_block, h.shownLines_block, if_neg (by decide),
    shown, List.filter_append, List.filter_append, hnotice, hdeclared]
  exact List.append_nil d.declared

lemma function?_block (h : d.Proper) (tail : List Char) :
    (d.block tail).function? = some <$> d.read := by
  rw [Block.function?_of_shown (h.isCommentedOut_block tail), h.functionName?_block,
    h.declarationLines_block, h.notice_block]
  rfl

end Proper

end Documentation

variable {ds : List Documentation}

/-- Documented functions as a source, one after another. -/
def written (ds : List Documentation) : List Char := ofLines (ds.flatMap Documentation.lines)

lemma forall₂_all_written (h : ∀ d ∈ ds, d.Proper) :
    List.Forall₂ (fun d b => Block.function? b = some <$> Documentation.read d) ds
      (Block.all (written ds)) := by
  induction ds with
  | nil =>
    have hall : Block.all (written []) = [] := by
      rw [Block.all, Block.allFrom_eq]
      rfl
    rw [hall]
    exact .nil
  | cons d ds ih =>
    obtain ⟨hd, hds⟩ := List.forall_mem_cons.mp h
    have hwritten : written (d :: ds) = ofLines d.lines ++ written ds := by
      rw [written, List.flatMap_cons, ofLines_append, written]
    rw [hwritten, hd.all_lines_append]
    exact .cons (hd.function?_block (written ds)) (ih hds)

lemma functions_written_eq_mapM (h : ∀ d ∈ ds, d.Proper) :
    functions (written ds) = ds.mapM Documentation.read := by
  rw [functions, mapM_of_forall₂ (forall₂_all_written h)]
  cases ds.mapM Documentation.read with
  | error e => rfl
  | ok fs =>
    change Except.ok ((fs.map some).filterMap id) = _
    rw [List.filterMap_map, Function.id_comp, List.filterMap_some]

/-- Documented functions that are written one after another, each with its comment, are read back
in order: with their names, the lines of their descriptions on one line, and the parameters that
their declaration lines give. Reading fails if and only if one of these lines is rejected, and it
fails as the first of them does. -/
theorem functions_written (ds : List Documentation) (h : ∀ d ∈ ds, d.Proper) :
    (∀ fs, functions (written ds) = .ok fs ↔ List.Forall₂ Documentation.Documents ds fs) ∧
      ∀ e, functions (written ds) = .error e ↔
        rejection? (ds.flatMap Documentation.declared) = some e := by
  rw [functions_written_eq_mapM h]
  constructor
  · intro fs
    have hread : ∀ d f, Documentation.read d = .ok f ↔ d.Documents f :=
      fun d f => documentedBy_eq_ok_iff
    rw [mapM_eq_ok_iff]
    simp only [hread]
  · intro e
    have hread : ∀ d : Documentation, failure? d.read = rejection? d.declared :=
      fun d => failure?_documentedBy _ _ _
    rw [← failure?_eq_some_iff, failure?_mapM, rejection?_flatMap]
    simp only [hread]

/-- Two functions. Their comments hold marks of comments, and a type of the second is none. -/
def drawingFunctions : List Documentation :=
  [{ name := "draw".toList
     notice := [⟨[' '], "Draws a line // or a star *".toList⟩, ⟨[], "/** on the page.".toList⟩]
     declarations := [⟨[' ', '\t'], "@param \x7bnumber\x7d [width=1] - Its width.".toList⟩] },
    { name := "$erase".toList
      notice := []
      declarations := [⟨[], "@param \x7bline\x7d which".toList⟩, ⟨[' '], "@property".toList⟩] }]

theorem functions_written_drawingFunctions : (∀ d ∈ drawingFunctions, d.Proper) ∧
    (∀ fs, functions (written drawingFunctions) = .ok fs ↔
      List.Forall₂ Documentation.Documents drawingFunctions fs) ∧
    ∀ e, functions (written drawingFunctions) = .error e ↔
      rejection? (drawingFunctions.flatMap Documentation.declared) = some e := by
  have hproper : ∀ d ∈ drawingFunctions, d.Proper := by decide +kernel
  exact ⟨hproper, functions_written drawingFunctions hproper⟩

end CallSchema.Jsdoc

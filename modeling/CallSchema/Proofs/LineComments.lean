import CallSchema.Proofs.CommentPlaces
import CallSchema.Proofs.LineStarts
import CallSchema.Proofs.RejectedDeclarations
import CallSchema.Proofs.SourceParts

/-!
# Line comments between documented functions

A line that holds only a line comment can be put between the lines of a source, outside its
documentation comments, without a change to the documented functions. The comment may mention
documentation comments, but not start one at its second slash, and not leave one open.
-/

namespace CallSchema.Jsdoc

open Text

variable {a c cs y tail ending before s t : List Char} {b b' : Block} {bs bs' : List Block}

/-- A line with blanks and a line comment. -/
structure CommentedLine where
  indent : List Char
  text : List Char
  ending : List Char

namespace CommentedLine

def content (l : CommentedLine) : List Char := l.indent ++ (['/', '/'] ++ l.text)

def written (l : CommentedLine) : List Char := l.content ++ l.ending

/-- A newline, alone or behind a carriage return. -/
def IsNewline (ending : List Char) : Prop := ending = ['\n'] ∨ ending = ['\r', '\n']

/-- The line has blanks before the comment, no line end in it, and a newline after it. -/
structure Proper (l : CommentedLine) : Prop where
  indented : ∀ c ∈ l.indent, isBlank c = true ∧ isLineEnd c = false
  oneLine : ∀ c ∈ l.text, isLineEnd c = false
  ended : IsNewline l.ending

end CommentedLine

open CommentedLine (IsNewline)

namespace Block

section Search

lemma next?_eq_none_cases (h : next? before cs = none) : contains opening cs = false ∨
    ∃ skipped inner, cutAt? opening cs = some (skipped, inner) ∧ contains closing inner = false := by
  rw [next?_eq] at h
  cases hopening : cutAt? opening cs with
  | none => exact .inl (by rw [contains, hopening, Option.isSome_none])
  | some found =>
    obtain ⟨skipped, inner⟩ := found
    rw [hopening, Option.bind_some, Option.map_eq_none_iff] at h
    exact .inr ⟨skipped, inner, rfl, by rw [contains, h, Option.isSome_none]⟩

lemma allFrom_of_open {skipped inner : List Char}
    (hopening : cutAt? opening cs = some (skipped, inner))
    (h : contains closing (inner ++ tail) = false) (before : List Char) :
    allFrom before (cs ++ tail) = [] := by
  have hcut : cutAt? closing (inner ++ tail) = none := by simpa [contains] using h
  rw [allFrom_eq, next?_eq, cutAt?_append_right hopening]
  simp only [Option.bind_some, hcut, Option.map_none]

lemma allFrom_of_not_closing (h : contains closing cs = false) (before : List Char) :
    allFrom before cs = [] := by
  rw [allFrom_eq]
  cases hnext : next? before cs with
  | none => rfl
  | some found =>
    obtain ⟨before', b⟩ := found
    obtain ⟨skipped, rfl, -⟩ := next?_eq_some hnext
    have hclosing : contains closing (skipped ++ (b.written ++ b.after)) = true :=
      contains_iff.mpr ⟨skipped ++ (opening ++ b.body), b.after, by simp [written]⟩
    rw [h] at hclosing
    cases hclosing

lemma allFrom_of_not_opening (h : contains opening cs = false)
    (hlast : ∀ e ∈ cs.getLast?, e ∉ opening) (before tail : List Char) :
    allFrom before (cs ++ tail) = allFrom (cs.reverse ++ before) tail := by
  rw [allFrom_eq, allFrom_eq (cs.reverse ++ before), next?_eq, next?_eq,
    cutAt?_append_of_last (by decide) hlast h]
  cases cutAt? opening tail with
  | none => rfl
  | some found => simp [here]

lemma allFrom_cons {x : Char} (h : dropStart? opening (x :: cs) = none) (before : List Char) :
    allFrom before (x :: cs) = allFrom (x :: before) cs := by
  rw [allFrom_eq, allFrom_eq (x :: before), next?, h]

lemma textAfter_eq (before cs : List Char) :
    ((allFrom before cs).getLast?.map (·.after)).getD cs = textAfter cs := by
  have hsame := forall₂_allFrom (R := fun _ _ => True) (fun _ _ _ => id) (s := before) (t := [])
    trivial cs
  have hafter : (allFrom before cs).map (·.after) = (all cs).map (·.after) := by
    rw [all, ← List.forall₂_eq_eq_eq, List.forall₂_map_left_iff, List.forall₂_map_right_iff]
    exact hsame.imp fun _ _ h => h.2.1
  rw [textAfter, ← List.getLast?_map, ← List.getLast?_map, hafter]

end Search

section Commented

/-- A line comment stands on the line up to a place. -/
def Commented (before : List Char) : Prop := contains ['/', '/'] (lineBefore before) = true

lemma lineBefore_append (h : '\n' ∉ cs) (before : List Char) :
    lineBefore (cs.reverse ++ before) = lineBefore before ++ cs := by
  have hline : ∀ c ∈ cs.reverse, (c != '\n') = true := fun c hc => by
    rw [bne_iff_ne]
    rintro rfl
    exact h (List.mem_reverse.mp hc)
  rw [lineBefore, List.takeWhile_append_of_pos hline, List.reverse_append, List.reverse_reverse,
    lineBefore]

lemma Commented.append (hbefore : Commented before) (h : '\n' ∉ cs) :
    Commented (cs.reverse ++ before) := by
  rw [Commented, lineBefore_append h, contains_iff]
  exact (contains_iff.mp hbefore).trans (List.prefix_append _ cs).isInfix

lemma commented_of_mark (h : '\n' ∉ cs) (hmark : ['/', '/'] <:+: cs) (before : List Char) :
    Commented (cs.reverse ++ before) := by
  rw [Commented, lineBefore_append h, contains_iff]
  exact hmark.trans (List.suffix_append _ cs).isInfix

lemma isCommentedOut_of_mem_allFrom {before cs : List Char} (hbefore : Commented before)
    (h : '\n' ∉ cs) : ∀ b ∈ allFrom before cs, b.isCommentedOut = true := by
  rw [allFrom_eq]
  cases hnext : next? before cs with
  | none => exact nofun
  | some found =>
    obtain ⟨before', b⟩ := found
    have hshorter := length_after_lt_of_next? hnext
    obtain ⟨skipped, hcs, rfl, hlead⟩ := next?_eq_some hnext
    rw [hcs, List.mem_append, List.mem_append, not_or, not_or] at h
    obtain ⟨hskipped, hwritten, hafter⟩ := h
    have hstart := hbefore.append hskipped
    intro d hd
    rcases List.mem_cons.mp hd with rfl | hd
    · rw [isCommentedOut, hlead, hstart, Bool.true_or]
    · exact isCommentedOut_of_mem_allFrom (hstart.append hwritten) hafter d hd
termination_by cs.length

lemma startsLine_slashes {blanks : List Char} (ha : ∀ e ∈ a.getLast?, isLineEnd e = true)
    (hblanks : ∀ x ∈ blanks, isLineEnd x = false) (rest : List Char) :
    StartsLine a (blanks ++ (['/', '/'] ++ rest)) :=
  startsLine_blanks ha hblanks (by rintro _ ⟨⟩; decide)

lemma isCommentedOut_of_slashes {front blanks rest : List Char}
    (hwritten : b.written = front ++ (blanks ++ (['/', '/'] ++ rest)))
    (hfront : ∀ e ∈ front.getLast?, isLineEnd e = true)
    (hblanks : ∀ x ∈ blanks, isBlank x = true ∧ isLineEnd x = false) :
    b.isCommentedOut = true := by
  have hstart := startsLine_slashes hfront (fun x hx => (hblanks x hx).2) rest
  have hslashes : ∀ x ∈ ['/', '/'], isLineEnd x = false := forall_of_any (by decide)
  have hline : blanks ++ (['/', '/'] ++ (cutLine rest).1) ∈ lines b.written := by
    have hne : blanks ++ (['/', '/'] ++ rest) ≠ [] := by simp
    rw [hwritten, lines_append_of_startsLine _ _ hstart, lines_of_ne_nil hne,
      cutLine_append_left fun x hx => (hblanks x hx).2, cutLine_append_left hslashes]
    exact List.mem_append_right _ List.mem_cons_self
  have hstartsWith : startsWith ['/', '/']
      (trimLeft (blanks ++ (['/', '/'] ++ (cutLine rest).1))) = true := by
    rw [trimLeft_append fun x hx => (hblanks x hx).1]
    exact startsWith_iff.mpr (List.prefix_append _ _)
  rw [isCommentedOut, Bool.or_eq_true]
  exact .inr (List.any_eq_true.mpr ⟨_, hline, hstartsWith⟩)

/-- The comments that are not commented out. -/
def shown (bs : List Block) : List Block := bs.filter (!·.isCommentedOut)

lemma shown_append (bs bs' : List Block) : shown (bs ++ bs') = shown bs ++ shown bs' :=
  List.filter_append bs bs'

lemma shown_eq_nil (h : ∀ b ∈ bs, b.isCommentedOut = true) : shown bs = [] :=
  List.filter_eq_nil_iff.mpr fun b hb => by simp [h b hb]

lemma shown_followedBy (bs : List Block) (tail : List Char) :
    shown (bs.map (·.followedBy tail)) = (shown bs).map (·.followedBy tail) := by
  rw [shown, List.filter_map]
  rfl

lemma contains_append_newline {mark : List Char} (hend : IsNewline ending) (hne : mark ≠ [])
    (hmark : ∀ e ∈ mark, isLineEnd e = false) (cs tail : List Char) :
    contains mark (cs ++ (ending ++ tail)) = (contains mark cs || contains mark tail) := by
  have hnot : ∀ e, isLineEnd e = true → e ∉ mark := fun e he hmem => by
    rw [hmark e hmem] at he
    cases he
  have hnewline : ∀ xs,
      contains mark (xs ++ '\n' :: tail) = (contains mark xs || contains mark tail) :=
    fun xs => contains_append_cons hne (hnot '\n' (by decide)) xs tail
  rcases hend with rfl | rfl
  · exact hnewline cs
  · have hreturn : contains mark (cs ++ ['\r']) = contains mark cs := by
      have hnil : contains mark [] = false := by
        obtain ⟨m, ms, rfl⟩ := List.exists_cons_of_ne_nil hne
        rfl
      rw [contains_append_cons hne (hnot '\r' (by decide)), hnil, Bool.or_false]
    have happend : cs ++ (['\r', '\n'] ++ tail) = (cs ++ ['\r']) ++ '\n' :: tail := by simp
    rw [happend, hnewline, hreturn]

lemma allFrom_append_ending (hend : IsNewline ending) (h : contains opening cs = false)
    (before tail : List Char) : allFrom before (cs ++ (ending ++ tail)) = all tail := by
  rcases hend with rfl | rfl
  · exact allFrom_append_newline h before tail
  · have hcs : contains opening (cs ++ ['\r']) = false := by
      rw [contains, cutAt?_append_cons (by decide) (by decide) h]
      rfl
    have happend : cs ++ (['\r', '\n'] ++ tail) = (cs ++ ['\r']) ++ '\n' :: tail := by simp
    rw [happend]
    exact allFrom_append_newline hcs before tail

/-- What follows a line comment and its newline shows the comments it shows alone, unless the line
leaves a comment open that is closed later. -/
lemma shown_behind (hbefore : Commented before) (hy : '\n' ∉ y) (hend : IsNewline ending)
    (hopen : contains opening (textAfter y) = false ∨ contains closing c = false) :
    shown (allFrom before (y ++ (ending ++ c))) = shown (all c) := by
  obtain ⟨done, rest, hdone, hnone, hrest, htail⟩ := exists_scanned before y
  rw [textAfter_eq] at hrest
  have hline : shown ((allFrom before y).map (·.followedBy (ending ++ c))) = [] := by
    rw [shown_followedBy, shown_eq_nil (isCommentedOut_of_mem_allFrom hbefore hy), List.map_nil]
  rw [htail, shown_append, hline, List.nil_append]
  rcases next?_eq_none_cases hnone with hopening | ⟨skipped, inner, hopening, hclosing⟩
  · rw [allFrom_append_ending hend hopening]
  · have hc : contains closing c = false := by
      refine hopen.resolve_left fun hopen => ?_
      rw [← hrest, contains, hopening] at hopen
      cases hopen
    have hclosed : contains closing (inner ++ (ending ++ c)) = false := by
      rw [contains_append_newline hend (by decide) (forall_of_any (by decide)), hclosing, hc]
      rfl
    rw [allFrom_of_open hopening hclosed, all, allFrom_of_not_closing hc]

end Commented

section Functions

lemma function?_of_same (hbody : b.body = b'.body)
    (hname : functionName? b.after = functionName? b'.after)
    (hout : b.isCommentedOut = b'.isCommentedOut) : b.function? = b'.function? := by
  rw [function?, function?, hbody, hname, hout]

lemma isCommentedOut_of_same (hbody : b.body = b'.body)
    (hlead : contains ['/', '/'] b.lead = contains ['/', '/'] b'.lead) :
    b.isCommentedOut = b'.isCommentedOut := by
  rw [isCommentedOut, isCommentedOut, written, written, hbody, hlead]

lemma map_function?_shown (h : List.Forall₂ (fun b b' => b.body = b'.body ∧ b.after = b'.after ∧
    contains ['/', '/'] b.lead = contains ['/', '/'] b'.lead) bs bs') :
    (shown bs).map function? = (shown bs').map function? := by
  induction h with
  | nil => rfl
  | @cons b b' bs bs' hb _ ih =>
    obtain ⟨hbody, hafter, hlead⟩ := hb
    have hout := isCommentedOut_of_same hbody hlead
    have hfunction := function?_of_same hbody (congrArg functionName? hafter) hout
    rw [shown, shown, List.filter_cons, List.filter_cons, hout]
    split
    · rw [List.map_cons, List.map_cons, hfunction]
      exact congrArg _ ih
    · exact ih

lemma contains_lineBefore_append (hlead : contains ['/', '/'] (lineBefore before) = false)
    (hend : ∀ e ∈ before.head?, isLineEnd e = true) (xs : List Char) :
    contains ['/', '/'] (lineBefore (xs ++ before)) = contains ['/', '/'] (lineBefore xs) := by
  have hlast : ∀ e ∈ (lineBefore before).getLast?, e ∉ ['/', '/'] := by
    intro e he hslash
    have hhead : e ∈ before.head? := by
      rw [lineBefore, List.getLast?_reverse] at he
      cases before with
      | nil => exact he
      | cons x before =>
        rw [List.takeWhile_cons] at he
        split at he
        · exact he
        · cases he
    obtain rfl : e = '/' := by simpa using hslash
    exact absurd (hend '/' hhead) (by decide)
  by_cases hxs : '\n' ∈ xs
  · obtain ⟨ys, zs, rfl⟩ := List.append_of_mem hxs
    rw [List.append_assoc, List.cons_append, lineBefore, lineBefore, takeWhile_append_newline,
      takeWhile_append_newline]
  · have hreverse : '\n' ∉ xs.reverse := fun h => hxs (List.mem_reverse.mp h)
    have hline := lineBefore_append hreverse before
    have halone := lineBefore_append hreverse []
    rw [List.reverse_reverse] at hline halone
    rw [List.append_nil] at halone
    rw [hline, halone, contains_append_of_last (by decide) hlast, hlead, Bool.false_or]
    rfl

lemma forall₂_allFrom_of_lead (h : ∀ xs, contains ['/', '/'] (lineBefore (xs ++ s)) =
    contains ['/', '/'] (lineBefore (xs ++ t))) (cs : List Char) :
    List.Forall₂ (fun b b' => b.body = b'.body ∧ b.after = b'.after ∧
      contains ['/', '/'] b.lead = contains ['/', '/'] b'.lead) (allFrom s cs) (allFrom t cs) := by
  refine (forall₂_allFrom
    (R := fun s t => ∀ xs, contains ['/', '/'] (lineBefore (xs ++ s)) =
      contains ['/', '/'] (lineBefore (xs ++ t))) ?_ h cs).imp ?_
  · intro xs s t hst ys
    rw [← List.append_assoc, hst, List.append_assoc]
  · rintro b b' ⟨hbody, hafter, s, t, hst, hb, hb'⟩
    refine ⟨hbody, hafter, ?_⟩
    rw [hb, hb']
    exact hst []

/-- What was read before a text does not change the functions of the text, if no line comment stands
on the line up to it. -/
lemma map_function?_shown_allFrom (hlead : contains ['/', '/'] (lineBefore before) = false)
    (hend : ∀ e ∈ before.head?, isLineEnd e = true) (cs : List Char) :
    (shown (allFrom before cs)).map function? = (shown (all cs)).map function? := by
  refine map_function?_shown (forall₂_allFrom_of_lead (fun xs => ?_) cs)
  rw [contains_lineBefore_append hlead hend, List.append_nil]

end Functions

end Block

/-- The functions found in a list of answers, or the first failure. -/
def collect (answers : List (Except Failure (Option DocumentedFunction))) :
    Except Failure (List DocumentedFunction) := do
  let found ← answers.mapM id
  pure (found.filterMap id)

lemma collect_cons_none (answers : List (Except Failure (Option DocumentedFunction))) :
    collect (.ok none :: answers) = collect answers := by
  rw [collect, List.mapM_cons, collect]
  cases answers.mapM id <;> rfl

lemma collect_cons (answer : Except Failure (Option DocumentedFunction))
    (answers : List (Except Failure (Option DocumentedFunction))) :
    collect (answer :: answers) = (do
      let f ← answer
      let fs ← collect answers
      pure (f.toList ++ fs)) := by
  rw [collect, List.mapM_cons, collect]
  cases answer with
  | error e => rfl
  | ok f =>
    cases answers.mapM id with
    | error e => rfl
    | ok fs => cases f <;> rfl

lemma functions_eq_collect (source : List Char) :
    functions source = collect ((Block.all source).map Block.function?) := by
  rw [functions, collect, List.mapM_map]
  rfl

lemma functions_eq_shown (source : List Char) :
    functions source = collect ((Block.shown (Block.all source)).map Block.function?) := by
  rw [functions_eq_collect]
  induction Block.all source with
  | nil => rfl
  | cons b bs ih =>
    rw [List.map_cons, Block.shown, List.filter_cons, ← Block.shown]
    cases hout : b.isCommentedOut with
    | true =>
      rw [Block.function?_of_isCommentedOut hout, collect_cons_none, ih]
      rfl
    | false =>
      simp only [Bool.not_false, if_true, List.map_cons]
      rw [collect_cons, collect_cons, ih]

lemma nameInLines?_skip {line : List Char}
    (h : startsWith ['/', '/'] (trim line) = true) (ls ms : List (List Char)) :
    nameInLines? (ls ++ line :: ms) = nameInLines? (ls ++ ms) := by
  induction ls with
  | nil =>
    rw [List.nil_append, List.nil_append, nameInLines?, h, Bool.or_true, if_pos rfl]
  | cons l ls ih =>
    rw [List.cons_append, List.cons_append, nameInLines?, nameInLines?, ih]

lemma not_mem_of_isLineEnd {mark : List Char} {e : Char} (hmark : ∀ x ∈ mark, isLineEnd x = false)
    (he : isLineEnd e = true) : e ∉ mark := fun hmem => by
  rw [hmark e hmem] at he
  cases he

namespace CommentedLine

variable {l : CommentedLine}

lemma written_append (l : CommentedLine) (c : List Char) :
    l.written ++ c = (l.indent ++ ['/', '/']) ++ (l.text ++ (l.ending ++ c)) := by
  simp only [written, content, List.append_assoc]

lemma IsNewline.exists_cons (h : IsNewline ending) :
    ∃ e rest, ending = e :: rest ∧ isLineEnd e = true := by
  rcases h with rfl | rfl
  · exact ⟨_, _, rfl, by decide⟩
  · exact ⟨_, _, rfl, by decide⟩

lemma not_mem_indent {x : Char} (hl : l.Proper) (h : isBlank x = false) : x ∉ l.indent := by
  intro hx
  rw [(hl.indented x hx).1] at h
  cases h

lemma newline_not_mem_text (hl : l.Proper) : '\n' ∉ l.text := fun h => by
  have hend := hl.oneLine '\n' h
  rw [isLineEnd_newline] at hend
  cases hend

lemma allFrom_written (hl : l.Proper) (hslash : startsWith ['*', '*'] l.text = false)
    (before c : List Char) : Block.allFrom before (l.written ++ c) =
      Block.allFrom ((l.indent ++ ['/', '/']).reverse ++ before) (l.text ++ (l.ending ++ c)) := by
  obtain ⟨e, rest, hending, he⟩ := hl.ended.exists_cons
  have hstars : dropStart? ['*', '*'] (l.text ++ (l.ending ++ c)) = none := by
    have hnot : e ∉ ['*', '*'] := fun hstar => by
      obtain rfl : e = '*' := by simpa using hstar
      exact absurd he (by decide)
    rw [hending]
    exact dropStart?_append_cons hnot (by simpa [startsWith] using hslash) (rest ++ c)
  have hmarks : ∀ x ∈ Block.opening, isBlank x = false := forall_of_any (by decide)
  have hindent : contains Block.opening l.indent = false :=
    contains_of_not_mem (c := '/') (by decide) (not_mem_indent hl (by decide))
  have hlast : ∀ x ∈ l.indent.getLast?, x ∉ Block.opening := fun x hx hmark =>
    not_mem_indent hl (hmarks x hmark) (List.mem_of_getLast? hx)
  have hslashes : dropStart? Block.opening ('/' :: '/' :: (l.text ++ (l.ending ++ c))) = none := by
    simp [Block.opening, dropStart?]
  have hstars' : dropStart? Block.opening ('/' :: (l.text ++ (l.ending ++ c))) = none := by
    rw [Block.opening, dropStart?, if_pos rfl, hstars]
  rw [written_append, List.append_assoc, Block.allFrom_of_not_opening hindent hlast,
    List.cons_append, List.cons_append, List.nil_append, Block.allFrom_cons hslashes,
    Block.allFrom_cons hstars']
  simp

lemma lines_written (hl : l.Proper) (c : List Char) :
    lines (l.written ++ c) = l.content :: lines c := by
  have hslashes : ∀ x ∈ ['/', '/'], isLineEnd x = false := forall_of_any (by decide)
  have hcontent : ∀ x ∈ l.content, isLineEnd x = false := by
    intro x hx
    rcases List.mem_append.mp hx with hx | hx
    · exact (hl.indented x hx).2
    · exact (List.mem_append.mp hx).elim (hslashes x) (hl.oneLine x)
  have hending : cutLine (l.ending ++ c) = ([], l.ending, c) := by
    rcases hl.ended with h | h <;> rw [h]
    · exact cutLine_line (List.forall_mem_nil _) c
    · simp [cutLine]
  have hne : l.written ++ c ≠ [] := by simp [written_append]
  rw [lines_of_ne_nil hne, written, List.append_assoc, cutLine_append_left hcontent, hending,
    List.append_nil]

lemma startsLine_written (hl : l.Proper) (ha : ∀ e ∈ a.getLast?, isLineEnd e = true)
    (c : List Char) : StartsLine a (l.written ++ c) := by
  rw [written_append, List.append_assoc]
  exact Block.startsLine_slashes ha (fun x hx => (hl.indented x hx).2) _

lemma startsWith_trim_content (hl : l.Proper) :
    startsWith ['/', '/'] (trim l.content) = true :=
  startsWith_trim (fun c hc => (hl.indented c hc).1) (by decide) (forall_of_any (by decide)) l.text

lemma functionName?_insert (hl : l.Proper) (h : StartsLine a c) :
    functionName? (a ++ (l.written ++ c)) = functionName? (a ++ c) := by
  rw [functionName?, functionName?, lines_append_of_startsLine a _
      (startsLine_written hl (fun e he => (h e he).1) c),
    lines_written hl, nameInLines?_skip (startsWith_trim_content hl),
    lines_append_of_startsLine a c h]

lemma shown_written (hl : l.Proper) (hslash : startsWith ['*', '*'] l.text = false)
    (hopen : contains Block.opening (Block.textAfter l.text) = false ∨
      contains Block.closing c = false) (before : List Char) :
    Block.shown (Block.allFrom before (l.written ++ c)) = Block.shown (Block.all c) := by
  rw [allFrom_written hl hslash, List.reverse_append]
  refine Block.shown_behind ?_ (newline_not_mem_text hl) hl.ended hopen
  exact Block.commented_of_mark (by decide) List.infix_rfl _

section Open

variable {skipped inner rest z after : List Char}

lemma ends_of_open (hopening : cutAt? Block.opening rest = some (skipped, inner))
    (hends : ∀ e ∈ rest.getLast?, isLineEnd e = true) :
    ∀ e ∈ (Block.opening ++ inner).getLast?, isLineEnd e = true := by
  rw [cutAt?_eq_some hopening, List.append_assoc] at hends
  intro e he
  refine hends e ?_
  rw [Option.mem_def] at he ⊢
  rw [List.getLast?_append, he]
  rfl

lemma last_of_open (hopening : cutAt? Block.opening rest = some (skipped, inner))
    (hends : ∀ e ∈ rest.getLast?, isLineEnd e = true) :
    ∀ e ∈ inner.getLast?, e ∉ Block.closing := by
  intro e he
  refine not_mem_of_isLineEnd (forall_of_any (by decide)) (ends_of_open hopening hends e ?_)
  rw [Option.mem_def] at he ⊢
  rw [List.getLast?_append, he]
  rfl

lemma exists_next?_of_open (hl : l.Proper)
    (hopening : cutAt? Block.opening rest = some (skipped, inner))
    (hinner : contains Block.closing inner = false)
    (hends : ∀ e ∈ rest.getLast?, isLineEnd e = true)
    (hclosing : cutAt? Block.closing l.text = some (z, after)) (before c : List Char) :
    ∃ before' b, Block.next? before (rest ++ (l.written ++ c)) = some (before', b) ∧
      b.after = after ++ (l.ending ++ c) ∧ b.isCommentedOut = true ∧ Block.Commented before' := by
  have hstar : '*' ∉ l.indent ++ ['/', '/'] := by
    simp [not_mem_indent hl (x := '*') (by decide)]
  have hcut : cutAt? Block.closing (inner ++ (l.written ++ c)) =
      some (inner ++ (l.indent ++ ['/', '/'] ++ z), after ++ (l.ending ++ c)) := by
    rw [cutAt?_append_of_last (by decide) (last_of_open hopening hends) hinner, written_append,
      Block.closing, cutAt?_cons_append hstar, ← Block.closing, cutAt?_append_right hclosing]
    rfl
  obtain ⟨before', b, hnext, hbody, hafter⟩ : ∃ before' b,
      Block.next? before (rest ++ (l.written ++ c)) = some (before', b) ∧
        b.body = inner ++ (l.indent ++ ['/', '/'] ++ z) ∧ b.after = after ++ (l.ending ++ c) := by
    rw [Block.next?_eq, cutAt?_append_right hopening]
    simp only [Option.bind_some, hcut, Option.map_some]
    exact ⟨_, _, rfl, rfl, rfl⟩
  obtain ⟨skipped', -, hbefore, -⟩ := Block.next?_eq_some hnext
  have hwritten : b.written = (Block.opening ++ inner) ++
      (l.indent ++ (['/', '/'] ++ (z ++ Block.closing))) := by
    rw [Block.written, hbody]
    simp only [List.append_assoc]
  refine ⟨before', b, hnext, hafter, ?_, ?_⟩
  · exact Block.isCommentedOut_of_slashes hwritten (ends_of_open hopening hends) hl.indented
  · have hz : '\n' ∉ ['/', '/'] ++ (z ++ Block.closing) := by
      have hnewline := newline_not_mem_text hl
      rw [cutAt?_eq_some hclosing] at hnewline
      simp_all [Block.closing]
    have hsplit : before' = (['/', '/'] ++ (z ++ Block.closing)).reverse ++
        (l.indent.reverse ++ ((Block.opening ++ inner).reverse ++ (skipped'.reverse ++ before))) := by
      rw [hbefore, hwritten]
      simp only [List.reverse_append, List.append_assoc]
    rw [hsplit]
    exact Block.commented_of_mark hz (List.prefix_append _ _).isInfix _

end Open

/-- Where a comment is open that is not closed later, the line may close it, but then the comment is
commented out. -/
lemma shown_written_of_open {skipped inner rest : List Char} (hl : l.Proper)
    (hopening : cutAt? Block.opening rest = some (skipped, inner))
    (hinner : contains Block.closing inner = false) (hc : contains Block.closing c = false)
    (hends : ∀ e ∈ rest.getLast?, isLineEnd e = true) (before : List Char) :
    Block.shown (Block.allFrom before (rest ++ (l.written ++ c))) = [] := by
  cases htext : cutAt? Block.closing l.text with
  | none =>
    have hcontains : contains Block.closing l.text = false := by
      rw [contains, htext, Option.isSome_none]
    have hstar : '*' ∉ l.indent ++ ['/', '/'] := by
      simp [not_mem_indent hl (x := '*') (by decide)]
    have hopen : contains Block.closing (inner ++ (l.written ++ c)) = false := by
      rw [contains_append_of_last (by decide) (last_of_open hopening hends), hinner, written_append,
        Block.closing, contains_cons_append hstar, ← Block.closing,
        Block.contains_append_newline hl.ended (by decide) (forall_of_any (by decide)), hcontains,
        hc]
      rfl
    rw [Block.allFrom_of_open hopening hopen]
    rfl
  | some found =>
    obtain ⟨z, after⟩ := found
    obtain ⟨before', b, hnext, hafter, hout, hcommented⟩ :=
      exists_next?_of_open hl hopening hinner hends htext before c
    have hnewline : '\n' ∉ after := fun h =>
      newline_not_mem_text hl (cutAt?_eq_some htext ▸ List.mem_append_right _ h)
    have hrest := Block.shown_behind hcommented hnewline hl.ended (.inr hc)
    rw [Block.allFrom_eq, hnext]
    simp only [hafter]
    rw [Block.shown, List.filter_cons, hout, ← Block.shown, hrest, Block.all,
      Block.allFrom_of_not_closing hc]
    rfl

end CommentedLine

/-- A comment that is open at a place outside all comments is never closed. -/
lemma not_closing_of_outside {skipped inner rest : List Char} (hrest : rest <:+ a)
    (hall : Block.allFrom before (rest ++ c) ⊆ Block.all (a ++ c))
    (hopening : cutAt? Block.opening rest = some (skipped, inner))
    (hinner : contains Block.closing inner = false)
    (hlast : ∀ e ∈ inner.getLast?, e ∉ Block.closing)
    (houtside : ∀ b ∈ Block.all (a ++ c),
      b.stop (a ++ c) ≤ a.length ∨ a.length ≤ b.start (a ++ c)) :
    contains Block.closing c = false := by
  refine Bool.eq_false_iff.mpr fun hclosing => ?_
  obtain ⟨⟨z, after⟩, hcut⟩ := Option.isSome_iff_exists.mp hclosing
  obtain ⟨before', b, hnext, hbody, hafter⟩ : ∃ before' b,
      Block.next? before (rest ++ c) = some (before', b) ∧ b.body = inner ++ z ∧
        b.after = after := by
    rw [Block.next?_eq, cutAt?_append_right hopening]
    simp only [Option.bind_some, cutAt?_append_of_last (by decide) hlast hinner, hcut,
      Option.map_some]
    exact ⟨_, _, rfl, rfl, rfl⟩
  have hmem : b ∈ Block.allFrom before (rest ++ c) := by
    rw [Block.allFrom_eq, hnext]
    exact List.mem_cons_self
  have hlength := hrest.length_le
  rw [cutAt?_eq_some hopening] at hlength
  have hwritten : b.written.length = inner.length + z.length + 5 := by
    simp only [Block.written, hbody, Block.opening, Block.closing, List.length_append,
      List.length_cons, List.length_nil]
    omega
  have hclength : c.length = z.length + 2 + after.length := by
    rw [cutAt?_eq_some hcut]
    simp only [Block.closing, List.length_append, List.length_cons, List.length_nil]
  have hout := houtside b (hall hmem)
  simp only [Block.stop, Block.start, List.length_append, hwritten, hafter, hclength,
    Block.opening, List.length_cons, List.length_nil] at hout hlength
  omega

/-- A line with a line comment, put where a line of a source starts and no documentation comment is
open, does not change what the source documents. -/
theorem functions_insert_line {a c : List Char} {l : CommentedLine} (hl : l.Proper)
    (hstart : StartsLine a c)
    (houtside : ∀ b ∈ Block.all (a ++ c),
      b.stop (a ++ c) ≤ a.length ∨ a.length ≤ b.start (a ++ c))
    (hslash : startsWith ['*', '*'] l.text = false)
    (hopen : contains Block.opening (Block.textAfter l.text) = false ∨
      contains Block.closing c = false)
    (hlead : contains ['/', '/'] (Block.lineBefore a.reverse) = false) :
    functions (a ++ (l.written ++ c)) = functions (a ++ c) := by
  obtain ⟨done, rest, hdone, hnone, -, htail⟩ := Block.exists_scanned [] a
  have hends : ∀ e ∈ rest.getLast?, isLineEnd e = true := fun e he => by
    rw [hdone] at hstart
    exact (hstart.of_append e he).1
  -- the comments before the line
  have hbefore : ((Block.shown (Block.allFrom [] a)).map (·.followedBy (l.written ++ c))).map
      Block.function? = ((Block.shown (Block.allFrom [] a)).map (·.followedBy c)).map
        Block.function? := by
    rw [List.map_map, List.map_map]
    refine List.map_congr_left fun b hb => ?_
    obtain ⟨_, _, hmem⟩ := List.append_of_mem (List.mem_of_mem_filter hb)
    obtain ⟨⟨front, hfront⟩, -⟩ := Block.allFrom_eq_append hmem
    have hstart' : StartsLine b.after c := by
      rw [← hfront, ← List.append_assoc] at hstart
      exact hstart.of_append
    exact Block.function?_of_same rfl (CommentedLine.functionName?_insert hl hstart') rfl
  -- the comments after it
  have hafter : (Block.shown (Block.allFrom (done.reverse ++ []) (rest ++ (l.written ++ c)))).map
      Block.function? = (Block.shown (Block.allFrom (done.reverse ++ []) (rest ++ c))).map
        Block.function? := by
    rcases Block.next?_eq_none_cases hnone with hopening | ⟨skipped, inner, hopening, hinner⟩
    · have hlast : ∀ e ∈ rest.getLast?, e ∉ Block.opening := fun e he =>
        not_mem_of_isLineEnd (forall_of_any (by decide)) (hends e he)
      have hbefore : rest.reverse ++ (done.reverse ++ []) = a.reverse := by
        rw [hdone, List.reverse_append, List.append_nil]
      have hlineEnd : ∀ e ∈ a.reverse.head?, isLineEnd e = true := fun e he =>
        (hstart e (by rwa [List.head?_reverse] at he)).1
      rw [Block.allFrom_of_not_opening hopening hlast, Block.allFrom_of_not_opening hopening hlast,
        hbefore, CommentedLine.shown_written hl hslash hopen,
        Block.map_function?_shown_allFrom hlead hlineEnd]
    · have hall : Block.allFrom (done.reverse ++ []) (rest ++ c) ⊆ Block.all (a ++ c) := by
        rw [Block.all, htail]
        exact List.subset_append_right _ _
      have hlast := CommentedLine.last_of_open hopening hends
      have hc := not_closing_of_outside ⟨done, hdone.symm⟩ hall hopening hinner hlast houtside
      have hclosed : contains Block.closing (inner ++ c) = false := by
        rw [contains_append_of_last (by decide) hlast, hinner, hc]
        rfl
      rw [CommentedLine.shown_written_of_open hl hopening hinner hc hends,
        Block.allFrom_of_open hopening hclosed]
      rfl
  rw [functions_eq_shown, functions_eq_shown, Block.all, Block.all, htail, htail,
    Block.shown_append, Block.shown_append, Block.shown_followedBy, Block.shown_followedBy,
    List.map_append, List.map_append, hbefore, hafter]

/-- A line comment that mentions a documentation comment. -/
def globComment : CommentedLine := ⟨[' '], " all of /**/*.js, not /** */".toList, ['\n']⟩

def firstFunction : List Char := "/** A */\nfunction f() \x7b\x7d\n".toList

def secondFunction : List Char := "/** B */\nfunction g() \x7b\x7d\n".toList

theorem functions_insert_globComment :
    globComment.Proper ∧ StartsLine firstFunction secondFunction ∧
      functions (firstFunction ++ (globComment.written ++ secondFunction)) =
        functions (firstFunction ++ secondFunction) := by
  have hproper : globComment.Proper :=
    ⟨List.forall_mem_singleton.mpr (by decide), forall_of_any (by decide +kernel), .inl rfl⟩
  have hstart : StartsLine firstFunction secondFunction := by decide +kernel
  exact ⟨hproper, hstart, functions_insert_line hproper hstart (by decide +kernel)
    (by decide +kernel) (.inl (by decide +kernel)) (by decide +kernel)⟩

/-- Line comments are not told from code where documentation comments are looked for: one that is
opened in a line comment and not closed takes in the next, and one that starts at the second slash
is taken for a comment of its own. -/
theorem functions_of_comment_in_line_comment :
    functions firstFunction = .ok [⟨"A", "f", []⟩] ∧
      functions ("// src/**\n".toList ++ firstFunction) = .ok [] ∧
      functions "function g() \x7b\x7d\n".toList = .ok [] ∧
      functions ("//** B */\n".toList ++ "function g() \x7b\x7d\n".toList) =
        .ok [⟨"B", "g", []⟩] := by
  refine ⟨?_, ?_, ?_, ?_⟩ <;> with_unfolding_all rfl

end CallSchema.Jsdoc

import CallSchema.Proofs.LineComments
import CallSchema.Proofs.TrimmedTexts
import CallSchema.Proofs.WrittenFunctions

/-!
# Empty comments

The mark that opens a documentation comment and the one that closes it overlap in an empty comment.
So an empty comment on the line before a documentation comment is not closed in its own line, and
the two are read as one: what the second says on its first line is lost in the description.
-/

namespace CallSchema.Jsdoc

open Text

variable {a before before' cs indent tail z : List Char} {b e : Block} {earlier later : List Block}

namespace Block

section Scan

lemma cutAt?_of_next? (h : next? before cs = some (before', b)) :
    (∃ skipped, cutAt? opening cs = some (skipped, b.body ++ (closing ++ b.after)) ∧
      cs = skipped ++ (b.written ++ b.after)) ∧
    cutAt? closing (b.body ++ (closing ++ b.after)) = some (b.body, b.after) := by
  rw [next?_eq] at h
  obtain ⟨⟨skipped, inner⟩, hopening, hrest⟩ := Option.bind_eq_some_iff.mp h
  obtain ⟨⟨body, after⟩, hclosing, hhere⟩ := Option.map_eq_some_iff.mp hrest
  obtain ⟨rfl, rfl⟩ := Prod.mk.inj hhere
  have hinner : inner = body ++ (closing ++ after) := by
    rw [cutAt?_eq_some hclosing, List.append_assoc]
  subst hinner
  refine ⟨⟨skipped, hopening, ?_⟩, hclosing⟩
  rw [cutAt?_eq_some hopening]
  simp only [written, List.append_assoc]

lemma next?_of_append (h : next? before (cs ++ tail) = some (before', b))
    (hafter : b.after = z ++ tail) :
    next? before cs = some (before', { b with after := z }) := by
  cases hnext : next? before cs with
  | some found =>
    obtain ⟨before'', b'⟩ := found
    rw [next?_append_right hnext] at h
    obtain ⟨rfl, rfl⟩ := Prod.mk.inj (Option.some.inj h)
    obtain rfl := List.append_cancel_right hafter
    rfl
  | none =>
    obtain ⟨⟨skipped, hopening, hcs⟩, -⟩ := cutAt?_of_next? h
    have htail : cs ++ tail = skipped ++ opening ++ (b.body ++ closing ++ z) ++ tail := by
      rw [hafter] at hcs
      simpa only [written, List.append_assoc] using hcs
    have htext := List.append_cancel_right htail
    exfalso
    rcases next?_eq_none_cases hnext with hnone | ⟨skipped', inner, hopening', hnone⟩
    · have hcontains : contains opening cs = true :=
        contains_iff.mpr ⟨skipped, b.body ++ closing ++ z, htext.symm⟩
      rw [hcontains] at hnone
      cases hnone
    · rw [cutAt?_append_right hopening'] at hopening
      obtain ⟨rfl, -⟩ := Prod.mk.inj (Option.some.inj hopening)
      rw [cutAt?_eq_some hopening'] at htext
      have hcontains : contains closing inner = true :=
        contains_iff.mpr ⟨b.body, z, (List.append_cancel_left htext).symm⟩
      rw [hcontains] at hnone
      cases hnone

lemma exists_of_append_eq {skipped : List Char} (hindent : '/' ∉ indent)
    (h : a ++ indent = skipped ++ (e.written ++ z)) :
    ∃ z', a = skipped ++ (e.written ++ z') ∧ z = z' ++ indent := by
  rw [← List.append_assoc, List.append_eq_append_iff] at h
  rcases h with ⟨z', hwritten, hindent'⟩ | ⟨z', ha, hz⟩
  · -- the last slash of the comment is no blank
    rcases List.eq_nil_or_concat z' with rfl | ⟨front, x, hz'⟩
    · exact ⟨[], by simpa using hwritten.symm, by simpa using hindent'.symm⟩
    · have hlast := congrArg List.getLast? hwritten
      rw [hz'] at hlast
      simp [written, closing] at hlast
      subst hlast
      exact absurd (by simp [hindent', hz']) hindent
  · exact ⟨z', by rw [ha, List.append_assoc], hz⟩

lemma not_opening_of_next? {before a : List Char}
    (h : next? before (a ++ (indent ++ (b.written ++ b.after))) = some (before', b)) :
    contains opening a = false := by
  obtain ⟨⟨skipped, hcut, hcs⟩, -⟩ := cutAt?_of_next? h
  have hskipped : skipped = a ++ indent := by
    rw [← List.append_assoc] at hcs
    exact (List.append_cancel_right hcs).symm
  refine Bool.eq_false_iff.mpr fun hcontains => ?_
  obtain ⟨⟨x, y⟩, hfront⟩ := Option.isSome_iff_exists.mp hcontains
  have hlength := congrArg List.length (cutAt?_eq_some hfront)
  rw [cutAt?_append_right hfront] at hcut
  obtain ⟨rfl, -⟩ := Prod.mk.inj (Option.some.inj hcut)
  simp only [hskipped, opening, List.length_append, List.length_cons] at hlength
  omega

/-- What is found before a place where a comment starts, behind blanks on its line, is found there
whatever follows. -/
lemma allFrom_upTo {before a : List Char} {earlier : List Block}
    (ha : ∀ x ∈ a.getLast?, x ∉ opening) (hindent : '/' ∉ indent)
    (h : allFrom before (a ++ (indent ++ (b.written ++ b.after))) = earlier ++ b :: later) :
    earlier = (allFrom before a).map (·.followedBy (indent ++ (b.written ++ b.after))) ∧
      ∀ cs, allFrom before (a ++ cs) =
        (allFrom before a).map (·.followedBy cs) ++ allFrom (a.reverse ++ before) cs := by
  rw [allFrom_eq] at h
  cases hnext : next? before (a ++ (indent ++ (b.written ++ b.after))) with
  | none => simp [hnext] at h
  | some found =>
    obtain ⟨before', first⟩ := found
    rw [hnext] at h
    cases earlier with
    | nil =>
      obtain ⟨rfl, -⟩ := List.cons.inj h
      have hall := allFrom_of_not_opening (not_opening_of_next? hnext) ha before
      have hnil : allFrom before a = [] := by
        have hend := hall []
        rw [List.append_nil] at hend
        rw [hend, allFrom_eq]
        rfl
      exact ⟨by rw [hnil]; rfl, fun cs => by rw [hnil]; exact hall cs⟩
    | cons e earlier =>
      obtain ⟨rfl, hrest⟩ := List.cons.inj h
      obtain ⟨skipped, hcs, hbefore', -⟩ := next?_eq_some hnext
      obtain ⟨⟨z, hz⟩, -⟩ := allFrom_eq_append hrest
      have hfront : a ++ indent ++ (b.written ++ b.after) =
          skipped ++ (first.written ++ z) ++ (b.written ++ b.after) := by
        rw [← hz] at hcs
        simpa only [List.append_assoc] using hcs
      obtain ⟨z', rfl, rfl⟩ := exists_of_append_eq hindent (List.append_cancel_right hfront)
      rw [List.append_assoc] at hz
      have hfirst := next?_of_append hnext hz.symm
      have hshorter := length_after_lt_of_next? hfirst
      have hlast : ∀ x ∈ z'.getLast?, x ∉ opening := by
        intro x hx
        refine ha x ?_
        rw [Option.mem_def] at hx ⊢
        rw [List.getLast?_append, List.getLast?_append, hx]
        rfl
      rw [← hz] at hrest
      obtain ⟨hearlier, hfollow⟩ := allFrom_upTo hlast hindent hrest
      have hall : allFrom before (skipped ++ (first.written ++ z')) =
          { first with after := z' } :: allFrom before' z' := by
        rw [allFrom_eq, hfirst]
      refine ⟨?_, fun cs => ?_⟩
      · rw [hall, hearlier, List.map_cons, followedBy, hz]
      · have hreverse : (skipped ++ (first.written ++ z')).reverse ++ before =
            z'.reverse ++ before' := by
          simp only [hbefore', List.reverse_append, List.append_assoc]
        rw [hall, allFrom_eq, next?_append_right hfirst, hreverse]
        exact congrArg _ (hfollow cs)
termination_by a.length

lemma allFrom_eq_cons (h : allFrom before (indent ++ (b.written ++ b.after)) = b :: later) :
    b.lead = lineBefore (indent.reverse ++ before) ∧
      later = allFrom (b.written.reverse ++ (indent.reverse ++ before)) b.after ∧
      cutAt? closing (b.body ++ (closing ++ b.after)) = some (b.body, b.after) := by
  rw [allFrom_eq] at h
  cases hnext : next? before (indent ++ (b.written ++ b.after)) with
  | none => simp [hnext] at h
  | some found =>
    obtain ⟨before', first⟩ := found
    rw [hnext] at h
    obtain ⟨rfl, rfl⟩ := List.cons.inj h
    obtain ⟨skipped, hcs, rfl, hlead⟩ := next?_eq_some hnext
    obtain rfl := List.append_cancel_right hcs
    exact ⟨hlead, rfl, (cutAt?_of_next? hnext).2⟩

end Scan

section Functions

/-- The line that a comment opens on, as it is read. -/
def firstLine (b : Block) : List Char := stripDecoration (cutLine b.body).1

/-- The lines of a comment behind the one it opens on, as they are read. -/
def laterLines (b : Block) : List (List Char) := (lines (cutLine b.body).2.2).map stripDecoration

/-- The comment that is read when a line with an empty comment stands before a comment and the
blanks on its line, with what stands before the empty comment on its line. -/
def behindEmpty (lead indent : List Char) (b : Block) : Block :=
  { lead, body := '/' :: '\n' :: (indent ++ (opening ++ b.body)), after := b.after }

/-- What the second comment keeps of the first when an empty comment stands before it: the function
that follows and all that is said behind the first line. This line begins the description, behind
the marks, unless a later line has a tag for it. -/
structure LosesFirstLine (b c : Block) : Prop where
  after : c.after = b.after
  isCommentedOut : c.isCommentedOut = b.isCommentedOut
  declarationLines : c.declarationLines =
    if b.isCommentedOut then [] else b.laterLines.filter isDeclaration
  notice : c.notice =
    if (explicitDescription b.laterLines).isEmpty then
      .ofList (leadingDescription (['/'] :: trim (opening ++ (cutLine b.body).1) :: b.laterLines))
    else .ofList (explicitDescription b.laterLines)

/-- A comment with a tag for its description, the first of which stands behind its first line. -/
def IsTaggedBelow (b : Block) : Prop :=
  dropStart? "@description".toList b.firstLine = none ∧ explicitDescription b.laterLines ≠ []

/-- A comment of which the first line is of no account: it is commented out, or declares nothing
there and either has no function or a tag for its description on a later line. -/
def CanLoseFirstLine (b : Block) : Prop :=
  b.isCommentedOut = true ∨
    isDeclaration b.firstLine = false ∧ (functionName? b.after = none ∨ b.IsTaggedBelow)

lemma isDeclaration_of_head? {line : List Char} (h : line.head? ≠ some '@') :
    isDeclaration line = false :=
  Bool.eq_false_iff.mpr fun hdeclaration => h (isDeclaration_iff.mp hdeclaration).head?

lemma explicitDescription_cons {line : List Char}
    (h : dropStart? "@description".toList line = none) (ls : List (List Char)) :
    explicitDescription (line :: ls) = explicitDescription ls := by
  rw [explicitDescription, List.findSome?_cons, h]
  rfl

lemma shownLines_eq (b : Block) : b.shownLines = b.firstLine :: b.laterLines ∨
    b.shownLines = [] ∧ b.firstLine = [] ∧ b.laterLines = [] := by
  by_cases hbody : b.body = []
  · refine .inr ⟨?_, ?_, ?_⟩
    · rw [shownLines, hbody, lines, List.map_nil]
    · rw [firstLine, hbody]
      rfl
    · rw [laterLines, hbody, cutLine, lines, List.map_nil]
  · exact .inl (by rw [shownLines, lines_of_ne_nil hbody, List.map_cons, firstLine, laterLines])

section BehindEmpty

variable (hindent : ∀ x ∈ indent, isBlank x = true ∧ isLineEnd x = false)

include hindent

lemma lines_indent_append (cs : List Char) :
    lines (indent ++ (opening ++ cs)) =
      (indent ++ (opening ++ (cutLine cs).1)) :: lines (cutLine cs).2.2 := by
  have hmark : ∀ x ∈ opening, isLineEnd x = false := forall_of_any (by decide)
  have hne : indent ++ (opening ++ cs) ≠ [] := by simp [opening]
  rw [lines_of_ne_nil hne, cutLine_append_left fun x hx => (hindent x hx).2,
    cutLine_append_left hmark]

lemma trimLeft_indent_append (cs : List Char) :
    trimLeft (indent ++ (opening ++ cs)) = opening ++ cs := by
  rw [trimLeft_append fun x hx => (hindent x hx).1]
  exact trimLeft_cons (by decide) _

lemma shownLines_behindEmpty (lead : List Char) (b : Block) :
    (b.behindEmpty lead indent).shownLines =
      ['/'] :: trim (opening ++ (cutLine b.body).1) :: b.laterLines := by
  have hslash : ∀ x ∈ ['/'], isLineEnd x = false := forall_of_any (by decide)
  have hstrip : stripDecoration (indent ++ (opening ++ (cutLine b.body).1)) =
      trim (opening ++ (cutLine b.body).1) := by
    rw [stripDecoration, trimLeft_indent_append hindent, ← trim_trimLeft,
      trimLeft_indent_append hindent]
    rfl
  have hlines : lines (b.behindEmpty lead indent).body =
      ['/'] :: lines (indent ++ (opening ++ b.body)) := lines_line hslash _
  rw [shownLines, hlines, lines_indent_append hindent, List.map_cons, List.map_cons, hstrip,
    laterLines]
  rfl

omit hindent in
lemma written_behindEmpty (lead : List Char) (b : Block) : (b.behindEmpty lead indent).written =
    ['/', '*', '*', '/'] ++ '\n' :: (indent ++ b.written) := by
  simp [behindEmpty, written, opening]

lemma isCommentedOut_behindEmpty {lead : List Char}
    (hlead : contains ['/', '/'] lead = contains ['/', '/'] b.lead) :
    (b.behindEmpty lead indent).isCommentedOut = b.isCommentedOut := by
  have hempty : ∀ x ∈ ['/', '*', '*', '/'], isLineEnd x = false := forall_of_any (by decide)
  have halone : b.written = [] ++ (opening ++ (b.body ++ closing)) := by simp [written]
  have hmark : ∀ cs, trimLeft (opening ++ cs) = opening ++ cs := fun _ =>
    trimLeft_cons (by decide) _
  have hleads : contains ['/', '/'] (b.behindEmpty lead indent).lead = contains ['/', '/'] b.lead :=
    hlead
  rw [isCommentedOut, isCommentedOut, hleads, written_behindEmpty, lines_line hempty, halone,
    lines_indent_append (by simp), List.nil_append, lines_indent_append hindent]
  simp only [List.any_cons, trimLeft_indent_append hindent, List.nil_append, hmark]
  rfl

lemma losesFirstLine_behindEmpty {lead : List Char}
    (hlead : contains ['/', '/'] lead = contains ['/', '/'] b.lead) :
    b.LosesFirstLine (b.behindEmpty lead indent) := by
  have hshown := shownLines_behindEmpty hindent lead b
  have hout := isCommentedOut_behindEmpty hindent hlead
  have hfirst : (trim (opening ++ (cutLine b.body).1)).head? ≠ some '@' := by
    have hstart : startsWith opening (trim ([] ++ (opening ++ (cutLine b.body).1))) = true :=
      startsWith_trim (by simp) (by decide) (forall_of_any (by decide)) _
    obtain ⟨rest, hrest⟩ := startsWith_iff.mp hstart
    rw [List.nil_append] at hrest
    rw [← hrest]
    simp [opening]
  have hexplicit : explicitDescription (b.behindEmpty lead indent).shownLines =
      explicitDescription b.laterLines := by
    rw [hshown, explicitDescription_cons rfl,
      explicitDescription_cons (dropStart?_cons_of_head? hfirst _)]
  refine ⟨rfl, hout, ?_, ?_⟩
  · rw [Block.declarationLines, hout, hshown, List.filter_cons_of_neg (by decide),
      List.filter_cons_of_neg (by simp [isDeclaration_of_head? hfirst])]
  · rw [Block.notice, hexplicit, hshown]

end BehindEmpty

variable {c : Block}

lemma declarationLines_of_first (h : isDeclaration b.firstLine = false) :
    b.shownLines.filter isDeclaration = b.laterLines.filter isDeclaration := by
  rcases shownLines_eq b with hshown | ⟨hshown, -, hlater⟩
  · rw [hshown, List.filter_cons_of_neg (by simp [h])]
  · rw [hshown, hlater]

lemma explicitDescription_of_first (h : dropStart? "@description".toList b.firstLine = none) :
    explicitDescription b.shownLines = explicitDescription b.laterLines := by
  rcases shownLines_eq b with hshown | ⟨hshown, -, hlater⟩
  · rw [hshown, explicitDescription_cons h]
  · rw [hshown, hlater]

lemma LosesFirstLine.function?_eq (h : b.LosesFirstLine c) (hlose : b.CanLoseFirstLine) :
    c.function? = b.function? := by
  cases hout : b.isCommentedOut with
  | true =>
    rw [function?_of_isCommentedOut hout, function?_of_isCommentedOut (h.isCommentedOut.trans hout)]
  | false =>
    obtain ⟨hfirst, hname⟩ := hlose.resolve_left (by simp [hout])
    have hdeclarations : c.declarationLines = b.declarationLines := by
      rw [h.declarationLines, Block.declarationLines, hout, declarationLines_of_first hfirst]
    rw [function?_of_shown hout, function?_of_shown (h.isCommentedOut.trans hout), h.after,
      hdeclarations]
    rcases hname with hnone | ⟨huntagged, htagged⟩
    · rw [hnone]
    · have hnotice : c.notice = b.notice := by
        rw [h.notice, Block.notice, explicitDescription_of_first huntagged,
          if_neg (by simpa using htagged), if_neg (by simpa using htagged)]
      rw [hnotice]

end Functions

end Block

/-- A line that holds only an empty comment. -/
def emptyComment : List Char := ['/', '*', '*', '/', '\n']

section Insert

lemma allFrom_emptyComment (hindent : ∀ x ∈ indent, isBlank x = true ∧ isLineEnd x = false)
    (hbody : b.body.head? ≠ some '/')
    (hclosing : cutAt? Block.closing (b.body ++ (Block.closing ++ b.after)) =
      some (b.body, b.after)) :
    Block.allFrom before (emptyComment ++ (indent ++ (b.written ++ b.after))) =
      b.behindEmpty (Block.lineBefore before) indent ::
        Block.allFrom ((b.behindEmpty (Block.lineBefore before) indent).written.reverse ++ before)
          b.after := by
  have hstar : '*' ∉ '/' :: '\n' :: (indent ++ ['/']) := by
    have hblank : '*' ∉ indent := fun hstar => absurd (hindent '*' hstar).1 (by decide)
    simp [hblank]
  have hnot : (b.body ++ (Block.closing ++ b.after)).head? ≠ some '/' := by
    cases hb : b.body with
    | nil => simp [Block.closing]
    | cons x body =>
      rw [hb] at hbody
      simpa using hbody
  -- the closing mark is not found at the stars of the second comment's opening mark
  have hstars : cutAt? Block.closing ('*' :: '*' :: (b.body ++ (Block.closing ++ b.after))) =
      some ('*' :: '*' :: b.body, b.after) := by
    have hsecond :
        dropStart? Block.closing ('*' :: (b.body ++ (Block.closing ++ b.after))) = none := by
      rw [Block.closing, dropStart?, if_pos rfl]
      exact dropStart?_cons_of_head? hnot _
    rw [cutAt?, Block.closing, dropStart?, if_pos rfl, dropStart?_cons_of_head? (by simp),
      ← Block.closing, cutAt?, hsecond, hclosing]
    rfl
  have hcut : cutAt? Block.closing ('/' :: '\n' :: (indent ++ (b.written ++ b.after))) =
      some ('/' :: '\n' :: (indent ++ (Block.opening ++ b.body)), b.after) := by
    have htext : '/' :: '\n' :: (indent ++ (b.written ++ b.after)) =
        ('/' :: '\n' :: (indent ++ ['/'])) ++
          '*' :: '*' :: (b.body ++ (Block.closing ++ b.after)) := by
      simp [Block.written, Block.opening]
    rw [htext, Block.closing, cutAt?_cons_append hstar, ← Block.closing, hstars]
    simp [Block.opening]
  have hopening : cutAt? Block.opening (emptyComment ++ (indent ++ (b.written ++ b.after))) =
      some ([], '/' :: '\n' :: (indent ++ (b.written ++ b.after))) := rfl
  rw [Block.allFrom_eq, Block.next?_eq, hopening]
  simp only [Option.bind_some, hcut, Option.map_some]
  rfl

lemma nameInLines?_append_opening {line line' : List Char}
    (h : startsWith Block.opening (trim line) = true)
    (h' : startsWith Block.opening (trim line') = true) (ls ms ms' : List (List Char)) :
    nameInLines? (ls ++ line :: ms) = nameInLines? (ls ++ line' :: ms') := by
  have hnone : ∀ {l : List Char}, startsWith Block.opening (trim l) = true →
      ∀ rest, nameInLines? (l :: rest) = none := by
    intro l hl rest
    have hpassed : ((trim l).isEmpty || startsWith ['/', '/'] (trim l)) = false := by
      refine Bool.eq_false_iff.mpr fun hpassed => ?_
      rw [not_opening_of_passed hpassed] at hl
      cases hl
    rw [nameInLines?, hpassed, ← Block.opening, hl]
    rfl
  induction ls with
  | nil => rw [List.nil_append, List.nil_append, hnone h, hnone h']
  | cons l ls ih => rw [List.cons_append, List.cons_append, nameInLines?, nameInLines?, ih]

/-- The search for the function of a comment that stands before the line ends there, whether an
empty comment stands there or the next comment does. -/
lemma functionName?_emptyComment (hindent : ∀ x ∈ indent, isBlank x = true ∧ isLineEnd x = false)
    (ha : ∀ e ∈ a.getLast?, isLineEnd e = true) (cs : List Char) :
    functionName? (a ++ (emptyComment ++ (indent ++ (Block.opening ++ cs)))) =
      functionName? (a ++ (indent ++ (Block.opening ++ cs))) := by
  have hempty : ∀ x ∈ ['/', '*', '*', '/'], isLineEnd x = false := forall_of_any (by decide)
  have hlines : lines (emptyComment ++ (indent ++ (Block.opening ++ cs))) =
      ['/', '*', '*', '/'] :: lines (indent ++ (Block.opening ++ cs)) := lines_line hempty _
  have hstart : StartsLine a (emptyComment ++ (indent ++ (Block.opening ++ cs))) :=
    startsLine_of_head ha (by rintro _ ⟨⟩; decide)
  have hstart' : StartsLine a (indent ++ (Block.opening ++ cs)) :=
    startsLine_blanks ha (fun x hx => (hindent x hx).2) (by rintro _ ⟨⟩; decide)
  have hopening : startsWith Block.opening
      (trim (indent ++ (Block.opening ++ (cutLine cs).1))) = true :=
    startsWith_trim (fun x hx => (hindent x hx).1) (by decide) (forall_of_any (by decide)) _
  rw [functionName?, functionName?, lines_append_of_startsLine _ _ hstart,
    lines_append_of_startsLine _ _ hstart', hlines, Block.lines_indent_append hindent,
    nameInLines?_append_opening (by decide) hopening]

end Insert

section Surroundings

variable (ha : ∀ e ∈ a.getLast?, isLineEnd e = true)

include ha

lemma map_function?_followedBy_emptyComment
    (hindent : ∀ x ∈ indent, isBlank x = true ∧ isLineEnd x = false) (cs : List Char) :
    ((Block.all a).map (·.followedBy (emptyComment ++ (indent ++ (Block.opening ++ cs))))).map
        Block.function? =
      ((Block.all a).map (·.followedBy (indent ++ (Block.opening ++ cs)))).map Block.function? := by
  rw [List.map_map, List.map_map]
  refine List.map_congr_left fun d hd => ?_
  obtain ⟨_, _, hmem⟩ := List.append_of_mem hd
  obtain ⟨⟨front, hfront⟩, -⟩ := Block.allFrom_eq_append hmem
  have hafter : ∀ e ∈ d.after.getLast?, isLineEnd e = true := by
    intro e he
    refine ha e ?_
    rw [Option.mem_def] at he ⊢
    rw [← hfront, List.getLast?_append, List.getLast?_append, he]
    rfl
  exact Block.function?_of_same rfl (functionName?_emptyComment hindent hafter cs) rfl

lemma map_function?_behind_emptyComment
    (hlead : contains ['/', '/'] (Block.lineBefore a.reverse) = false) (cs : List Char)
    (lead : List Char) :
    (Block.allFrom ((b.behindEmpty lead indent).written.reverse ++ a.reverse) cs).map
        Block.function? =
      (Block.allFrom (b.written.reverse ++ (indent.reverse ++ a.reverse)) cs).map
        Block.function? := by
  refine (map_eq_map_of_forall₂ (Block.forall₂_allFrom_of_lead (fun xs => ?_) cs) ?_).symm
  · have hempty : contains ['/', '/'] (Block.lineBefore
        ('\n' :: '/' :: '*' :: '*' :: '/' :: a.reverse)) = false := rfl
    have hbehind := Block.contains_lineBefore_append hempty (by rintro _ ⟨⟩; decide)
      (xs ++ (b.written.reverse ++ indent.reverse))
    have hbefore := Block.contains_lineBefore_append hlead (fun e he => ha e (by
      rwa [List.head?_reverse] at he)) (xs ++ (b.written.reverse ++ indent.reverse))
    rw [Block.written_behindEmpty]
    simp only [List.reverse_append, List.reverse_cons, List.append_assoc] at hbehind hbefore ⊢
    exact hbehind.trans hbefore.symm
  · rintro c d ⟨hbody, hafter, hlead⟩
    exact (Block.function?_of_same hbody (congrArg functionName? hafter)
      (Block.isCommentedOut_of_same hbody hlead)).symm

end Surroundings

/-- A line with an empty comment before the line of a documentation comment takes the first line of
that comment away, and nothing else: the other comments give what they gave, and this one gives what
it says behind its first line. The comment is not opened by an empty one itself (`hbody`), and no
mark of a line comment stands on the last line before, as far as newlines alone end lines (`hlead`);
a newline before leaves that line empty. -/
theorem functions_insert_emptyComment
    (hall : Block.all (a ++ (indent ++ (b.written ++ b.after))) = earlier ++ b :: later)
    (ha : ∀ e ∈ a.getLast?, isLineEnd e = true)
    (hindent : ∀ x ∈ indent, isBlank x = true ∧ isLineEnd x = false)
    (hbody : b.body.head? ≠ some '/')
    (hlead : contains ['/', '/'] (Block.lineBefore a.reverse) = false) :
    functions (a ++ (indent ++ (b.written ++ b.after))) =
        collect (earlier.map Block.function? ++ b.function? :: later.map Block.function?) ∧
      (∃ c, b.LosesFirstLine c ∧
        functions (a ++ (emptyComment ++ (indent ++ (b.written ++ b.after)))) =
          collect (earlier.map Block.function? ++ c.function? :: later.map Block.function?)) ∧
      (b.CanLoseFirstLine →
        functions (a ++ (emptyComment ++ (indent ++ (b.written ++ b.after)))) =
          functions (a ++ (indent ++ (b.written ++ b.after)))) := by
  have hslash : '/' ∉ indent := fun hmem => absurd (hindent '/' hmem).1 (by decide)
  have hmark : ∀ x ∈ a.getLast?, x ∉ Block.opening := fun x hx =>
    not_mem_of_isLineEnd (forall_of_any (by decide)) (ha x hx)
  obtain ⟨hearlier, hfollow⟩ := Block.allFrom_upTo hmark hslash hall
  have htail : Block.allFrom (a.reverse ++ []) (indent ++ (b.written ++ b.after)) = b :: later := by
    rw [Block.all, hfollow, hearlier] at hall
    exact List.append_cancel_left hall
  obtain ⟨hblead, hlater, hclosing⟩ := Block.allFrom_eq_cons htail
  rw [List.append_nil] at hblead hlater
  have hout : contains ['/', '/'] (Block.lineBefore a.reverse) = contains ['/', '/'] b.lead := by
    have hblank : '/' ∉ Block.lineBefore indent.reverse := fun hmem =>
      hslash (List.mem_reverse.mp (List.takeWhile_subset _ (List.mem_reverse.mp hmem)))
    rw [hblead, Block.contains_lineBefore_append hlead (fun e he => ha e (by
      rwa [List.head?_reverse] at he)), hlead, contains_of_not_mem (c := '/') (by decide) hblank]
  have hloses := Block.losesFirstLine_behindEmpty hindent hout
  have htext : functions (a ++ (indent ++ (b.written ++ b.after))) =
      collect (earlier.map Block.function? ++ b.function? :: later.map Block.function?) := by
    rw [functions_eq_collect, hall, List.map_append, List.map_cons]
  have hinserted : functions (a ++ (emptyComment ++ (indent ++ (b.written ++ b.after)))) =
      collect (earlier.map Block.function? ++
        (b.behindEmpty (Block.lineBefore a.reverse) indent).function? ::
          later.map Block.function?) := by
    have hwritten :
        b.written ++ b.after = Block.opening ++ (b.body ++ (Block.closing ++ b.after)) := by
      simp only [Block.written, List.append_assoc]
    rw [functions_eq_collect, Block.all, hfollow, List.append_nil,
      allFrom_emptyComment hindent hbody hclosing, List.map_append, List.map_cons,
      map_function?_behind_emptyComment ha hlead, ← hlater, hearlier, hwritten, ← Block.all,
      map_function?_followedBy_emptyComment ha hindent]
  refine ⟨htext, ⟨_, hloses, hinserted⟩, fun hlose => ?_⟩
  rw [hinserted, htext, hloses.function?_eq hlose]

/-- A comment whose description has a tag on its second line. -/
def taggedComment : Block where
  lead := [' ']
  body := "\n * @description Adds one.\n * @param \x7bnumber\x7d n\n ".toList
  after := "\nfunction next(n) \x7b\x7d\n".toList

theorem functions_insert_emptyComment_tagged :
    Block.all ("// numbers\n".toList ++ ([' '] ++ (taggedComment.written ++ taggedComment.after))) =
        [] ++ taggedComment :: [] ∧
      taggedComment.CanLoseFirstLine ∧
      functions ("// numbers\n".toList ++
          (emptyComment ++ ([' '] ++ (taggedComment.written ++ taggedComment.after)))) =
        functions ("// numbers\n".toList ++
          ([' '] ++ (taggedComment.written ++ taggedComment.after))) := by
  have hall : Block.all ("// numbers\n".toList ++
      ([' '] ++ (taggedComment.written ++ taggedComment.after))) = [] ++ taggedComment :: [] := by
    decide +kernel
  have hlose : taggedComment.CanLoseFirstLine :=
    .inr ⟨by decide +kernel, .inr ⟨by decide +kernel, by decide +kernel⟩⟩
  refine ⟨hall, hlose, (functions_insert_emptyComment hall ?_ ?_ ?_ ?_).2.2 hlose⟩
  · intro e he
    obtain rfl : '\n' = e := by simpa using he
    decide
  · exact List.forall_mem_singleton.mpr (by decide)
  · decide
  · decide +kernel

/-- An empty comment takes in the comment on the next line: its marks go into the description, and
a declaration on the first line is lost. -/
theorem functions_of_comment_behind_empty :
    functions firstFunction = .ok [⟨"A", "f", []⟩] ∧
      functions (emptyComment ++ firstFunction) = .ok [⟨"/ /** A", "f", []⟩] ∧
      functions "/** @param \x7bstring\x7d x */\nfunction g(x) \x7b\x7d\n".toList =
        .ok [⟨"", "g", [{ name := "x", fragment := .primitive none "string" }]⟩] ∧
      functions (emptyComment ++
          "/** @param \x7bstring\x7d x */\nfunction g(x) \x7b\x7d\n".toList) =
        .ok [⟨"/ /** @param \x7bstring\x7d x", "g", []⟩] := by
  refine ⟨?_, ?_, ?_, ?_⟩ <;> with_unfolding_all rfl

end CallSchema.Jsdoc

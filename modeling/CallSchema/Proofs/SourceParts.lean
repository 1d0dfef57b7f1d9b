import CallSchema.Proofs.CommentBlocks
import CallSchema.Proofs.ListSteps

/-!
# Sources in parts

A source in two parts, with a newline between them, has the documented functions of the first part
and then those of the second, if every comment of the first is complete and finds its function, or
the next comment, in that part.
-/

namespace CallSchema.Jsdoc

open Text

variable {ls ms : List (List Char)} {line cs name : List Char} {b : Block}

lemma not_opening_of_passed (h : (cs.isEmpty || startsWith ['/', '/'] cs) = true) :
    startsWith Block.opening cs = false := by
  rw [Bool.eq_false_iff, ne_eq, startsWith_iff]
  rintro ⟨rest, rfl⟩
  rcases Bool.or_eq_true_iff.mp h with hempty | hcomment
  · cases hempty
  · exact absurd (startsWith_iff.mp hcomment) (by simp [Block.opening])

/-- A line that the search passes over: a blank one, or a line comment. -/
def isPassedOver (line : List Char) : Bool :=
  (trim line).isEmpty || startsWith ['/', '/'] (trim line)

/-- A line that opens a documentation comment, and ends the search. -/
def opensComment (line : List Char) : Bool := startsWith Block.opening (trim line)

lemma nameInLines?_of_passed (h : isPassedOver line = true) (ls : List (List Char)) :
    nameInLines? (line :: ls) = nameInLines? ls := by
  rw [isPassedOver] at h
  rw [nameInLines?, if_pos h]

lemma nameInLines?_of_shown (hpassed : isPassedOver line = false)
    (hopens : opensComment line = false) (ls : List (List Char)) :
    nameInLines? (line :: ls) = (nameInLine? line).or (nameInLines? ls) := by
  rw [isPassedOver] at hpassed
  rw [opensComment, Block.opening] at hopens
  rw [nameInLines?, hpassed, hopens]
  cases nameInLine? line <;> rfl

lemma nameInLines?_eq_some_iff : nameInLines? ls = some name ↔
    ∃ before line behind, ls = before ++ line :: behind ∧
      (∀ l ∈ before, isPassedOver l = true ∨ opensComment l = false ∧ nameInLine? l = none) ∧
      isPassedOver line = false ∧ opensComment line = false ∧ nameInLine? line = some name := by
  constructor
  · intro h
    induction ls with
    | nil => cases h
    | cons line ls ih =>
      by_cases hpassed : isPassedOver line = true
      · rw [nameInLines?_of_passed hpassed] at h
        obtain ⟨before, found, behind, rfl, hbefore, hfound⟩ := ih h
        exact ⟨line :: before, found, behind, rfl,
          List.forall_mem_cons.mpr ⟨.inl hpassed, hbefore⟩, hfound⟩
      · by_cases hopens : opensComment line = true
        · rw [isPassedOver] at hpassed
          rw [opensComment, Block.opening] at hopens
          rw [nameInLines?, if_neg hpassed, if_pos hopens] at h
          cases h
        · rw [Bool.not_eq_true] at hpassed hopens
          rw [nameInLines?_of_shown hpassed hopens] at h
          cases hname : nameInLine? line with
          | none =>
            rw [hname, Option.none_or] at h
            obtain ⟨before, found, behind, rfl, hbefore, hfound⟩ := ih h
            exact ⟨line :: before, found, behind, rfl,
              List.forall_mem_cons.mpr ⟨.inr ⟨hopens, hname⟩, hbefore⟩, hfound⟩
          | some found =>
            rw [hname, Option.some_or] at h
            exact ⟨[], line, ls, rfl, fun _ hl => absurd hl List.not_mem_nil, hpassed, hopens,
              hname.trans h⟩
  · rintro ⟨before, line, behind, rfl, hbefore, hpassed, hopens, hname⟩
    induction before with
    | nil => rw [List.nil_append, nameInLines?_of_shown hpassed hopens, hname, Option.some_or]
    | cons l before ih =>
      obtain ⟨hl, hbefore⟩ := List.forall_mem_cons.mp hbefore
      rw [List.cons_append]
      by_cases hpassed : isPassedOver l = true
      · rw [nameInLines?_of_passed hpassed, ih hbefore]
      · obtain ⟨hlopens, hlname⟩ := hl.resolve_left hpassed
        rw [nameInLines?_of_shown (Bool.eq_false_iff.mpr hpassed) hlopens, hlname, Option.none_or,
          ih hbefore]

/-- A search for a function that finds one, or comes to the next comment, is not changed by the
lines after that. -/
lemma nameInLines?_append (h : (nameInLines? ls).isSome ∨
    ∃ line ∈ ls, startsWith Block.opening (trim line) = true) (ms : List (List Char)) :
    nameInLines? (ls ++ ms) = nameInLines? ls := by
  induction ls with
  | nil => simp [nameInLines?] at h
  | cons line ls ih =>
    have hskip : startsWith Block.opening (trim line) = false →
        (∃ l ∈ line :: ls, startsWith Block.opening (trim l) = true) →
        ∃ l ∈ ls, startsWith Block.opening (trim l) = true := by
      rintro hline ⟨l, hl, hopening⟩
      rcases List.mem_cons.mp hl with rfl | hl
      · rw [hline] at hopening
        cases hopening
      · exact ⟨l, hl, hopening⟩
    rw [List.cons_append, nameInLines?, nameInLines?]
    rw [nameInLines?] at h
    split at h
    · rename_i hpassed
      rw [if_pos hpassed, if_pos hpassed]
      exact ih (h.imp_right (hskip (not_opening_of_passed hpassed)))
    · rename_i hpassed
      rw [if_neg hpassed, if_neg hpassed]
      split at h
      · rename_i hopening
        rw [if_pos hopening, if_pos hopening]
      · rename_i hopening
        rw [if_neg hopening, if_neg hopening]
        cases hname : nameInLine? line with
        | some name => rfl
        | none =>
          rw [hname] at h
          exact ih (h.imp_right (hskip (Bool.eq_false_iff.mpr hopening)))

namespace Block

/-- The search for the function of a comment ends in the text after it: it finds a name, or comes to
another comment. -/
def IsDecided (b : Block) : Prop :=
  (functionName? b.after).isSome ∨ ∃ line ∈ lines b.after, startsWith opening (trim line) = true

lemma functionName?_followedBy (h : b.IsDecided) (tail : List Char) :
    functionName? (b.followedBy ('\n' :: tail)).after = functionName? b.after := by
  have hlines : lines b.after <+: lines (b.followedBy ('\n' :: tail)).after :=
    lines_prefix_append_newline b.after tail
  obtain ⟨more, hmore⟩ := hlines
  rw [functionName?, ← hmore, nameInLines?_append ?_ more, functionName?]
  rwa [IsDecided, functionName?, Option.isSome_map] at h

lemma function?_followedBy (h : b.isCommentedOut = false → b.IsDecided) (tail : List Char) :
    (b.followedBy ('\n' :: tail)).function? = b.function? := by
  cases hout : b.isCommentedOut with
  | true =>
    have hout' : (b.followedBy ('\n' :: tail)).isCommentedOut = true := hout
    simp only [function?, hout, hout', if_true]
  | false =>
    have hout' : (b.followedBy ('\n' :: tail)).isCommentedOut = false := hout
    simp only [function?, hout, hout', functionName?_followedBy (h hout)]
    rfl

end Block

/-- The documented functions of a source in two parts are those of the first part and then those of
the second. If reading the first part fails, so does reading the whole, and if only reading the
second fails, the whole fails likewise. -/
theorem functions_append_newline (a b : List Char)
    (hcomplete : contains Block.opening (Block.textAfter a) = false)
    (hdecided : ∀ c ∈ Block.all a, c.isCommentedOut = false → c.IsDecided) :
    functions (a ++ '\n' :: b) = (do
      let first ← functions a
      let second ← functions b
      pure (first ++ second)) := by
  have hfirst : ((Block.all a).map (·.followedBy ('\n' :: b))).mapM Block.function? =
      (Block.all a).mapM Block.function? := by
    rw [List.mapM_map]
    refine mapM_congr_left fun c hc => ?_
    exact Block.function?_followedBy (hdecided c hc) b
  simp only [functions, Block.all_append hcomplete, List.mapM_append, hfirst]
  cases (Block.all a).mapM Block.function? with
  | error e => rfl
  | ok first =>
    cases (Block.all b).mapM Block.function? with
    | error e => rfl
    | ok second => simp [bind, Except.bind, pure, Except.pure]

/-- A documented function whose body goes on in the next part. -/
def firstPart : List Char := "/** Adds one. */\nfunction next(n) \x7b".toList

/-- The end of that body, and a comment with a type that is none. -/
def secondPart : List Char := "return n + 1 \x7d\n/** @param \x7btext\x7d s */".toList

theorem functions_firstPart_secondPart :
    contains Block.opening (Block.textAfter firstPart) = false ∧
      (∀ c ∈ Block.all firstPart, c.isCommentedOut = false → c.IsDecided) ∧
      functions (firstPart ++ '\n' :: secondPart) = (do
        let first ← functions firstPart
        let second ← functions secondPart
        pure (first ++ second)) := by
  have hcomplete : contains Block.opening (Block.textAfter firstPart) = false := by
    decide +kernel
  have hdecided : ∀ c ∈ Block.all firstPart, c.isCommentedOut = false → c.IsDecided := by
    have hall : Block.all firstPart =
        [⟨[], " Adds one. ".toList, "\nfunction next(n) \x7b".toList⟩] := by decide +kernel
    rw [hall]
    intro c hc _
    obtain rfl := List.mem_singleton.mp hc
    exact .inl (by decide +kernel)
  exact ⟨hcomplete, hdecided, functions_append_newline firstPart secondPart hcomplete hdecided⟩

end CallSchema.Jsdoc

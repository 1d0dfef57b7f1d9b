import CallSchema.Proofs.CommentPlaces
import CallSchema.Proofs.LineStarts
import CallSchema.Proofs.RejectedDeclarations
import CallSchema.Proofs.ShapeTexts
import CallSchema.Proofs.SourceParts

/-!
# Where the name of a documented function stands

The search for the function of a comment is told again with the place of the name it finds. A
comment that begins its line stops every search that starts before it, so the names of the functions
that comments document stand between the comments.
-/

namespace CallSchema.Jsdoc

open Text

variable {cs line tail : List Char}

/-- A name in a text. -/
structure NamePlace where
  before : List Char
  name : List Char
  after : List Char
  deriving DecidableEq, Repr

namespace NamePlace

def text (p : NamePlace) : List Char := p.before ++ p.name ++ p.after

/-- The number of characters of the text up to the end of the name. -/
def stop (p : NamePlace) : Nat := p.before.length + p.name.length

/-- The place in a longer text. -/
def within (front rest : List Char) (p : NamePlace) : NamePlace :=
  { before := front ++ p.before, name := p.name, after := p.after ++ rest }

lemma text_within (front rest : List Char) (p : NamePlace) :
    (p.within front rest).text = front ++ p.text ++ rest := by
  simp [within, text]

lemma stop_within (front rest : List Char) (p : NamePlace) :
    (p.within front rest).stop = front.length + p.stop := by
  simp only [within, stop, List.length_append]
  omega

end NamePlace

/-- The place in a line of the name of the first shape that stands in it. -/
def placeInLine? (line : List Char) : Option NamePlace :=
  shapes.findSome? fun shape => (shape.search? false line).map fun (name, after) =>
    { before := line.take (line.length - (name ++ after).length), name, after }

/-- The place in a text of the name of the first function declared in it: lines are passed over,
and end the search, as in the search for the name alone. -/
def namePlace? : List Char → Option NamePlace
  | [] => none
  | c :: cs =>
    let line := (cutLine (c :: cs)).1
    let ending := (cutLine (c :: cs)).2.1
    let rest := (cutLine (c :: cs)).2.2
    let later := (namePlace? rest).map (·.within (line ++ ending) [])
    let shown := trim line
    if shown.isEmpty || startsWith ['/', '/'] shown then later
    else if startsWith Block.opening shown then none
    else match placeInLine? line with
      | some p => some (p.within [] (ending ++ rest))
      | none => later
termination_by cs => cs.length
decreasing_by exact length_cutLine_rest_lt

lemma nameInLine?_eq_place (line : List Char) :
    nameInLine? line = (placeInLine? line).map (·.name) := by
  rw [nameInLine?, placeInLine?, List.map_findSome?]
  refine congrArg (List.findSome? · shapes) (funext fun shape => ?_)
  rw [Function.comp_apply, Option.map_map]
  rfl

lemma exists_of_placeInLine? {p : NamePlace} (h : placeInLine? line = some p) :
    p.text = line ∧ ∃ shape ∈ shapes, ∃ skipped rest, line = skipped ++ rest ∧
      endsInWord skipped = false ∧ shape.take? rest = some (p.name, p.after) := by
  obtain ⟨shape, hshape, hfound⟩ := List.exists_of_findSome?_eq_some h
  obtain ⟨⟨name, after⟩, hsearch, rfl⟩ := Option.map_eq_some_iff.mp hfound
  have hfront : shape.search? (endsInWord []) line = some (name, after) := hsearch
  obtain ⟨skipped, rest, hline, hword, htake⟩ := exists_of_search? hfront
  have hsuffix : name ++ after <:+ line := by
    rw [hline]
    exact (take?_suffix htake).trans (List.suffix_append skipped rest)
  refine ⟨?_, shape, hshape, skipped, rest, hline, by simpa using hword, htake⟩
  rw [NamePlace.text, List.append_assoc]
  exact List.suffix_iff_eq_append.mp hsuffix

lemma text_placeInLine? {p : NamePlace} (h : placeInLine? line = some p) : p.text = line :=
  (exists_of_placeInLine? h).1

section Search

variable {p : NamePlace}

lemma namePlace?_of_ne_nil (h : cs ≠ []) : namePlace? cs =
    if (trim (cutLine cs).1).isEmpty || startsWith ['/', '/'] (trim (cutLine cs).1) then
      (namePlace? (cutLine cs).2.2).map (·.within ((cutLine cs).1 ++ (cutLine cs).2.1) [])
    else if startsWith Block.opening (trim (cutLine cs).1) then none
    else match placeInLine? (cutLine cs).1 with
      | some p => some (p.within [] ((cutLine cs).2.1 ++ (cutLine cs).2.2))
      | none =>
        (namePlace? (cutLine cs).2.2).map (·.within ((cutLine cs).1 ++ (cutLine cs).2.1) []) := by
  obtain ⟨c, cs, rfl⟩ := List.exists_cons_of_ne_nil h
  rw [namePlace?]

lemma functionName?_eq_place (cs : List Char) :
    functionName? cs = (namePlace? cs).map fun p => String.ofList p.name := by
  by_cases hcs : cs = []
  · subst hcs
    rw [functionName?, lines, nameInLines?, namePlace?]
    rfl
  · have hshorter := length_cutLine_lt hcs
    have ih := functionName?_eq_place (cutLine cs).2.2
    have hlater : (namePlace? (cutLine cs).2.2).map (fun p => String.ofList p.name) =
        ((namePlace? (cutLine cs).2.2).map
          (·.within ((cutLine cs).1 ++ (cutLine cs).2.1) [])).map
            fun p => String.ofList p.name := by
      rw [Option.map_map]
      rfl
    rw [functionName?, lines_of_ne_nil hcs, nameInLines?, namePlace?_of_ne_nil hcs]
    rw [functionName?] at ih
    by_cases hpassed :
        ((trim (cutLine cs).1).isEmpty || startsWith ['/', '/'] (trim (cutLine cs).1)) = true
    · rw [if_pos hpassed, if_pos hpassed, ih, hlater]
    · rw [if_neg hpassed, if_neg hpassed]
      by_cases hopening : startsWith Block.opening (trim (cutLine cs).1) = true
      · rw [if_pos hopening, ← Block.opening, if_pos hopening]
        rfl
      · rw [if_neg hopening, ← Block.opening, if_neg hopening, nameInLine?_eq_place]
        cases placeInLine? (cutLine cs).1 with
        | some p => rfl
        | none => exact ih.trans hlater
termination_by cs.length

lemma namePlace?_cases (h : namePlace? cs = some p) :
    startsWith Block.opening (trim (cutLine cs).1) = false ∧
      ((∃ q, placeInLine? (cutLine cs).1 = some q ∧
          p = q.within [] ((cutLine cs).2.1 ++ (cutLine cs).2.2)) ∨
        ∃ q, namePlace? (cutLine cs).2.2 = some q ∧
          p = q.within ((cutLine cs).1 ++ (cutLine cs).2.1) []) := by
  have hcs : cs ≠ [] := by
    rintro rfl
    rw [namePlace?] at h
    cases h
  rw [namePlace?_of_ne_nil hcs] at h
  split at h
  · rename_i hpassed
    obtain ⟨q, hq, rfl⟩ := Option.map_eq_some_iff.mp h
    exact ⟨not_opening_of_passed hpassed, .inr ⟨q, hq, rfl⟩⟩
  · split at h
    · cases h
    · rename_i hopening
      refine ⟨Bool.eq_false_iff.mpr hopening, ?_⟩
      split at h
      · rename_i q hq
        exact .inl ⟨q, hq, (Option.some.inj h).symm⟩
      · obtain ⟨q, hq, rfl⟩ := Option.map_eq_some_iff.mp h
        exact .inr ⟨q, hq, rfl⟩

lemma text_namePlace? {cs : List Char} {p : NamePlace} (h : namePlace? cs = some p) :
    p.text = cs := by
  have hcs : cs ≠ [] := by
    rintro rfl
    rw [namePlace?] at h
    cases h
  obtain ⟨-, ⟨q, hq, rfl⟩ | ⟨q, hq, rfl⟩⟩ := namePlace?_cases h
  · rw [NamePlace.text_within, text_placeInLine? hq, List.nil_append, ← List.append_assoc,
      cutLine_append]
  · have hshorter := length_cutLine_lt hcs
    rw [NamePlace.text_within, text_namePlace? hq, List.append_nil, cutLine_append]
termination_by cs.length

/-- A search that would find nothing from a place on where a line starts finds what it finds before
that place. -/
lemma stop_le_of_startsLine {pre : List Char} {p : NamePlace} (hstart : StartsLine pre tail)
    (htail : namePlace? tail = none) (h : namePlace? (pre ++ tail) = some p) :
    p.stop ≤ pre.length := by
  by_cases hpre : pre = []
  · rw [hpre, List.nil_append, htail] at h
    cases h
  · obtain ⟨hcut, hrest⟩ := hstart.cutLine_append hpre
    have hlength := congrArg List.length (cutLine_append pre)
    simp only [List.length_append] at hlength
    obtain ⟨-, ⟨q, hq, rfl⟩ | ⟨q, hq, rfl⟩⟩ := namePlace?_cases h
    · rw [hcut] at hq
      have hline := congrArg List.length (text_placeInLine? hq)
      simp only [NamePlace.text, List.length_append] at hline
      rw [NamePlace.stop_within, NamePlace.stop, List.length_nil]
      omega
    · rw [hcut] at hq
      have hshorter := length_cutLine_lt hpre
      have ih := stop_le_of_startsLine hrest htail hq
      simp only [NamePlace.stop_within, hcut, List.length_append]
      omega
termination_by pre.length

lemma namePlace?_of_opening {blanks : List Char} (hblanks : ∀ c ∈ blanks, isBlank c = true)
    (hends : ∀ c ∈ blanks, isLineEnd c = false) (rest : List Char) :
    namePlace? (blanks ++ (Block.opening ++ rest)) = none := by
  have hline : (cutLine (blanks ++ (Block.opening ++ rest))).1 =
      blanks ++ (Block.opening ++ (cutLine rest).1) := by
    have hmark : ∀ c ∈ Block.opening, isLineEnd c = false := forall_of_any (by decide)
    rw [cutLine_append_left hends, cutLine_append_left hmark]
  refine Option.eq_none_iff_forall_ne_some.mpr fun p hp => ?_
  have hopening := (namePlace?_cases hp).1
  rw [hline, startsWith_trim hblanks (by decide) (forall_of_any (by decide))] at hopening
  cases hopening

end Search

namespace Block

variable {source : List Char} {b c d : Block} {earlier later : List Block}

/-- Where the name that is found after the comment starts and ends in the source. -/
def nameSpan? (source : List Char) (b : Block) : Option (Nat × Nat) :=
  (namePlace? b.after).map fun p => (b.stop source + p.before.length, b.stop source + p.stop)

/-- The text after the comment up to a later one. -/
def gapTo (b c : Block) : List Char :=
  b.after.take (b.after.length - (c.written ++ c.after).length)

/-- Only blanks stand before a later comment on its line, or between it and the comment. -/
def BeginsLineAfter (b c : Block) : Prop := ∀ x ∈ lastLine (b.gapTo c), isBlank x = true

instance (b c : Block) : Decidable (b.BeginsLineAfter c) :=
  decidable_of_iff ((lastLine (b.gapTo c)).all isBlank = true) List.all_eq_true

lemma after_eq_gapTo (hall : all source = earlier ++ b :: later) (hc : c ∈ later) :
    b.after = b.gapTo c ++ (c.written ++ c.after) := by
  obtain ⟨-, before, hlater⟩ := allFrom_eq_append hall
  obtain ⟨passed, rest, rfl⟩ := List.append_of_mem hc
  obtain ⟨⟨gap, hgap⟩, -⟩ := allFrom_eq_append hlater
  rw [gapTo, ← hgap, List.length_append, Nat.add_sub_cancel, List.take_left]

/-- A comment that begins its line stops a search that starts before it. -/
lemma stop_le_gapTo {p : NamePlace} (hall : all source = earlier ++ b :: later) (hc : c ∈ later)
    (hline : b.BeginsLineAfter c) (hp : namePlace? b.after = some p) :
    p.stop ≤ (b.gapTo c).length := by
  obtain ⟨front, hfront, hends⟩ := exists_eq_append_lastLine (b.gapTo c)
  have hafter : b.after =
      front ++ (lastLine (b.gapTo c) ++ (opening ++ (c.body ++ (closing ++ c.after)))) := by
    rw [after_eq_gapTo hall hc, written]
    nth_rewrite 1 [hfront]
    simp only [List.append_assoc]
  have hnone := namePlace?_of_opening hline (fun _ he => not_isLineEnd_of_mem_lastLine he)
    (c.body ++ (closing ++ c.after))
  have hstart : StartsLine front
      (lastLine (b.gapTo c) ++ (opening ++ (c.body ++ (closing ++ c.after)))) :=
    startsLine_blanks hends (fun _ he => not_isLineEnd_of_mem_lastLine he) (by rintro _ ⟨⟩; decide)
  rw [hafter] at hp
  have hstop := stop_le_of_startsLine hstart hnone hp
  have hlength := congrArg List.length hfront
  rw [List.length_append] at hlength
  omega

lemma place_of_function? {f : DocumentedFunction} (h : b.function? = .ok (some f)) :
    ∃ p, namePlace? b.after = some p ∧ p.name = f.functionName.toList := by
  cases hout : b.isCommentedOut with
  | true =>
    rw [function?_of_isCommentedOut hout] at h
    cases h
  | false =>
    rw [function?_of_shown hout, functionName?_eq_place] at h
    cases hplace : namePlace? b.after with
    | none =>
      rw [hplace] at h
      obtain ⟨ds, -, hnone⟩ := bind_pure_eq_ok_iff.mp h
      cases hnone
    | some p =>
      rw [hplace] at h
      obtain ⟨g, hg, hfound⟩ := bind_pure_eq_ok_iff.mp h
      obtain rfl := Option.some.inj hfound
      refine ⟨p, rfl, ?_⟩
      rw [(documentedBy_eq_ok_iff.mp hg).1, String.toList_ofList]

lemma start_lt_stop (hall : all source = earlier ++ c :: later) (hd : d ∈ c :: later) :
    c.start source < d.stop source := by
  have hc := (allFrom_eq_append hall).1.length_le
  have hwritten : 0 < c.written.length := by simp [written, opening]
  rw [start, stop]
  rw [List.length_append] at hc ⊢
  rcases List.mem_cons.mp hd with rfl | hd
  · omega
  · have hafter := congrArg List.length (after_eq_gapTo hall hd)
    simp only [List.length_append] at hafter
    omega

end Block

/-- A documented function has the name that stands where the search after its comment finds one:
behind the comment, before every later comment that begins its line, and so before the names of all
functions that comments from there on document. -/
theorem name_before_next_comment {source : List Char} {earlier later : List Block} {b : Block}
    {f : DocumentedFunction} (hall : Block.all source = earlier ++ b :: later)
    (hf : b.function? = .ok (some f)) :
    ∃ start stop, b.nameSpan? source = some (start, stop) ∧
      (source.drop start).take (stop - start) = f.functionName.toList ∧
      b.stop source ≤ start ∧
      ∀ passed c rest, later = passed ++ c :: rest → b.BeginsLineAfter c →
        stop ≤ c.start source ∧
          ∀ d ∈ c :: rest, ∀ start' stop', d.nameSpan? source = some (start', stop') →
            stop < start' := by
  obtain ⟨p, hp, hname⟩ := Block.place_of_function? hf
  have hspan : b.nameSpan? source = some (b.stop source + p.before.length, b.stop source + p.stop) := by
    rw [Block.nameSpan?, hp, Option.map_some]
  obtain ⟨⟨front, hfront⟩, -⟩ := Block.allFrom_eq_append hall
  have htext := text_namePlace? hp
  refine ⟨_, _, hspan, ?_, by omega, ?_⟩
  · have hsource : source = front ++ b.written ++ p.before ++ (p.name ++ p.after) := by
      rw [← hfront, ← htext, NamePlace.text]
      simp only [List.append_assoc]
    have hstart : b.stop source + p.before.length = (front ++ b.written ++ p.before).length := by
      have hlength := congrArg List.length hfront
      simp only [List.length_append] at hlength ⊢
      rw [Block.stop]
      omega
    have hstop : b.stop source + p.stop - (front ++ b.written ++ p.before).length =
        p.name.length := by
      rw [← hstart, NamePlace.stop]
      omega
    rw [hstart, hstop, hsource, List.drop_left, List.take_left, hname]
  · rintro passed c rest rfl hline
    have hc : c ∈ passed ++ c :: rest := List.mem_append_right passed List.mem_cons_self
    have hgap := Block.stop_le_gapTo hall hc hline hp
    have hafter := congrArg List.length (Block.after_eq_gapTo hall hc)
    have hsource := congrArg List.length hfront
    have hstop : b.stop source + p.stop ≤ c.start source := by
      simp only [List.length_append] at hafter hsource
      rw [Block.stop, Block.start, List.length_append]
      omega
    refine ⟨hstop, fun d hd start' stop' hd' => ?_⟩
    obtain ⟨q, -, hq⟩ := Option.map_eq_some_iff.mp hd'
    obtain ⟨rfl, -⟩ := Prod.mk.inj hq
    have hall' : Block.all source = (earlier ++ b :: passed) ++ c :: rest := by
      rw [hall, List.append_assoc, List.cons_append]
    have hlt := Block.start_lt_stop hall' hd
    omega

/-- Two comments that begin their lines, each with its function. -/
def separateComments : List Char :=
  "/** A */\nfunction f() \x7b\x7d\n  /** B */\nfunction g() \x7b\x7d\n".toList

theorem name_before_next_separateComments :
    ∃ b c, Block.all separateComments = [b, c] ∧
      b.function? = .ok (some ⟨"A", "f", []⟩) ∧ b.BeginsLineAfter c ∧
      ∃ start stop, b.nameSpan? separateComments = some (start, stop) ∧
        b.stop separateComments ≤ start ∧ stop ≤ c.start separateComments := by
  obtain ⟨b, hb⟩ : ∃ b : Block, b = ⟨[], " A ".toList, separateComments.drop 8⟩ := ⟨_, rfl⟩
  obtain ⟨c, hc⟩ : ∃ c : Block, c = ⟨[' ', ' '], " B ".toList, separateComments.drop 35⟩ :=
    ⟨_, rfl⟩
  have hall : Block.all separateComments = [] ++ b :: [c] := by
    rw [hb, hc]
    decide +kernel
  have hf : b.function? = .ok (some ⟨"A", "f", []⟩) := by
    rw [hb]
    with_unfolding_all rfl
  have hline : b.BeginsLineAfter c := by
    rw [hb, hc]
    decide +kernel
  obtain ⟨start, stop, hspan, -, hafter, hnext⟩ := name_before_next_comment hall hf
  exact ⟨b, c, hall, hf, hline, start, stop, hspan, hafter, (hnext [] c [] rfl hline).1⟩

/-- A comment that starts behind code on its line. -/
def commentBehindCode : List Char :=
  "/** A */\nx(); /** B */\nfunction f() \x7b\x7d\n".toList

/-- The search for the function of a comment does not see a comment that starts behind code, and
goes on to the function of that one. -/
theorem name_after_comment_behind_code :
    ∃ b c, Block.all commentBehindCode = [b, c] ∧
      b.function? = .ok (some ⟨"A", "f", []⟩) ∧ c.function? = .ok (some ⟨"B", "f", []⟩) ∧
      c.start commentBehindCode = 14 ∧ b.nameSpan? commentBehindCode = some (32, 33) ∧
      c.nameSpan? commentBehindCode = some (32, 33) := by
  refine ⟨⟨[], " A ".toList, commentBehindCode.drop 8⟩,
    ⟨"x(); ".toList, " B ".toList, commentBehindCode.drop 22⟩,
    by decide +kernel, ?_, ?_, by decide +kernel, by decide +kernel, by decide +kernel⟩
  · with_unfolding_all rfl
  · with_unfolding_all rfl

end CallSchema.Jsdoc

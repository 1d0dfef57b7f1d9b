import CallSchema.CommandLine.Run
import Mathlib.Tactic.Lemma

/-!
# The line about written schemas

The line that tells of the file opens two styles around its parts, and closes them again. A path
without an opening bracket holds no mark, and backslashes at its end at most keep the style behind
it open, so that the line always shows.
-/

namespace CallSchema.Markup

variable {styles : List (List Char)} {style cs ds name more path : List Char} {c : Char}

/-- The rest of a text shows inside open styles, wherever it stands. -/
def Shows (styles : List (List Char)) (cs : List Char) : Prop :=
  ∀ fuel position, ∃ t, plainFrom styles (pieces fuel position cs) = .ok t

lemma shows_nil (styles : List (List Char)) : Shows styles [] := by
  intro fuel position
  cases fuel <;> exact ⟨[], rfl⟩

lemma exists_plainFrom_text {s : List Char} {ps : List MarkupPiece}
    (h : ∃ t, plainFrom styles ps = .ok t) : ∃ t, plainFrom styles (.text s :: ps) = .ok t := by
  obtain ⟨t, ht⟩ := h
  rw [plainFrom, ht]
  exact ⟨s ++ t, rfl⟩

lemma pieces_cons (hopen : c ≠ '[') (hslash : c ≠ '\\') (fuel position : Nat) :
    pieces (fuel + 1) position (c :: cs) = .text [c] :: pieces fuel (position + 1) cs := by
  have hnone : (c :: cs).takeWhile (· == '\\') = [] := by
    rw [List.takeWhile_cons, if_neg (by simpa using hslash)]
  rw [pieces, hnone]
  simp only [List.length_nil, List.drop_zero]
  split
  · rename_i heq
    exact absurd (List.cons.inj heq).1 hopen
  · rfl

lemma shows_cons (hopen : c ≠ '[') (hslash : c ≠ '\\') (h : Shows styles cs) :
    Shows styles (c :: cs) := by
  intro fuel position
  cases fuel with
  | zero => exact ⟨[], rfl⟩
  | succ fuel =>
    rw [pieces_cons hopen hslash]
    exact exists_plainFrom_text (h fuel (position + 1))

lemma shows_append (h : ∀ c ∈ cs, c ≠ '[' ∧ c ≠ '\\') (hds : Shows styles ds) :
    Shows styles (cs ++ ds) := by
  induction cs with
  | nil => exact hds
  | cons c cs ih =>
    obtain ⟨hc, hcs⟩ := List.forall_mem_cons.mp h
    exact shows_cons hc.1 hc.2 (ih hcs)

lemma pieces_mark (hname : name? cs = some (name, more)) (fuel position : Nat) :
    pieces (fuel + 1) position ('[' :: cs) =
      .text [] :: .mark position name :: pieces fuel (position + name.length + 2) more := by
  have hnone : ('[' :: cs).takeWhile (· == '\\') = [] := rfl
  rw [pieces, hnone]
  simp only [List.length_nil, List.drop_zero, hname]
  rfl

lemma name?_append (hc : startsMark c = true) (hname : ∀ d ∈ name, d ≠ '[' ∧ d ≠ ']')
    (more : List Char) : name? (c :: (name ++ ']' :: more)) = some (c :: name, more) := by
  have hinner : (name ++ ']' :: more).takeWhile (fun d => d != '[' && d != ']') = name := by
    rw [List.takeWhile_append_of_pos fun d hd => by simpa using hname d hd, List.takeWhile_cons]
    exact List.append_nil name
  rw [name?, if_pos hc]
  simp only [hinner, List.drop_left]

lemma shows_opening (hc : startsMark c = true) (hclosing : c ≠ '/')
    (hname : ∀ d ∈ name, d ≠ '[' ∧ d ≠ ']')
    (h : Shows (styleName ((c :: name).takeWhile (· != '=')) :: styles) more) :
    Shows styles ('[' :: c :: (name ++ ']' :: more)) := by
  intro fuel position
  cases fuel with
  | zero => exact ⟨[], rfl⟩
  | succ fuel =>
    rw [pieces_mark (name?_append hc hname more)]
    refine exists_plainFrom_text ?_
    rw [plainFrom]
    · exact h fuel _
    · rintro closed hclosed
      exact hclosing (List.cons.inj hclosed).1

lemma shows_closing (h : Shows styles more) :
    Shows (style :: styles) ('[' :: '/' :: ']' :: more) := by
  intro fuel position
  cases fuel with
  | zero => exact ⟨[], rfl⟩
  | succ fuel =>
    rw [pieces_mark (rfl : name? ('/' :: ']' :: more) = some (['/'], more))]
    exact exists_plainFrom_text (h fuel _)

lemma exists_slashes (path : List Char) :
    ∃ k tail, path = List.replicate k '\\' ++ tail ∧ tail.head? ≠ some '\\' := by
  induction path with
  | nil => exact ⟨0, [], rfl, nofun⟩
  | cons c path ih =>
    by_cases hc : c = '\\'
    · obtain ⟨k, tail, rfl, htail⟩ := ih
      exact ⟨k + 1, tail, by rw [hc]; rfl, htail⟩
    · exact ⟨0, c :: path, rfl, fun h => hc (Option.some.inj h)⟩

lemma length_slashes (k : Nat) (cs : List Char) (h : cs.head? ≠ some '\\') :
    ((List.replicate k '\\' ++ cs).takeWhile (· == '\\')).length = k := by
  have hcs : cs.takeWhile (· == '\\') = [] := by
    cases cs with
    | nil => rfl
    | cons c cs =>
      have hc : c ≠ '\\' := fun hc => h (congrArg some hc)
      rw [List.takeWhile_cons, if_neg (by simpa using hc)]
  rw [List.takeWhile_append_of_pos (by simp), hcs, List.append_nil, List.length_replicate]

lemma pieces_slashes {k : Nat} (hslash : c ≠ '\\') (hopen : c ≠ '[') (fuel position : Nat) :
    pieces (fuel + 1) position (List.replicate (k + 1) '\\' ++ c :: cs) =
      .text (List.replicate (k + 1) '\\') :: pieces fuel (position + (k + 1)) (c :: cs) := by
  have hlength := length_slashes (k + 1) (c :: cs) fun h => hslash (Option.some.inj h)
  rw [List.replicate_succ, List.cons_append] at hlength ⊢
  rw [pieces, hlength]
  have hdrop : ('\\' :: (List.replicate k '\\' ++ c :: cs)).drop (k + 1) = c :: cs := by
    rw [List.drop_succ_cons, List.drop_left' List.length_replicate]
  simp only [hdrop]
  split
  · rename_i heq
    exact absurd (List.cons.inj heq).1 hopen
  · simp [List.replicate_succ]

/-- Of the backslashes before a mark every two stand for one, and one that is left makes the mark
a text. -/
lemma pieces_slashes_mark {k : Nat} (hname : name? cs = some (name, more)) (fuel position : Nat) :
    pieces (fuel + 1) position (List.replicate (k + 1) '\\' ++ '[' :: cs) =
      if (k + 1) % 2 = 1 then
        .text (List.replicate ((k + 1) / 2) '\\' ++ '[' :: name ++ [']'])
          :: pieces fuel (position + (k + 1) + name.length + 2) more
      else .text (List.replicate ((k + 1) / 2) '\\') :: .mark (position + (k + 1)) name
        :: pieces fuel (position + (k + 1) + name.length + 2) more := by
  have hlength := length_slashes (k + 1) ('[' :: cs) nofun
  rw [List.replicate_succ, List.cons_append] at hlength ⊢
  rw [pieces, hlength]
  have hdrop : ('\\' :: (List.replicate k '\\' ++ '[' :: cs)).drop (k + 1) = '[' :: cs := by
    rw [List.drop_succ_cons, List.drop_left' List.length_replicate]
  simp only [hdrop, hname]

/-- A path without an opening bracket shows with the mark that closes its style, and so does the
path if its backslashes make that mark a text. -/
lemma shows_path (h : '[' ∉ path) (style : List Char) (styles : List (List Char)) :
    Shows (style :: styles) (path ++ ['[', '/', ']']) := by
  intro fuel position
  induction fuel generalizing path position with
  | zero => exact ⟨[], rfl⟩
  | succ fuel ih =>
    obtain ⟨k, tail, rfl, htail⟩ := exists_slashes path
    rw [List.append_assoc]
    cases tail with
    | nil =>
      cases k with
      | zero => exact shows_closing (shows_nil styles) (fuel + 1) position
      | succ k =>
        rw [List.nil_append, pieces_slashes_mark (rfl : name? ['/', ']'] = some (['/'], []))]
        split
        · exact exists_plainFrom_text (shows_nil _ fuel _)
        · exact exists_plainFrom_text (shows_nil styles fuel _)
    | cons c tail =>
      have hslash : c ≠ '\\' := fun hc => htail (congrArg some hc)
      have hopen : c ≠ '[' := by
        rintro rfl
        exact h (List.mem_append_right _ List.mem_cons_self)
      cases k with
      | zero =>
        have htail : '[' ∉ tail := fun hc => h (List.mem_cons_of_mem c hc)
        rw [List.replicate_zero, List.nil_append, List.cons_append, pieces_cons hopen hslash]
        exact exists_plainFrom_text (ih htail (position + 1))
      | succ k =>
        rw [List.cons_append, pieces_slashes hslash hopen]
        have htail : '[' ∉ c :: tail := fun hc => h (List.mem_append_right _ hc)
        exact exists_plainFrom_text (ih htail _)

/-- The line about the schemas that were written always shows. -/
theorem exists_plain_writtenLine {path : String} (h : '[' ∉ path.toList) (count : Nat) :
    ∃ line, plain (Terminal.writtenLine count path) = .ok line := by
  have hcount : ∀ c ∈ (toString count).toList, c ≠ '[' ∧ c ≠ '\\' := by
    intro c hc
    have hdigit : c.isDigit = true := by
      rw [Nat.toString_eq_repr, Nat.toList_repr] at hc
      exact Nat.isDigit_of_mem_toDigits (by decide) (by decide) hc
    constructor <;> rintro rfl <;> cases hdigit
  obtain ⟨bold, completed, hbold, hcompleted, hstart⟩ : ∃ bold completed : List Char,
      (∀ d ∈ bold, d ≠ '[' ∧ d ≠ ']') ∧ (∀ c ∈ completed, c ≠ '[' ∧ c ≠ '\\') ∧
        "[bold green]Schema generation completed![/] ".toList =
          '[' :: 'b' :: (bold ++ ']' :: (completed ++ ['[', '/', ']', ' '])) :=
    ⟨"old green".toList, "Schema generation completed!".toList, by simp, by simp, rfl⟩
  obtain ⟨written, blue, hwritten, hblue, hpath⟩ : ∃ written blue : List Char,
      (∀ c ∈ written, c ≠ '[' ∧ c ≠ '\\') ∧ (∀ d ∈ blue, d ≠ '[' ∧ d ≠ ']') ∧
        " schemas written to [blue]".toList = written ++ '[' :: 'b' :: (blue ++ [']']) :=
    ⟨" schemas written to ".toList, "lue".toList, by simp, by simp, rfl⟩
  have hend : "[/]".toList = ['[', '/', ']'] := rfl
  have hshows : Shows [] (Terminal.writtenLine count path).toList := by
    unfold Terminal.writtenLine
    simp only [String.toList_append, hstart, hpath, hend, List.append_assoc, List.cons_append,
      List.nil_append]
    refine shows_opening rfl (by decide) hbold ?_
    refine shows_append hcompleted (shows_closing ?_)
    refine shows_cons (by decide) (by decide) (shows_append hcount ?_)
    refine shows_append hwritten ?_
    exact shows_opening rfl (by decide) hblue (shows_path h _ [])
  obtain ⟨t, ht⟩ := hshows ((Terminal.writtenLine count path).length + 1) 0
  rw [plain, ht]
  exact ⟨_, rfl⟩

end CallSchema.Markup

import CallSchema.Proofs.TextPieces
import Mathlib.Data.List.DropRight

/-!
# Places where a line starts

A text in two parts whose second part starts a line has the lines of the first part and then those
of the second. A mark without line ends does not reach across such a place.
-/

namespace CallSchema.Text

variable {a c cs line ending rest tail mark : List Char} {e : Char}

/-- A line starts between two parts of a text: at the front of the text, or after a line end that
the second part does not go on with. -/
def StartsLine (a c : List Char) : Prop :=
  ∀ e ∈ a.getLast?, isLineEnd e = true ∧ (e = '\r' → c.head? ≠ some '\n')

instance (a c : List Char) : Decidable (StartsLine a c) :=
  match h : a.getLast? with
  | none => .isTrue (by simp [StartsLine, h])
  | some e => decidable_of_iff (isLineEnd e = true ∧ (e = '\r' → c.head? ≠ some '\n'))
      (by simp [StartsLine, h])

/-- The text after the last line end. -/
def lastLine (cs : List Char) : List Char := cs.rtakeWhile (!isLineEnd ·)

lemma StartsLine.nil (c : List Char) : StartsLine [] c := nofun

lemma startsLine_of_head (ha : ∀ e ∈ a.getLast?, isLineEnd e = true)
    (hc : ∀ x ∈ c.head?, isLineEnd x = false) : StartsLine a c := by
  refine fun e he => ⟨ha e he, fun _ hhead => ?_⟩
  have hnewline := hc '\n' hhead
  rw [isLineEnd_newline] at hnewline
  cases hnewline

lemma startsLine_blanks {blanks : List Char} (ha : ∀ e ∈ a.getLast?, isLineEnd e = true)
    (hblanks : ∀ x ∈ blanks, isLineEnd x = false) (hc : ∀ x ∈ c.head?, isLineEnd x = false) :
    StartsLine a (blanks ++ c) := by
  refine startsLine_of_head ha fun x hx => ?_
  cases blanks with
  | nil => exact hc x hx
  | cons y ys =>
    obtain rfl : y = x := by simpa using hx
    exact hblanks y List.mem_cons_self

lemma StartsLine.of_append {b : List Char} (h : StartsLine (a ++ b) c) : StartsLine b c := by
  intro e he
  refine h e ?_
  rw [Option.mem_def] at he ⊢
  rw [List.getLast?_append, he]
  rfl

lemma cutLine_append_left (h : ∀ c ∈ line, isLineEnd c = false) (tail : List Char) :
    cutLine (line ++ tail) = (line ++ (cutLine tail).1, (cutLine tail).2.1, (cutLine tail).2.2) := by
  induction line with
  | nil => rfl
  | cons c line ih =>
    rw [List.cons_append, cutLine_cons (h c List.mem_cons_self),
      ih fun d hd => h d (List.mem_cons_of_mem c hd)]
    rfl

/-- The first line of a text that ends where a line starts is a whole line, and a line starts at the
end of the rest. -/
lemma StartsLine.cutLine_append (h : StartsLine a c) (hne : a ≠ []) :
    cutLine (a ++ c) = ((cutLine a).1, (cutLine a).2.1, (cutLine a).2.2 ++ c) ∧
      StartsLine (cutLine a).2.2 c := by
  fun_induction cutLine a with
  | case1 => exact absurd rfl hne
  | case2 cs =>
    exact ⟨by simp [cutLine], StartsLine.of_append (a := ['\r', '\n']) h⟩
  | case3 d cs hpair hend =>
    refine ⟨cutLine_end hend fun rest hd hrest => ?_, StartsLine.of_append (a := [d]) h⟩
    cases cs with
    | nil =>
      have hc : c = '\n' :: rest := hrest
      exact (h d rfl).2 hd (by rw [hc, List.head?_cons])
    | cons x cs =>
      obtain ⟨rfl, -⟩ := List.cons.inj hrest
      exact hpair cs hd rfl
  | case4 d cs hpair hend line ending rest hcut ih =>
    have hcs : cs ≠ [] := by
      rintro rfl
      exact hend (h d rfl).1
    obtain ⟨heq, hrest⟩ := ih (StartsLine.of_append (a := [d]) h) hcs
    rw [hcut] at heq hrest
    rw [List.cons_append, cutLine_cons (Bool.eq_false_iff.mpr hend), heq]
    exact ⟨rfl, hrest⟩

lemma length_cutLine_lt (hne : cs ≠ []) : (cutLine cs).2.2.length < cs.length := by
  obtain ⟨c, cs, rfl⟩ := List.exists_cons_of_ne_nil hne
  exact length_cutLine_rest_lt

theorem lines_append_of_startsLine (a c : List Char) (h : StartsLine a c) :
    lines (a ++ c) = lines a ++ lines c := by
  by_cases hne : a = []
  · rw [hne, List.nil_append, lines, List.nil_append]
  · obtain ⟨hcut, hrest⟩ := h.cutLine_append hne
    have hshorter := length_cutLine_lt hne
    have hne' : a ++ c ≠ [] := fun hnil => hne (List.append_eq_nil_iff.mp hnil).1
    rw [lines_of_ne_nil hne', lines_of_ne_nil hne, hcut, List.cons_append,
      lines_append_of_startsLine (cutLine a).2.2 c hrest]
termination_by a.length

lemma exists_eq_append_lastLine (cs : List Char) :
    ∃ front, cs = front ++ lastLine cs ∧ ∀ e ∈ front.getLast?, isLineEnd e = true := by
  refine ⟨cs.rdropWhile (!isLineEnd ·), List.rdropWhile_append_rtakeWhile.symm, ?_⟩
  intro e he
  obtain ⟨hne, rfl⟩ := List.mem_getLast?_eq_getLast he
  simpa using List.rdropWhile_last_not _ _ hne

lemma not_isLineEnd_of_mem_lastLine (he : e ∈ lastLine cs) : isLineEnd e = false := by
  simpa using List.mem_rtakeWhile_imp he

lemma prefix_trimRight (hmark : ∀ c ∈ mark, isBlank c = false) (tail : List Char) :
    mark <+: trimRight (mark ++ tail) := by
  have hreverse : mark.reverse.dropWhile isBlank = mark.reverse :=
    trimLeft_of_forall fun c hc => hmark c (List.mem_reverse.mp hc)
  rw [trimRight, dropTailWhile, List.reverse_append, List.dropWhile_append, hreverse]
  split
  · rw [List.reverse_reverse]
  · rw [List.reverse_append, List.reverse_reverse]
    exact List.prefix_append mark _

lemma startsWith_trim {blanks : List Char} (hblanks : ∀ c ∈ blanks, isBlank c = true)
    (hne : mark ≠ []) (hmark : ∀ c ∈ mark, isBlank c = false) (tail : List Char) :
    startsWith mark (trim (blanks ++ (mark ++ tail))) = true := by
  obtain ⟨c, cs, rfl⟩ := List.exists_cons_of_ne_nil hne
  rw [startsWith_iff, trim, trimLeft_append hblanks, List.cons_append,
    trimLeft_cons (hmark c List.mem_cons_self)]
  exact prefix_trimRight hmark tail

end CallSchema.Text

import CallSchema.Jsdoc.Source
import CallSchema.Proofs.TextPieces

/-!
# Comments of a text in two parts

A text that is followed by a newline and more text keeps its comments, and the comments of what
follows come after them as if it stood alone. No comment may be open where the first part ends.
-/

namespace CallSchema.Jsdoc.Block

open Text

variable {before before' older cs a : List Char} {b : Block}

/-- The comment with more text after it. -/
def followedBy (tail : List Char) (b : Block) : Block := { b with after := b.after ++ tail }

/-- The text after the last comment, or the whole text if there is none. -/
def textAfter (source : List Char) : List Char :=
  ((all source).getLast?.map (·.after)).getD source

/-- The comment that starts after a text and holds an inner text, and the text up to its end, the
last character first. -/
def here (before skipped body after : List Char) : List Char × Block :=
  let b : Block :=
    { lead := ((skipped.reverse ++ before).takeWhile (· != '\n')).reverse, body, after }
  (b.written.reverse ++ (skipped.reverse ++ before), b)

lemma next?_eq (before cs : List Char) :
    next? before cs = (cutAt? opening cs).bind fun (skipped, inner) =>
      (cutAt? closing inner).map fun (body, after) => here before skipped body after := by
  induction cs generalizing before with
  | nil => rfl
  | cons c cs ih =>
    rw [next?, cutAt?]
    cases dropStart? opening (c :: cs) with
    | some inner => rfl
    | none =>
      simp only [ih]
      cases cutAt? opening cs with
      | none => rfl
      | some found => simp [here]

lemma allFrom_eq (before cs : List Char) : allFrom before cs =
    match next? before cs with
    | none => []
    | some (before', b) => b :: allFrom before' b.after := by
  rw [allFrom]
  split <;> simp_all

lemma next?_append_right (h : next? before cs = some (before', b)) (tail : List Char) :
    next? before (cs ++ tail) = some (before', b.followedBy tail) := by
  rw [next?_eq] at h
  obtain ⟨⟨skipped, inner⟩, hopening, hrest⟩ := Option.bind_eq_some_iff.mp h
  obtain ⟨⟨body, after⟩, hclosing, hhere⟩ := Option.map_eq_some_iff.mp hrest
  rw [next?_eq, cutAt?_append_right hopening tail]
  simp only [Option.bind_some, cutAt?_append_right hclosing tail, Option.map_some]
  obtain ⟨rfl, rfl⟩ := Prod.mk.inj hhere
  rfl

lemma next?_append_cons {c : Char} (hc : c ∉ opening) (h : contains opening cs = false)
    (before tail : List Char) :
    next? before (cs ++ c :: tail) = next? (c :: cs.reverse ++ before) tail := by
  rw [next?_eq, next?_eq, cutAt?_append_cons (by decide) hc h]
  cases cutAt? opening tail with
  | none => rfl
  | some found => simp [here]

lemma takeWhile_append_newline (xs ys : List Char) :
    (xs ++ '\n' :: ys).takeWhile (· != '\n') = xs.takeWhile (· != '\n') := by
  induction xs with
  | nil => rfl
  | cons x xs ih => simp only [List.cons_append, List.takeWhile_cons, ih]

/-- What stands before the last newline is not on the line of a comment. -/
lemma next?_older (before older cs : List Char) :
    next? (before ++ '\n' :: older) cs =
      (next? before cs).map fun (before', b) => (before' ++ '\n' :: older, b) := by
  have hhere : ∀ skipped body after, here (before ++ '\n' :: older) skipped body after =
      ((here before skipped body after).1 ++ '\n' :: older,
        (here before skipped body after).2) := by
    intro skipped body after
    simp only [here, ← List.append_assoc, takeWhile_append_newline, written]
  rw [next?_eq, next?_eq]
  cases cutAt? opening cs with
  | none => rfl
  | some found =>
    obtain ⟨skipped, inner⟩ := found
    simp only [Option.bind_some, Option.map_map, hhere]
    rfl

lemma allFrom_older (before older cs : List Char) :
    allFrom (before ++ '\n' :: older) cs = allFrom before cs := by
  rw [allFrom_eq, allFrom_eq, next?_older]
  cases hnext : next? before cs with
  | none => rfl
  | some found =>
    obtain ⟨before', b⟩ := found
    have hshorter := length_after_lt_of_next? hnext
    simp only [Option.map_some, allFrom_older before' older b.after]
termination_by cs.length

lemma allFrom_append_newline (h : contains opening cs = false) (before tail : List Char) :
    allFrom before (cs ++ '\n' :: tail) = all tail := by
  rw [allFrom_eq, next?_append_cons (by decide) h, ← allFrom_eq, List.cons_append]
  exact allFrom_older [] (cs.reverse ++ before) tail

lemma allFrom_append (before a tail : List Char)
    (h : contains opening (((allFrom before a).getLast?.map (·.after)).getD a) = false) :
    allFrom before (a ++ '\n' :: tail) =
      (allFrom before a).map (·.followedBy ('\n' :: tail)) ++ all tail := by
  rw [allFrom_eq before a] at h ⊢
  cases hnext : next? before a with
  | none =>
    simp only [hnext] at h ⊢
    exact allFrom_append_newline h before tail
  | some found =>
    obtain ⟨before', b⟩ := found
    have hshorter := length_after_lt_of_next? hnext
    simp only [hnext, List.getLast?_cons, Option.map_some, Option.getD_some] at h
    have hrest : contains opening
        (((allFrom before' b.after).getLast?.map (·.after)).getD b.after) = false := by
      cases hlast : (allFrom before' b.after).getLast? <;> simpa [hlast] using h
    rw [allFrom_eq, next?_append_right hnext]
    simp only [followedBy, List.map_cons, List.cons_append]
    rw [allFrom_append before' b.after tail hrest]
    rfl
termination_by a.length

/-- The comments of a text that a newline and more text follow are the comments of the text and the
comments of what follows, if no opening mark stands after the last comment of the text. -/
theorem all_append (h : contains opening (textAfter a) = false) (tail : List Char) :
    all (a ++ '\n' :: tail) = (all a).map (·.followedBy ('\n' :: tail)) ++ all tail :=
  allFrom_append [] a tail h

end CallSchema.Jsdoc.Block

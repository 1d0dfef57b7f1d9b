import CallSchema.Proofs.CommentBlocks

/-!
# Where the comments of a source stand

The search for comments goes on after each comment it finds. What was read before matters only for
the line on which a comment starts.
-/

namespace CallSchema.Jsdoc.Block

open Text

variable {before before' cs : List Char} {b : Block} {earlier later : List Block}

/-- The number of characters of the source before the comment. -/
def start (source : List Char) (b : Block) : Nat :=
  source.length - (b.written ++ b.after).length

/-- The number of characters of the source up to the end of the comment. -/
def stop (source : List Char) (b : Block) : Nat := source.length - b.after.length

/-- The line up to a place, given what was read before it, the last character first. -/
def lineBefore (before : List Char) : List Char := (before.takeWhile (· != '\n')).reverse

lemma next?_eq_some (h : next? before cs = some (before', b)) :
    ∃ skipped, cs = skipped ++ (b.written ++ b.after) ∧
      before' = b.written.reverse ++ (skipped.reverse ++ before) ∧
      b.lead = lineBefore (skipped.reverse ++ before) := by
  rw [next?_eq] at h
  obtain ⟨⟨skipped, inner⟩, hopening, hrest⟩ := Option.bind_eq_some_iff.mp h
  obtain ⟨⟨body, after⟩, hclosing, hhere⟩ := Option.map_eq_some_iff.mp hrest
  obtain ⟨rfl, rfl⟩ := Prod.mk.inj hhere
  refine ⟨skipped, ?_, rfl, rfl⟩
  rw [cutAt?_eq_some hopening, cutAt?_eq_some hclosing]
  simp [written]

lemma allFrom_eq_append {before cs : List Char} {earlier : List Block}
    (h : allFrom before cs = earlier ++ b :: later) :
    b.written ++ b.after <:+ cs ∧ ∃ before', allFrom before' b.after = later := by
  rw [allFrom_eq] at h
  cases hnext : next? before cs with
  | none => simp [hnext] at h
  | some found =>
    obtain ⟨before', first⟩ := found
    have hshorter := length_after_lt_of_next? hnext
    obtain ⟨skipped, hcs, -⟩ := next?_eq_some hnext
    have hfirst : first.written ++ first.after <:+ cs := ⟨skipped, hcs.symm⟩
    rw [hnext] at h
    cases earlier with
    | nil =>
      obtain ⟨rfl, hlater⟩ := List.cons.inj h
      exact ⟨hfirst, before', hlater⟩
    | cons e earlier =>
      obtain ⟨hsuffix, hlater⟩ := allFrom_eq_append (List.cons.inj h).2
      exact ⟨hsuffix.trans ((List.suffix_append first.written first.after).trans hfirst), hlater⟩
termination_by cs.length

/-- The search in a text is the same when more text follows, up to a place from which no comment is
complete. -/
lemma exists_scanned (before a : List Char) :
    ∃ done rest, a = done ++ rest ∧ next? (done.reverse ++ before) rest = none ∧
      rest = ((allFrom before a).getLast?.map (·.after)).getD a ∧
      ∀ tail, allFrom before (a ++ tail) =
        (allFrom before a).map (·.followedBy tail) ++
          allFrom (done.reverse ++ before) (rest ++ tail) := by
  cases hnext : next? before a with
  | none =>
    have hnil : allFrom before a = [] := by rw [allFrom_eq, hnext]
    exact ⟨[], a, rfl, hnext, by rw [hnil]; rfl, fun tail => by rw [hnil]; rfl⟩
  | some found =>
    obtain ⟨before', b⟩ := found
    have hshorter := length_after_lt_of_next? hnext
    obtain ⟨skipped, ha, rfl, -⟩ := next?_eq_some hnext
    obtain ⟨done, rest, hafter, hrest, hlast, htail⟩ := exists_scanned
      (b.written.reverse ++ (skipped.reverse ++ before)) b.after
    have hreverse : (skipped ++ (b.written ++ done)).reverse ++ before =
        done.reverse ++ (b.written.reverse ++ (skipped.reverse ++ before)) := by
      simp only [List.reverse_append, List.append_assoc]
    have hall : allFrom before a =
        b :: allFrom (b.written.reverse ++ (skipped.reverse ++ before)) b.after := by
      rw [allFrom_eq, hnext]
    refine ⟨skipped ++ (b.written ++ done), rest, ?_, ?_, ?_, fun tail => ?_⟩
    · rw [List.append_assoc, List.append_assoc, ← hafter, ← ha]
    · rw [hreverse]
      exact hrest
    · rw [hlast, hall, List.getLast?_cons]
      cases (allFrom (b.written.reverse ++ (skipped.reverse ++ before)) b.after).getLast? <;> rfl
    · rw [hreverse, allFrom_eq, next?_append_right hnext, hall]
      exact congrArg (b.followedBy tail :: ·) (htail tail)
termination_by a.length

/-- Searches that start with different texts before find the same comments. Only the lines on which
these start differ, and only by what was read before. -/
lemma forall₂_allFrom {R : List Char → List Char → Prop}
    (hR : ∀ xs s t, R s t → R (xs ++ s) (xs ++ t)) {s t : List Char} (h : R s t)
    (cs : List Char) :
    List.Forall₂ (fun b b' => b.body = b'.body ∧ b.after = b'.after ∧
      ∃ s' t', R s' t' ∧ b.lead = lineBefore s' ∧ b'.lead = lineBefore t')
      (allFrom s cs) (allFrom t cs) := by
  rw [allFrom_eq s, allFrom_eq t]
  cases hs : next? s cs with
  | none =>
    have ht : next? t cs = none := by
      rw [next?_eq] at hs ⊢
      simpa using hs
    rw [ht]
    exact .nil
  | some found =>
    obtain ⟨s', b⟩ := found
    have hshorter := length_after_lt_of_next? hs
    rw [next?_eq] at hs
    obtain ⟨⟨skipped, inner⟩, hopening, hrest⟩ := Option.bind_eq_some_iff.mp hs
    obtain ⟨⟨body, after⟩, hclosing, hhere⟩ := Option.map_eq_some_iff.mp hrest
    obtain ⟨rfl, rfl⟩ := Prod.mk.inj hhere
    have ht : next? t cs = some (here t skipped body after) := by
      simp only [next?_eq, hopening, Option.bind_some, hclosing, Option.map_some]
    have hskipped := hR skipped.reverse s t h
    rw [ht]
    exact .cons ⟨rfl, rfl, _, _, hskipped, rfl, rfl⟩
      (forall₂_allFrom hR (hR _ _ _ hskipped) after)
termination_by cs.length

end CallSchema.Jsdoc.Block

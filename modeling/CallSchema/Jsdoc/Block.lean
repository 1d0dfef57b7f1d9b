import CallSchema.Jsdoc.Declaration
import CallSchema.Text.Lines

/-!
Documentation comments: where they stand in a source, and what the text inside one says.
-/

namespace CallSchema.Jsdoc

open Text

/-- A documentation comment in a source: what stands before it on its line, its inner text, and the
rest of the source. -/
structure Block where
  lead : List Char
  body : List Char
  after : List Char
  deriving DecidableEq, Repr

namespace Block

def opening : List Char := ['/', '*', '*']

def closing : List Char := ['*', '/']

/-- The comment as it is written. -/
def written (b : Block) : List Char := opening ++ b.body ++ closing

/-- The first comment of a text. `before` holds what was read before the text, the last character
first. -/
def next? (before : List Char) : List Char → Option (List Char × Block)
  | [] => none
  | c :: cs =>
    match dropStart? opening (c :: cs) with
    | none => next? (c :: before) cs
    | some inner =>
      (cutAt? closing inner).map fun (body, after) =>
        let b : Block := { lead := (before.takeWhile (· != '\n')).reverse, body, after }
        (b.written.reverse ++ before, b)

theorem length_cutAt?_le {mark cs body after : List Char}
    (h : cutAt? mark cs = some (body, after)) : after.length ≤ cs.length := by
  induction cs generalizing body with
  | nil =>
    simp only [cutAt?] at h
    split at h <;> simp_all
  | cons c cs ih =>
    rw [cutAt?] at h
    split at h
    · rename_i rest hrest
      have : ∀ {start ds rest : List Char}, dropStart? start ds = some rest →
          rest.length ≤ ds.length := by
        intro start ds rest hd
        fun_induction dropStart? start ds <;> simp_all
        omega
      have := this hrest
      simp_all
    · simp only [Option.map_eq_some_iff, Prod.mk.injEq, Prod.exists] at h
      obtain ⟨x, y, hxy, _, rfl⟩ := h
      have := ih hxy
      simp only [List.length_cons]
      omega

theorem length_after_lt_of_next? {before cs before' : List Char} {b : Block}
    (h : next? before cs = some (before', b)) : b.after.length < cs.length := by
  induction cs generalizing before with
  | nil => simp [next?] at h
  | cons c cs ih =>
    rw [next?] at h
    split at h
    · have := ih h
      simp only [List.length_cons]
      omega
    · rename_i inner hinner
      simp only [Option.map_eq_some_iff, Prod.mk.injEq, Prod.exists] at h
      obtain ⟨body, after, hcut, _, rfl⟩ := h
      have hle := length_cutAt?_le hcut
      have hlt : inner.length < (c :: cs).length := by
        simp only [opening, dropStart?] at hinner
        split at hinner
        · cases cs with
          | nil => simp [dropStart?] at hinner
          | cons d ds =>
            simp only [dropStart?] at hinner
            split at hinner
            · cases ds with
              | nil => simp [dropStart?] at hinner
              | cons e es =>
                simp only [dropStart?] at hinner
                split at hinner <;> simp_all
                omega
            · simp at hinner
        · simp at hinner
      exact Nat.lt_of_le_of_lt hle hlt

/-- The comments of a text, in order. -/
def allFrom (before cs : List Char) : List Block :=
  match _h : next? before cs with
  | none => []
  | some (before', b) => b :: allFrom before' b.after
termination_by cs.length
decreasing_by exact length_after_lt_of_next? _h

def all (source : List Char) : List Block := allFrom [] source

/-- Whether a line comment stands before the comment on its line, or takes up one of its lines. -/
def isCommentedOut (b : Block) : Bool :=
  contains ['/', '/'] b.lead
    || (lines b.written).any fun line => startsWith ['/', '/'] (trimLeft line)

end Block

/-- A line without the star before it and the blanks around it. -/
def stripDecoration (line : List Char) : List Char :=
  match trimLeft line with
  | '*' :: rest => trim rest
  | _ => trim line

/-- The lines before the first tag, put on one line. -/
def leadingDescription (lines : List (List Char)) : List Char :=
  joinWith [' '] ((lines.takeWhile fun l => l.head? != some '@').filter (!·.isEmpty))

/-- The text after the first `@description` tag. -/
def explicitDescription (lines : List (List Char)) : List Char :=
  (lines.findSome? fun l => (dropStart? "@description".toList l).map trim).getD []

/-- The description and the declarations of a comment's inner text. -/
def readBody (body : List Char) : Except Failure (String × List Declaration) := do
  let shown := (lines body).map stripDecoration
  let explicit := explicitDescription shown
  let declarations ← (shown.filter isDeclaration).mapM Declaration.parse
  let description := if explicit.isEmpty then leadingDescription shown else explicit
  pure (String.ofList description, declarations)

end CallSchema.Jsdoc

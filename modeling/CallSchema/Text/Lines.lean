import CallSchema.Text.Class

/-!
Lines of a text. Any of the line ends closes a line; the text after the last one is a line of its
own only if it is not empty.
-/

namespace CallSchema.Text

/-- The text up to the first line end, that line end, and the rest. -/
def cutLine : List Char → List Char × List Char × List Char
  | [] => ([], [], [])
  | '\r' :: '\n' :: cs => ([], ['\r', '\n'], cs)
  | c :: cs =>
    if isLineEnd c then ([], [c], cs)
    else
      let (line, ending, rest) := cutLine cs
      (c :: line, ending, rest)

theorem cutLine_append (cs : List Char) :
    (cutLine cs).1 ++ (cutLine cs).2.1 ++ (cutLine cs).2.2 = cs := by
  fun_induction cutLine cs <;> simp_all

theorem length_cutLine_rest_lt {c : Char} {cs : List Char} :
    (cutLine (c :: cs)).2.2.length < (c :: cs).length := by
  have key : ∀ ds : List Char, ds ≠ [] → (cutLine ds).2.2.length < ds.length := by
    intro ds
    fun_induction cutLine ds with
    | case1 => simp
    | case2 => simp only [List.length_cons]; omega
    | case3 => simp
    | case4 c cs _ _ line ending rest h ih =>
      intro _
      cases cs with
      | nil => simp_all [cutLine]
      | cons d ds => simp_all; omega
  exact key _ (by simp)

/-- The lines of a text without their ends. -/
def lines : List Char → List (List Char)
  | [] => []
  | c :: cs => (cutLine (c :: cs)).1 :: lines (cutLine (c :: cs)).2.2
termination_by cs => cs.length
decreasing_by exact length_cutLine_rest_lt

/-- The lines of a text in which only newlines end a line; a final newline is followed by an
empty line. -/
def newlineLines : List Char → List (List Char)
  | [] => [[]]
  | c :: cs =>
    if c = '\n' then [] :: newlineLines cs
    else match newlineLines cs with
      | [] => [[c]]
      | line :: rest => (c :: line) :: rest

/-- Writes every carriage return, alone or before a newline, as a newline. -/
def unifyNewlines : List Char → List Char
  | [] => []
  | '\r' :: '\n' :: cs => '\n' :: unifyNewlines cs
  | c :: cs => (if c = '\r' then '\n' else c) :: unifyNewlines cs

end CallSchema.Text

import CallSchema.Text.Class

/-!
Trimming and cutting of texts, as functions on lists of characters.
-/

namespace CallSchema.Text

def trimLeft (cs : List Char) : List Char := cs.dropWhile isBlank

/-- Drops the longest tail whose characters all satisfy `p`. -/
def dropTailWhile (p : Char → Bool) (cs : List Char) : List Char :=
  (cs.reverse.dropWhile p).reverse

def trimRight (cs : List Char) : List Char := dropTailWhile isBlank cs

def trim (cs : List Char) : List Char := trimRight (trimLeft cs)

/-- What follows `start` in `cs`, if `cs` begins with it. -/
def dropStart? : (start cs : List Char) → Option (List Char)
  | [], cs => some cs
  | _ :: _, [] => none
  | a :: as, c :: cs => if a = c then dropStart? as cs else none

theorem dropStart?_append (start rest : List Char) :
    dropStart? start (start ++ rest) = some rest := by
  induction start with
  | nil => rfl
  | cons c start ih => simp [dropStart?, ih]

theorem dropStart?_eq_some {start cs rest : List Char} (h : dropStart? start cs = some rest) :
    cs = start ++ rest := by
  fun_induction dropStart? start cs <;> simp_all

def startsWith (start cs : List Char) : Bool := (dropStart? start cs).isSome

def endsWith (tail cs : List Char) : Bool := startsWith tail.reverse cs.reverse

/-- Cuts at the first place where `mark` stands, and drops it there. -/
def cutAt? (mark : List Char) : List Char → Option (List Char × List Char)
  | [] => if mark.isEmpty then some ([], []) else none
  | c :: cs =>
    match dropStart? mark (c :: cs) with
    | some rest => some ([], rest)
    | none => (cutAt? mark cs).map fun (before, rest) => (c :: before, rest)

def contains (mark cs : List Char) : Bool := (cutAt? mark cs).isSome

/-- The pieces between the characters that satisfy `p`; never empty. -/
def splitWhere (p : Char → Bool) : List Char → List (List Char)
  | [] => [[]]
  | c :: cs =>
    if p c then [] :: splitWhere p cs
    else match splitWhere p cs with
      | [] => [[c]]
      | piece :: pieces => (c :: piece) :: pieces

def splitOn (mark : Char) (cs : List Char) : List (List Char) := splitWhere (· == mark) cs

def joinWith (mark : List Char) (pieces : List (List Char)) : List Char :=
  mark.intercalate pieces

/-- The words between blanks. -/
def words (cs : List Char) : List (List Char) :=
  (splitWhere isBlank cs).filter (!·.isEmpty)

/-- Trims, and writes every inner run of blanks as one space. -/
def collapse (cs : List Char) : List Char := joinWith [' '] (words cs)

end CallSchema.Text

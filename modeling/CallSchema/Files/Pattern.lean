import CallSchema.Text.Trim

/-!
Patterns of names: `*` stands for any characters, `?` for one, and brackets for one of a set.
-/

namespace CallSchema

/-- One part of a pattern. -/
inductive Wildcard
  /-- Any number of characters. -/
  | many
  /-- Any one character. -/
  | one
  /-- No character at all. -/
  | never
  | char (c : Char)
  /-- A character in one of the intervals, or in none of them. -/
  | set (negated : Bool) (intervals : List (Char × Char))
  deriving DecidableEq, Repr, Inhabited

namespace Wildcard

def isMagic (c : Char) : Bool := c = '*' || c = '?' || c = '['

/-- Whether a text has characters with a meaning of their own. -/
def hasMagic (cs : List Char) : Bool := cs.any isMagic

/-- The text up to the next closing bracket, and what follows that. -/
def toBracket? : List Char → Option (List Char × List Char)
  | [] => none
  | c :: cs =>
    if c = ']' then some ([], cs) else (toBracket? cs).map fun (inner, rest) => (c :: inner, rest)

/-- The text in brackets that `cs` begins with after the opening one. A closing bracket that comes
first, or after a first exclamation mark, belongs to it. -/
def bracketed? (cs : List Char) : Option (List Char × List Char) :=
  let (mark, cs) := if cs.head? = some '!' then (['!'], cs.tail) else ([], cs)
  let (first, cs) := if cs.head? = some ']' then ([']'], cs.tail) else ([], cs)
  (toBracket? cs).map fun (inner, rest) => (mark ++ first ++ inner, rest)

/-- Cuts a set at the hyphens of its intervals: hyphens with at least `skip` characters before
them, and two after the one before. -/
def chunksFrom (skip : Nat) (current : List Char) : List Char → List (List Char)
  | [] => [current.reverse]
  | c :: cs =>
    if skip = 0 && c = '-' then current.reverse :: chunksFrom 2 [] cs
    else chunksFrom (skip - 1) (c :: current) cs

/-- A hyphen at the end stands for itself. -/
def closeChunks : List (List Char) → List (List Char)
  | [chunk, []] => [chunk ++ ['-']]
  | chunk :: chunks => chunk :: closeChunks chunks
  | [] => []

/-- Drops the intervals that hold nothing. -/
def dropEmpty : List (List Char) → List (List Char)
  | [] => []
  | chunk :: chunks =>
    match dropEmpty chunks with
    | [] => [chunk]
    | next :: rest =>
      match chunk.getLast?, next.head? with
      | some a, some b =>
        if b < a then (chunk.dropLast ++ next.tail) :: rest else chunk :: next :: rest
      | _, _ => chunk :: next :: rest

/-- The intervals of a set whose hyphens are `none`. -/
def intervals : List (Option Char) → List (Char × Char)
  | some a :: none :: some b :: rest => (a, b) :: intervals rest
  | some a :: rest => (a, a) :: intervals rest
  | none :: rest => ('-', '-') :: intervals rest
  | [] => []

/-- The part of a pattern that a set in brackets is. -/
def ofSet (inner : List Char) : Wildcard :=
  let skip := if inner.head? = some '!' then 2 else 1
  let chunks := dropEmpty (closeChunks (chunksFrom skip [] inner))
  match [none].intercalate (chunks.map fun chunk => chunk.map some) with
  | [] => never
  | [some '!'] => one
  | some '!' :: rest => .set true (intervals rest)
  | marks => .set false (intervals marks)

/-- The parts of a pattern; `fuel` bounds their number. -/
def partsWithin : (fuel : Nat) → List Char → List Wildcard
  | 0, _ => []
  | _, [] => []
  | fuel + 1, c :: cs =>
    if c = '*' then many :: partsWithin fuel cs
    else if c = '?' then one :: partsWithin fuel cs
    else if c = '[' then
      match bracketed? cs with
      | some (inner, rest) => ofSet inner :: partsWithin fuel rest
      | none => char '[' :: partsWithin fuel cs
    else char c :: partsWithin fuel cs

def ofPattern (pattern : List Char) : List Wildcard := partsWithin pattern.length pattern

/-- Whether one character fits a part of a pattern that stands for one. -/
def fits (c : Char) : Wildcard → Bool
  | many | never => false
  | one => true
  | char d => c == d
  | set negated intervals => negated != intervals.any fun i => i.1 ≤ c && c ≤ i.2

/-- Whether some tail of a text satisfies `p`. -/
def anyTail (p : List Char → Bool) : List Char → Bool
  | [] => p []
  | c :: cs => p (c :: cs) || anyTail p cs

/-- Whether a text fits a pattern as a whole. -/
def accepts : List Wildcard → List Char → Bool
  | [], cs => cs.isEmpty
  | many :: rest, cs => anyTail (accepts rest) cs
  | part :: rest, c :: cs => part.fits c && accepts rest cs
  | _ :: _, [] => false

end Wildcard

end CallSchema

import CallSchema.Text.Lines
import CallSchema.Text.Trim

/-!
Indentation: tabs, and the blanks that all lines of a text have in common.
-/

namespace CallSchema.Text

/-- Writes tabs as spaces up to the next multiple of eight columns. -/
def expandTabsFrom (column : Nat) : List Char → List Char
  | [] => []
  | c :: cs =>
    if c = '\t' then List.replicate (8 - column % 8) ' ' ++ expandTabsFrom 0 cs
    else if c = '\n' || c = '\r' then c :: expandTabsFrom 0 cs
    else c :: expandTabsFrom (column + 1) cs

def joinLines (ls : List (List Char)) : List Char := joinWith ['\n'] ls

/-- The number of blanks before the first other character; nothing if there is none. -/
def indent? (line : List Char) : Option Nat :=
  let rest := trimLeft line
  if rest.isEmpty then none else some (line.length - rest.length)

/-- The least of some numbers. -/
def least? (ns : List Nat) : Option Nat := ns.min?

/-- Drops the empty lines at both ends. -/
def dropEmptyLines (ls : List (List Char)) : List (List Char) :=
  ((ls.reverse.dropWhile (·.isEmpty)).reverse).dropWhile (·.isEmpty)

/-- The lines of a documentation text: without the indentation that all lines after the first have
in common, and without the blanks before the first. -/
def cleanLines (cs : List Char) : List (List Char) :=
  match newlineLines (expandTabsFrom 0 cs) with
  | [] => []
  | first :: rest =>
    let margin := (least? (rest.filterMap indent?)).getD 0
    dropEmptyLines (trimLeft first :: rest.map (·.drop margin))

/-- A documentation text without its common indentation and the empty lines around it. -/
def clean (cs : List Char) : List Char := joinLines (cleanLines cs)

/-- The spaces and tabs that two lines start with alike. -/
def commonBlanks : List Char → List Char → List Char
  | a :: as, b :: bs =>
    if a = b && (a = ' ' || a = '\t') then a :: commonBlanks as bs else []
  | _, _ => []

/-- Drops the spaces and tabs that all lines start with alike; lines of only spaces and tabs do not
count and become empty. -/
def dedentLines (ls : List (List Char)) : List (List Char) :=
  let isBare (l : List Char) : Bool := l.all fun c => c = ' ' || c = '\t'
  let shown := ls.filter (!isBare ·)
  match shown with
  | [] => ls.map fun _ => []
  | first :: rest =>
    let margin := rest.foldl commonBlanks (first.takeWhile fun c => c = ' ' || c = '\t')
    ls.map fun l => if isBare l then [] else l.drop margin.length

end CallSchema.Text

import CallSchema.Text.Trim

/-!
Paths as texts: their components, names and suffixes. A suffix is read in two ways, from the last
component of a path and from the text of a path, which differ on names that end in a dot.
-/

namespace CallSchema.Path

open Text

/-- The slashes that a path starts with: none, one, or exactly two. -/
def root (path : List Char) : List Char :=
  match path with
  | '/' :: '/' :: '/' :: _ => ['/']
  | '/' :: '/' :: _ => ['/', '/']
  | '/' :: _ => ['/']
  | _ => []

/-- The components of a path. Empty ones and the ones that stay in place are left out. -/
def parts (path : List Char) : List (List Char) :=
  (splitOn '/' path).filter fun part => !part.isEmpty && part != ['.']

/-- A path without needless slashes and dots. -/
def clean (path : List Char) : List Char :=
  match root path ++ joinWith ['/'] (parts path) with
  | [] => ['.']
  | shown => shown

/-- The last component. -/
def name (path : List Char) : List Char := (parts path).getLast?.getD []

/-- The text from the last dot on and the text before it, if there is a dot. -/
def atLastDot? (cs : List Char) : Option (List Char × List Char) :=
  (cutAt? ['.'] cs.reverse).map fun (after, before) => (before.reverse, '.' :: after.reverse)

/-- The stem and the suffix of a name. A dot at either end of the name starts no suffix. -/
def splitName (name : List Char) : List Char × List Char :=
  match atLastDot? name with
  | some (before, suffix) =>
    if before.isEmpty || suffix == ['.'] then (name, []) else (before, suffix)
  | none => (name, [])

def suffix (path : List Char) : List Char := (splitName (name path)).2

def stem (path : List Char) : List Char := (splitName (name path)).1

/-- The text after the last slash. -/
def base (path : List Char) : List Char := (path.reverse.takeWhile (· != '/')).reverse

/-- The extension of a path as a text: from the last dot of its last name on, unless all before
that dot are dots. -/
def extension (path : List Char) : List Char :=
  match atLastDot? (base path) with
  | some (before, suffix) => if before.all (· == '.') then [] else suffix
  | none => []

/-- Takes one more component: a step up undoes a named component before it. -/
def stepInto (rooted : Bool) (done : List (List Char)) (part : List Char) : List (List Char) :=
  if part == ['.', '.'] then
    match done with
    | [] => if rooted then [] else [part]
    | last :: before => if last == ['.', '.'] then part :: done else before
  else part :: done

/-- A path without steps up that can be undone. -/
def normalize (path : List Char) : List Char :=
  let start := root path
  let done := (parts path).foldl (stepInto (!start.isEmpty)) []
  match start ++ joinWith ['/'] done.reverse with
  | [] => ['.']
  | shown => shown

/-- The text before the last slash, without the slashes at its end unless it has no others. -/
def directory (path : List Char) : List Char :=
  let head := (path.reverse.dropWhile (· != '/')).reverse
  if head.all (· == '/') then head else dropTailWhile (· == '/') head

/-- The path of `file` in `directory`; an absolute path stays as it is. -/
def join (directory file : List Char) : List Char :=
  if file.head? = some '/' || directory.isEmpty then file
  else if directory.getLast? = some '/' then directory ++ file
  else directory ++ '/' :: file

end CallSchema.Path

import CallSchema.Dialect
import CallSchema.Files.Pattern
import CallSchema.Files.Tree

/-!
Finding files by patterns of paths, and the sources of all dialects below a directory. Names that
start with a dot are hidden: only patterns that start with one find them.
-/

namespace CallSchema

def isHidden (name : String) : Bool := name.toList.head? = some '.'

/-- One component of a pattern of paths. -/
inductive PathStep
  | name (n : List Char)
  | like (pattern : List Wildcard) (hidden : Bool)
  /-- A directory and everything below it that is not hidden. -/
  | anywhere
  deriving Repr, Inhabited

namespace PathStep

def ofComponent (part : List Char) : PathStep :=
  if part = ['*', '*'] then anywhere
  else if Wildcard.hasMagic part then
    like (Wildcard.ofPattern part) (part.head? = some '.')
  else name part

end PathStep

namespace FileTree

variable {α : Type}

mutual

/-- The names that lead to all nodes below a node, without hidden ones. -/
def visible : FileTree α → List (List String)
  | file _ => []
  | directory es => visibleIn es

def visibleIn : List (String × FileTree α) → List (List String)
  | [] => []
  | (n, node) :: es =>
    (if isHidden n then [] else [n] :: (visible node).map (n :: ·)) ++ visibleIn es

end

/-- The path that components make up. -/
def pathOf (parts : List (List Char)) : List Char := Text.joinWith ['/'] parts

/-- The node at the end of components. -/
def reach? (root : FileTree α) (parts : List (List Char)) : Option (FileTree α) :=
  (root.walk [] parts).toOption.bind root.below?

/-- The components of all paths that fit a pattern, from the ones in `done` on. -/
def expand (root : FileTree α) : (done : List (List Char)) → List PathStep → List (List (List Char))
  | done, [] => [done]
  | done, .name n :: steps => expand root (done ++ [n]) steps
  | done, .like pattern hidden :: steps =>
    let names := ((root.reach? done).map fun node => Keyed.keys node.entries).getD []
    let fitting := names.filter fun n =>
      (hidden || !isHidden n) && Wildcard.accepts pattern n.toList
    fitting.flatMap fun n => expand root (done ++ [n.toList]) steps
  | done, .anywhere :: steps =>
    let within := match root.reach? done with
      | some (directory es) => [] :: visibleIn es
      | _ => []
    within.flatMap fun names => expand root (done ++ names.map String.toList) steps

/-- The files whose paths fit a pattern. -/
def filesLike (root : FileTree α) (pattern : List Char) : List (List Char) :=
  if !(Path.root pattern).isEmpty || Path.namesDirectory pattern then []
  else
    let found := root.expand [] ((Path.parts pattern).map PathStep.ofComponent)
    (found.filter fun parts => ((root.reach? parts).map isFile).getD false).map pathOf

/-- The patterns that find the sources of all dialects. -/
def sourcePatterns : List (List Char) :=
  ["**/*.py".toList, "**/*.js".toList, "**/*.mjs".toList, "**/*.cjs".toList, "**/*.jsx".toList]

/-- Whether the extension of a path, in any case, is one of a dialect. -/
def isSource (path : List Char) : Bool :=
  (Dialect.ofSuffix? (Text.lower (Path.extension path))).isSome

/-- The sources below a directory that fit one of the patterns, or any source if there are no
patterns: each once, in order. -/
def sourceFiles (root : FileTree α) (directory : List Char) (patterns : List (List Char)) :
    List String :=
  let patterns := if patterns.isEmpty then sourcePatterns else patterns
  let found := patterns.flatMap fun p => root.filesLike (Path.join directory p)
  let paths := (found.filter isSource).map fun p => String.ofList (Path.normalize p)
  (paths.mergeSort fun a b => decide (a ≤ b)).eraseDups

end FileTree

end CallSchema

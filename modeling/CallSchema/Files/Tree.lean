import CallSchema.Failure
import CallSchema.Files.Path
import CallSchema.Keyed

/-!
Trees of files and directories, and what can be done in them by path: reading, writing, making
directories and deleting. Paths start at the root of the tree; nothing lies outside it.
-/

namespace CallSchema

/-- A file that holds an `α`, or a directory with named entries. -/
inductive FileTree (α : Type)
  | file (content : α)
  | directory (entries : List (String × FileTree α))
  deriving Inhabited

/-- Why a path cannot be used. -/
inductive PathFault
  | missing
  | taken
  | notDirectory
  | isDirectory
  /-- The path is none: it holds a null character. -/
  | nullCharacter
  deriving DecidableEq, Repr, Inhabited

namespace PathFault

/-- What the system says of a path, with the number of its error, the text and the class of the
exception. -/
def report (kind : String) (number : Nat) (text : String) (path : List Char) : Failure :=
  raised kind
    ("[Errno " ++ toString number ++ "] " ++ text ++ ": " ++ String.ofList (Text.quotedList path))

/-- The failure at a path, which is shown as it was given. -/
def failure (f : PathFault) (path : List Char) : Failure :=
  match f with
  | missing => report "FileNotFoundError" 2 "No such file or directory" path
  | taken => report "FileExistsError" 17 "File exists" path
  | notDirectory => report "NotADirectoryError" 20 "Not a directory" path
  | isDirectory => report "IsADirectoryError" 21 "Is a directory" path
  | nullCharacter => .nullInPath

end PathFault

namespace Path

def hasNull (path : List Char) : Bool := path.contains '\x00'

/-- Whether a path can only be one of a directory. -/
def namesDirectory (path : List Char) : Bool := [[], ['.'], ['.', '.']].contains (base path)

/-- The text of a path up to each of its slashes, without empty components and without the whole
path. -/
def stepsFrom (before : List Char) : List Char → List (List Char)
  | [] => []
  | c :: cs =>
    let rest := stepsFrom (c :: before) cs
    if c = '/' && !before.isEmpty && before.head? != some '/' then before.reverse :: rest else rest

/-- The paths of the directories on the way to a path. -/
def steps (path : List Char) : List (List Char) :=
  stepsFrom [] (Text.dropTailWhile (· == '/') path)

end Path

namespace FileTree

variable {α : Type}

def entries : FileTree α → List (String × FileTree α)
  | file _ => []
  | directory es => es

def content? : FileTree α → Option α
  | file c => some c
  | directory _ => none

def isFile (node : FileTree α) : Bool := node.content?.isSome

/-- The node below this one along names. -/
def below? : FileTree α → List String → Option (FileTree α)
  | node, [] => some node
  | node, n :: ns => (Keyed.get? node.entries n).bind (below? · ns)

/-- Puts a node in the place that names lead to. -/
def putBelow (new : FileTree α) : FileTree α → List String → FileTree α
  | _, [] => new
  | node, n :: ns =>
    let old := (Keyed.get? node.entries n).getD (directory [])
    directory (Keyed.put node.entries n (putBelow new old ns))

/-- Takes away the node that names lead to. -/
def eraseBelow : FileTree α → List String → FileTree α
  | node, [] => node
  | node, [n] => directory (Keyed.erase node.entries n)
  | node, n :: ns =>
    match Keyed.get? node.entries n with
    | some child => directory (Keyed.put node.entries n (eraseBelow child ns))
    | none => node

/-- Walks from the node at `done`, along components that may also lead back. -/
def walk (root : FileTree α) : (done : List String) → List (List Char) →
    Except PathFault (List String)
  | done, [] => .ok done
  | done, part :: parts =>
    match root.below? done with
    | none => .error .missing
    | some (file _) => .error .notDirectory
    | some (directory es) =>
      if part = ['.', '.'] then
        if done.isEmpty then .error .missing else walk root done.dropLast parts
      else if Keyed.has es (String.ofList part) then
        walk root (done ++ [String.ofList part]) parts
      else .error .missing

/-- The names that lead to the node at a path. -/
def locate (root : FileTree α) (path : List Char) : Except PathFault (List String) := do
  if Path.hasNull path then .error .nullCharacter
  if path.isEmpty || !(Path.root path).isEmpty then .error .missing
  let names ← root.walk [] (Path.parts path)
  match root.below? names with
  | some (file _) => if Path.namesDirectory path then .error .notDirectory else .ok names
  | _ => .ok names

/-- The node at a path. -/
def node? (root : FileTree α) (path : List Char) : Option (FileTree α) :=
  (root.locate path).toOption.bind root.below?

def hasFile (root : FileTree α) (path : List Char) : Bool :=
  ((root.node? path).map isFile).getD false

def hasDirectory (root : FileTree α) (path : List Char) : Bool :=
  ((root.node? path).map (!·.isFile)).getD false

def read (root : FileTree α) (path : List Char) : Except Failure α :=
  match root.locate path with
  | .error f => .error (f.failure path)
  | .ok names =>
    match (root.below? names).bind content? with
    | some c => .ok c
    | none => .error (PathFault.isDirectory.failure path)

/-- The place of a new entry: the names of its directory, and its own. -/
def newPlace (root : FileTree α) (path : List Char) : Except PathFault (List String) := do
  if Path.hasNull path then .error .nullCharacter
  if path.isEmpty || !(Path.root path).isEmpty then .error .missing
  let parts := Path.parts path
  let names ← root.walk [] parts.dropLast
  match root.below? names with
  | some (directory _) => .ok (names ++ (parts.getLast?.map String.ofList).toList)
  | some (file _) => .error .notDirectory
  | none => .error .missing

/-- Writes a file, in the place of an earlier one if there is one. -/
def write (root : FileTree α) (path : List Char) (content : α) : Except Failure (FileTree α) :=
  match root.newPlace path with
  | .error f => .error (f.failure path)
  | .ok names =>
    if Path.namesDirectory path || root.hasDirectory path then
      .error (PathFault.isDirectory.failure path)
    else .ok (putBelow (file content) root names)

/-- Makes one directory. -/
def makeDirectory (root : FileTree α) (path : List Char) : Except Failure (FileTree α) :=
  match root.newPlace path with
  | .error f => .error (f.failure path)
  | .ok names =>
    if (root.node? path).isSome || (root.below? names).isSome then
      .error (PathFault.taken.failure path)
    else .ok (putBelow (directory []) root names)

/-- Makes the directories on the way to a path that are missing. -/
def makeSteps (root : FileTree α) (path : List Char) : Except Failure (FileTree α) :=
  (Path.steps path).foldlM (fun root p =>
    if (root.node? p).isSome then .ok root else root.makeDirectory p) root

/-- Makes a directory and the missing ones on the way to it; it may be there already. -/
def ensureDirectory (root : FileTree α) (path : List Char) : Except Failure (FileTree α) := do
  let root ← root.makeSteps path
  if root.hasDirectory path then pure root else root.makeDirectory path

/-- Makes a new directory and the missing ones on the way to it. -/
def makeDirectories (root : FileTree α) (path : List Char) : Except Failure (FileTree α) := do
  (← root.makeSteps path).makeDirectory path

/-- Writes a file, and makes the missing directories on the way to it. -/
def writeWithin (root : FileTree α) (path : List Char) (content : α) :
    Except Failure (FileTree α) := do
  let directory := Path.directory path
  let root ← if directory.isEmpty then pure root else root.ensureDirectory directory
  root.write path content

def delete (root : FileTree α) (path : List Char) : Except Failure (FileTree α) :=
  match root.locate path with
  | .error f => .error (f.failure path)
  | .ok names =>
    match root.below? names with
    | some (file _) => .ok (root.eraseBelow names)
    | _ => .error (PathFault.isDirectory.failure path)

mutual

/-- The number of files in a tree. -/
def fileCount : FileTree α → Nat
  | file _ => 1
  | directory es => fileCountAll es

def fileCountAll : List (String × FileTree α) → Nat
  | [] => 0
  | (_, node) :: es => fileCount node + fileCountAll es

end

end FileTree

end CallSchema

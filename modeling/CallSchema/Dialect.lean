import CallSchema.Files.Path

/-!
The dialects of documented sources, told by the suffix of a file.
-/

namespace CallSchema

/-- Where the types of a source are documented. -/
inductive Dialect
  /-- In comments before functions. -/
  | untyped
  /-- In the hints of the functions themselves. -/
  | typed
  deriving DecidableEq, Repr, Inhabited

namespace Dialect

def name : Dialect → String
  | untyped => "untyped"
  | typed => "typed"

def ofName? : String → Option Dialect
  | "untyped" => some untyped
  | "typed" => some typed
  | _ => none

/-- The dialect of a suffix in lower case. -/
def ofSuffix? (suffix : List Char) : Option Dialect :=
  if [".js", ".mjs", ".cjs", ".jsx"].contains (String.ofList suffix) then some untyped
  else if String.ofList suffix = ".py" then some typed
  else none

/-- The dialect of the file at a path. -/
def ofPath? (path : List Char) : Option Dialect := ofSuffix? (Text.lower (Path.suffix path))

end Dialect

end CallSchema

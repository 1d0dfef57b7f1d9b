import CallSchema.Files.Search
import CallSchema.Module
import CallSchema.Text.Lines
import CallSchema.Text.Utf8

/-!
Trees of source files. A file holds bytes, or a program that is known by its statements.
-/

namespace CallSchema

inductive SourceContent
  | bytes (data : List UInt8)
  | program (m : Module)
  deriving Inhabited

abbrev Sources := FileTree SourceContent

namespace SourceContent

def ofText (s : String) : SourceContent := .bytes (Text.encode s)

/-- The bytes of a file; the text of a known program is not kept. -/
def data : SourceContent → List UInt8
  | bytes bs => bs
  | program _ => []

end SourceContent

namespace Sources

/-- The failure to read the source at a path. One of a path that is none stays as it is. -/
def unreadable (path : String) : Failure → Failure
  | .nullInPath => .nullInPath
  | e => .sourceNotFound path e.message

/-- Decodes a file's bytes and writes all its line ends as newlines. -/
def textOf (bytes : List UInt8) : Except Failure (List Char) :=
  match Text.decode bytes with
  | .ok cs => .ok (Text.unifyNewlines cs)
  | .error e => .error (raised "UnicodeDecodeError" e.message)

/-- The text of a source. -/
def readText (files : Sources) (path : String) : Except Failure (List Char) := do
  textOf (← files.read (Path.clean path.toList)).data

end Sources

end CallSchema

import CallSchema.CommandLine.Run
import CallSchema.Module.Source

/-!
The command line program: it reads the files below the current directory, runs the command on them,
and writes the file that the command leaves.
-/

namespace CallSchema

/-- The files below a directory, by the directory's entries. -/
partial def readEntries (entries : Array IO.FS.DirEntry) : IO (List (String × Sources)) := do
  entries.toList.mapM fun entry => do
    let path := entry.path
    if ← path.isDir then return (entry.fileName, .directory (← readEntries (← path.readDir)))
    let data ← IO.FS.readBinFile path
    return (entry.fileName, .file (.bytes data.toList))

def readVariables : IO (List (String × String)) := do
  let names := ["DOCSCHEMA_SOURCE_DIR", "DOCSCHEMA_OUTPUT_FILE", "DOCSCHEMA_FAIL_FAST"]
  let found ← names.mapM fun n => do return (n, ← IO.getEnv n)
  return found.filterMap fun (n, value) => value.map (n, ·)

/-- Writes the file at a path of a tree, if it is there. -/
def writeFile (files : Sources) (path : String) : IO Unit := do
  match files.read path.toList with
  | .ok content => do
    let directory := String.ofList (Path.directory path.toList)
    if !directory.isEmpty then IO.FS.createDirAll directory
    IO.FS.writeBinFile path (ByteArray.mk content.data.toArray)
  | .error _ => return

end CallSchema

open CallSchema PlainProgram in
def main (arguments : List String) : IO UInt32 := do
  let settings := Settings.ofVariables (← readVariables)
  let files := FileTree.directory (← readEntries (← (← IO.currentDir).readDir))
  let (result, after) := Workspace.command { files } settings arguments
  IO.print result.output
  IO.eprint result.error
  match settings.request arguments with
  | .ok (.run settings) => writeFile after.files settings.outputFile
  | _ => pure ()
  match result.ending with
  | .ok code => return code.toUInt32
  | .error e => do
    IO.eprintln (Sources.described e)
    return 1

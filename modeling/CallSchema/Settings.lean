import CallSchema.Keyed
import CallSchema.Text.Class

/-!
Settings that hold unless the command line says otherwise, read from environment variables.
-/

namespace CallSchema

structure Settings where
  /-- The directory that is searched for sources. -/
  sourceDirectory : String := "services"
  /-- The file that the schemas are written to. -/
  outputFile : String := "schemas.json"
  /-- Whether to stop at the first source that fails. -/
  failFast : Bool := false
  deriving DecidableEq, Repr, Inhabited

namespace Settings

/-- Whether a text, in any case, says yes. -/
def saysYes (s : String) : Bool :=
  ["1", "true", "yes"].contains (String.ofList (Text.lower s.toList))

/-- The settings that environment variables give. -/
def ofVariables (env : List (String × String)) : Settings :=
  { sourceDirectory := (Keyed.get? env "DOCSCHEMA_SOURCE_DIR").getD "services"
    outputFile := (Keyed.get? env "DOCSCHEMA_OUTPUT_FILE").getD "schemas.json"
    failFast := saysYes ((Keyed.get? env "DOCSCHEMA_FAIL_FAST").getD "") }

end Settings

end CallSchema

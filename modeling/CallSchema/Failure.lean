import CallSchema.Text.Quoted

/-!
What can go wrong, by cause, and how each cause is worded.
-/

namespace CallSchema

/-- The type names of schemas, in the order in which messages list them. -/
def typeNames : List String :=
  ["string", "number", "integer", "boolean", "object", "array", "null"]

/-- An exception of a program that is being read: the name of its class and its text. -/
structure Fault where
  kind : String
  message : String
  /-- Whether it asks the whole program to end, so that what catches exceptions does not stop it. -/
  endsProgram : Bool := false
  deriving DecidableEq, Repr, Inhabited

/-- Why no answer can be given. -/
inductive Failure
  /-- A declared type that is no type name. -/
  | invalidType (token : String)
  /-- Members of a declared union that are no type names. -/
  | invalidUnion (tokens : List String)
  /-- A declaration line of no accepted shape. -/
  | malformedDeclaration (line : String)
  /-- A source file that cannot be read or loaded. -/
  | sourceNotFound (path reason : String)
  /-- Data that does not have the form of its type. -/
  | invalidData
  /-- Two parameters of one name in a function. -/
  | duplicateParameter (name : String)
  /-- An intersection of no types. -/
  | emptyIntersection
  /-- A whole number with more digits than are read. -/
  | tooManyDigits (count : Nat)
  /-- A path that holds a null character. -/
  | nullInPath
  /-- Types nested deeper than the given bound. -/
  | tooDeep
  /-- An exception of the program that is being read, or of the system. -/
  | fault (raised : Fault)
  deriving DecidableEq, Repr, Inhabited

/-- The longest whole number that is read, in digits. -/
def maxDigits : Nat := 4300

namespace Failure

def listTypeNames : String := "Valid types are: " ++ ", ".intercalate typeNames ++ "."

/-- The accepted shapes of a declaration line. -/
def declarationShapes : List String :=
  ["@param \x7btype\x7d name description", "@property \x7btype\x7d parent.name description"]

def message : Failure → String
  | invalidType token => "Invalid type: " ++ token ++ ". " ++ listTypeNames
  | invalidUnion tokens =>
    "Invalid type(s) in union: " ++ ", ".intercalate tokens ++ ". " ++ listTypeNames
  | malformedDeclaration line =>
    "Malformed declaration: " ++ Text.quoted line ++ ". Expected one of: "
      ++ " or ".intercalate declarationShapes
  | sourceNotFound path reason =>
    "Source unit not found: " ++ path ++ (if reason.isEmpty then "" else " (" ++ reason ++ ")")
  | invalidData => ""
  | duplicateParameter name => "Value error, Duplicate parameter name: " ++ name
  | emptyIntersection => "An intersection needs at least one member"
  | tooManyDigits count =>
    "Exceeds the limit (" ++ toString maxDigits
      ++ " digits) for integer string conversion: value has " ++ toString count
      ++ " digits; use sys.set_int_max_str_digits() to increase the limit"
  | nullInPath => "embedded null byte"
  | tooDeep => "maximum recursion depth exceeded"
  | fault raised => raised.message

/-- Whether the failure is one of documented sources themselves: a bad declaration, or a file that
cannot be read. -/
def isSourceError : Failure → Bool
  | invalidType _ | invalidUnion _ | malformedDeclaration _ | sourceNotFound .. => true
  | _ => false

/-- Whether the failure is none of the exceptions that are caught where a program is read. -/
def endsProgram : Failure → Bool
  | fault raised => raised.endsProgram
  | _ => false

/-- The name under which a failure is reported. -/
def kind : Failure → String
  | invalidType _ | invalidUnion _ => "InvalidTypeToken"
  | malformedDeclaration _ => "MalformedDeclaration"
  | sourceNotFound .. => "SourceUnitNotFound"
  | invalidData | duplicateParameter _ => "ValidationError"
  | emptyIntersection | tooManyDigits _ | nullInPath => "ValueError"
  | tooDeep => "RecursionError"
  | fault raised => raised.kind

end Failure

/-- An exception of the kind and text given. -/
def raised (kind message : String) : Failure := .fault { kind, message }

end CallSchema

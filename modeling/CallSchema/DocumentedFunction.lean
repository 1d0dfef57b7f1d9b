import CallSchema.Fragment.Schema
import CallSchema.Failure
import CallSchema.Keyed

/-!
Documented functions with the fragments of their parameters, and the schema that offers such a
function as one to call.
-/

namespace CallSchema

/-- A parameter of a documented function. -/
structure Param where
  name : String
  description : String := ""
  fragment : Fragment := .unknown none
  /-- The values that the parameter's declaration lists. -/
  enumValues : Option (List EnumValue) := none
  isOptional : Bool := false
  deriving Repr, Inhabited

/-- A documented function. -/
structure DocumentedFunction where
  notice : String
  functionName : String
  params : List Param
  deriving Repr, Inhabited

namespace DocumentedFunction

/-- The first name that stands a second time in a list. -/
def repeated? : List String → List String → Option String
  | _, [] => none
  | seen, name :: names => if seen.contains name then some name else repeated? (name :: seen) names

/-- A function whose parameters have different names. -/
def make (notice functionName : String) (params : List Param) : Except Failure DocumentedFunction :=
  match repeated? [] (params.map (·.name)) with
  | some name => .error (.duplicateParameter name)
  | none => .ok { notice, functionName, params }

end DocumentedFunction

/-- The schema of a parameter: its fragment with the parameter's own description, and with the
values of its declaration if it lists any. -/
def Param.toSchema (p : Param) : Document :=
  let fields := match p.fragment.toSchema with
    | .object fields => fields
    | _ => []
  let fields := Keyed.put fields "description" (.text p.description)
  .object (match p.enumValues with
    | some (v :: vs) => Keyed.put fields "enum" (.list ((v :: vs).map EnumValue.toDocument))
    | _ => fields)

namespace DocumentedFunction

/-- The parameters as an object: a parameter must be given unless it is optional. -/
def parameters (params : List Param) : Document :=
  .object
    [("type", .text "object"),
      ("properties", .object (params.map fun p => (p.name, p.toSchema))),
      ("required", .texts ((params.filter (!·.isOptional)).map (·.name)))]

def toSchema (a : DocumentedFunction) : Document :=
  .object
    [("type", .text "function"),
      ("function", .object
        [("name", .text a.functionName), ("description", .text a.notice),
          ("parameters", parameters a.params)])]

end DocumentedFunction

end CallSchema

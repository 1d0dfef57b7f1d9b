import CallSchema.TypeGraph.Resolver

/-!
Type systems given by a table of named nodes. A node is the type, whatever its parts are.
-/

namespace CallSchema

/-- A member of an object node: its name, the name of its type's node, whether it is optional, and
its description. -/
structure NodeMember where
  name : String
  type : String
  isOptional : Bool := false
  description : Option String := none
  deriving Repr, Inhabited

inductive NodeKind
  | literal (value : Option Constant)
  | enumeration (values : Option (List Constant))
  | array (element : Option String)
  | object (members : List NodeMember)
  | union (members : List String)
  | intersection (members : List String)
  /-- A primitive type of the given name. -/
  | primitive (name : String)
  | undefined
  | any
  | opaqueKind
  deriving Repr, Inhabited

/-- A node with the word for its kind. -/
structure Node where
  word : String
  kind : NodeKind
  deriving Repr, Inhabited

/-- Named nodes; a name without a node stands for no type. -/
abbrev NodeTable := List (String × Option Node)

namespace NodeTable

variable (nodes : NodeTable)

def kind? (name : String) : Option NodeKind := ((nodes.lookup name).join).map (·.kind)

def word (name : String) : String := (((nodes.lookup name).join).map (·.word)).getD "None"

/-- The type system of a table. If `plain`, it tells nothing of any-types, enumerations and
descriptions, and describes nodes in angle brackets. -/
def graph (plain : Bool) : TypeGraph String String where
  identity name := name
  describe name :=
    if plain then "<" ++ nodes.word name ++ " " ++ name ++ ">" else nodes.word name ++ ":" ++ name
  isNone name := (nodes.kind? name).isNone
  isAny name := !plain && match nodes.kind? name with
    | some .any => true
    | _ => false
  literal? name := match nodes.kind? name with
    | some (.literal value) => value
    | _ => none
  enumValues? name := if plain then none else match nodes.kind? name with
    | some (.enumeration values) => values
    | _ => none
  primitive? name := match nodes.kind? name with
    | some (.primitive type) => some type
    | _ => none
  isArrayLike name := match nodes.kind? name with
    | some (.array _) => true
    | _ => false
  elementType? name := .ok <| match nodes.kind? name with
    | some (.array element) => element.bind fun e => if (nodes.kind? e).isNone then none else some e
    | _ => none
  members name := Outcome.ok <| match nodes.kind? name with
    | some (.object members) => members.map fun m =>
      { name := m.name, type := m.type, isOptional := m.isOptional,
        description := if plain then none else m.description }
    | _ => []
  isUnion name := match nodes.kind? name with
    | some (.union _) => true
    | _ => false
  unionMembers name := match nodes.kind? name with
    | some (.union members) => members
    | _ => []
  isIntersection name := match nodes.kind? name with
    | some (.intersection _) => true
    | _ => false
  intersectionMembers name := match nodes.kind? name with
    | some (.intersection members) => members
    | _ => []
  isAbsent name := match nodes.kind? name with
    | some .undefined => true
    | _ => false

/-- Deep enough for any run: every node is in progress at most once. -/
def depth : Nat := nodes.length + 2

end NodeTable

end CallSchema

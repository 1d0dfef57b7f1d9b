import CallSchema.Class.Ancestry
import CallSchema.Class.Base
import CallSchema.Class.Body
import CallSchema.Hint.Token

/-!
Tuples with named fields: what their names may be, and which fields have defaults.
-/

namespace CallSchema

namespace NamedTuple

/-- Names of these classes that a body cannot give a value. -/
def reservedNames : List String :=
  ["__new__", "__init__", "__slots__", "__getnewargs__", "_fields", "_field_defaults",
    "_field_types", "_make", "_replace", "_asdict", "_source"]

def isIdentifier (n : String) : Bool :=
  n.toList.all Text.isWord && (n.toList.head?.map HintExpr.startsWord).getD false

/-- Checks the names of a class and its fields. -/
def checkNames (className : String) (fields : List String) : Except Failure Unit := do
  let bad (why n : String) : Except Failure Unit :=
    .error (raised "ValueError" (why ++ ": " ++ Text.quoted n))
  (className :: fields).forM fun n =>
    if !isIdentifier n then bad "Type names and field names must be valid identifiers" n
    else if HintExpr.isKeyword n then
      bad "Type names and field names cannot be a keyword" n
    else pure ()
  let rec distinct (seen : List String) : List String → Except Failure Unit
    | [] => .ok ()
    | n :: ns =>
      if n.startsWith "_" then bad "Field names cannot start with an underscore" n
      else if seen.contains n then bad "Encountered duplicate field name" n
      else distinct (n :: seen) ns
  distinct [] fields

/-- The fields with defaults. One without must not follow them. -/
def defaults (hasDefault : String → Bool) (fields : List String) : Except Failure (List String) :=
  fields.foldlM (fun found n =>
    if hasDefault n then pure (found ++ [n])
    else if found.isEmpty then pure found
    else
      Hint.typeError ("Non-default namedtuple field " ++ n ++ " cannot follow default field"
        ++ (if found.length > 1 then "s " else " ") ++ ", ".intercalate found)) []

/-- What the class has under the names of its fields. -/
def getters (fields : List String) : Names :=
  fields.zipIdx.map fun (n, i) =>
    (n, .hint (.object "_tuplegetter"
      ("_tuplegetter(" ++ toString i ++ ", 'Alias for field number " ++ toString i ++ "')")))

/-- The bases may be what makes these tuples, and `Generic`. -/
def checkBases (bases : List ClassRef) : Except Failure Unit :=
  if !bases.any (·.metaclass = .namedTuple) then .error (raised "AssertionError" "")
  else if bases.any fun b => b.metaclass != .namedTuple && b != .generic then
    Hint.typeError "can only inherit from a NamedTuple type and Generic"
  else .ok ()

/-- The ancestors that bases give a tuple. -/
def ancestors (bases : List ClassRef) : Except Failure (List ClassRef) :=
  let bases := bases.map fun b => if b = .generic then b else .builtin "tuple"
  match Context.repeatedBase? bases with
  | some b => Hint.typeError ("duplicate base class " ++ b.name)
  | none => .ok (bases ++ [.object])

end NamedTuple

/-- The tuple with the named fields given, and no hints. -/
def ClassInfo.asBareTuple (c : ClassInfo) (fields : List String) : Except Failure ClassInfo := do
  NamedTuple.checkNames c.name fields
  pure
    { c with
      ancestors := [.builtin "tuple", .object], attributes := NamedTuple.getters fields
      tupleFields := some fields }

/-- The tuple whose named fields are those that a body gives hints. It may also be generic. -/
def ClassInfo.asNamedTuple (c : ClassInfo) (bases : List ClassRef) :
    Except Failure ClassInfo := do
  NamedTuple.checkBases bases
  let fields := c.annotations.keys
  let defaults ← NamedTuple.defaults (Keyed.has c.attributes) fields
  let annotations ← c.annotations.pairs.mapM fun x => do pure (x.1, ← Hint.checked none x.2)
  let made ← c.asBareTuple fields
  let ancestors ← NamedTuple.ancestors bases
  if let some n := (Keyed.keys c.attributes).find? NamedTuple.reservedNames.contains then
    .error (raised "AttributeError" ("Cannot overwrite NamedTuple attribute " ++ n))
  let others := c.attributes.filter fun x => !fields.contains x.1
  pure
    { made with
      ancestors, annotations := .ofPairs annotations, tupleDefaults := defaults
      attributes := made.attributes ++ others }

end CallSchema

import CallSchema.Class
import CallSchema.Value.Conversion

/-!
The body of a class that is being made: the names and hints that its statements give it, and the
rules that the names of an enumeration keep.
-/

namespace CallSchema

/-- What the body of an enumeration keeps in mind: the names of its members, and those that are to
be left out. -/
structure MemberNames where
  members : List String := []
  ignored : List String := []
  deriving Repr, Inhabited

structure ClassBody where
  className : String
  /-- The name, with those of the classes around. -/
  qualifiedName : String
  names : Names := []
  annotations : Dict Hint := .empty
  /-- The rules of an enumeration, if the body is one's. -/
  members : Option MemberNames := none
  deriving Repr, Inhabited

namespace Text

/-- Whether a text starts and ends with marks, with other characters inside of them. -/
def isMarked (mark : String) (s : String) : Bool :=
  let inner := (s.toList.drop mark.length).take (s.length - 2 * mark.length)
  2 * mark.length < s.length && s.startsWith mark && s.endsWith mark
    && inner.head? != some '_' && inner.getLast? != some '_'

end Text

namespace ClassBody

/-- A name as it stands in the body: one that starts with two underscores belongs to the class. -/
def mangled (b : ClassBody) (name : String) : String :=
  let owner := String.ofList (b.className.toList.dropWhile (· = '_'))
  if name.startsWith "__" && !name.endsWith "__" && !owner.isEmpty then
    "_" ++ owner ++ name
  else name

/-- Whether a name belongs to the class of the name given, and to no other one. -/
def isPrivate (className name : String) : Bool :=
  let start := "_" ++ className ++ "__"
  start.length < name.length && name.startsWith start && !name.endsWith "__"

/-- Names with a meaning for all enumerations. -/
def enumerationNames : List String :=
  ["_order_", "_generate_next_value_", "_numeric_repr_", "_missing_", "_ignore_", "_iter_member_",
    "_iter_member_by_value_", "_iter_member_by_def_"]

/-- Whether an object takes part in how names are looked up, and so is no value of a member. -/
def isDescriptor : Binding → Bool
  | .callable f => f.name.isSome
  | .hint (.cls (.known "builtins" n)) => ["property", "classmethod", "staticmethod"].contains n
  | _ => false

/-- Whether an object is a class that has been made in the body. -/
def isInnerClass (className : String) : Binding → Bool
  | .hint (.cls c) =>
    let own := className ++ "." ++ c.name
    c.qualifiedName = own || c.qualifiedName.endsWith ("." ++ own)
  | _ => false

def innerClassNotice : String :=
  "In 3.13 classes created inside an enum will not become a member.  "
    ++ "Use the `member` decorator to keep the current behavior."

/-- What an object lists. A text lists its words. -/
def listed (b : Binding) : Except Failure (List Value) :=
  match b with
  | .hint (.text s) =>
    let words := (Text.words s.toList).flatMap (Text.splitOn ',')
    .ok ((words.filter (!·.isEmpty)).map fun w => .text (String.ofList w))
  | b => (Hint.toNote b.toHint).items

/-- What a name holds, as messages show it. -/
def shownUnder (b : ClassBody) (name : String) : String :=
  ((Keyed.get? b.names name).map fun held => Hint.objectText held.toHint).getD ""

/-- The names of an enumeration after one more. -/
def addMember (b : ClassBody) (names : MemberNames) (name : String) (value : Binding) :
    Except Failure MemberNames :=
  let twice : Except Failure MemberNames :=
    Hint.typeError (Text.quoted name ++ " already defined as " ++ b.shownUnder name)
  if isPrivate b.className name then .ok names
  else if Text.isMarked "_" name then
    if !enumerationNames.contains name then
      .error (raised "ValueError" ("_sunder_ names, such as " ++ Text.quoted name
        ++ ", are reserved for future Enum use"))
    else if name = "_ignore_" then do
      let ignored := (← listed value).filterMap Value.text?
      match names.members.filter ignored.contains with
      | [] => .ok { names with ignored }
      | already =>
        .error (raised "ValueError" ("_ignore_ cannot specify already set names: \x7b"
          ++ ", ".intercalate (already.map Text.quoted) ++ "\x7d"))
    else .ok names
  else if Text.isMarked "__" name then .ok names
  else if names.members.contains name then twice
  else if names.ignored.contains name || isDescriptor value then .ok names
  else if Keyed.has b.names name then twice
  else .ok { names with members := names.members ++ [name] }

/-- Gives a name a value. -/
def set (b : ClassBody) (name : String) (value : Binding) : Outcome ClassBody := do
  let name := b.mangled name
  match b.members with
  | none => pure { b with names := Keyed.put b.names name value }
  | some names => do
    if isInnerClass b.className value then Outcome.warn (.notice innerClassNotice)
    let members ← Outcome.ofExcept (b.addMember names name value)
    let name := if name = "__order__" then "_order_" else name
    pure { b with names := Keyed.put b.names name value, members }

/-- Gives a name a hint. -/
def annotate (b : ClassBody) (name : String) (h : Hint) : ClassBody :=
  { b with annotations := b.annotations.put (b.mangled name) h }

end ClassBody

end CallSchema

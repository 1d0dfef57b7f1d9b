import CallSchema.Value

/-!
Type hints of Python programs, as they stand once they have been built.
-/

namespace CallSchema

/-- What makes the classes of a kind, and decides how they are shown. -/
inductive Metaclass
  | plain
  | abstract
  | protocol
  | anything
  | enumeration
  /-- Typed dictionaries, by the module whose rules they keep. -/
  | typedDict (home : String)
  | namedTuple
  | model
  deriving DecidableEq, Repr, Inhabited

def Metaclass.name : Metaclass → String
  | plain => "type"
  | abstract => "ABCMeta"
  | protocol => "_ProtocolMeta"
  | anything => "_AnyMeta"
  | enumeration => "EnumType"
  | typedDict _ => "_TypedDictMeta"
  | namedTuple => "NamedTupleMeta"
  | model => "ModelMetaclass"

/-- A class: one of the language and its libraries, or one of a program with its own identity. Both
have a home module and a name. The name of a class inside another one starts with that one's. -/
inductive ClassRef
  | known (home name : String)
  | described (identity : Nat) (metaclass : Metaclass) (home qualifiedName : String)
  deriving DecidableEq, Repr, Inhabited

namespace ClassRef

def qualifiedName : ClassRef → String
  | known _ n | described _ _ _ n => n

/-- The name without those of the classes around. -/
def name (c : ClassRef) : String :=
  String.ofList ((c.qualifiedName.toList.reverse.takeWhile (· != '.')).reverse)

def home : ClassRef → String
  | known h _ | described _ _ h _ => h

/-- The identity of a described class. -/
def identity? : ClassRef → Option Nat
  | described identity _ _ _ => some identity
  | known .. => none

def metaclass : ClassRef → Metaclass
  | described _ m _ _ => m
  | known "typing" "Any" => .anything
  | known "typing" "NamedTuple" => .namedTuple
  | known "typing" "TypedDict" => .typedDict "typing"
  | known "typing_extensions" "TypedDict" => .typedDict "typing_extensions"
  | known "typing" n => if n = "Protocol" || n.startsWith "Supports" then .protocol else .plain
  | known "collections.abc" _ => .abstract
  | known "enum" _ => .enumeration
  | known "pydantic.main" "BaseModel" => .model
  | known .. => .plain

def builtin (name : String) : ClassRef := known "builtins" name

def abstract (name : String) : ClassRef := known "collections.abc" name

def object : ClassRef := builtin "object"

/-- The base of validated models. -/
def baseModel : ClassRef := known "pydantic.main" "BaseModel"

/-- The name with its home, which is left out for built-in classes. -/
def path (c : ClassRef) : String :=
  if c.home = "builtins" then c.qualifiedName else c.home ++ "." ++ c.qualifiedName

/-- The text of a class as an object. -/
def shown (c : ClassRef) : String :=
  match c.metaclass with
  | .enumeration => "<enum " ++ Text.quoted c.name ++ ">"
  | .anything => "typing.Any"
  | _ => "<class '" ++ c.path ++ "'>"

end ClassRef

inductive Hint
  /-- The constant `None`, which is not its class. -/
  | null
  | ellipsis
  | cls (c : ClassRef)
  /-- A class with arguments, as in `list[int]`. -/
  | generic (origin : ClassRef) (args : List Hint)
  /-- A special name without arguments, as `typing.List`. -/
  | form (home name : String)
  /-- A special name with arguments, as `typing.List[int]`. -/
  | applied (name : String) (args : List Hint)
  | union (args : List Hint)
  /-- A union written with bars between classes. -/
  | alternatives (args : List Hint)
  | literal (values : List Value)
  | annotated (of : Hint) (metadata : List Value)
  | required (of : Hint)
  | notRequired (of : Hint)
  | unpack (of : Hint)
  /-- Unpacking in the form that is shown with a star. -/
  | starred (of : Hint)
  | intersection (args : List Hint)
  /-- A function type; without parameter types it takes anything. -/
  | callable (params : Option (List Hint)) (result : Hint)
  /-- A type variable: two of one name are different. -/
  | typeVar (identity : Nat) (shown : String)
  /-- A new type made of another one; two of one name are different. -/
  | newType (identity : Nat) (home name : String) (of : Hint)
  /-- A hint given as text. -/
  | text (source : String)
  /-- A text inside another hint, to be evaluated later in the given module, if any. -/
  | forward (source : String) (home : Option String)
  | constant (value : Value)
  | listing (items : List Hint)
  | tuple (items : List Hint)
  | package (path : String)
  /-- Any other object, by the word for its kind and the text that shows it. A function is told by
  its name. -/
  | object (kind shown : String)
  deriving Repr, Inhabited

namespace Hint

/-- The class of `None`. -/
def noneType : Hint := cls (.builtin "NoneType")

/-- The hint that a constant is. -/
def ofValue : Value → Hint
  | .null => null
  | .text s => text s
  | v => constant v

mutual

/-- The number of hints and constants that stand in a hint, with the lengths of its texts. -/
def size : Hint → Nat
  | generic _ args | applied _ args | union args | alternatives args | intersection args
  | listing args | tuple args => sizeAll args + 1
  | literal values => values.length + 1
  | annotated h _ | required h | notRequired h | unpack h | starred h | newType _ _ _ h =>
    size h + 1
  | callable none result => size result + 1
  | callable (some params) result => sizeAll params + size result + 1
  | text s | forward s _ | constant (.text s) => s.length + 1
  | _ => 1

def sizeAll : List Hint → Nat
  | [] => 0
  | h :: hs => size h + sizeAll hs

end

/-- Removes the layers around a hint that add notes or say whether a member must be given. -/
def strip : Hint → Hint
  | annotated h _ | required h | notRequired h => strip h
  | h => h

/-- The first text among the notes around a hint. -/
def note? : Hint → Option String
  | annotated h metadata =>
    match metadata.findSome? Value.text? with
    | some s => some s
    | none => note? h
  | required h | notRequired h => note? h
  | _ => none

/-- Whether a layer around a hint says that the member may be left out. -/
def isNotRequired : Hint → Bool
  | notRequired _ => true
  | annotated h _ | required h => isNotRequired h
  | _ => false

end Hint

end CallSchema

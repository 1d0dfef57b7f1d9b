import CallSchema.Hint.Known

/-!
The texts that show hints. A class stands under its bare name when it is the whole hint, and under
its path inside another one.
-/

namespace CallSchema.Hint

def bracketed (head : String) (args : List String) : String :=
  head ++ "[" ++ ", ".intercalate args ++ "]"

/-- A special name with its arguments; an empty list of arguments is shown as an empty pair of
parentheses. -/
def formText (head : String) (args : List String) : String :=
  bracketed head (if args.isEmpty then ["()"] else args)

def isNoneType : Hint → Bool
  | cls (.known "builtins" "NoneType") => true
  | _ => false

mutual

/-- The text of a hint inside another one. -/
def inner : Hint → String
  | null => "None"
  | ellipsis => "..."
  | cls c => c.path
  | generic origin args =>
    if origin = .abstract "Callable" then functionText origin.path args
    else formText origin.path (innerAll args)
  | form home name => if home.isEmpty then name else home ++ "." ++ name
  | applied name args => formText ("typing." ++ name) (innerAll args)
  | union args => unionText args
  | alternatives args => " | ".intercalate (barAll args)
  | literal values => formText "typing.Literal" (values.map Value.shown)
  | annotated h metadata =>
    bracketed "typing.Annotated" (inner h :: metadata.map Value.shown)
  | required h => "typing.Required[" ++ inner h ++ "]"
  | notRequired h => "typing.NotRequired[" ++ inner h ++ "]"
  | unpack h => "typing_extensions.Unpack[" ++ inner h ++ "]"
  | starred h => "*" ++ objectText h
  | intersection args => bracketed "Intersection" (bareAll args)
  | callable none result => "typing.Callable[..., " ++ inner result ++ "]"
  | callable (some [applied "Concatenate" args]) result =>
    "typing.Callable[" ++ formText "typing.Concatenate" (innerAll args) ++ ", " ++ inner result
      ++ "]"
  | callable (some params) result =>
    "typing.Callable[[" ++ ", ".intercalate (innerAll params) ++ "], " ++ inner result ++ "]"
  | typeVar _ shown => shown
  | newType _ home name _ => home ++ "." ++ name
  | text s => Text.quoted s
  | forward s none => "ForwardRef(" ++ Text.quoted s ++ ")"
  | forward s (some home) =>
    "ForwardRef(" ++ Text.quoted s ++ ", module=" ++ Text.quoted home ++ ")"
  | constant v => v.shown
  | listing items => "[" ++ ", ".intercalate (innerAll items) ++ "]"
  | tuple [h] => "(" ++ objectText h ++ ",)"
  | tuple items => "(" ++ ", ".intercalate (objectTextAll items) ++ ")"
  | package path => "<module '" ++ path ++ "'>"
  | object _ s => s

/-- A function type with its parameters and its result, the last of the arguments. -/
def functionText (head : String) : List Hint → String
  | [ellipsis, result] => bracketed head ["...", inner result]
  | [applied "Concatenate" args, result] =>
    bracketed head [formText "typing.Concatenate" (innerAll args), inner result]
  | args =>
    let shown := innerAll args
    bracketed head (["[" ++ ", ".intercalate shown.dropLast ++ "]"] ++ shown.getLast?.toList)

/-- A union of one type and `None` is shown as optional. -/
def unionText : List Hint → String
  | [a, b] =>
    if isNoneType a then "typing.Optional[" ++ inner b ++ "]"
    else if isNoneType b then "typing.Optional[" ++ inner a ++ "]"
    else bracketed "typing.Union" [inner a, inner b]
  | args => bracketed "typing.Union" (innerAll args)

def innerAll : List Hint → List String
  | [] => []
  | h :: hs => inner h :: innerAll hs

/-- The members of a union with bars; the class of `None` is shown as the constant. -/
def barAll : List Hint → List String
  | [] => []
  | h :: hs => (if isNoneType h then "None" else inner h) :: barAll hs

/-- A hint seen alone. -/
def bare : Hint → String
  | cls c => c.name
  | ellipsis => "Ellipsis"
  | text s => s
  | constant (.text s) => s
  | object "function" s => "<function " ++ s ++ ">"
  | h => inner h

def bareAll : List Hint → List String
  | [] => []
  | h :: hs => bare h :: bareAll hs

/-- A hint as an object: a class is shown as such. -/
def objectText : Hint → String
  | cls c => c.shown
  | ellipsis => "Ellipsis"
  | object "function" s => "<function " ++ s ++ ">"
  | h => inner h

def objectTextAll : List Hint → List String
  | [] => []
  | h :: hs => objectText h :: objectTextAll hs

end

/-- The word for the kind of the object that a hint is. -/
def kindName : Hint → String
  | null => "NoneType"
  | ellipsis => "ellipsis"
  | cls c => c.metaclass.name
  | generic (.known "collections.abc" "Callable") _ => "_CallableGenericAlias"
  | generic .. => "GenericAlias"
  | form _ "Callable" => "_CallableType"
  | form _ "Tuple" => "_TupleType"
  | form _ "Literal" => "_LiteralSpecialForm"
  | form _ n => if (genericForms.lookup n).isSome then "_SpecialGenericAlias" else "_SpecialForm"
  | applied "Concatenate" _ => "_ConcatenateGenericAlias"
  | applied .. | required _ | notRequired _ => "_GenericAlias"
  | union _ => "_UnionGenericAlias"
  | alternatives _ => "UnionType"
  | literal _ => "_LiteralGenericAlias"
  | annotated .. => "_AnnotatedAlias"
  | unpack _ => "_UnpackAlias"
  | starred _ => "_UnpackGenericAlias"
  | intersection _ => "_IntersectionAlias"
  | callable .. => "_CallableGenericAlias"
  | typeVar .. => "TypeVar"
  | newType .. => "NewType"
  | text _ => "str"
  | forward .. => "ForwardRef"
  | constant v => v.kindName
  | listing _ => "list"
  | tuple _ => "tuple"
  | package _ => "module"
  | object kind _ => kind

mutual

/-- The constant that stands in a hint's place, with `show?` as the text of any other object. -/
def toValueWith (show? : Hint → String) : Hint → Value
  | null => .null
  | text s => .text s
  | constant v => v
  | listing items => .list (toValuesWith show? items)
  | object kind s => .object kind s
  | h => .object (kindName h) (show? h)

def toValuesWith (show? : Hint → String) : List Hint → List Value
  | [] => []
  | h :: hs => toValueWith show? h :: toValuesWith show? hs

end

/-- The constant that a hint is among the notes around another one. -/
def toNote (h : Hint) : Value := toValueWith objectText h

/-- The constants of a literal's argument. A literal in it stands for its own constants. -/
def toLiterals : Hint → List Value
  | literal values => values
  | h => [toValueWith inner h]

/-- The text by which a hint is reported, without the layers around it. -/
def describe (h : Hint) : String := bare h.strip

end CallSchema.Hint

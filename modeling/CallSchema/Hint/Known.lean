import CallSchema.Hint.Builtin

/-!
The names of the libraries that hints are made of.
-/

namespace CallSchema.Hint

/-- Special names that take no part in unions of classes: they are no classes themselves. -/
def specialForms : List String :=
  ["Union", "Optional", "Literal", "ClassVar", "Final", "NoReturn", "Never", "Self",
    "LiteralString", "TypeAlias", "Concatenate", "TypeGuard", "Required", "NotRequired", "Unpack"]

/-- Special names that are hints as they stand. -/
def completeForms : List String := ["NoReturn", "Never", "Self", "LiteralString", "TypeAlias"]

/-- The classes behind the special names that stand for generic classes, with the number of their
arguments; `none` is any number. -/
def genericForms : List (String × ClassRef × Option Nat) :=
  [("List", .builtin "list", some 1), ("Set", .builtin "set", some 1),
    ("FrozenSet", .builtin "frozenset", some 1), ("Dict", .builtin "dict", some 2),
    ("Tuple", .builtin "tuple", none), ("Type", .builtin "type", some 1),
    ("DefaultDict", .known "collections" "defaultdict", some 2),
    ("OrderedDict", .known "collections" "OrderedDict", some 2),
    ("Counter", .known "collections" "Counter", some 1),
    ("ChainMap", .known "collections" "ChainMap", some 2),
    ("Deque", .known "collections" "deque", some 1),
    ("Pattern", .known "re" "Pattern", some 1), ("Match", .known "re" "Match", some 1),
    ("ContextManager", .known "contextlib" "AbstractContextManager", some 1),
    ("AsyncContextManager", .known "contextlib" "AbstractAsyncContextManager", some 1),
    ("AbstractSet", .abstract "Set", some 1), ("MutableSet", .abstract "MutableSet", some 1),
    ("Iterable", .abstract "Iterable", some 1), ("Iterator", .abstract "Iterator", some 1),
    ("Sequence", .abstract "Sequence", some 1),
    ("MutableSequence", .abstract "MutableSequence", some 1),
    ("Mapping", .abstract "Mapping", some 2),
    ("MutableMapping", .abstract "MutableMapping", some 2),
    ("Collection", .abstract "Collection", some 1), ("Container", .abstract "Container", some 1),
    ("Reversible", .abstract "Reversible", some 1), ("Hashable", .abstract "Hashable", some 0),
    ("Sized", .abstract "Sized", some 0), ("Generator", .abstract "Generator", some 3),
    ("AsyncGenerator", .abstract "AsyncGenerator", some 2),
    ("AsyncIterable", .abstract "AsyncIterable", some 1),
    ("AsyncIterator", .abstract "AsyncIterator", some 1),
    ("Awaitable", .abstract "Awaitable", some 1), ("Coroutine", .abstract "Coroutine", some 3),
    ("KeysView", .abstract "KeysView", some 1), ("ItemsView", .abstract "ItemsView", some 2),
    ("ValuesView", .abstract "ValuesView", some 1),
    ("MappingView", .abstract "MappingView", some 1),
    ("ByteString", .abstract "ByteString", some 0), ("Callable", .abstract "Callable", none)]

/-- The class that a special name stands for. -/
def genericOrigin? (name : String) : Option ClassRef := (genericForms.lookup name).map (·.1)

/-- Classes among the special names that have arguments, with the number of them. -/
def parametrizedClasses : List (String × Nat) :=
  [("IO", 1), ("SupportsAbs", 1), ("SupportsRound", 1), ("TextIO", 0), ("BinaryIO", 0),
    ("SupportsInt", 0), ("SupportsFloat", 0), ("SupportsComplex", 0), ("SupportsBytes", 0),
    ("SupportsIndex", 0)]

/-- Special names that are classes. -/
def typingClasses : List String :=
  ["Any", "Generic", "Protocol", "IO", "TextIO", "BinaryIO", "Annotated", "NewType", "TypeVar",
    "ForwardRef", "ParamSpec", "ParamSpecArgs", "ParamSpecKwargs", "TypeVarTuple", "NamedTupleMeta",
    "SupportsInt", "SupportsFloat", "SupportsComplex", "SupportsBytes", "SupportsAbs",
    "SupportsIndex", "SupportsRound"]

/-- Special names that are no classes, but stand for what makes classes of a kind. -/
def classMakers : List String := ["NamedTuple", "TypedDict"]

/-- Type variables among the special names, with the texts that show them. -/
def typingVariables : List (String × String) :=
  [("AnyStr", "~AnyStr"), ("T", "~T"), ("KT", "~KT"), ("VT", "~VT"), ("T_co", "+T_co"),
    ("V_co", "+V_co"), ("VT_co", "+VT_co"), ("CT_co", "+CT_co"), ("T_contra", "-T_contra")]

def abstractClasses : List String :=
  ["Awaitable", "Coroutine", "AsyncIterable", "AsyncIterator", "AsyncGenerator", "Hashable",
    "Iterable", "Iterator", "Generator", "Reversible", "Sized", "Container", "Callable",
    "Collection", "Set", "MutableSet", "Mapping", "MutableMapping", "MappingView", "KeysView",
    "ItemsView", "ValuesView", "Sequence", "MutableSequence", "ByteString"]

def collectionClasses : List String :=
  ["deque", "defaultdict", "OrderedDict", "Counter", "ChainMap", "UserDict", "UserList",
    "UserString"]

/-- A name of `typing`. -/
def typingName? (n : String) : Option Hint :=
  match n with
  | "Text" => some (cls (.builtin "str"))
  | "ABCMeta" => some (cls (.known "abc" n))
  | "defaultdict" => some (cls (.known "collections" n))
  | "GenericAlias" => some (cls (.known "types" n))
  | "MethodDescriptorType" => some (cls (.builtin "method_descriptor"))
  | "MethodWrapperType" => some (cls (.builtin "method-wrapper"))
  | "WrapperDescriptorType" => some (cls (.builtin "wrapper_descriptor"))
  | "TYPE_CHECKING" => some (constant (.bool false))
  | _ =>
    if typingClasses.contains n || classMakers.contains n then some (cls (.known "typing" n))
    else if specialForms.contains n || (genericForms.lookup n).isSome then some (form "typing" n)
    else match typingVariables.findIdx? (·.1 == n), typingVariables.lookup n with
      | some i, some shown => some (typeVar i shown)
      | _, _ => none

/-- A name of a module. -/
def packageName? (path n : String) : Option Hint :=
  match path with
  | "typing" => typingName? n
  | "typing_extensions" =>
    if n = "Unpack" then some (form "typing_extensions" n)
    else if n = "TypedDict" then some (cls (.known "typing_extensions" n))
    else typingName? n
  | "collections" =>
    if n = "abc" then some (package "collections.abc")
    else if collectionClasses.contains n then some (cls (.known "collections" n))
    else none
  | "collections.abc" =>
    if abstractClasses.contains n then some (cls (.abstract n)) else none
  | "enum" =>
    if ["Enum", "IntEnum", "StrEnum", "Flag", "IntFlag"].contains n then
      some (cls (.known "enum" n))
    else none
  | "pydantic" => if n = "BaseModel" then some (cls .baseModel) else none
  | _ => none

end CallSchema.Hint

import CallSchema.Hint.Builtin

/-!
The classes that the classes of the language and its libraries extend, and the names that they have.
-/

namespace CallSchema

/-- Takes the first of the lists' heads that stands in no list's tail, again and again. Where none
does, the heads that are left are returned. -/
def mergeOrders : (fuel : Nat) → List (List ClassRef) →
    Except (List ClassRef) (List ClassRef)
  | 0, _ => .ok []
  | fuel + 1, orders =>
    match orders.filter (!·.isEmpty) with
    | [] => .ok []
    | orders =>
      let heads := orders.filterMap List.head?
      match heads.find? fun c => !orders.any fun o => o.tail.contains c with
      | none => .error heads
      | some next => do
        let after (o : List ClassRef) : List ClassRef := if o.head? = some next then o.tail else o
        .ok (next :: (← mergeOrders fuel (orders.map after)))

/-- The ancestors of a class by the lineages of its bases, in the order in which names are looked
up: each before its own ancestors, and the bases in the order in which they are given. -/
def mergeLineages (lineages : List (List ClassRef)) : Except (List ClassRef) (List ClassRef) :=
  let orders := lineages ++ [lineages.filterMap List.head?]
  mergeOrders ((orders.map List.length).foldl (· + ·) 1) orders

namespace ClassRef

/-- Enumerations of the libraries, with the classes that they extend. -/
def enumerationParents : List (String × List ClassRef) :=
  let enumeration (n : String) : ClassRef := known "enum" n
  [("Enum", [object]), ("ReprEnum", [enumeration "Enum"]), ("Flag", [enumeration "Enum"]),
    ("IntEnum", [builtin "int", enumeration "ReprEnum"]),
    ("StrEnum", [builtin "str", enumeration "ReprEnum"]),
    ("IntFlag", [builtin "int", enumeration "ReprEnum", enumeration "Flag"])]

/-- The classes that a class of the language or its libraries extends. -/
def parents : ClassRef → List ClassRef
  | known "builtins" n =>
    match Hint.derivedClasses.lookup n with
    | some ps => ps.map builtin
    | none => if n = "object" then [] else [object]
  | known "enum" n => (enumerationParents.lookup n).getD [object]
  | known "collections" n =>
    if ["OrderedDict", "defaultdict", "Counter"].contains n then [builtin "dict"] else [object]
  | known "typing" n =>
    if n = "Protocol" || n = "IO" then [known "typing" "Generic"]
    else if n = "TextIO" || n = "BinaryIO" then [known "typing" "IO"]
    else if n.startsWith "Supports" then [known "typing" "Protocol"]
    else [object]
  | _ => [object]

/-- A class of the language or its libraries with its ancestors, up to a number of generations. -/
def lineageWithin : (generations : Nat) → ClassRef → List ClassRef
  | 0, c => [c]
  | generations + 1, c =>
    match mergeLineages (c.parents.map (lineageWithin generations)) with
    | .ok ancestors => c :: ancestors
    | .error _ => [c]

/-- A class of the language or its libraries with its ancestors, at most six generations of them. -/
def knownLineage (c : ClassRef) : List ClassRef := lineageWithin 7 c

/-- The methods of built-in classes. -/
def methods : List (String × List String) :=
  [("list", ["append", "clear", "copy", "count", "extend", "index", "insert", "pop", "remove",
      "reverse", "sort"]),
    ("dict", ["clear", "copy", "get", "items", "keys", "pop", "popitem", "setdefault", "update",
      "values"]),
    ("set", ["add", "clear", "copy", "difference", "difference_update", "discard",
      "intersection", "intersection_update", "isdisjoint", "issubset", "issuperset", "pop",
      "remove", "symmetric_difference", "symmetric_difference_update", "union", "update"]),
    ("frozenset", ["copy", "difference", "intersection", "isdisjoint", "issubset", "issuperset",
      "symmetric_difference", "union"]),
    ("tuple", ["count", "index"]),
    ("str", ["capitalize", "casefold", "center", "count", "encode", "endswith", "expandtabs",
      "find", "format", "format_map", "index", "isalnum", "isalpha", "isascii", "isdecimal",
      "isdigit", "isidentifier", "islower", "isnumeric", "isprintable", "isspace", "istitle",
      "isupper", "join", "ljust", "lower", "lstrip", "partition", "removeprefix", "removesuffix",
      "replace", "rfind", "rindex", "rjust", "rpartition", "rsplit", "rstrip", "split",
      "splitlines", "startswith", "strip", "swapcase", "title", "translate", "upper", "zfill"]),
    ("int", ["as_integer_ratio", "bit_count", "bit_length", "conjugate", "to_bytes"]),
    ("float", ["as_integer_ratio", "conjugate", "hex", "is_integer"]),
    ("bytes", ["capitalize", "center", "count", "decode", "endswith", "expandtabs", "find",
      "hex", "index", "isalnum", "isalpha", "isascii", "isdigit", "islower", "isspace", "istitle",
      "isupper", "join", "ljust", "lower", "lstrip", "partition", "removeprefix", "removesuffix",
      "replace", "rfind", "rindex", "rjust", "rpartition", "rsplit", "rstrip", "split",
      "splitlines", "startswith", "strip", "swapcase", "title", "translate", "upper", "zfill"]),
    ("complex", ["conjugate"]),
    ("bytearray", ["append", "capitalize", "center", "clear", "copy", "count", "decode",
      "endswith", "expandtabs", "extend", "find", "hex", "index", "insert", "isalnum", "isalpha",
      "isascii", "isdigit", "islower", "isspace", "istitle", "isupper", "join", "ljust", "lower",
      "lstrip", "partition", "pop", "remove", "removeprefix", "removesuffix", "replace",
      "reverse", "rfind", "rindex", "rjust", "rpartition", "rsplit", "rstrip", "split",
      "splitlines", "startswith", "strip", "swapcase", "title", "translate", "upper", "zfill"]),
    ("memoryview", ["cast", "hex", "release", "tobytes", "tolist", "toreadonly"]),
    ("range", ["count", "index"]),
    ("slice", ["indices"]),
    ("property", ["deleter", "getter", "setter"]),
    ("BaseException", ["add_note", "with_traceback"]),
    ("BaseExceptionGroup", ["derive", "split", "subgroup"])]

/-- The methods of built-in classes that are called on the class itself. -/
def classMethods : List (String × List String) :=
  [("dict", ["fromkeys"]),
    ("str", ["maketrans"]),
    ("int", ["from_bytes"]),
    ("float", ["fromhex"]),
    ("bytes", ["fromhex", "maketrans"]),
    ("bytearray", ["fromhex", "maketrans"])]

/-- The other names of the instances of built-in classes. -/
def getters : List (String × List String) :=
  [("int", ["denominator", "imag", "numerator", "real"]),
    ("float", ["imag", "real"]),
    ("memoryview", ["c_contiguous", "contiguous", "f_contiguous", "format", "itemsize",
      "nbytes", "ndim", "obj", "readonly", "shape", "strides", "suboffsets"]),
    ("BaseException", ["args"]),
    ("OSError", ["characters_written"])]

/-- The names of validated models that other names have replaced. -/
def replacedModelNames : List String :=
  ["dict", "json", "copy", "parse_obj", "parse_raw", "parse_file", "from_orm", "construct",
    "schema", "schema_json", "validate", "update_forward_refs"]

def modelMethods : List String :=
  ["model_copy", "model_dump", "model_dump_json", "model_post_init"]

def modelClassMethods : List String :=
  ["model_construct", "model_json_schema", "model_parametrized_name", "model_rebuild",
    "model_validate", "model_validate_json", "model_validate_strings"]

def modelProperties : List String :=
  ["model_computed_fields", "model_extra", "model_fields", "model_fields_set"]

/-- What a class of the language or its libraries itself has under a name. `asked` is the class that
is asked for it. -/
def ownName? (c asked : ClassRef) (n : String) : Option Hint :=
  let has (table : List (String × List String)) : Bool :=
    ((table.lookup c.name).map (·.contains n)).getD false
  if c.home = "builtins" then
    if has methods then
      some (.object "method_descriptor" ("<method '" ++ n ++ "' of '" ++ c.name ++ "' objects>"))
    else if has getters then
      some (.object "getset_descriptor"
        ("<attribute '" ++ n ++ "' of '" ++ c.name ++ "' objects>"))
    else if has classMethods then
      some (.object "builtin_function_or_method" ("<built-in method " ++ n ++ " of type object>"))
    else none
  else if c = baseModel then
    if modelClassMethods.contains n then
      some (.object "method" ("<bound method BaseModel." ++ n ++ " of " ++ asked.shown ++ ">"))
    else if (replacedModelNames ++ modelMethods).contains n then
      some (.object "function" n)
    else if modelProperties.contains n then some (.object "property" "<property object>")
    else none
  else none

/-- What a class has under a name from what makes it. -/
def metaclassName? (c : ClassRef) (n : String) : Option Hint :=
  let names := match c.metaclass with
    | .plain | .enumeration | .typedDict _ | .namedTuple | .anything => ["mro"]
    | .abstract | .protocol | .model => ["mro", "register"]
  if names.contains n then
    some (.object "builtin_function_or_method" ("<built-in method " ++ n ++ ">"))
  else none

end ClassRef

end CallSchema

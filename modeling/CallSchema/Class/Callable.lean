import CallSchema.Class
import CallSchema.Hint.Builtin

/-!
Classes and the functions of the language as callable objects. Calling a class makes a value of it,
from the fields that it has.
-/

namespace CallSchema

/-- Parameters of a kind with the names given. -/
def paramsOf (kind : ParamKind) (hasDefault : String → Bool) (names : List String) :
    List SignatureParam :=
  names.map fun n => ⟨n, kind, hasDefault n⟩

/-- The parameters of built-in classes that tell them. -/
def knownParams? : ClassRef → Option (List SignatureParam)
  | .known "builtins" n =>
    match n with
    | "object" => some []
    | "list" | "tuple" => some [⟨"iterable", .positionalOnly, true⟩]
    | "float" => some [⟨"x", .positionalOnly, true⟩]
    | "reversed" => some [⟨"sequence", .positionalOnly, false⟩]
    | "complex" => some (paramsOf .positional (fun _ => true) ["real", "imag"])
    | "enumerate" => some (paramsOf .positional (· = "start") ["iterable", "start"])
    | "property" =>
      some (paramsOf .positional (fun _ => true) ["fget", "fset", "fdel", "doc"])
    | _ => none
  | _ => none

/-- The parameters of the functions of the language that tell them. -/
def functionParams? (n : String) : Option (List SignatureParam) :=
  let unnamed := paramsOf .positionalOnly (fun _ => false)
  let defaults := paramsOf .positional (fun _ => true)
  match n with
  | "globals" | "locals" => some []
  | "abs" => some (unnamed ["x"])
  | "aiter" => some (unnamed ["async_iterable"])
  | "all" | "any" => some (unnamed ["iterable"])
  | "ascii" | "callable" | "hash" | "id" | "len" | "repr" => some (unnamed ["obj"])
  | "bin" | "hex" | "oct" => some (unnamed ["number"])
  | "chr" => some (unnamed ["i"])
  | "ord" => some (unnamed ["c"])
  | "delattr" | "hasattr" => some (unnamed ["obj", "name"])
  | "setattr" => some (unnamed ["obj", "name", "value"])
  | "divmod" => some (unnamed ["x", "y"])
  | "isinstance" => some (unnamed ["obj", "class_or_tuple"])
  | "issubclass" => some (unnamed ["cls", "class_or_tuple"])
  | "format" =>
    some (paramsOf .positionalOnly (· = "format_spec") ["value", "format_spec"])
  | "input" => some (paramsOf .positionalOnly (fun _ => true) ["prompt"])
  | "eval" => some (paramsOf .positionalOnly (· ≠ "source") ["source", "globals", "locals"])
  | "exec" =>
    some (paramsOf .positionalOnly (· ≠ "source") ["source", "globals", "locals"]
      ++ [⟨"closure", .keywordOnly, true⟩])
  | "pow" => some (paramsOf .positional (· = "mod") ["base", "exp", "mod"])
  | "round" => some (paramsOf .positional (· = "ndigits") ["number", "ndigits"])
  | "sum" => some (unnamed ["iterable"] ++ defaults ["start"])
  | "sorted" =>
    some (unnamed ["iterable"] ++ paramsOf .keywordOnly (fun _ => true) ["key", "reverse"])
  | "print" =>
    some (⟨"args", .rest, false⟩
      :: paramsOf .keywordOnly (fun _ => true) ["sep", "end", "file", "flush"])
  | "open" =>
    some (paramsOf .positional (· ≠ "file")
      ["file", "mode", "buffering", "encoding", "errors", "newline", "closefd", "opener"])
  | "compile" =>
    some (paramsOf .positional ["flags", "dont_inherit", "optimize"].contains
        ["source", "filename", "mode", "flags", "dont_inherit", "optimize"]
      ++ [⟨"_feature_version", .keywordOnly, true⟩])
  | "__import__" =>
    some (paramsOf .positional (· ≠ "name") ["name", "globals", "locals", "fromlist", "level"])
  | _ => none

/-- The parameters of every enumeration. -/
def enumerationParams : List SignatureParam :=
  paramsOf .positional (· = "names") ["value", "names"]
    ++ paramsOf .keywordOnly (fun _ => true) ["module", "qualname", "type", "start", "boundary"]

/-- A function of the language as a callable object. -/
def functionCallable (n : String) : Callable :=
  { name := some n, home := "builtins", doc := none, params := functionParams? n
    annotations := [] }

/-- The class that marks intersections, as a callable object. -/
def intersectionCallable : Callable :=
  { name := some "Intersection", home := "", params := some [], annotations := []
    doc := some ("Marks a value as satisfying every listed type at once.\n\n```py\n" ++
      "def update(profile: Intersection[HasName, HasAge]): ...\n```") }

namespace ClassInfo

/-- The parameters that a class itself gives the making of its values. -/
def ownParams? (c : ClassInfo) : Option (List SignatureParam) :=
  let method? (n : String) : Option (List SignatureParam) :=
    match Keyed.get? c.attributes n with
    | some (.callable f) => f.params.map List.tail
    | _ => none
  match c.model, c.tupleFields, c.dataFields with
  | some m, _, _ => some (m.fields.pairs.map fun (name, f) => ⟨name, .keywordOnly, f.hasDefault⟩)
  | none, some fields, _ =>
    some (paramsOf .positional c.tupleDefaults.contains fields)
  | none, none, some fields =>
    some ((fields.pairs.filter (·.2.isMember)).map fun (name, f) =>
      ⟨name, .positional, f.hasDefault⟩)
  | none, none, none => (method? "__new__").or (method? "__init__")

/-- The documentation that a class itself has; a tuple with named fields lists them. -/
def ownDoc? (c : ClassInfo) : Option String :=
  c.doc.or (c.tupleFields.map fun fields => c.name ++ "(" ++ ", ".intercalate fields ++ ")")

end ClassInfo

namespace Context

variable (ctx : Context)

/-- The parameters of a class as a callable object, where they can be told. -/
def classParams? (c : ClassInfo) : Option (List SignatureParam) :=
  match c.metaclass with
  | .enumeration => some enumerationParams
  | .typedDict _ => none
  | _ =>
    match (ctx.described c).findSome? (·.ownParams?) with
    | some ps => some ps
    | none => (c.ancestors.find? (·.identity?.isNone)).bind knownParams?

/-- A class as a callable object. -/
def classCallable (c : ClassRef) : Callable :=
  let made : Callable :=
    { name := some c.name, home := c.home, doc := none, params := knownParams? c, annotations := []
      ofClass := some c }
  match ctx.info? c with
  | some info =>
    { made with
      doc := (ctx.described info).findSome? (·.ownDoc?), params := ctx.classParams? info
      annotations := info.annotations.pairs }
  | none => made

/-- The callable object that a name is bound to, if it can be called. -/
def callable? : Binding → Option Callable
  | .callable f => some f
  | .hint (.cls c) => some (ctx.classCallable c)
  | .hint (.form "" "Intersection") => some intersectionCallable
  | .hint h => (Hint.functionName? h).map functionCallable
  | .field _ => none

end Context

end CallSchema

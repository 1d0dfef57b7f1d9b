import CallSchema.Hint

/-!
The names that every module has: the built-in classes, with their ancestry, and the other built-in
objects.
-/

namespace CallSchema.Hint

/-- Built-in classes that take arguments. -/
def builtinGenerics : List String :=
  ["list", "dict", "set", "frozenset", "tuple", "type", "enumerate", "BaseExceptionGroup",
    "ExceptionGroup"]

/-- Built-in classes that extend `object` alone. -/
def rootClasses : List String :=
  ["list", "dict", "set", "frozenset", "tuple", "type", "enumerate", "str", "int", "float", "bytes",
    "complex", "bytearray", "memoryview", "range", "slice", "property", "classmethod",
    "staticmethod", "super", "filter", "map", "zip", "reversed", "BaseException"]

/-- The other built-in classes, with the classes that they extend. -/
def derivedClasses : List (String × List String) :=
  [("bool", ["int"]), ("Exception", ["BaseException"]), ("BaseExceptionGroup", ["BaseException"]),
    ("ExceptionGroup", ["BaseExceptionGroup", "Exception"]), ("GeneratorExit", ["BaseException"]),
    ("KeyboardInterrupt", ["BaseException"]), ("SystemExit", ["BaseException"]),
    ("ArithmeticError", ["Exception"]), ("AssertionError", ["Exception"]),
    ("AttributeError", ["Exception"]), ("BufferError", ["Exception"]), ("EOFError", ["Exception"]),
    ("ImportError", ["Exception"]), ("LookupError", ["Exception"]), ("MemoryError", ["Exception"]),
    ("NameError", ["Exception"]), ("OSError", ["Exception"]), ("ReferenceError", ["Exception"]),
    ("RuntimeError", ["Exception"]), ("StopAsyncIteration", ["Exception"]),
    ("StopIteration", ["Exception"]), ("SyntaxError", ["Exception"]),
    ("SystemError", ["Exception"]), ("TypeError", ["Exception"]), ("ValueError", ["Exception"]),
    ("Warning", ["Exception"]), ("FloatingPointError", ["ArithmeticError"]),
    ("OverflowError", ["ArithmeticError"]), ("ZeroDivisionError", ["ArithmeticError"]),
    ("ModuleNotFoundError", ["ImportError"]), ("IndexError", ["LookupError"]),
    ("KeyError", ["LookupError"]), ("UnboundLocalError", ["NameError"]),
    ("BlockingIOError", ["OSError"]), ("ChildProcessError", ["OSError"]),
    ("ConnectionError", ["OSError"]), ("FileExistsError", ["OSError"]),
    ("FileNotFoundError", ["OSError"]), ("InterruptedError", ["OSError"]),
    ("IsADirectoryError", ["OSError"]), ("NotADirectoryError", ["OSError"]),
    ("PermissionError", ["OSError"]), ("ProcessLookupError", ["OSError"]),
    ("TimeoutError", ["OSError"]), ("BrokenPipeError", ["ConnectionError"]),
    ("ConnectionAbortedError", ["ConnectionError"]),
    ("ConnectionRefusedError", ["ConnectionError"]), ("ConnectionResetError", ["ConnectionError"]),
    ("NotImplementedError", ["RuntimeError"]), ("RecursionError", ["RuntimeError"]),
    ("IndentationError", ["SyntaxError"]), ("TabError", ["IndentationError"]),
    ("UnicodeError", ["ValueError"]), ("UnicodeDecodeError", ["UnicodeError"]),
    ("UnicodeEncodeError", ["UnicodeError"]), ("UnicodeTranslateError", ["UnicodeError"]),
    ("BytesWarning", ["Warning"]), ("DeprecationWarning", ["Warning"]),
    ("EncodingWarning", ["Warning"]), ("FutureWarning", ["Warning"]),
    ("ImportWarning", ["Warning"]), ("PendingDeprecationWarning", ["Warning"]),
    ("ResourceWarning", ["Warning"]), ("RuntimeWarning", ["Warning"]),
    ("SyntaxWarning", ["Warning"]), ("UnicodeWarning", ["Warning"]), ("UserWarning", ["Warning"])]

/-- Second names of built-in classes. -/
def classAliases : List (String × String) :=
  [("IOError", "OSError"), ("EnvironmentError", "OSError")]

def isBuiltinClass (n : String) : Bool :=
  n = "object" || rootClasses.contains n || (derivedClasses.lookup n).isSome

def builtinFunctions : List String :=
  ["abs", "aiter", "all", "anext", "any", "ascii", "bin", "breakpoint", "callable", "chr",
    "compile", "delattr", "dir", "divmod", "eval", "exec", "format", "getattr", "globals",
    "hasattr", "hash", "hex", "id", "input", "isinstance", "issubclass", "iter", "len", "locals",
    "max", "min", "next", "oct", "open", "ord", "pow", "print", "repr", "round", "setattr",
    "sorted", "sum", "vars", "__build_class__", "__import__"]

def builtinFunction (n : String) : Hint :=
  object "builtin_function_or_method" ("<built-in function " ++ n ++ ">")

/-- The name of the function of the language that a hint is. -/
def functionName? : Hint → Option String
  | object "builtin_function_or_method" shown =>
    builtinFunctions.find? fun n => shown == "<built-in function " ++ n ++ ">"
  | _ => none

/-- Other built-in objects, with the words for their kinds and the texts that show them. -/
def builtinObjects : List (String × String × String) :=
  [("NotImplemented", "NotImplementedType", "NotImplemented"),
    ("exit", "Quitter", "Use exit() or Ctrl-D (i.e. EOF) to exit"),
    ("quit", "Quitter", "Use quit() or Ctrl-D (i.e. EOF) to exit"),
    ("help", "_Helper",
      "Type help() for interactive help, or help(object) for help about object.")]

/-- Modules that a described module has at hand. -/
def packages : List String :=
  ["typing", "typing_extensions", "collections", "os", "enum", "dataclasses", "functools",
    "warnings", "pydantic"]

/-- A name that every module has. -/
def builtinName? (n : String) : Option Hint :=
  if isBuiltinClass n then some (cls (.builtin n))
  else if let some c := classAliases.lookup n then some (cls (.builtin c))
  else if builtinFunctions.contains n then some (builtinFunction n)
  else if let some (kind, shown) := builtinObjects.lookup n then some (object kind shown)
  else if packages.contains n then some (package n)
  else if n = "Intersection" then some (form "" "Intersection")
  else if n = "Ellipsis" then some ellipsis
  else if n = "__debug__" then some (constant (.bool true))
  else none

end CallSchema.Hint

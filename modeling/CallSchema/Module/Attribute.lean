import CallSchema.Class.Callable

/-!
What a module is asked for by name: its own names, and what all modules have from their class.
-/

namespace CallSchema

namespace ModuleClass

/-- The class of all modules. -/
def callable : Callable :=
  { name := some "module", home := "builtins", annotations := []
    params := some (paramsOf .positional (· = "doc") ["name", "doc"])
    doc := some ("Create a module object.\n\n" ++
      "The name must be a string; the optional doc argument can have any type.") }

/-- The methods of all modules, with their documentation and the parameters that they tell. -/
def methods : List (String × String × Option (List SignatureParam)) :=
  let unnamed (names : List String) := some (paramsOf .positionalOnly (fun _ => false) names)
  let anything := some [⟨"args", .rest, false⟩, ⟨"kwargs", .keywords, false⟩]
  [("__delattr__", "Implement delattr(self, name).", unnamed ["name"]),
    ("__dir__", "__dir__() -> list\nspecialized dir() implementation", none),
    ("__eq__", "Return self==value.", unnamed ["value"]),
    ("__format__", "Default object formatter.", unnamed ["format_spec"]),
    ("__ge__", "Return self>=value.", unnamed ["value"]),
    ("__getattribute__", "Return getattr(self, name).", unnamed ["name"]),
    ("__getstate__", "Helper for pickle.", some []),
    ("__gt__", "Return self>value.", unnamed ["value"]),
    ("__hash__", "Return hash(self).", some []),
    ("__init__", "Initialize self.  See help(type(self)) for accurate signature.", anything),
    ("__init_subclass__",
      "This method is called when a class is subclassed.\n\n" ++
      "The default implementation does nothing. It may be\noverridden to extend subclasses.", none),
    ("__le__", "Return self<=value.", unnamed ["value"]),
    ("__lt__", "Return self<value.", unnamed ["value"]),
    ("__ne__", "Return self!=value.", unnamed ["value"]),
    ("__new__", "Create and return a new object.  See help(type) for accurate signature.",
      anything),
    ("__reduce__", "Helper for pickle.", some []),
    ("__reduce_ex__", "Helper for pickle.", unnamed ["protocol"]),
    ("__repr__", "Return repr(self).", some []),
    ("__setattr__", "Implement setattr(self, name, value).", unnamed ["name", "value"]),
    ("__sizeof__", "Size of object in memory, in bytes.", some []),
    ("__str__", "Return str(self).", some []),
    ("__subclasshook__",
      "Abstract classes can override this to customize issubclass().\n\n" ++
      "This is invoked early on by abc.ABCMeta.__subclasscheck__().\n" ++
      "It should return True, False or NotImplemented.  If it returns\n" ++
      "NotImplemented, the normal algorithm is used.  Otherwise, it\n" ++
      "overrides the normal algorithm (and the outcome is cached).", none)]

def method? (n : String) : Option Callable :=
  (methods.lookup n).map fun (doc, params) =>
    { name := some n, home := "builtins", doc := some doc, params, annotations := [] }

/-- What answers for a name before the module itself does: nothing that can be called, or the class
of the module. -/
def reserved : List (String × Option Callable) := [("__dict__", none), ("__class__", some callable)]

end ModuleClass

namespace Context

/-- The callable object that a module gives for a name: the one of its own that the name is bound to
in the end, unless its class answers first, or else a method of its class. -/
def moduleAttribute? (ctx : Context) (home name : String) : Option Callable :=
  match ModuleClass.reserved.lookup name, Keyed.get? (ctx.namesOf home) name with
  | some found, _ => found
  | none, some b => ctx.callable? b
  | none, none => ModuleClass.method? name

end Context

end CallSchema

import CallSchema.Class

/-!
What the classes that a class extends tell about it: what makes the class, whether they can stand
together, and the ancestors that they give it.
-/

namespace CallSchema

namespace Metaclass

/-- Whether what makes one kind of classes also makes those of another. -/
def isKindOf (a b : Metaclass) : Bool :=
  a = b || b = .plain || (b = .abstract && (a = .protocol || a = .model))

/-- What makes a class by what makes its bases: the one that extends all others. -/
def common : (first : Metaclass) → List Metaclass → Except Failure Metaclass
  | m, [] => .ok m
  | m, m' :: ms =>
    if isKindOf m m' then common m ms
    else if isKindOf m' m then common m' ms
    else
      Hint.typeError ("metaclass conflict: the metaclass of a derived class must be a (non-strict) "
        ++ "subclass of the metaclasses of all its bases")

end Metaclass

namespace ClassRef

/-- Built-in exceptions whose values hold more than those of the exceptions that they extend. -/
def solidErrors : List String :=
  ["AttributeError", "BaseExceptionGroup", "ImportError", "NameError", "OSError", "StopIteration",
    "SyntaxError", "SystemExit", "UnicodeDecodeError", "UnicodeEncodeError",
    "UnicodeTranslateError"]

/-- Whether a class lays out its values in a way of its own. -/
def isSolid : ClassRef → Bool
  | known "builtins" n => n = "object" || Hint.rootClasses.contains n || solidErrors.contains n
  | known "collections" n => ["deque", "defaultdict", "OrderedDict"].contains n
  | c => c = baseModel

/-- Whether no class may extend a class. -/
def isFinal : ClassRef → Bool
  | known "builtins" n => ["bool", "memoryview", "range", "slice", "NoneType"].contains n
  | _ => false

end ClassRef

namespace Context

/-- The class by whose layout the values of a class are laid out. -/
def layout (ctx : Context) (c : ClassRef) : ClassRef :=
  ((ctx.lineage c).find? ClassRef.isSolid).getD .object

/-- Checks that every base may be extended, and that their values are laid out in ways that fit one
another. `best` is the layout so far. -/
def checkLayouts (ctx : Context) : (best : ClassRef) → List ClassRef → Except Failure Unit
  | _, [] => .ok ()
  | best, c :: cs =>
    if c.isFinal then Hint.typeError ("type '" ++ c.name ++ "' is not an acceptable base type")
    else
      let layout := ctx.layout c
      if best.knownLineage.contains layout then checkLayouts ctx best cs
      else if layout.knownLineage.contains best then checkLayouts ctx layout cs
      else Hint.typeError "multiple bases have instance lay-out conflict"

/-- The first class that stands twice among the bases. -/
def repeatedBase? : List ClassRef → Option ClassRef
  | [] => none
  | c :: cs => if cs.contains c then some c else repeatedBase? cs

/-- Keeps the first of equal classes. -/
def distinct : List ClassRef → List ClassRef
  | [] => []
  | c :: cs => c :: (distinct cs).filter (· != c)

/-- The ancestors that a class has from its bases. -/
def ancestorsOf (ctx : Context) (bases : List ClassRef) : Except Failure (List ClassRef) := do
  ctx.checkLayouts .object bases
  if let some c := repeatedBase? bases then
    Hint.typeError ("duplicate base class " ++ c.name)
  match bases with
  | [] => pure [.object]
  | bases =>
    match mergeLineages (bases.map ctx.lineage) with
    | .ok ancestors => pure ancestors
    | .error heads =>
      Hint.typeError ("Cannot create a consistent method resolution\norder (MRO) for bases "
        ++ ", ".intercalate ((distinct heads).map (·.name)))

end Context

end CallSchema

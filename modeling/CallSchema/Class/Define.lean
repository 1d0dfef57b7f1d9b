import CallSchema.Class.DataClass
import CallSchema.Class.Enumeration
import CallSchema.Class.Model
import CallSchema.Class.NamedTuple
import CallSchema.Class.TypedDict

/-!
Class definitions: what a class becomes by its bases, its body and its decorator.
-/

namespace CallSchema

/-- The head of a class definition. -/
structure ClassDef where
  name : String
  bases : List HintExpr := []
  /-- Whether the keys of a typed dictionary must be given unless they say otherwise. -/
  total : Bool := true
  doc : Option String := none
  /-- Whether the class is made a data class. -/
  isDataClass : Bool := false
  deriving Repr, Inhabited

/-- What the bases of a class tell about it before its body runs. -/
structure ClassHead where
  /-- The bases as they are written. -/
  written : List Hint
  /-- The classes that they stand for. -/
  bases : List ClassRef
  metaclass : Metaclass
  /-- The class whose values the members are, if the class is an enumeration. -/
  dataType : Option ClassRef := none
  deriving Repr, Inhabited

/-- A class with its ancestors, checked for how its bases name type variables. -/
def ClassHead.checkVariables (head : ClassHead) (c : ClassInfo) : Except Failure ClassInfo := do
  let isTypedDict := match head.metaclass with
    | .typedDict _ => true
    | _ => false
  Context.checkVariables head.written c.ancestors isTypedDict
  pure c

namespace ClassDef

/-- What the bases of a class tell about it. -/
def head (d : ClassDef) (ctx : Context) (scope : Scope) : Except Failure ClassHead := do
  let written ← d.bases.mapM (Hint.build scope)
  let bases ← ctx.baseClasses d.name written written
  let metaclass ← Metaclass.common .plain (bases.map (·.metaclass))
  let dataType ←
    if metaclass = .enumeration then ctx.enumerationType d.name bases else pure none
  pure { written, bases, metaclass, dataType }

/-- The body of a class before its statements run. `around` is the name of the class around it. -/
def body (d : ClassDef) (head : ClassHead) (around : Option String) : ClassBody :=
  { className := d.name
    qualifiedName := (around.map (· ++ "." ++ d.name)).getD d.name
    members := if head.metaclass = .enumeration then some {} else none }

/-- Only typed dictionaries take arguments. -/
def checkArguments (d : ClassDef) (c : ClassInfo) : Except Failure Unit :=
  if d.total then pure ()
  else Hint.typeError (c.qualifiedName ++ ".__init_subclass__() takes no keyword arguments")

/-- The class with the ancestors that its bases give it. -/
def extending (d : ClassDef) (ctx : Context) (head : ClassHead) (c : ClassInfo) :
    Except Failure ClassInfo := do
  let ancestors ← ctx.ancestorsOf head.bases
  d.checkArguments c
  head.checkVariables { c with ancestors }

/-- The class that a body becomes. -/
def make (d : ClassDef) (ctx : Context) (home : String) (head : ClassHead) (body : ClassBody) :
    Outcome ClassInfo := do
  let c : ClassInfo :=
    { identity := ctx.classes.length, qualifiedName := body.qualifiedName, home
      metaclass := head.metaclass, ancestors := [], annotations := body.annotations
      attributes := body.names, doc := d.doc }
  let made ← match head.metaclass with
    | .typedDict rules =>
      Outcome.ofExcept (c.asTypedDict ctx rules head.bases d.total >>= head.checkVariables)
    | .namedTuple =>
      Outcome.ofExcept ({ c with metaclass := .plain }.asNamedTuple head.bases
        >>= head.checkVariables)
    | .enumeration => Outcome.ofExcept do
      let names := body.members.getD {}
      body.checkMembers names
      let ancestors ← ctx.ancestorsOf head.bases
      let made ← { c with ancestors }.asEnumeration ctx body names head.dataType
      d.checkArguments c
      head.checkVariables made
    | .model => do
      let attributes ← Outcome.ofExcept (c.modelNames ctx head.bases)
      let c ← Outcome.ofExcept (d.extending ctx head { c with attributes })
      c.checkOrder
      c.asModel ctx head.bases
    | _ => Outcome.ofExcept (d.extending ctx head c)
  if d.isDataClass then Outcome.ofExcept (made.asDataClass ctx) else pure made

end ClassDef

/-- A tuple with the named fields given, and no hints. -/
def ClassInfo.bareTuple (ctx : Context) (home name : String) (fields : List String) :
    Except Failure ClassInfo :=
  let c : ClassInfo :=
    { identity := ctx.classes.length, qualifiedName := name, home, metaclass := .plain,
      ancestors := [], annotations := .empty, attributes := [] }
  c.asBareTuple fields

/-- Adds a class that has been made. -/
def Context.addClass (ctx : Context) (c : ClassInfo) : Context :=
  { ctx with classes := ctx.classes ++ [c] }

end CallSchema

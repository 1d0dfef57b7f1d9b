import CallSchema.Class.Define
import CallSchema.Function

/-!
Modules of Python programs as lists of statements, and the functions that stand in them.
-/

namespace CallSchema

/-- How a lambda is bound to its names. -/
inductive LambdaTarget
  /-- One name after another. -/
  | names
  /-- A name with a hint. -/
  | annotated
  /-- A tuple of names and a tuple of lambdas. -/
  | tuple
  /-- Names, and a member of an object after them. -/
  | member
  /-- A name inside an expression. -/
  | inner
  deriving DecidableEq, Repr, Inhabited

namespace LambdaTarget

/-- Whether the value of the assignment is the lambda itself. -/
def assignsLambda : LambdaTarget → Bool
  | names | annotated | member => true
  | tuple | inner => false

end LambdaTarget

/-- What stands after the hint of a field. -/
inductive FieldDefault
  | value (e : HintExpr)
  /-- A default, or what makes one, with a description. -/
  | spec (default : Option HintExpr) (isMade : Bool) (description : Option String)
  deriving Repr, Inhabited

inductive Statement
  | define (isAsync : Bool) (f : FunctionDef)
  | classDef (c : ClassDef) (body : List Statement)
  /-- A name of a class with a hint. -/
  | field (name : String) (hint : HintExpr) (default : Option FieldDefault)
  /-- A tuple with named fields and no hints. -/
  | bareTuple (name : String) (fields : List String)
  | lambda (target : LambdaTarget) (names : List String) (params : List ParamDef)
  | assign (name : String) (value : HintExpr)
  | rebind (name of : String)
  | delete (name : String)
  | raise (kind text : String)
  | warn (text : String)
  | importModule (path : String)
  | importNames (path : String) (names : List String)
  | branch (test : Bool) (body orelse : List Statement)
  /-- The handler, if there is one, takes every exception. -/
  | attempt (body : List Statement) (handler : Option (List Statement))
      (orelse final : List Statement)
  | within (body : List Statement)
  | loop (count : Nat) (body : List Statement)
  deriving Repr, Inhabited

structure Module where
  statements : List Statement
  /-- Whether all hints are kept as texts until they are asked for. -/
  lateHints : Bool := false
  deriving Repr, Inhabited

inductive FunctionKind
  | function
  | asyncFunction
  | lambda
  deriving DecidableEq, Repr, Inhabited

def FunctionKind.name : FunctionKind → String
  | function => "function"
  | asyncFunction => "async_function"
  | lambda => "lambda"

namespace Statement

mutual

/-- The functions and lambdas that a statement binds to names, whether it runs or not. Those inside
functions and classes do not count. -/
def functions : Statement → List (String × FunctionKind)
  | define isAsync f => [(f.name, if isAsync then .asyncFunction else .function)]
  | lambda target names _ => if target.assignsLambda then names.map (·, .lambda) else []
  | branch _ body orelse => functionsOfAll body ++ functionsOfAll orelse
  | attempt body none orelse final =>
    functionsOfAll body ++ functionsOfAll orelse ++ functionsOfAll final
  | attempt body (some handler) orelse final =>
    functionsOfAll body ++ functionsOfAll handler ++ functionsOfAll orelse ++ functionsOfAll final
  | within body | loop _ body => functionsOfAll body
  | _ => []

def functionsOfAll : List Statement → List (String × FunctionKind)
  | [] => []
  | s :: ss => functions s ++ functionsOfAll ss

end

end Statement

/-- The functions of a module, each name once, with the kind of its first binding. -/
def Module.functions (m : Module) : List (String × FunctionKind) :=
  (Statement.functionsOfAll m.statements).foldl
    (fun found f => if Keyed.has found f.1 then found else found ++ [f]) []

end CallSchema

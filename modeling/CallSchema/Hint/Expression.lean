import CallSchema.Value

/-!
Hints as they are written: expressions over names, with subscripts, bars and calls.
-/

namespace CallSchema

inductive HintExpr
  | name (n : String)
  | field (of : HintExpr) (n : String)
  | subscript (of : HintExpr) (args : List HintExpr)
  /-- Two hints with a bar between them. -/
  | either (left right : HintExpr)
  | arithmetic (operator : Char) (left right : HintExpr)
  | negative (of : HintExpr)
  | constant (value : Value)
  | ellipsis
  | list (items : List HintExpr)
  | tuple (items : List HintExpr)
  /-- What a star before an expression stands for. -/
  | unpacked (of : HintExpr)
  /-- A call. What it makes has the identity given, whenever it is new. -/
  | call (identity : Nat) (of : HintExpr) (args : List HintExpr)
  deriving Repr, Inhabited

namespace HintExpr

/-- A name of a module, given by the path to it. -/
def ofPath : (home : List String) → String → HintExpr
  | [], n => name n
  | p :: ps, n => field (ps.foldl field (name p)) n

/-- The class of `None`. -/
def noneType : HintExpr := call 0 (name "type") [constant .null]

/-- A new type variable. -/
def typeVar (identity : Nat) (n : String) : HintExpr :=
  call identity (ofPath ["typing"] "TypeVar") [constant (.text n)]

/-- A new type made of another one. -/
def newType (identity : Nat) (n : String) (of : HintExpr) : HintExpr :=
  call identity (ofPath ["typing"] "NewType") [constant (.text n), of]

mutual

/-- The text of an expression. -/
def source : HintExpr → String
  | name n => n
  | field e n => source e ++ "." ++ n
  | subscript e args =>
    source e ++ "[" ++ (if args.isEmpty then "()" else ", ".intercalate (sourceAll args)) ++ "]"
  | either a b => source a ++ " | " ++ source b
  | arithmetic op a b => source a ++ " " ++ String.singleton op ++ " " ++ source b
  | negative e => "-" ++ source e
  | constant v => v.source
  | ellipsis => "..."
  | list items => "[" ++ ", ".intercalate (sourceAll items) ++ "]"
  | unpacked e => "*" ++ source e
  | tuple [e] => "(" ++ source e ++ ",)"
  | tuple items => "(" ++ ", ".intercalate (sourceAll items) ++ ")"
  | call _ e args => source e ++ "(" ++ ", ".intercalate (sourceAll args) ++ ")"

def sourceAll : List HintExpr → List String
  | [] => []
  | e :: es => source e :: sourceAll es

end

end HintExpr

end CallSchema

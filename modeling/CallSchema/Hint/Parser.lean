import CallSchema.Hint.Token

/-!
Reading hints from text.
-/

namespace CallSchema.HintExpr

/-- The operators with two operands, those that bind least first. -/
def operatorLevels : List (List Char) := [['^'], ['&'], ['+', '-'], ['*', '/', '%', '@']]

mutual

/-- The value of an expression that is a constant. -/
def toConstant? : HintExpr → Option Value
  | constant v => some v
  | negative (constant (.number (.int n))) => some (.number (.int (-n)))
  | list items => (toConstants? items).map .list
  | call _ (name "float") [constant (.text s)] =>
    (Number.literal? s.toList).map fun l => .number (.float l.toBinary64)
  | _ => none

def toConstants? : List HintExpr → Option (List Value)
  | [] => some []
  | e :: es => do some ((← toConstant? e) :: (← toConstants? es))

end

mutual

/-- Alternatives with bars between them. -/
def either? : (fuel : Nat) → List Token → Option (HintExpr × List Token)
  | 0, _ => none
  | fuel + 1, ts => do
    let (left, rest) ← operation? fuel operatorLevels ts
    eitherFrom? fuel left rest

def eitherFrom? : (fuel : Nat) → HintExpr → List Token → Option (HintExpr × List Token)
  | 0, _, _ => none
  | fuel + 1, left, .mark '|' :: rest => do
    let (right, rest) ← operation? fuel operatorLevels rest
    eitherFrom? fuel (either left right) rest
  | _, left, rest => some (left, rest)

/-- Operands with operators of the levels between them. -/
def operation? : (fuel : Nat) → (levels : List (List Char)) → List Token →
    Option (HintExpr × List Token)
  | 0, _, _ => none
  | fuel + 1, [], ts => unary? fuel ts
  | fuel + 1, operators :: levels, ts => do
    let (left, rest) ← operation? fuel levels ts
    operationFrom? fuel operators levels left rest

def operationFrom? : (fuel : Nat) → (operators : List Char) → (levels : List (List Char)) →
    HintExpr → List Token → Option (HintExpr × List Token)
  | 0, _, _, _, _ => none
  | fuel + 1, operators, levels, left, .mark op :: rest =>
    if operators.contains op then do
      let (right, rest) ← operation? fuel levels rest
      operationFrom? fuel operators levels (arithmetic op left right) rest
    else some (left, .mark op :: rest)
  | _, _, _, left, rest => some (left, rest)

/-- An operand, perhaps with a sign. -/
def unary? : (fuel : Nat) → List Token → Option (HintExpr × List Token)
  | 0, _ => none
  | fuel + 1, .mark '-' :: rest => do
    let (e, rest) ← unary? fuel rest
    some (negative e, rest)
  | fuel + 1, ts => operand? fuel ts

/-- A name, a constant or a bracketed expression, with attributes, calls and subscripts after it. -/
def operand? : (fuel : Nat) → List Token → Option (HintExpr × List Token)
  | 0, _ => none
  | fuel + 1, ts =>
    match ts with
    | .word "None" :: rest => suffixes? fuel (constant .null) rest
    | .word "True" :: rest => suffixes? fuel (constant (.bool true)) rest
    | .word "False" :: rest => suffixes? fuel (constant (.bool false)) rest
    | .word w :: rest => suffixes? fuel (name w) rest
    | .constant (.text a) :: .constant (.text b) :: rest =>
      operand? fuel (.constant (.text (a ++ b)) :: rest)
    | .constant v :: rest => suffixes? fuel (constant v) rest
    | .dots :: rest => suffixes? fuel ellipsis rest
    | .mark '(' :: rest => do
      match ← items? fuel ')' rest with
      | ([e], false, rest) => suffixes? fuel e rest
      | (es, _, rest) => suffixes? fuel (tuple es) rest
    | .mark '[' :: rest => do
      let (es, _, rest) ← items? fuel ']' rest
      suffixes? fuel (list es) rest
    | .mark '\x7b' :: rest => do
      let (fields, rest) ← fields? fuel rest
      suffixes? fuel (constant (.record fields)) rest
    | _ => none

def suffixes? : (fuel : Nat) → HintExpr → List Token → Option (HintExpr × List Token)
  | 0, _, _ => none
  | fuel + 1, e, .mark '.' :: .word n :: rest => suffixes? fuel (field e n) rest
  | fuel + 1, e, .mark '[' :: rest => do
    match ← items? fuel ']' rest with
    | ([], _) => none
    | ([tuple []], false, rest) => suffixes? fuel (subscript e []) rest
    | (args, _, rest) => suffixes? fuel (subscript e args) rest
  | fuel + 1, e, .mark '(' :: rest => do
    let (args, _, rest') ← items? fuel ')' rest
    suffixes? fuel (call rest.length e args) rest'
  | _, e, rest => some (e, rest)

/-- Expressions with commas between them, up to the closing mark, and whether a comma stands after
the last. -/
def items? : (fuel : Nat) → Char → List Token → Option (List HintExpr × Bool × List Token)
  | 0, _, _ => none
  | fuel + 1, close, ts =>
    match ts with
    | .mark c :: rest =>
      if c = close then some ([], false, rest) else moreItems? fuel close ts
    | _ => moreItems? fuel close ts

def moreItems? : (fuel : Nat) → Char → List Token → Option (List HintExpr × Bool × List Token)
  | 0, _, _ => none
  | fuel + 1, close, ts => do
    let (e, rest) ← either? fuel ts
    match rest with
    | .mark ',' :: rest => do
      let (es, comma, rest) ← items? fuel close rest
      some (e :: es, comma || es.isEmpty, rest)
    | .mark c :: rest => if c = close then some ([e], false, rest) else none
    | _ => none

/-- The fields of a record up to its closing mark. Keys are texts, and values are constants. -/
def fields? : (fuel : Nat) → List Token → Option (List (String × Value) × List Token)
  | 0, _ => none
  | fuel + 1, ts =>
    match ts with
    | .mark '\x7d' :: rest => some ([], rest)
    | .constant (.text key) :: .mark ':' :: rest => do
      let (e, rest) ← either? fuel rest
      let v ← toConstant? e
      match rest with
      | .mark ',' :: rest => do
        let (fields, rest) ← fields? fuel rest
        some ((key, v) :: fields, rest)
      | .mark '\x7d' :: rest => some ([(key, v)], rest)
      | _ => none
    | _ => none

end

/-- The expression that a list of words and marks is. Several with commas between them are a
tuple. -/
def ofTokens? (ts : List Token) : Option HintExpr := do
  let fuel := 12 * ts.length + 12
  match ← either? fuel ts with
  | (e, []) => some e
  | (_, .mark ',' :: _) =>
    match ← items? fuel ')' (ts ++ [.mark ')']) with
    | (es, _, []) => some (tuple es)
    | _ => none
  | _ => none

/-- The expression that a text is, if it is one. -/
def parse? (source : String) : Option HintExpr := do
  match source.toList with
  | '*' :: cs => some (unpacked (← ofTokens? (← tokens? (String.ofList cs))))
  | _ => ofTokens? (← tokens? source)

end CallSchema.HintExpr

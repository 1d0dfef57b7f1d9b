import CallSchema.Hint.Build

/-!
Evaluating hints: expressions in the names of a module, and the texts that other hints hold. A text
that is reached again inside its own evaluation stays a text.
-/

namespace CallSchema

/-- The names that expressions of a module can use, and what classes have under a name. -/
structure Scope where
  home : String
  names : List (String × Hint)
  /-- The names of a class, which are looked up after those of the module. -/
  own : List (String × Hint) := []
  attribute? : ClassRef → String → Option Hint
  deriving Inhabited

namespace Hint

def nameError (n : String) : Failure := raised "NameError" ("name '" ++ n ++ "' is not defined")

/-- The hint that a name stands for. -/
def lookupName (scope : Scope) (n : String) : Except Failure Hint :=
  match ((scope.names.lookup n).or (scope.own.lookup n)).or (builtinName? n) with
  | some h => .ok h
  | none => .error (nameError n)

/-- A name of an object: of a module or of a class. -/
def lookupAttribute (scope : Scope) (h : Hint) (n : String) : Except Failure Hint :=
  match h with
  | package path =>
    match packageName? path n with
    | some h => .ok h
    | none => attributeError ("module '" ++ path ++ "'") n
  | cls c =>
    match scope.attribute? c n, c.metaclass with
    | some h, _ => .ok h
    | none, .enumeration | none, .model => .error (raised "AttributeError" n)
    | none, _ => attributeError ("type object '" ++ c.name ++ "'") n
  | h => attributeError ("'" ++ kindName h ++ "' object") n

/-- A bitwise operation on whole numbers, in as many bits as both need. -/
def bitwise (onBits : Nat → Nat → Nat) (x y : Int) : Int :=
  let size := Nat.pow 2 (x.natAbs.log2 + y.natAbs.log2 + 2)
  let bits := onBits (x % size).toNat (y % size).toNat
  if 2 * bits < size then bits else bits - size

/-- Arithmetic on whole numbers. -/
def calculate (operator : Char) (a b : Hint) : Except Failure Hint :=
  match a, b with
  | constant (.number (.int x)), constant (.number (.int y)) =>
    let whole (n : Int) : Except Failure Hint := .ok (constant (.number (.int n)))
    match operator with
    | '+' => whole (x + y)
    | '-' => whole (x - y)
    | '*' => whole (x * y)
    | '&' => whole (bitwise (· &&& ·) x y)
    | '^' => whole (bitwise (· ^^^ ·) x y)
    | '%' =>
      if y = 0 then .error (raised "ZeroDivisionError" "integer modulo by zero")
      else whole (Int.fmod x y)
    | '/' =>
      if y = 0 then .error (raised "ZeroDivisionError" "division by zero")
      else match Binary64.ofRatio (decide (x < 0) != decide (y < 0)) x.natAbs y.natAbs with
        | .infinite _ =>
          .error (raised "OverflowError" "integer division result too large for a float")
        | quotient => .ok (constant (.number (.float quotient)))
    | _ => operandError operator a b
  | _, _ => operandError operator a b

/-- The opposite of a number. -/
def negate : Hint → Except Failure Hint
  | constant (.number (.int n)) => .ok (constant (.number (.int (-n))))
  | constant (.number (.float x)) => .ok (constant (.number (.float x.negate)))
  | h => typeError ("bad operand type for unary -: '" ++ kindName h ++ "'")

/-- The double that a text stands for. One that is no number has the payload given. -/
def doubleOf? (payload : Nat) (s : String) : Option Binary64 :=
  match s with
  | "inf" => some (.infinite false)
  | "-inf" => some (.infinite true)
  | "nan" => some (.nan payload)
  | s => (Number.literal? s.toList).map (·.toBinary64)

/-- Asks the whole program to end. -/
def quit (args : List Hint) : Except Failure Hint :=
  let ending (message : String) : Except Failure Hint :=
    .error (.fault { kind := "SystemExit", message, endsProgram := true })
  match args with
  | [] | [null] => ending "None"
  | [text s] => ending s
  | [h] => ending (objectText h)
  | args =>
    typeError ("Quitter.__call__() takes from 1 to 2 positional arguments but "
      ++ toString (args.length + 1) ++ " were given")

/-- The calls that hints are made of. -/
def callOf (home : String) (identity : Nat) (h : Hint) (args : List Hint) : Except Failure Hint :=
  match h, args with
  | cls (.known "builtins" "type"), [null] => .ok noneType
  | cls (.known "builtins" "float"), [text s] =>
    match doubleOf? identity s with
    | some x => .ok (constant (.number (.float x)))
    | none => .error (raised "ValueError" ("could not convert string to float: " ++ Text.quoted s))
  | cls (.known "typing" "TypeVar"), [text n] => .ok (typeVar identity ("~" ++ n))
  | cls (.known "typing" "NewType"), [text n, of] => .ok (newType identity home n of)
  | cls c, _ => typeError ("cannot create '" ++ c.name ++ "' instances")
  | object "Quitter" _, args => quit args
  | h, _ => typeError ("'" ++ kindName h ++ "' object is not callable")

mutual

/-- The hint that an expression builds. -/
def build (scope : Scope) : HintExpr → Except Failure Hint
  | .name n => lookupName scope n
  | .field e n => do lookupAttribute scope (← build scope e) n
  | .subscript e args => do
    let h ← build scope e
    subscript h (← buildAll scope args)
  | .either a b => do
    let h ← build scope a
    either h (← build scope b)
  | .arithmetic op a b => do
    let h ← build scope a
    calculate op h (← build scope b)
  | .negative e => do negate (← build scope e)
  | .constant v => .ok (ofValue v)
  | .ellipsis => .ok ellipsis
  | .list items => do .ok (listing (← buildAll scope items))
  | .tuple items => do .ok (tuple (← buildAll scope items))
  | .unpacked e => do
    match ← build scope e with
    | generic origin args => .ok (generic origin args)
    | h => typeError ("Value after * must be an iterable, not " ++ kindName h)
  | .call identity e args => do
    let h ← build scope e
    callOf scope.home identity h (← buildAll scope args)

def buildAll (scope : Scope) : List HintExpr → Except Failure (List Hint)
  | [] => .ok []
  | e :: es => do
    let h ← build scope e
    .ok (h :: (← buildAll scope es))

end

/-- Texts among the arguments of a class become references. -/
def argReference : Hint → Except Failure Hint
  | text s => forwardOf s none
  | h => .ok h

mutual

/-- Evaluates the texts inside a hint with `onText`, which is told where each stands. A text that
notes stand around takes what a field does. -/
def evaluateWith (onText : Standing → String → Option String → Except Failure Hint) :
    Hint → Except Failure Hint
  | forward s home => onText .argument s home
  | generic origin args => do
    let _ ← args.mapM argReference
    .ok (generic origin (← evaluateArgs onText args))
  | applied name args => do .ok (applied name (← evaluateAll onText args))
  | union args => do unionOf (← evaluateAll onText args)
  | alternatives args => do
    match ← evaluateAll onText args with
    | [] => .ok (alternatives [])
    | h :: hs => hs.foldlM either h
  | annotated (forward s home) metadata => do annotate (← onText .field s home) metadata
  | annotated h metadata => do annotate (← evaluateWith onText h) metadata
  | required h => do .ok (required (← evaluateWith onText h))
  | notRequired h => do .ok (notRequired (← evaluateWith onText h))
  | unpack h => do .ok (unpack (← evaluateWith onText h))
  | starred h => do .ok (starred (← evaluateWith onText h))
  | callable none result => do .ok (callable none (← evaluateWith onText result))
  | callable (some params) result => do
    let params ← evaluateAll onText params
    .ok (callable (some params) (← evaluateWith onText result))
  | h => .ok h

def evaluateAll (onText : Standing → String → Option String → Except Failure Hint) :
    List Hint → Except Failure (List Hint)
  | [] => .ok []
  | h :: hs => do
    let h ← evaluateWith onText h
    .ok (h :: (← evaluateAll onText hs))

/-- Arguments of a class, whose texts are references too. -/
def evaluateArgs (onText : Standing → String → Option String → Except Failure Hint) :
    List Hint → Except Failure (List Hint)
  | [] => .ok []
  | h :: hs => do
    let h ← match h with
      | text s => do
        match ← forwardOf s none with
        | forward s home => onText .argument s home
        | h => .ok h
      | h => evaluateWith onText h
    .ok (h :: (← evaluateArgs onText hs))

end

/-- A text must evaluate to something that may stand where it does. -/
def evaluated (standing : Standing) (h : Hint) : Except Failure Hint := do
  refuseTuple "Forward references must evaluate to types." (← checkedAs standing none h)

/-- Evaluates a text, and the texts inside what it evaluates to. `entered` holds the texts that are
being evaluated. A text that comes with its module does not see the names of a class. -/
def evaluateText (scope : Scope) :
    (fuel : Nat) → (entered : List String) → Standing → String → Option String →
      Except Failure Hint
  | 0, _, _, s, home => .ok (forward s home)
  | fuel + 1, entered, standing, s, home =>
    if entered.contains s then .ok (forward s home)
    else
      match HintExpr.parse? s with
      | none =>
        .error (raised "SyntaxError"
          ("Forward reference must be an expression -- got " ++ Text.quoted s))
      | some e => do
        let scope := if home.isSome then { scope with own := [] } else scope
        let onText := evaluateText scope fuel (s :: entered)
        match ← build scope e with
        | text s' => do
          let _ ← forwardOf s' none
          onText standing s' none
        | h => do evaluateWith onText (← evaluated standing h)

/-- More than the number of different texts that evaluation can enter: a text holds fewer texts than
characters, and so does the text that a name stands for. -/
def textFuel (scope : Scope) (h : Hint) : Nat :=
  (scope.names ++ scope.own).foldl (fun n x => n + x.2.size) h.size + 1

/-- Evaluates a hint of a declaration. `None` counts as its class. -/
def evaluate (scope : Scope) (standing : Standing) (h : Hint) : Except Failure Hint :=
  let onText := evaluateText scope (textFuel scope h) []
  match h with
  | null => .ok noneType
  | text s => do
    match ← forwardOf s none with
    | forward s home => onText standing s home
    | h => .ok h
  | h => evaluateWith onText h

end Hint

end CallSchema

import CallSchema.Number.Shortest
import CallSchema.Failure
import CallSchema.Text.Class

/-!
Numbers: whole numbers of any size and doubles, their texts, and reading them from text.
-/

namespace CallSchema

/-- A number keeps its form: `1` and `1.0` are equal but not the same. -/
inductive Number
  | int (value : Int)
  | float (value : Binary64)
  deriving DecidableEq, Repr, Inhabited

namespace Number

/-- Equality as numbers, across both forms. -/
def eqv : Number → Number → Bool
  | .int a, .int b => a == b
  | .int a, .float b => b.toInt? == some a
  | .float a, .int b => a.toInt? == some b
  | .float a, .float b => a.eqv b

def text : Number → String
  | .int n => toString n
  | .float x => x.text

/-- The parts of a written number. -/
structure Literal where
  negative : Bool
  whole : List Nat
  point : Bool
  part : List Nat
  /-- The exponent with its sign, if one is written. -/
  exponent : Option (Bool × List Nat)

/-- Reads as many digits as there are. -/
def takeDigits : List Char → List Nat × List Char
  | [] => ([], [])
  | c :: cs =>
    match Text.digit? c with
    | some d => let (ds, rest) := takeDigits cs; (d :: ds, rest)
    | none => ([], c :: cs)

def takeSign : List Char → Bool × List Char
  | '-' :: cs => (true, cs)
  | '+' :: cs => (false, cs)
  | cs => (false, cs)

/-- Reads an exponent that ends the text. -/
def exponentOf? : List Char → Option (Bool × List Nat)
  | c :: cs =>
    if c = 'e' || c = 'E' then
      let (negative, cs) := takeSign cs
      match takeDigits cs with
      | ([], _) => none
      | (ds, []) => some (negative, ds)
      | _ => none
    else none
  | [] => none

/-- Reads a number that is the whole text: a sign, digits with a point among or after them or
before them, and an exponent. -/
def literal? (cs : List Char) : Option Literal :=
  let (negative, cs) := takeSign cs
  let (whole, cs) := takeDigits cs
  let (point, part, cs) := match cs with
    | '.' :: rest => let (part, rest) := takeDigits rest; (true, part, rest)
    | rest => (false, [], rest)
  if whole.isEmpty && part.isEmpty then none
  else match cs with
    | [] => some { negative, whole, point, part, exponent := none }
    | cs => (exponentOf? cs).map fun e =>
      { negative, whole, point, part, exponent := some e }

def natOfDigits (ds : List Nat) : Nat := ds.foldl (fun n d => 10 * n + d) 0

/-- The double nearest to what is written. -/
def Literal.toBinary64 (l : Literal) : Binary64 :=
  let exponent : Int := match l.exponent with
    | none => 0
    | some (negative, ds) =>
      let n := Int.ofNat (natOfDigits ds)
      if negative then -n else n
  Binary64.ofDecimal l.negative (natOfDigits (l.whole ++ l.part)) (exponent - l.part.length)

/-- Reads a number. Digits alone give a whole number, and too many of them are refused; what is
written with a point or an exponent gives a finite double or nothing. One newline may follow, and
makes a whole number a double. -/
def parse? (cs : List Char) : Except Failure (Option Number) :=
  let (body, newline) := if cs.getLast? = some '\n' then (cs.dropLast, true) else (cs, false)
  match literal? body with
  | none => .ok none
  | some l =>
    if !newline && !l.point && l.exponent.isNone then
      if maxDigits < l.whole.length then .error (.tooManyDigits l.whole.length)
      else
        let n := Int.ofNat (natOfDigits l.whole)
        .ok (some (.int (if l.negative then -n else n)))
    else
      let x := l.toBinary64
      .ok (if x.isFinite then some (.float x) else none)

end Number

end CallSchema

import CallSchema.Fragment
import CallSchema.Text.Quoted

/-!
Constants of Python programs: the values of literals, defaults, metadata and enumeration members.
-/

namespace CallSchema

/-- What the members of an enumeration also are. -/
inductive MemberForm
  | plain
  | text
  | whole
  | real
  deriving DecidableEq, Repr, Inhabited

inductive Value
  | null
  | bool (value : Bool)
  | number (value : Number)
  | text (value : String)
  | bytes (value : List UInt8)
  | list (items : List Value)
  | record (fields : List (String × Value))
  /-- A member of the enumeration with the given identity and name. -/
  | member (owner : Nat) (ownerName name : String) (form : MemberForm) (value : Value)
  /-- Any other object, by the word for its kind and the text that shows it. -/
  | object (kind shown : String)
  deriving Repr, Inhabited

namespace Value

/-- The value as an enumeration of texts or numbers lists it. -/
def listed? : Value → Option EnumValue
  | text s => some (.text s)
  | number n => some (.number n)
  | member _ _ _ .text (text s) => some (.text s)
  | member _ _ _ .whole (number n) | member _ _ _ .real (number n) => some (.number n)
  | _ => none

mutual

/-- The text that shows a value, with texts in quotes. -/
def shown : Value → String
  | null => "None"
  | bool b => if b then "True" else "False"
  | number n => n.text
  | text s => Text.quoted s
  | bytes bs => Text.quotedBytes bs
  | list items => "[" ++ ", ".intercalate (shownAll items) ++ "]"
  | record fields => "\x7b" ++ ", ".intercalate (shownFields fields) ++ "\x7d"
  | member _ ownerName name _ value => "<" ++ ownerName ++ "." ++ name ++ ": " ++ shown value ++ ">"
  | object _ s => s

def shownAll : List Value → List String
  | [] => []
  | v :: vs => shown v :: shownAll vs

def shownFields : List (String × Value) → List String
  | [] => []
  | (key, v) :: fields => (Text.quoted key ++ ": " ++ shown v) :: shownFields fields

end

mutual

/-- The text that a value is written with. It differs from the text that shows it for doubles, which
are written as calls. -/
def source : Value → String
  | number (.float x) => "float('" ++ x.text ++ "')"
  | list items => "[" ++ ", ".intercalate (sourceAll items) ++ "]"
  | record fields => "\x7b" ++ ", ".intercalate (sourceFields fields) ++ "\x7d"
  | member _ ownerName name _ _ => ownerName ++ "." ++ name
  | v => shown v

def sourceAll : List Value → List String
  | [] => []
  | v :: vs => source v :: sourceAll vs

def sourceFields : List (String × Value) → List String
  | [] => []
  | (key, v) :: fields => (Text.quoted key ++ ": " ++ source v) :: sourceFields fields

end

/-- Whether a value can be a member of a set. Lists and records cannot. -/
def isHashable : Value → Bool
  | list _ | record _ => false
  | _ => true

/-- The word for the kind of a value. -/
def kindName : Value → String
  | null => "NoneType"
  | bool _ => "bool"
  | number (.int _) => "int"
  | number (.float _) => "float"
  | text _ => "str"
  | bytes _ => "bytes"
  | list _ => "list"
  | record _ => "dict"
  | member _ ownerName _ _ _ => ownerName
  | object kind _ => kind

/-- The number that a value equals. Truth values equal zero and one. -/
def number? : Value → Option Number
  | bool b => some (.int (if b then 1 else 0))
  | number n => some n
  | member _ _ _ .whole (number n) | member _ _ _ .real (number n) => some n
  | _ => none

/-- The text that a value equals. -/
def text? : Value → Option String
  | text s => some s
  | member _ _ _ .text (text s) => some s
  | _ => none

/-- Equality of values that are neither lists nor records. -/
def eqvPlain (a b : Value) : Bool :=
  match a, b with
  | null, null => true
  | bytes x, bytes y => x == y
  | object kind s, object kind' s' => kind == kind' && s == s'
  | member owner _ name .plain _, member owner' _ name' .plain _ => owner == owner' && name == name'
  | a, b =>
    match a.number?, b.number? with
    | some x, some y => x.eqv y
    | _, _ =>
      match a.text?, b.text? with
      | some x, some y => x == y
      | _, _ => false

mutual

/-- Equality of values, numbers by value. -/
def eqv : Value → Value → Bool
  | list xs, list ys => eqvAll xs ys
  | record xs, record ys => xs.length == ys.length && eqvFields xs ys
  | a, b => eqvPlain a b

def eqvAll : List Value → List Value → Bool
  | [], [] => true
  | x :: xs, y :: ys => eqv x y && eqvAll xs ys
  | _, _ => false

def eqvFields : List (String × Value) → List (String × Value) → Bool
  | [], _ => true
  | (key, x) :: xs, ys =>
    (match ys.lookup key with
      | some y => eqv x y
      | none => false) && eqvFields xs ys

end

/-- Equality of values of the same kind: `1`, `True` and `1.0` differ. -/
def same (a b : Value) : Bool :=
  (match a, b with
    | null, null | bool _, bool _ | text _, text _ | bytes _, bytes _ => true
    | number (.int _), number (.int _) | number (.float _), number (.float _) => true
    | object .., object .. => true
    | member owner _ name _ _, member owner' _ name' _ _ => owner == owner' && name == name'
    | _, _ => false) && eqv a b

/-- Keeps the first of values that are the same. -/
def dedup : List Value → List Value
  | [] => []
  | v :: vs => v :: (dedup vs).filter fun w => !same v w

/-- The first kind of value in a list that cannot be a member of a set. -/
def unhashableKind? (vs : List Value) : Option String :=
  (vs.find? (!·.isHashable)).map kindName

/-- Keeps the first of values that are the same, unless some cannot be put into a set. -/
def distinct (vs : List Value) : List Value :=
  if (unhashableKind? vs).isSome then vs else dedup vs

end Value

end CallSchema

import CallSchema.Failure
import CallSchema.Text.Trim
import CallSchema.Value

/-!
Converting constants: to texts, to whole numbers, and to doubles.
-/

namespace CallSchema

namespace Text

/-- Drops the underscores of a written number. Each has to stand between two digits. -/
def withoutUnderscores? (before : Bool) : List Char → Option (List Char)
  | [] => some []
  | '_' :: cs =>
    if before && ((cs.head?.bind digit?).isSome) then withoutUnderscores? false cs else none
  | c :: cs => (withoutUnderscores? (digit? c).isSome cs).map (c :: ·)

end Text

namespace Binary64

/-- A finite double without what stands after its point. -/
def truncated? : Binary64 → Option Int
  | .finite negative mantissa exponent =>
    let (n, d) := ratio mantissa exponent
    let whole := Int.ofNat (n / d)
    some (if negative then -whole else whole)
  | _ => none

end Binary64

namespace Value

def valueError {α : Type} (message : String) : Except Failure α :=
  .error (raised "ValueError" message)

/-- The text of a constant. -/
def asText : Value → String
  | text s => s
  | member _ _ _ .whole (number n) => n.text
  | member _ ownerName name _ _ => ownerName ++ "." ++ name
  | v => v.shown

/-- The characters that a constant writes a number with. -/
def written? : Value → Option (List Char)
  | bytes bs => some (bs.map fun b => Char.ofNat b.toNat)
  | v => v.text?.map String.toList

/-- The whole number that a text is. `shown` is the text as messages show it. -/
def wholeOfText (shown : String) (cs : List Char) : Except Failure Int :=
  let bad : Except Failure Int :=
    valueError ("invalid literal for int() with base 10: " ++ shown)
  match Text.withoutUnderscores? false (Text.trim cs) with
  | none => bad
  | some cs =>
    match Number.literal? cs with
    | some ⟨negative, whole, false, _, none⟩ =>
      if maxDigits < whole.length then .error (.tooManyDigits whole.length)
      else
        let n := Int.ofNat (Number.natOfDigits whole)
        .ok (if negative then -n else n)
    | _ => bad

/-- The double that a text is. One that is no number has the payload given. -/
def doubleOfText (payload : Nat) (shown : String) (cs : List Char) : Except Failure Binary64 :=
  let bad : Except Failure Binary64 :=
    valueError ("could not convert string to float: " ++ shown)
  let (negative, word) := Number.takeSign ((Text.trim cs).map Char.toLower)
  if word = "inf".toList || word = "infinity".toList then .ok (.infinite negative)
  else if word = "nan".toList then .ok (.nan payload)
  else match (Text.withoutUnderscores? false (Text.trim cs)).bind Number.literal? with
    | some l => .ok l.toBinary64
    | none => bad

/-- The whole number that a constant is converted to. -/
def toWhole (v : Value) : Except Failure Int :=
  match v.number? with
  | some (.int n) => .ok n
  | some (.float x) =>
    match x.truncated?, x with
    | some n, _ => .ok n
    | none, .nan _ => valueError "cannot convert float NaN to integer"
    | none, _ => .error (raised "OverflowError" "cannot convert float infinity to integer")
  | none =>
    match v.written? with
    | some cs => wholeOfText v.shown cs
    | none =>
      .error (raised "TypeError"
        ("int() argument must be a string, a bytes-like object or a real number, not '"
          ++ v.kindName ++ "'"))

/-- The double that a constant is converted to. -/
def toDouble (payload : Nat) (v : Value) : Except Failure Binary64 :=
  match v.number? with
  | some (.float x) => .ok x
  | some (.int n) =>
    match Binary64.ofRatio (decide (n < 0)) n.natAbs 1 with
    | .infinite _ => .error (raised "OverflowError" "int too large to convert to float")
    | x => .ok x
  | none =>
    match v.written? with
    | some cs => doubleOfText payload v.shown cs
    | none =>
      .error (raised "TypeError"
        ("float() argument must be a string or a real number, not '" ++ v.kindName ++ "'"))

/-- The parts of a constant that has some. -/
def items? : Value → Option (List Value)
  | list vs => some vs
  | record fields => some (fields.map fun x => text x.1)
  | bytes bs => some (bs.map fun b => number (.int (Int.ofNat b.toNat)))
  | v => v.text?.map fun s => s.toList.map fun c => text (String.singleton c)

/-- The parts of a constant, which must have some. -/
def items (v : Value) : Except Failure (List Value) :=
  match v.items? with
  | some vs => .ok vs
  | none => .error (raised "TypeError" ("'" ++ v.kindName ++ "' object is not iterable"))

/-- A constant as the value of an enumeration's member that is also of another kind. -/
def asMember (form : MemberForm) (payload : Nat) (v : Value) : Except Failure Value :=
  match form with
  | .plain => .ok v
  | .text => .ok (text v.asText)
  | .whole => do .ok (number (.int (← v.toWhole)))
  | .real => do .ok (number (.float (← v.toDouble payload)))

/-- A member of an enumeration cannot be told its value. -/
def unset : Failure := raised "TypeError" "_value_ not set in __new__, unable to create it"

/-- A constant as a value of the class of the name given, which is no class of texts or numbers. -/
def asContained (className : String) (v : Value) : Except Failure Value :=
  match className with
  | "tuple" => .ok (object className ("(" ++ v.shown ++ ",)"))
  | "frozenset" => do .ok (object className (className ++ "(" ++ (list (← v.items)).shown ++ ")"))
  | "set" =>
    match v.items? with
    | some vs => .ok (object className (list vs).shown)
    | none => .error unset
  | "list" =>
    match v.items? with
    | some vs => .ok (list vs)
    | none => .error unset
  | "dict" =>
    match v, v.items? with
    | record fields, _ => .ok (record fields)
    | _, some [] => .ok (record [])
    | _, _ => .error unset
  | _ => if v.kindName = className then .ok v else .ok (object className v.shown)

end Value

end CallSchema

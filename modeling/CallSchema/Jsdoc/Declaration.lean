import CallSchema.Fragment
import CallSchema.Jsdoc.TypeToken

/-!
Declaration lines: a tag, a type, a name and a description. An enumeration lists its values in
brackets before the description.
-/

namespace CallSchema.Jsdoc

open Text

/-- What a declaration line says. -/
structure Declaration where
  isProperty : Bool
  typeToken : String
  isEnum : Bool := false
  enumValues : Option (List EnumValue) := none
  unionTypes : Option (List String) := none
  name : String
  description : String := ""
  isOptional : Bool := false
  deriving DecidableEq, Repr, Inhabited

/-- The parts of a declaration line as they are written. -/
structure Parts where
  isProperty : Bool
  type : List Char
  name : List Char
  rest : List Char
  deriving DecidableEq, Repr

/-- The tag of a declaration, and what follows it. -/
def takeTag? (line : List Char) : Option (Bool × List Char) :=
  match dropStart? "@param".toList line with
  | some rest => some (false, rest)
  | none => (dropStart? "@property".toList line).map (true, ·)

/-- Whether a line starts with the tag of a declaration as a whole word. -/
def isDeclaration (line : List Char) : Bool :=
  match takeTag? line with
  | some (_, []) => true
  | some (_, c :: _) => !isWord c
  | none => false

/-- A type in braces, or a bare type with a blank after it. -/
def takeType? : List Char → Option (List Char × List Char)
  | '\x7b' :: cs => (cutAt? ['\x7d'] cs).map fun (type, rest) => (type, trimLeft rest)
  | cs =>
    let inType (c : Char) := !isBlank c && c != '[' && c != '\x7b'
    match cs.takeWhile inType, cs.dropWhile inType with
    | [], _ => none
    | _, [] => none
    | type, c :: rest => if isBlank c then some (type, trimLeft rest) else none

/-- A name in brackets, which holds something, or a name without blanks and brackets. -/
def takeName? : List Char → Option (List Char × List Char)
  | '[' :: cs =>
    match cutAt? [']'] cs with
    | some ([], _) => none
    | some (inner, rest) => some ('[' :: inner ++ [']'], rest)
    | none => none
  | cs =>
    let inName (c : Char) := !isBlank c && c != '[' && c != ']'
    match cs.takeWhile inName with
    | [] => none
    | name => some (name, cs.dropWhile inName)

/-- A description ends with the text, or at a newline that ends it. -/
def takeRest? (cs : List Char) : Option (List Char) :=
  let cs := trimLeft cs
  match cs.dropWhile (· != '\n') with
  | [] => some cs
  | ['\n'] => some cs.dropLast
  | _ => none

def parts? (line : List Char) : Option Parts := do
  let (isProperty, afterTag) ← takeTag? line
  let (type, afterType) ← takeType? (trimLeft afterTag)
  let (name, afterName) ← takeName? afterType
  let rest ← takeRest? afterName
  some { isProperty, type, name, rest }

/-- A name in brackets is optional, and may have a default after an equals sign. -/
def optionalName (written : List Char) : Bool × String :=
  match written with
  | '[' :: inner =>
    if inner.getLast? = some ']' then
      (true, String.ofList (trim (inner.dropLast.takeWhile (· != '='))))
    else (false, String.ofList written)
  | _ => (false, String.ofList written)

/-- The values in brackets at the front of a description, and the description after them. -/
def enumList? : List Char → Option (List (List Char) × List Char)
  | '[' :: cs =>
    (cutAt? [']'] cs).map fun (inner, rest) =>
      ((splitOn ',' (trimLeft inner)).map trim, trimLeft rest)
  | _ => none

/-- Values that are all numbers make an enumeration of numbers, any others one of texts. -/
def classifyValues (values : List (List Char)) : Except Failure (String × List EnumValue) := do
  let numbers ← values.mapM Number.parse?
  match numbers.mapM id with
  | some ns => pure ("number", ns.map EnumValue.number)
  | none => pure ("string", values.map fun v => EnumValue.text (String.ofList v))

/-- Drops the dashes and blanks before a description. -/
def trimDashes (cs : List Char) : List Char := cs.dropWhile fun c => c == '-' || isBlank c

def Declaration.parse (line : List Char) : Except Failure Declaration := do
  match parts? line with
  | none => .error (.malformedDeclaration (String.ofList line))
  | some p =>
    let (isOptional, name) := optionalName p.name
    let rest := trim p.rest
    let token := normalToken p.type
    let plain : Declaration :=
      { isProperty := p.isProperty, typeToken := token, name, isOptional,
        description := String.ofList (trimDashes rest) }
    if isUnionToken token.toList then
      .ok { plain with unionTypes := some (← checkUnion p.type) }
    else if token = enumToken then
      match enumList? rest with
      | none => .ok { plain with isEnum := true }
      | some (values, rest) =>
        let (base, values) ← classifyValues values
        .ok { plain with
          typeToken := base, isEnum := true, enumValues := some values,
          description := String.ofList (trimDashes rest) }
    else .ok { plain with typeToken := ← checkType p.type }

end CallSchema.Jsdoc

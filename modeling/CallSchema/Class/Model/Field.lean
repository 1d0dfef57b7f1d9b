import CallSchema.Class

/-!
Fields of validated models: the names that their hints can use, and the types that are left of the
hints without what is said around them.
-/

namespace CallSchema

namespace Text

/-- What follows a word and an opening bracket. A path may come before the word. -/
def afterSubscripted? (word : String) (cs : List Char) : Option (List Char) :=
  let start := (word ++ "[").toList
  match dropStart? start cs with
  | some rest => some rest
  | none =>
    match cs.span isWord with
    | (_ :: _, '.' :: rest) => dropStart? start rest
    | _ => none

end Text

namespace Hint

/-- Whether a text is the hint of a variable of the class. -/
def isClassVariableText (s : String) : Bool :=
  let cs := s.toList
  (Text.afterSubscripted? "ClassVar" cs).isSome
    || (((Text.afterSubscripted? "Annotated" cs).bind (Text.afterSubscripted? "ClassVar")).isSome)

/-- Whether a hint, as it stands in a model, is that of a variable of the class. -/
def isModelVariable : Hint → Bool
  | form _ "ClassVar" | applied "ClassVar" _ | annotated (form _ "ClassVar") _
  | annotated (applied "ClassVar" _) _ => true
  | text s | forward s _ => isClassVariableText s
  | _ => false

/-- A field's type, and whether the field is said to be final. -/
structure FieldType where
  type : Hint
  isFinal : Bool := false

/-- A text that shows a hint, without the modules of its special names. -/
def shortText (h : Hint) : String :=
  ((inner h).replace "typing." "").replace "typing_extensions." ""

/-- The type of a field: its hint without what is said around it. Only typed dictionaries may say
whether a key must be given. `whole` is the hint with all that is said around it. -/
def fieldType (inDictionary : Bool) (whole : Hint) : Hint → Except Failure FieldType
  | annotated h _ => fieldType inDictionary whole h
  | applied "Final" [h] => do pure { (← fieldType inDictionary whole h) with isFinal := true }
  | applied "ClassVar" [h] => fieldType inDictionary whole h
  | form _ "Final" => .ok { type := cls (.known "typing" "Any"), isFinal := true }
  | form _ "ClassVar" => .ok { type := cls (.known "typing" "Any") }
  | required h => if inDictionary then fieldType inDictionary whole h else forbidden "Required"
  | notRequired h =>
    if inDictionary then fieldType inDictionary whole h else forbidden "NotRequired"
  | h => .ok { type := h }
where
  forbidden (word : String) : Except Failure FieldType :=
    .error (raised "PydanticForbiddenQualifier"
      ("The annotation " ++ Text.quoted (shortText whole) ++ " contains the 'typing." ++ word
        ++ "' type qualifier, which is invalid in the context it is defined."))

end Hint

namespace Context

/-- The scope in which the hints of a model's fields are evaluated: the class's own name, its names,
the name of the model that is being made, and the names of the module. -/
def modelScope (ctx : Context) (model c : ClassInfo) : Scope :=
  let scope := ctx.scopeOf c.home
  { scope with
    names := (c.name, c.hint) :: c.attributes.toHints ++ (model.name, model.hint) :: scope.names }

end Context

/-- A hint with all texts in it evaluated, or none if a name in it is not known. -/
def Scope.known? (scope : Scope) (h : Hint) : Except Failure (Option Hint) :=
  match Hint.evaluate scope .field h with
  | .ok h => .ok (some h)
  | .error (.fault ⟨"NameError", _, _⟩) => .ok none
  | .error e => .error e

end CallSchema

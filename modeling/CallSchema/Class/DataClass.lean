import CallSchema.Class.Ancestry
import CallSchema.Class.Body

/-!
Data classes: the fields that the hints of a class and its ancestors make, and their defaults.
-/

namespace CallSchema

namespace Hint

/-- Whether a hint is that of a variable of the class. -/
def isClassVariable : Hint → Bool
  | form _ "ClassVar" | applied "ClassVar" _ => true
  | text s =>
    let word (cs : List Char) : List Char × List Char := (Text.trimLeft cs).span Text.isWord
    let (first, rest) := word s.toList
    match Text.trimLeft rest with
    | '.' :: rest => first = "typing".toList && (word rest).1 = "ClassVar".toList
    | _ => false
  | _ => false

/-- The word for the kind of a hint that is a list or a record. -/
def mutableKind? : Hint → Option String
  | constant v => Value.unhashableKind? [v]
  | listing _ => some "list"
  | _ => none

end Hint

namespace DataField

/-- Refuses a default that could change. -/
def checkDefault (name : String) (default : Hint) : Except Failure Unit :=
  match default.mutableKind? with
  | some kind =>
    .error (raised "ValueError" ("mutable default <class '" ++ kind ++ "'> for field " ++ name
      ++ " is not allowed: use default_factory"))
  | none => .ok ()

/-- The field that a hint makes, with what the class has under its name. -/
def make (name : String) (h : Hint) (held : Option Binding) : Except Failure DataField := do
  let isMember := !h.isClassVariable
  let spec : FieldSpec := match held with
    | none => {}
    | some (.field spec) => spec
    | some b => { default := some b.toHint }
  if spec.isMade && !isMember then
    Hint.typeError ("field " ++ name ++ " cannot have a default factory")
  if isMember then spec.default.forM (checkDefault name)
  pure { hasDefault := spec.hasDefault, isMember }

/-- The names of a class after what is said of a field has given way to the default in it, if there
is one. `held` is what the class has under the field's name, perhaps from an ancestor. -/
def settle (className : String) (names : Names) (name : String) (held : Option Binding) :
    Except Failure Names :=
  match held with
  | some (.field { default := some h, .. }) => .ok (Keyed.put names name (.hint h))
  | some (.field { default := none, .. }) =>
    if Keyed.has names name then .ok (Keyed.erase names name)
    else Hint.attributeError ("type object '" ++ className ++ "'") name
  | _ => .ok names

/-- A field without a default must not follow one with a default. -/
def checkOrder : (seen : Bool) → List (String × DataField) → Except Failure Unit
  | _, [] => .ok ()
  | seen, (name, f) :: fs =>
    if f.hasDefault then checkOrder true fs
    else if seen then
      Hint.typeError
        ("non-default argument " ++ Text.quoted name ++ " follows default argument")
    else checkOrder false fs

end DataField

/-- A class as a data class: its fields are those of its ancestors, and those that it gives hints
itself. What is said of a field does not stay in the class, except for its default. -/
def ClassInfo.asDataClass (c : ClassInfo) (ctx : Context) : Except Failure ClassInfo := do
  let inherited := (ctx.describedAncestors c).reverse.foldl (fun fields a =>
    fields.putAll ((ctx.dataFields? a).getD .empty).pairs) Dict.empty
  let own ← c.annotations.pairs.mapM fun x => do
    pure (x.1, ← DataField.make x.1 x.2 (ctx.attribute? c x.1))
  let fields := inherited.putAll own
  let attributes ← c.annotations.keys.foldlM (fun names n =>
    DataField.settle c.name names n (ctx.attribute? c n)) c.attributes
  let isSpec (b : Binding) : Bool := match b with
    | .field _ => true
    | _ => false
  if let some x := attributes.find? fun x => isSpec x.2 && !c.annotations.has x.1 then
    Hint.typeError (Text.quoted x.1 ++ " is a field but has no type annotation")
  DataField.checkOrder false (fields.pairs.filter (·.2.isMember))
  pure { c with attributes, dataFields := some fields }

end CallSchema

import CallSchema.Class.Base
import CallSchema.Class.Body
import CallSchema.Class.Model.Check

/-!
Validated models: the fields that the hints of a class and its ancestors make, which names of its
body may stand beside them, and the warnings about names that say two things.
-/

namespace CallSchema

/-- A warning about something that later versions do away with. -/
def finalNotice (field : String) : String :=
  let quoted := Text.quoted field
  "Annotation " ++ quoted ++ " is marked as final and has a default value. Pydantic treats "
    ++ quoted ++ " as a class variable, but it will be considered as a normal field in V3 to be "
    ++ "aligned with dataclasses. If you still want " ++ quoted ++ " to be considered as a class "
    ++ "variable, annotate it as: `ClassVar[<type>] = <default>.`. Deprecated in Pydantic V2.11 to "
    ++ "be removed in V3.0."

/-- Starts of names that the methods of models keep for themselves. -/
def protectedStarts : List String := ["model_validate", "model_dump"]

/-- The name of what configures a model. It is no field. -/
def configName : String := "model_config"

/-- A model that is being made. -/
structure ModelDraft where
  /-- The class as far as its bases and its body tell. -/
  made : ClassInfo
  bases : List ClassRef

namespace ModelDraft

variable (ctx : Context) (d : ModelDraft)

/-- The models among the bases. -/
def parents : List ModelInfo := (d.bases.filterMap ctx.info?).filterMap (·.model)

def inheritedVariables : List String := (d.parents ctx).flatMap (·.classVariables)

/-- The field that a base has under a name, the first base before the others. -/
def inheritedField? (name : String) : Option ModelField :=
  (d.parents ctx).findSome? fun m => m.fields.get? name

/-- Whether a name of the body stays in the class. One that may be neither a field nor a name of the
class itself is refused. -/
def keepsName (name : String) (held : Binding) : Except Failure Bool :=
  let c := d.made
  let isInnerClass : Bool := match held with
    | .hint (.cls (.described _ _ home n)) =>
      home = c.home && n.startsWith (c.qualifiedName ++ ".")
    | _ => false
  let isFunction : Bool := match held with
    | .callable f => f.name.isSome
    | _ => false
  let isSpec : Bool := match held with
    | .field _ => true
    | _ => false
  let hint? := c.annotations.get? name
  if name = configName || isInnerClass || isFunction then .ok true
  else if isSpec && name.startsWith "_" then
    let plain := String.ofList (name.toList.dropWhile (· = '_'))
    .error (raised "NameError" ("Fields must not use names with leading underscores; e.g., use "
      ++ Text.quoted (if plain.isEmpty then "my_field" else plain) ++ " instead of "
      ++ Text.quoted name ++ "."))
  else if name.startsWith "__" then .ok true
  else if name.startsWith "_" then .ok ((hint?.map Hint.isModelVariable).getD false)
  else if (d.inheritedVariables ctx).contains name || hint?.isSome then .ok true
  else if (d.inheritedField? ctx name).isSome then
    modelError ("Field " ++ Text.quoted name ++ " defined on a base class was overridden by a "
      ++ "non-annotated attribute. All field definitions, including overrides, require a type "
      ++ "annotation.") "model-field-overridden"
  else
    modelError ("A non-annotated attribute was detected: `" ++ name ++ " = "
      ++ Hint.objectText held.toHint ++ "`. All model fields require a type annotation; if `"
      ++ name ++ "` is not meant to be a field, you may be able to resolve this error by "
      ++ "annotating it as a `ClassVar` or updating `model_config['ignored_types']`.")
      "model-field-missing-annotation"

/-- The names of the body that stay in the class. -/
def keptNames : Except Failure Names := do
  let c := d.made
  if c.annotations.has configName && !Keyed.has c.attributes configName then
    modelError ("`model_config` cannot be used as a model field name. Use `model_config` for model "
      ++ "configuration.") "model-config-invalid-field-name"
  c.attributes.filterM fun x => d.keepsName ctx x.1 x.2

/-- What the class has under the name of a field. Names that other ones have replaced do not
count. -/
def held? (name : String) : Option Binding :=
  (ctx.attribute? d.made name).filter fun
    | .hint (.object "function" n) => !ClassRef.replacedModelNames.contains n
    | _ => true

/-- Checks that a name does not start like those that models keep for themselves. -/
def checkProtected (name : String) : Outcome Unit :=
  let member? (b : ClassRef) : Option Binding :=
    let isField := ((ctx.info? b).bind (·.model)).any fun m => m.fields.has name
    if isField then none else ctx.attributeOf? b name
  (protectedStarts.filter fun start => name.startsWith start).forM fun start =>
    match d.bases.findSome? member? with
    | some held =>
      Outcome.fail (raised "ValueError" ("Field " ++ Text.quoted name ++ " conflicts with member "
        ++ Hint.bare held.toHint ++ " of protected namespace " ++ Text.quoted start ++ "."))
    | none =>
      let others := protectedStarts.filter (!name.startsWith ·)
      Outcome.warn (.notice ("Field " ++ Text.quoted name ++ " in " ++ Text.quoted d.made.name
        ++ " conflicts with protected namespace " ++ Text.quoted start
        ++ ".\n\nYou may be able to solve this by setting the 'protected_namespaces' configuration "
        ++ "to (" ++ ", ".intercalate (others.map fun n => "'" ++ n ++ "'") ++ ",)."))

/-- Warns of every base that has a name of its own under that of a field. -/
def checkShadowed (name : String) : Outcome Unit :=
  if !d.made.annotations.has name then pure ()
  else d.bases.forM fun b =>
    let field? := ((ctx.info? b).bind ctx.dataFields?).bind (·.get? name)
    if (ctx.attributeOf? b name).isNone || field?.any (·.isMember) then pure ()
    else
      Outcome.warn (.notice ("Field name \"" ++ name ++ "\" in \"" ++ d.made.qualifiedName
        ++ "\" shadows an attribute in parent \"" ++ b.qualifiedName ++ "\""))

/-- Whether a hint is the very object that is the default. -/
def isDefault (h : Hint) : Binding → Bool
  | .hint k =>
    match h, k with
    | .cls c, .cls c' => c == c'
    | .constant v, .constant w => v.same w
    | _, _ => false
  | _ => false

/-- Whether an object stands for a default. -/
def isGiven : Binding → Bool
  | .field spec => spec.isMade || match spec.default with
    | none | some .ellipsis => false
    | some _ => true
  | .hint .ellipsis => false
  | _ => true

/-- The field of a hint without a default. -/
def plainField (h : Hint) (isKnown : Bool) : Except Failure ModelField := do
  let t ← Hint.fieldType false h h
  pure
    { type := t.type, hasDefault := false, description := none
      pending := if isKnown then none else some h }

/-- The model after one more hint, which is known or not. -/
def addHint (m : ModelInfo) (name : String) (h : Hint) (isKnown : Bool) :
    Outcome (ModelDraft × ModelInfo) := do
  if name = configName then return (d, m)
  d.checkProtected ctx name
  if h.isModelVariable then
    return (d, { m with classVariables := m.classVariables ++ [name] })
  if name.startsWith "_" then return (d, m)
  d.checkShadowed ctx name
  let put (f : ModelField) : ModelInfo := { m with fields := m.fields.put name f }
  match d.held? ctx name with
  | none =>
    match d.inheritedField? ctx name with
    | some f =>
      if d.made.annotations.has name then
        pure (d, put (← Outcome.ofExcept (plainField h isKnown)))
      else pure (d, put f)
    | none => pure (d, put (← Outcome.ofExcept (plainField h isKnown)))
  | some held => do
    if isDefault h held then
      Outcome.ofExcept (modelError ("Error when building FieldInfo from annotated attribute. Make "
        ++ "sure you don't have any field name clashing with a type annotation.")
        "unevaluable-type-annotation")
    let f ← Outcome.ofExcept (plainField h isKnown)
    let t ← Outcome.ofExcept (Hint.fieldType false h h)
    if isKnown && t.isFinal && isGiven held then
      Outcome.warn (.notice (finalNotice name))
      pure (d, { m with classVariables := m.classVariables ++ [name] })
    else
      let description := match held with
        | .field spec => spec.description
        | _ => none
      let made := { d.made with attributes := Keyed.erase d.made.attributes name }
      pure ({ d with made }, put { f with hasDefault := isGiven held, description })

/-- The hints of the class and its ancestors, each with whether it is known. -/
def hints : Except Failure (List (String × Hint × Bool)) :=
  (ctx.described d.made).reverse.foldlM (fun found a =>
    a.annotations.pairs.foldlM (fun found x => do
      let (h, isKnown) ← match ← (ctx.modelScope a a).known? x.2 with
        | some h => pure (h, true)
        | none => pure (← Hint.converted none x.2, false)
      pure (Keyed.put found x.1 (h, isKnown))) found) []

/-- The fields with all hints known, or as they are if one is still not. -/
def settled (c : ClassInfo) (fields : Dict ModelField) : Except Failure (Dict ModelField) := do
  let known ← fields.pairs.mapM fun (name, f) =>
    match f.pending with
    | none => pure (some (name, f))
    | some h => do
      match ← (ctx.modelScope c c).known? h with
      | none => pure none
      | some h =>
        let t ← Hint.fieldType false h h
        pure (some (name, { f with type := t.type, pending := none }))
  pure (((known.mapM id).map .ofPairs).getD fields)

end ModelDraft

/-- The names that a body gives a model. -/
def ClassInfo.modelNames (c : ClassInfo) (ctx : Context) (bases : List ClassRef) :
    Except Failure Names :=
  ModelDraft.keptNames ctx { made := c, bases }

/-- Warns of a model that is generic before it is a model. -/
def ClassInfo.checkOrder (c : ClassInfo) : Outcome Unit :=
  if (c.ancestors.takeWhile (· != .baseModel)).contains .generic then
    Outcome.warn (.notice ("Classes should inherit from `BaseModel` before generic classes (e.g. "
      ++ "`typing.Generic[T]`) for pydantic generics to work properly."))
  else pure ()

/-- The model that a class is. `c` is the class with its ancestors and the names that it keeps. -/
def ClassInfo.asModel (c : ClassInfo) (ctx : Context) (bases : List ClassRef) :
    Outcome ClassInfo := do
  let d : ModelDraft := { made := c, bases }
  let hints ← Outcome.ofExcept (d.hints ctx)
  let start : ModelInfo := { classVariables := d.inheritedVariables ctx }
  let (d, m) ← hints.foldlM (fun (d, m) (name, h, isKnown) =>
    d.addHint ctx m name h isKnown) (d, start)
  let fields ← Outcome.ofExcept (ModelDraft.settled ctx d.made m.fields)
  let made := { d.made with model := some { m with fields } }
  if fields.pairs.all (·.2.pending.isNone) then
    Outcome.ofExcept (ctx.checkModel made)
  pure made

end CallSchema

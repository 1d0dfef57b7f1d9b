import CallSchema.Class.Ancestry
import CallSchema.Class.Body
import CallSchema.Value.Conversion

/-!
Enumerations: what their bases may be, and the members that the names of their bodies become.
-/

namespace CallSchema

namespace Context

variable (ctx : Context)

/-- Whether a class makes its values in a way of its own. -/
def makesValues (c : ClassRef) : Bool :=
  match ctx.info? c with
  | some c => c.dataFields.isSome || c.tupleFields.isSome || Keyed.has c.attributes "__new__"
  | none => c.home = "builtins" && c != .object

/-- The class whose values the members of an enumeration are, as an ancestor of it says. -/
def memberType? (c : ClassRef) : Option ClassRef :=
  match ctx.info? c with
  | some c => c.enumeration.bind (·.dataType)
  | none =>
    if c = .known "enum" "IntEnum" || c = .known "enum" "IntFlag" then some (.builtin "int")
    else if c = .known "enum" "StrEnum" then some (.builtin "str")
    else none

/-- The class whose values the members of an enumeration with the base of the lineage given are.
`candidate` is the first class so far that makes no values of its own. -/
def dataType? : (candidate : Option ClassRef) → (lineage : List ClassRef) → Option ClassRef
  | _, [] => none
  | candidate, c :: cs =>
    if c = .object then dataType? candidate cs
    else if c.metaclass = .enumeration then
      match ctx.memberType? c with
      | some d => some d
      | none => dataType? candidate cs
    else if ctx.makesValues c then some (candidate.getD c)
    else dataType? (candidate.or (some c)) cs

/-- Checks the bases of an enumeration, and tells the class whose values its members are. -/
def enumerationType (className : String) (bases : List ClassRef) :
    Except Failure (Option ClassRef) := do
  let hasMembers (c : ClassRef) : Bool :=
    (((ctx.info? c).bind (·.enumeration)).map fun e => !e.values.isEmpty).getD false
  if let some c := (bases.flatMap ctx.lineage).find? hasMembers then
    Hint.typeError ("<enum " ++ Text.quoted className ++ "> cannot extend " ++ c.shown)
  if (bases.getLast?.map (·.metaclass)) != some .enumeration then
    Hint.typeError ("new enumerations should be created as "
      ++ "`EnumName([mixin_type, ...] [data_type,] enum_type)`")
  match distinct (bases.filterMap fun c => ctx.dataType? none (ctx.lineage c)) with
  | [] => pure none
  | [c] => pure (some c)
  | cs =>
    Hint.typeError ("too many data types for " ++ Text.quoted className ++ ": \x7b"
      ++ ", ".intercalate (cs.map (·.shown)) ++ "\x7d")

/-- What the members of an enumeration also are. -/
def memberForm (dataType : Option ClassRef) : MemberForm :=
  match dataType with
  | none => .plain
  | some c =>
    let lineage := ctx.lineage c
    if lineage.contains (.builtin "str") then .text
    else if lineage.contains (.builtin "int") then .whole
    else if lineage.contains (.builtin "float") then .real
    else .plain

/-- Some names as messages list them. -/
def enumerated : List String → String
  | [] => ""
  | [n] => Text.quoted n
  | [n, m] => Text.quoted n ++ " and " ++ Text.quoted m
  | ns => ", ".intercalate (ns.dropLast.map Text.quoted)
    ++ ", and " ++ Text.quoted (ns.getLast?.getD "")

/-- Checks that a value of a described class can be made of one constant. -/
def checkMade (c : ClassInfo) (v : Value) : Except Failure Unit := do
  let tuple? := (ctx.described c).find? (·.tupleFields.isSome)
  match tuple?, tuple?.bind (·.tupleFields), ctx.dataFields? c with
  | some t, some [], _ =>
    Hint.typeError (t.name ++ ".__new__() takes 1 positional argument but 2 were given")
  | some t, some (_ :: others), _ => do
    let missing := others.filter (!t.tupleDefaults.contains ·)
    if !missing.isEmpty then
      Hint.typeError (t.name ++ ".__new__() missing " ++ toString missing.length
        ++ " required positional argument" ++ (if missing.length = 1 then ": " else "s: ")
        ++ enumerated missing)
  | _, _, fields? => do
    if c.lineage.contains (.builtin "tuple") then let _ ← v.items
    if let some fields := fields? then
      let fields := fields.pairs.filter (·.2.isMember)
      if fields.isEmpty || fields.tail.any (!·.2.hasDefault) then .error Value.unset

/-- The value of a member that a name with a constant becomes. -/
def memberValue (dataType : Option ClassRef) (payload : Nat) (v : Value) :
    Except Failure Value :=
  match ctx.memberForm dataType, dataType with
  | .plain, none => .ok v
  | .plain, some c =>
    match ctx.info? c with
    | none => v.asContained c.name
    | some info => do
      ctx.checkMade info v
      .ok (.object c.name v.shown)
  | form, _ => v.asMember form payload

end Context

/-- The members that names of an enumeration become. -/
structure Members where
  /-- The names of the members, without second names. -/
  names : List String := []
  values : List Value := []
  /-- All names with their members. -/
  bound : List (String × Value) := []

namespace Members

/-- One more name with a value. One with the value of an earlier member is a second name of it. -/
def add (ms : Members) (owner : ClassRef) (form : MemberForm) (name : String) (v : Value) :
    Members :=
  let earlier := ms.bound.find? fun x => match x.2 with
    | .member _ _ _ _ w => w.eqv v
    | _ => false
  match earlier with
  | some x => { ms with bound := ms.bound ++ [(name, x.2)] }
  | none =>
    let made := Value.member (owner.identity?.getD 0) owner.name name form v
    { names := ms.names ++ [name], values := ms.values ++ [v], bound := ms.bound ++ [(name, made)] }

/-- Checks the order that a body says its members have. -/
def checkOrder (ms : Members) (order : Option Binding) : Except Failure Unit :=
  match order with
  | none => .ok ()
  | some order => do
    let said ← match order.toHint with
      | .null => pure []
      | .constant v => if v.number? = some (.int 0) then pure [] else ClassBody.listed order
      | _ => ClassBody.listed order
    let isSecond (n : String) : Bool := Keyed.has ms.bound n && !ms.names.contains n
    let said := said.filter fun v => !(v.text?.any isSecond)
    let names := ms.names.map Value.text
    if said.isEmpty || Value.eqvAll said names then .ok ()
    else
      Hint.typeError ("member order does not match _order_:\n  " ++ (Value.list names).shown
        ++ "\n  " ++ (Value.list said).shown)

end Members

/-- The names of an enumeration's body that are not left out. -/
def ClassBody.kept (b : ClassBody) (names : MemberNames) : Names :=
  b.names.filter fun x => !names.ignored.contains x.1 && x.1 != "_ignore_"

/-- Checks the names of an enumeration's members. -/
def ClassBody.checkMembers (b : ClassBody) (names : MemberNames) : Except Failure Unit := do
  if names.members.contains "mro" then
    .error (raised "ValueError" "invalid enum member name(s) 'mro'")
  if let some n := names.members.find? (!Keyed.has (b.kept names) ·) then
    .error (raised "KeyError" (Text.quoted n))

/-- The enumeration that a body becomes. `c` is the class as far as its bases tell. -/
def ClassInfo.asEnumeration (c : ClassInfo) (ctx : Context) (body : ClassBody)
    (names : MemberNames) (dataType : Option ClassRef) : Except Failure ClassInfo := do
  let kept := body.kept names
  let form := ctx.memberForm dataType
  let ms ← kept.foldlM (fun (ms : Members) x => do
    if !names.members.contains x.1 then return ms
    let v ← ctx.memberValue dataType ms.bound.length (Hint.toNote x.2.toHint)
    pure (ms.add c.ref form x.1 v)) {}
  ms.checkOrder (Keyed.get? kept "_order_")
  let attributes := (Keyed.erase kept "_order_").map fun x =>
    match Keyed.get? ms.bound x.1 with
    | some v => (x.1, Binding.hint (.constant v))
    | none => x
  pure { c with attributes, enumeration := some { dataType, values := ms.values } }

end CallSchema

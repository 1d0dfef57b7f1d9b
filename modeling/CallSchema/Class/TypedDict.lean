import CallSchema.Class.Ancestry
import CallSchema.Class.Base
import CallSchema.Class.Body

/-!
Typed dictionaries: which keys must be given. A key that a class or a base says something of leaves
what the bases before it said. There are two sets of rules, by the module that a dictionary's base
comes from: those of `typing` look only at the outermost layers of a hint.
-/

namespace CallSchema

namespace KeySets

def union (xs ys : List String) : List String := xs ++ ys.filter (!xs.contains ·)

def without (xs ys : List String) : List String := xs.filter (!ys.contains ·)

/-- The keys with those of one more base. -/
def inherit (keys base : KeySets) : KeySets :=
  { required := without (union keys.required base.required) base.optional
    optional := union (without keys.optional base.required) base.optional }

/-- The keys with one more of the dictionary itself. -/
def own (keys : KeySets) (key : String) (isRequired : Bool) : KeySets :=
  keys.inherit (if isRequired then { required := [key] } else { optional := [key] })

end KeySets

namespace Hint

/-- Whether the layers around a hint hold one that says that the key must be given. -/
def saysRequired : Hint → Bool
  | annotated h _ | notRequired h => saysRequired h
  | required _ => true
  | _ => false

/-- Whether a hint of a field says that its key must be given; nothing if it says nothing. A hint
that says both is one of a key that must be given. -/
def requirement? (h : Hint) : Option Bool :=
  if h.saysRequired then some true else if h.isNotRequired then some false else none

/-- The same by the rules of `typing`, which look through one layer of notes alone. -/
def outerRequirement? : Hint → Option Bool
  | annotated (required _) _ | required _ => some true
  | annotated (notRequired _) _ | notRequired _ => some false
  | _ => none

end Hint

/-- The ancestors that bases give a typed dictionary. It does not keep the bases themselves. -/
def Context.dictionaryAncestors (ctx : Context) (bases : List ClassRef) : List ClassRef :=
  (if bases.any fun b => (ctx.lineage b).contains .generic then [.generic] else [])
    ++ [.builtin "dict", .object]

/-- The typed dictionary that a body becomes, by the rules of the module given. `c` is the class
without its ancestors, and `total` tells whether keys must be given unless they say otherwise. -/
def ClassInfo.asTypedDict (c : ClassInfo) (ctx : Context) (rules : String)
    (bases : List ClassRef) (total : Bool) : Except Failure ClassInfo := do
  if bases.any fun b => b.metaclass != .typedDict rules && b != .generic then
    Hint.typeError "cannot inherit from both a TypedDict type and a non-TypedDict base class"
  let own ← c.annotations.pairs.mapM fun x => do pure (x.1, ← Hint.checked (some c.home) x.2)
  let parents := bases.filterMap ctx.info?
  let inherited := parents.foldl (fun keys b => keys.inherit (b.keys.getD {})) {}
  let requirement? := if rules = "typing" then Hint.outerRequirement? else Hint.requirement?
  let keys := own.foldl (fun (keys : KeySets) x =>
    keys.own x.1 ((requirement? x.2).getD total)) inherited
  let annotations := parents.foldl (fun hints b => hints.putAll b.annotations.pairs) Dict.empty
  pure
    { c with
      ancestors := ctx.dictionaryAncestors bases, annotations := annotations.putAll own
      keys := some keys }

end CallSchema

import CallSchema.Fragment.Union
import CallSchema.Keyed
import CallSchema.TypeGraph
import CallSchema.TypeGraph.Resolution

/-!
Resolving types into fragments. A type that is reached again while it is being resolved becomes
unknown, so that resolving ends on recursive types: a run never goes deeper than the number of
different identities and one more.
-/

namespace CallSchema.TypeGraph

variable {τ ι : Type} (g : TypeGraph τ ι)

section Rules

variable {m : Type → Type} [Monad m] [MonadLiftT Outcome m]

/-- Resolves the members of a union; a single one stands for itself. -/
def resolveUnionWith (resolve : τ → m Fragment) : List τ → m Fragment
  | [t] => resolve t
  | ts => do pure (Fragment.oneOfAll (← mapInOrder resolve ts))

/-- Resolves a type, and tells whether it is a union with absence among its members. Absence is
left out of such a union before the others are resolved. -/
def resolveOptionalWith (resolve : τ → m Fragment) (t : τ) : m (Fragment × Bool) :=
  if g.isUnion t && (g.unionMembers t).any g.isAbsent then do
    pure (← resolveUnionWith resolve (g.presentMembers t), true)
  else do pure (← resolve t, false)

/-- Gives a fragment the description of its member, unless that is empty. -/
def describeMember (description : Option String) (f : Fragment) : Fragment :=
  match description with
  | none | some "" => f
  | some d => f.describe (some d)

/-- A member's name and fragment, and whether it must be given. -/
def resolveMemberWith (resolve : τ → m Fragment) (member : Member τ) :
    m (String × Fragment × Bool) := do
  let (fragment, optional) ← g.resolveOptionalWith resolve member.type
  pure (member.name, describeMember member.description fragment, !(member.isOptional || optional))

/-- The object of resolved members. -/
def objectOf (members : List (String × Fragment × Bool)) : Fragment :=
  .object none (Keyed.ofPairs (members.map fun m => (m.1, m.2.1)))
    ((members.filter (·.2.2)).map (·.1))

/-- The fragment of a shape, given how the types in it resolve. -/
def resolveShapeWith (resolve : τ → m Fragment) (t : τ) : TypeShape τ → m Fragment
  | .unconstrained => pure (.unknown none)
  | .enumeration base values => pure (.enum none base values)
  | .primitive type => pure (.primitive none type)
  | .array none => pure (.array none (.unknown none))
  | .array (some element) => do pure (.array none (← resolve element))
  | .object members => do pure (objectOf (← mapInOrder (g.resolveMemberWith resolve) members))
  | .union members => resolveUnionWith resolve members
  | .intersection members => do
    liftM (Outcome.ofExcept (Fragment.allOfAll (← mapInOrder resolve members)))
  | .unsupported => do
    liftM (Outcome.warn (.unsupportedType (g.describe t)))
    pure (.unknown none)

/-- Resolves a type by the first rule that fits it. -/
def resolveByRules (resolve : τ → m Fragment) (t : τ) : m Fragment := do
  let shape ← liftM (g.shape t)
  g.resolveShapeWith resolve t shape

end Rules

variable [BEq ι]

/-- Resolves a type while others are in progress, with calls nested at most `limit` deep. -/
def resolving : (limit : Nat) → τ → Resolving τ ι Fragment
  | 0, t => .called t (.answer (.fail .tooDeep))
  | limit + 1, t => .called t do
    let key := g.identity t
    if (← Resolving.inProgress).contains key then
      Resolving.answer (.warn (.recursiveType (g.describe t)))
      pure (.unknown none)
    else .during key (g.resolveByRules (resolving limit) t)

/-- Resolves a type by how the members of types are told, while the identities `s` are in progress,
with calls nested at most `limit` deep. -/
def resolvingWith {m : Type → Type} [Monad m] [MonadLiftT Outcome m]
    (members : τ → m (List (Member τ))) : (limit : Nat) → (s : List ι) → τ → m Fragment
  | 0, _, _ => liftM (Outcome.fail (α := Fragment) .tooDeep)
  | limit + 1, s, t => do
    let key := g.identity t
    if s.contains key then
      liftM (Outcome.warn (.recursiveType (g.describe t)))
      pure (.unknown none)
    else
      let shape ← g.shapeWith members t
      g.resolveShapeWith (resolvingWith members limit (key :: s)) t shape

/-- Resolves a type and tells whether it allows absence. -/
def resolvingOptional (limit : Nat) (t : τ) : Resolving τ ι (Fragment × Bool) :=
  g.resolveOptionalWith (g.resolving limit) t

/-- Resolves a type with no other in progress. -/
def resolve (limit : Nat) (t : τ) : Outcome Fragment := (g.resolving limit t []).outcome

/-- Resolves a type and tells whether it allows absence, with no other in progress. -/
def resolveOptional (limit : Nat) (t : τ) : Outcome (Fragment × Bool) :=
  (g.resolvingOptional limit t []).outcome

/-- What a resolver can be asked about a type. -/
inductive Query (τ : Type)
  | fragment (t : τ)
  /-- The fragment, and whether the type allows absence. -/
  | optional (t : τ)

/-- Answers a query. -/
def answering (limit : Nat) : Query τ → Resolving τ ι (Fragment × Option Bool)
  | .fragment t => do pure (← g.resolving limit t, none)
  | .optional t => do
    let (fragment, optional) ← g.resolvingOptional limit t
    pure (fragment, some optional)

/-- Answers queries one after another, with one resolver. What is in progress after an answer, also
after a failure, is in progress before the next one. -/
def session (limit : Nat) : List (Query τ) → List ι → List (Resolution τ ι (Fragment × Option Bool))
  | [], _ => []
  | q :: qs, inProgress =>
    let run := g.answering limit q inProgress
    run :: session limit qs run.inProgress

end CallSchema.TypeGraph

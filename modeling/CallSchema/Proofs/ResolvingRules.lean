import CallSchema.TypeGraph.Resolver
import CallSchema.Proofs.TypeParts

/-!
# Relations that the rules of a resolver keep

The rules of a resolver are written for any monad in which questions can be answered. This file
shows once, rule by rule, that a relation between the computations of two monads passes from the
types that a type calls for to the type itself. What holds of a whole run follows from its instances.
-/

namespace CallSchema.TypeGraph

variable {τ ι : Type}

/-- A relation between computations that answers whose warnings are all in `A`, results and
sequences of computations keep. -/
structure Kept {m n : Type → Type} [Monad m] [Monad n] [MonadLiftT Outcome m]
    [MonadLiftT Outcome n] (A : Warning → Prop) (R : (α : Type) → m α → n α → Prop) : Prop where
  pure {α : Type} (a : α) : R α (pure a) (pure a)
  answer {α : Type} {o : Outcome α} (ho : ∀ w ∈ o.warnings, A w) : R α (liftM o) (liftM o)
  ask {α β : Type} {o : Outcome α} {f : α → m β} {k : α → n β} (ho : ∀ w ∈ o.warnings, A w)
    (h : ∀ a, o.value = .ok a → R β (f a) (k a)) : R β (liftM o >>= f) (liftM o >>= k)
  bind {α β : Type} {x : m α} {y : n α} {f : α → m β} {k : α → n β} (hx : R α x y)
    (h : ∀ a, R β (f a) (k a)) : R β (x >>= f) (y >>= k)

namespace Kept

variable {m n : Type → Type} [Monad m] [Monad n] [MonadLiftT Outcome m] [MonadLiftT Outcome n]
  {A : Warning → Prop} {R : (α : Type) → m α → n α → Prop} {g : TypeGraph τ ι}
  {resolve : τ → m Fragment} {resolve' : τ → n Fragment} {t : τ}

lemma mapInOrder (hR : Kept A R) {α β : Type} {f : α → m β} {k : α → n β} {as : List α}
    (h : ∀ a ∈ as, R β (f a) (k a)) :
    R (List β) (CallSchema.mapInOrder f as) (CallSchema.mapInOrder k as) := by
  induction as with
  | nil => exact hR.pure []
  | cons a as ih =>
    have hrest := ih fun b hb => h b (List.mem_cons_of_mem a hb)
    exact hR.bind (h a List.mem_cons_self) fun b => hR.bind hrest fun bs => hR.pure (b :: bs)

lemma resolveUnionWith (hR : Kept A R) {ts : List τ}
    (h : ∀ u ∈ ts, R Fragment (resolve u) (resolve' u)) :
    R Fragment (TypeGraph.resolveUnionWith resolve ts)
      (TypeGraph.resolveUnionWith resolve' ts) := by
  match ts with
  | [t] => exact h t List.mem_cons_self
  | [] | _ :: _ :: _ => exact hR.bind (hR.mapInOrder h) fun fs => hR.pure _

/-- Asking whether a type is optional goes to the type itself or to the members of a union. -/
lemma resolveOptionalWith (hR : Kept A R) (resolve : τ → m Fragment) (resolve' : τ → n Fragment)
    (h : ∀ u, g.Asks t u → R Fragment (resolve u) (resolve' u)) :
    R (Fragment × Bool) (g.resolveOptionalWith resolve t) (g.resolveOptionalWith resolve' t) := by
  unfold TypeGraph.resolveOptionalWith
  split
  · rename_i hunion
    rw [Bool.and_eq_true] at hunion
    exact hR.bind (hR.resolveUnionWith fun u hu => h u (.inr ⟨hunion.1, hu⟩)) fun f => hR.pure _
  · exact hR.bind (h t (.inl rfl)) fun f => hR.pure _

lemma resolveMemberWith (hR : Kept A R) {member : Member τ}
    (h : ∀ u, g.Asks member.type u → R Fragment (resolve u) (resolve' u)) :
    R (String × Fragment × Bool) (g.resolveMemberWith resolve member)
      (g.resolveMemberWith resolve' member) :=
  hR.bind (hR.resolveOptionalWith resolve resolve' h) fun (_, _) => hR.pure _

lemma resolveShapeWith (hR : Kept A R) (hA : ∀ d, A (.unsupportedType d)) {shape : TypeShape τ}
    (hshape : (g.shape t).value = .ok shape)
    (h : ∀ u, g.Calls t u → R Fragment (resolve u) (resolve' u)) :
    R Fragment (g.resolveShapeWith resolve t shape) (g.resolveShapeWith resolve' t shape) := by
  have hparts : ∀ u ∈ shape.parts, R Fragment (resolve u) (resolve' u) := fun u hu =>
    h u ⟨u, part_of_mem_shape hshape hu, .inl rfl⟩
  match shape with
  | .unconstrained | .enumeration _ _ | .primitive _ | .array none => exact hR.pure _
  | .array (some element) =>
    exact hR.bind (hparts element List.mem_cons_self) fun f => hR.pure _
  | .object members =>
    refine hR.bind (hR.mapInOrder fun member hm => hR.resolveMemberWith fun u hu => h u ?_)
      fun fs => hR.pure _
    have hpart := part_of_mem_shape hshape (List.mem_map_of_mem (f := Member.type) hm)
    exact ⟨member.type, hpart, hu⟩
  | .union members => exact hR.resolveUnionWith hparts
  | .intersection members =>
    refine hR.bind (hR.mapInOrder hparts) fun fs => hR.answer ?_
    simp [Outcome.ofExcept]
  | .unsupported =>
    refine hR.ask ?_ fun _ _ => hR.pure _
    intro w hw
    obtain rfl : w = .unsupportedType (g.describe t) := by simpa [Outcome.warn] using hw
    exact hA _

lemma resolveByRules (hR : Kept A R) (resolve : τ → m Fragment) (resolve' : τ → n Fragment)
    (hA : ∀ d, A (.unsupportedType d))
    (hmembers : ∀ w ∈ (g.members t).warnings, A w)
    (h : ∀ u, g.Calls t u → R Fragment (resolve u) (resolve' u)) :
    R Fragment (g.resolveByRules resolve t) (g.resolveByRules resolve' t) :=
  hR.ask (fun w hw => hmembers w (mem_warnings_members_of_shape hw)) fun _ hshape =>
    hR.resolveShapeWith hA hshape h

end Kept

end CallSchema.TypeGraph

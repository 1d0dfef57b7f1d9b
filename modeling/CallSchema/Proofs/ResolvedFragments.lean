import CallSchema.Proofs.KeyedPairs
import CallSchema.Proofs.ResolverCalls
import CallSchema.Proofs.ValidSchemas

/-!
# Resolved fragments

What holds of each fragment that a rule makes of fragments for which it holds, holds of all resolved
fragments. This is shown once, rule by rule, for any monad in which questions can be answered. So
resolved fragments are valid, if primitive types have known names and no two members of a type have
one name.
-/

namespace CallSchema

/-- A relation between computations and what can come of them. -/
structure Comes {m : Type → Type} [Monad m] [MonadLiftT Outcome m]
    (R : (α : Type) → m α → α → Prop) : Prop where
  pure {α : Type} {a b : α} (h : R α (pure a) b) : b = a
  answer {α : Type} {o : Outcome α} {a : α} (h : R α (liftM o) a) : o.value = .ok a
  bind {α β : Type} {x : m α} {f : α → m β} {b : β} (h : R β (x >>= f) b) :
    ∃ a, R α x a ∧ R β (f a) b

lemma comes_outcome : Comes fun α (x : Outcome α) a => x.value = .ok a where
  pure h := (Outcome.value_pure_eq_ok.mp h).symm
  answer h := h
  bind h := Outcome.value_bind_eq_ok.mp h

lemma comes_resolving (τ ι : Type) :
    Comes fun α (x : Resolving τ ι α) a => ∃ s, (x s).outcome.value = .ok a where
  pure h := h.elim fun _ h => (Outcome.value_pure_eq_ok.mp h).symm
  answer h := h.elim fun _ h => h
  bind := by
    rintro α β x f b ⟨s, h⟩
    rw [Resolving.outcome_bind] at h
    obtain ⟨a, ha, hb⟩ := Outcome.value_bind_eq_ok.mp h
    exact ⟨a, ⟨s, ha⟩, _, hb⟩

namespace Comes

variable {m : Type → Type} [Monad m] [MonadLiftT Outcome m] {R : (α : Type) → m α → α → Prop}

lemma mapInOrder (hR : Comes R) {α β : Type} {f : α → m β} {as : List α} {bs : List β}
    (h : R (List β) (mapInOrder f as) bs) : List.Forall₂ (fun a b => R β (f a) b) as bs := by
  induction as generalizing bs with
  | nil =>
    obtain rfl := hR.pure h
    exact .nil
  | cons a as ih =>
    obtain ⟨b, hb, h⟩ := hR.bind h
    obtain ⟨bs', hbs, h⟩ := hR.bind h
    obtain rfl := hR.pure h
    exact .cons hb (ih hbs)

end Comes

namespace Constant

lemma base_of_enum? {c : Constant} {base : EnumBase} {v : EnumValue}
    (h : c.enum? = some (base, v)) : v.base = base := by
  match c with
  | .listed (.text _) | .listed (.number _) =>
    obtain ⟨rfl, rfl⟩ := Prod.mk.inj (Option.some.inj h)
    rfl
  | .other => cases h

lemma base_of_enumAll? {cs : List Constant} {base : EnumBase} {values : List EnumValue}
    (h : enumAll? cs = some (base, values)) : ∀ v ∈ values, v.base = base := by
  unfold enumAll? at h
  split at h
  · rename_i first value rest hlisted
    split at h
    · rename_i hall
      obtain ⟨rfl, rfl⟩ := Prod.mk.inj (Option.some.inj h)
      have hbase : ∀ x ∈ (first, value) :: rest, x.1 = first := by simpa using hall
      intro v hv
      obtain ⟨x, hx, rfl⟩ : ∃ x ∈ (first, value) :: rest, x.2 = v := by
        simpa [eq_comm] using hv
      obtain ⟨c, -, hc⟩ := exists_of_forall₂ (mapM_eq_some_iff.mp hlisted).flip hx
      exact hbase x hx ▸ base_of_enum? hc
    · cases h
  · cases h

end Constant

namespace TypeGraph

variable {τ ι : Type} {g : TypeGraph τ ι} {t : τ}

/-- What a type system keeps to: primitive types have known names, and no two members of a type have
one name. -/
structure WellFormed (g : TypeGraph τ ι) : Prop where
  primitive : ∀ t type, g.primitive? t = some type → type ∈ typeNames
  members : ∀ t ms, (g.members t).value = .ok ms → (ms.map (·.name)).Nodup

/-- What a shape says about its type. -/
def Tells (g : TypeGraph τ ι) (t : τ) : TypeShape τ → Prop
  | .enumeration base values => g.enumeration? t = some (base, values)
  | .primitive type => g.primitive? t = some type
  | .object ms => (g.members t).value = .ok ms
  | _ => True

lemma tells_of_shape {shape : TypeShape τ} (h : (g.shape t).value = .ok shape) :
    g.Tells t shape := by
  match shape, isShape_of_shape h with
  | .enumeration _ _, ⟨_, henum⟩ => exact henum
  | .primitive _, ⟨_, hprimitive⟩ => exact hprimitive
  | .object _, ⟨_, hms⟩ => exact hms
  | .unconstrained, _ | .array _, _ | .union _, _ | .intersection _, _ | .unsupported, _ => trivial

lemma base_of_enumeration? {base : EnumBase} {values : List EnumValue}
    (h : g.enumeration? t = some (base, values)) : ∀ v ∈ values, v.base = base := by
  unfold enumeration? at h
  split at h
  · rename_i first value hliteral
    obtain ⟨rfl, rfl⟩ := Prod.mk.inj (Option.some.inj h)
    obtain ⟨c, -, hc⟩ := Option.bind_eq_some_iff.mp hliteral
    simpa using Constant.base_of_enum? hc
  · obtain ⟨cs, -, hcs⟩ := Option.bind_eq_some_iff.mp h
    exact Constant.base_of_enumAll? hcs

/-- What holds of every fragment that a rule makes of fragments for which it holds. An object is made
of fragments that may have been given descriptions. -/
structure ClosedUnderRules (g : TypeGraph τ ι) (P : Fragment → Prop) : Prop where
  unknown : P (.unknown none)
  enum {t : τ} {base : EnumBase} {values : List EnumValue}
    (ht : g.enumeration? t = some (base, values)) : P (.enum none base values)
  primitive {t : τ} {type : String} (ht : g.primitive? t = some type) : P (.primitive none type)
  array {items : Fragment} (h : P items) : P (.array none items)
  object {t : τ} {ms : List (Member τ)} {members : List (String × Fragment × Bool)}
    (ht : (g.members t).value = .ok ms) (hnames : members.map (·.1) = ms.map (·.name))
    (h : ∀ x ∈ members, ∃ d f, P f ∧ x.2.1 = describeMember d f) : P (objectOf members)
  union {fs : List Fragment} (h : ∀ f ∈ fs, P f) : P (.oneOfAll fs)
  intersection {fs : List Fragment} {f : Fragment} (h : ∀ f ∈ fs, P f)
    (hf : Fragment.allOfAll fs = .ok f) : P f

section Rules

variable {m : Type → Type} [Monad m] [MonadLiftT Outcome m] {R : (α : Type) → m α → α → Prop}
  {resolve : τ → m Fragment} {f : Fragment} {P : Fragment → Prop} (hR : Comes R)
  (hresolve : ∀ u f, R Fragment (resolve u) f → P f)

include hR hresolve

lemma holds_of_mapInOrder {ts : List τ} {fs : List Fragment}
    (h : R (List Fragment) (mapInOrder resolve ts) fs) : ∀ f ∈ fs, P f := fun f hf => by
  obtain ⟨u, -, hu⟩ := exists_of_forall₂ (hR.mapInOrder h).flip hf
  exact hresolve u f hu

variable (hP : g.ClosedUnderRules P)

include hP

lemma holds_resolveUnionWith {ts : List τ} (h : R Fragment (resolveUnionWith resolve ts) f) :
    P f := by
  unfold resolveUnionWith at h
  split at h
  · exact hresolve _ f h
  · obtain ⟨fs, hfs, h⟩ := hR.bind h
    obtain rfl := hR.pure h
    exact hP.union (holds_of_mapInOrder hR hresolve hfs)

lemma holds_resolveOptionalWith {x : Fragment × Bool}
    (h : R (Fragment × Bool) (g.resolveOptionalWith resolve t) x) : P x.1 := by
  unfold resolveOptionalWith at h
  split at h
  · obtain ⟨f, hf, h⟩ := hR.bind h
    obtain rfl := hR.pure h
    exact holds_resolveUnionWith hR hresolve hP hf
  · obtain ⟨f, hf, h⟩ := hR.bind h
    obtain rfl := hR.pure h
    exact hresolve t f hf

lemma holds_resolveMemberWith {member : Member τ} {x : String × Fragment × Bool}
    (h : R (String × Fragment × Bool) (g.resolveMemberWith resolve member) x) :
    x.1 = member.name ∧ ∃ d f, P f ∧ x.2.1 = describeMember d f := by
  obtain ⟨⟨f, optional⟩, hf, h⟩ := hR.bind h
  obtain rfl := hR.pure h
  exact ⟨rfl, member.description, f, holds_resolveOptionalWith hR hresolve hP hf, rfl⟩

lemma holds_resolveShapeWith {shape : TypeShape τ} (htells : g.Tells t shape)
    (h : R Fragment (g.resolveShapeWith resolve t shape) f) : P f := by
  match shape, htells with
  | .unconstrained, _ =>
    obtain rfl := hR.pure h
    exact hP.unknown
  | .enumeration base values, hvalues =>
    obtain rfl := hR.pure h
    exact hP.enum hvalues
  | .primitive type, htype =>
    obtain rfl := hR.pure h
    exact hP.primitive htype
  | .array none, _ =>
    obtain rfl := hR.pure h
    exact hP.array hP.unknown
  | .array (some element), _ =>
    obtain ⟨items, hitems, h⟩ := hR.bind h
    obtain rfl := hR.pure h
    exact hP.array (hresolve element items hitems)
  | .object ms, hms =>
    obtain ⟨members, hmembers, h⟩ := hR.bind h
    obtain rfl := hR.pure h
    have hresolved := hR.mapInOrder hmembers
    refine hP.object hms ?_ fun x hx => ?_
    · exact map_eq_map_of_forall₂ hresolved fun _ _ hx =>
        (holds_resolveMemberWith hR hresolve hP hx).1
    · obtain ⟨member, -, hmember⟩ := exists_of_forall₂ hresolved.flip hx
      exact (holds_resolveMemberWith hR hresolve hP hmember).2
  | .union members, _ => exact holds_resolveUnionWith hR hresolve hP h
  | .intersection members, _ =>
    obtain ⟨fs, hfs, h⟩ := hR.bind h
    exact hP.intersection (holds_of_mapInOrder hR hresolve hfs) (hR.answer h)
  | .unsupported, _ =>
    obtain ⟨-, -, h⟩ := hR.bind h
    obtain rfl := hR.pure h
    exact hP.unknown

/-- What is closed under the rules holds of what they give, if it holds of the fragments of the
types that a type calls for. -/
theorem holds_resolveByRules (h : R Fragment (g.resolveByRules resolve t) f) : P f := by
  obtain ⟨shape, hshape, h⟩ := hR.bind h
  exact holds_resolveShapeWith hR hresolve hP (tells_of_shape (hR.answer hshape)) h

end Rules

section Runs

variable [BEq ι] {limit : Nat} {s : List ι} {f : Fragment} {P : Fragment → Prop}

/-- What is closed under the rules holds of all resolved fragments, whatever is in progress. -/
theorem ClosedUnderRules.resolving (hP : g.ClosedUnderRules P)
    (h : (g.resolving limit t s).outcome.value = .ok f) : P f := by
  induction limit generalizing t s f with
  | zero => cases h
  | succ limit ih =>
    cases hs : s.contains (g.identity t) with
    | true =>
      rw [resolving_of_inProgress hs] at h
      obtain rfl := Except.ok.inj h
      exact hP.unknown
    | false =>
      rw [resolving_of_not_inProgress hs] at h
      exact holds_resolveByRules (comes_resolving τ ι) (fun u f hf => hf.elim fun _ => ih) hP ⟨_, h⟩

theorem ClosedUnderRules.resolveOptional (hP : g.ClosedUnderRules P) {x : Fragment × Bool}
    (h : (g.resolveOptional limit t).value = .ok x) : P x.1 :=
  holds_resolveOptionalWith (comes_resolving τ ι) (fun _ _ hf => hf.elim fun _ => hP.resolving) hP
    ⟨[], h⟩

end Runs

section Valid

lemma valid_describeMember {f : Fragment} (h : f.Valid) (d : Option String) :
    (describeMember d f).Valid := by
  unfold describeMember
  split
  · exact h
  · exact h
  · exact h.describe _

lemma valid_objectOf {members : List (String × Fragment × Bool)}
    (hnames : (members.map (·.1)).Nodup) (h : ∀ x ∈ members, x.2.1.Valid) :
    (objectOf members).Valid := by
  have hkeys : Keyed.keys (Keyed.ofPairs (members.map fun x => (x.1, x.2.1))) =
      members.map (·.1) := by
    rw [Keyed.keys_ofPairs, List.map_map]
    exact Keyed.eraseDups_of_nodup hnames
  refine .object none (hkeys ▸ hnames) (hkeys ▸ List.filter_sublist.map _) fun x hx => ?_
  obtain ⟨y, hy, rfl⟩ := List.mem_map.mp (Keyed.mem_of_mem_ofPairs hx)
  exact h y hy

lemma closedUnderRules_valid (hg : g.WellFormed) : g.ClosedUnderRules Fragment.Valid where
  unknown := .unknown none
  enum ht := .enum none (base_of_enumeration? ht)
  primitive ht := .primitive none (hg.primitive _ _ ht)
  array h := .array none h
  object ht hnames h := by
    refine valid_objectOf (hnames ▸ hg.members _ _ ht) fun x hx => ?_
    obtain ⟨d, f, hf, hx⟩ := h x hx
    exact hx ▸ valid_describeMember hf d
  union h := .oneOfAll h
  intersection h hf := .allOfAll h hf

variable [BEq ι] {limit : Nat}

/-- Resolving gives valid fragments. -/
theorem valid_resolveOptional (hg : g.WellFormed) {x : Fragment × Bool}
    (h : (g.resolveOptional limit t).value = .ok x) : x.1.Valid :=
  (closedUnderRules_valid hg).resolveOptional h

end Valid

end TypeGraph

end CallSchema

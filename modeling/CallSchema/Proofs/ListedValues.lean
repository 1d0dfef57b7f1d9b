import CallSchema.Proofs.DocumentTexts
import CallSchema.Proofs.KeyedPairs
import CallSchema.Proofs.ResolvedFragments

/-!
# Where listed values come from

The rules of a resolver make no values: each value that a resolved fragment lists, at any depth, is
one of an enumeration that the type reaches. The numbers in the schema of a fragment are those that
the fragment lists.
-/

namespace CallSchema

namespace Fragment

open Document

/-- A fragment lists a value, at any depth. -/
inductive Lists : Fragment → EnumValue → Prop
  | enum {d : Option String} {base : EnumBase} {values : List EnumValue} {v : EnumValue}
    (hv : v ∈ values) : Lists (enum d base values) v
  | property {d : Option String} {properties : List (String × Fragment)} {required : List String}
    {name : String} {f : Fragment} {v : EnumValue} (hf : (name, f) ∈ properties) (h : Lists f v) :
    Lists (object d properties required) v
  | items {d : Option String} {f : Fragment} {v : EnumValue} (h : Lists f v) : Lists (array d f) v
  | oneOf {d : Option String} {variants : List Fragment} {f : Fragment} {v : EnumValue}
    (hf : f ∈ variants) (h : Lists f v) : Lists (oneOf d variants) v
  | allOf {d : Option String} {variants : List Fragment} {f : Fragment} {v : EnumValue}
    (hf : f ∈ variants) (h : Lists f v) : Lists (allOf d variants) v

variable {f : Fragment} {fs : List Fragment} {v : EnumValue} {d : Option String}

lemma Lists.of_describe (h : (f.describe d).Lists v) : f.Lists v := by
  cases f with
  | primitive => cases h
  | enum =>
    cases h with
    | enum hv => exact .enum hv
  | object =>
    cases h with
    | property hf h => exact .property hf h
  | array =>
    cases h with
    | items h => exact .items h
  | oneOf =>
    cases h with
    | oneOf hf h => exact .oneOf hf h
  | allOf =>
    cases h with
    | allOf hf h => exact .allOf hf h
  | unknown => cases h

lemma exists_lists_of_oneOfAll (h : (oneOfAll fs).Lists v) : ∃ f ∈ fs, f.Lists v := by
  have hknown : ∀ f ∈ fs.filter (!·.isUnknown), f ∈ fs := fun f hf => (List.mem_filter.mp hf).1
  unfold oneOfAll at h
  generalize fs.filter (!·.isUnknown) = known at hknown h
  split at h
  · cases h
  · exact ⟨_, hknown _ List.mem_cons_self, h⟩
  · split at h
    · rename_i base values hjoin
      cases h with
      | enum hv =>
        obtain ⟨f, hf, vs, henum, hmem⟩ := exists_variant_of_joinEnums? hjoin hv
        obtain ⟨d, rfl⟩ := enum?_eq_some_iff.mp henum
        exact ⟨_, hknown _ hf, .enum hmem⟩
    · cases h with
      | oneOf hf h => exact ⟨_, hknown _ hf, h⟩

lemma exists_lists_of_allOfAll (hf : allOfAll fs = .ok f) (h : f.Lists v) :
    ∃ g ∈ fs, g.Lists v := by
  unfold allOfAll at hf
  split at hf
  · cases hf
  · obtain rfl := Except.ok.inj hf
    cases h with
    | allOf hg h => exact ⟨_, hg, h⟩

lemma holds_withDescription {fields : List (String × Document)} {n : Number}
    (h : (withDescription d fields).Holds n) : ∃ x ∈ fields, x.2.Holds n := by
  obtain ⟨x, hx, hholds⟩ := exists_of_holds_object h
  cases d with
  | none => exact ⟨x, hx, hholds⟩
  | some text =>
    rcases List.mem_append.mp hx with hfield | hdescription
    · exact ⟨x, hfield, hholds⟩
    · obtain rfl := List.mem_singleton.mp hdescription
      exact absurd hholds (not_holds_text _ n)

lemma eq_of_toDocument {n : Number} (h : v.toDocument.Holds n) : v = .number n := by
  cases v with
  | text => cases h
  | number =>
    cases h
    rfl

/-- The numbers in a schema are values that the fragment lists. -/
theorem lists_of_toSchema {n : Number} (f : Fragment) (h : f.toSchema.Holds n) :
    f.Lists (.number n) := by
  rw [toSchema_eq] at h
  obtain ⟨x, hx, h⟩ := holds_withDescription h
  match hkind : f with
  | primitive _ type =>
    obtain rfl := List.mem_singleton.mp hx
    cases h
  | enum _ base values =>
    rcases List.mem_pair.mp hx with rfl | rfl
    · cases h
    · obtain ⟨d, hd, h⟩ := exists_of_holds_list h
      obtain ⟨v, hv, rfl⟩ := List.mem_map.mp hd
      exact .enum (eq_of_toDocument h ▸ hv)
  | object _ properties required =>
    rcases List.mem_cons.mp hx with rfl | hx
    · cases h
    rcases List.mem_pair.mp hx with rfl | rfl
    · obtain ⟨x, hx, h⟩ := exists_of_holds_object h
      obtain ⟨⟨name, f⟩, hf, rfl⟩ := List.mem_map.mp hx
      exact .property hf (lists_of_toSchema f h)
    · exact absurd h (not_holds_texts required n)
  | array _ items =>
    rcases List.mem_pair.mp hx with rfl | rfl
    · cases h
    · exact .items (lists_of_toSchema items h)
  | oneOf _ variants =>
    obtain rfl := List.mem_singleton.mp hx
    obtain ⟨d, hd, h⟩ := exists_of_holds_list h
    obtain ⟨f, hf, rfl⟩ := List.mem_map.mp hd
    exact .oneOf hf (lists_of_toSchema f h)
  | allOf _ variants =>
    obtain rfl := List.mem_singleton.mp hx
    obtain ⟨d, hd, h⟩ := exists_of_holds_list h
    obtain ⟨f, hf, rfl⟩ := List.mem_map.mp hd
    exact .allOf hf (lists_of_toSchema f h)
  | unknown _ => cases hx
termination_by sizeOf f
decreasing_by
  all_goals subst hkind
  · have := List.sizeOf_lt_of_mem hf
    simp only [Prod.mk.sizeOf_spec] at this
    rw [object.sizeOf_spec]
    omega
  · rw [array.sizeOf_spec]
    omega
  · have := List.sizeOf_lt_of_mem hf
    rw [oneOf.sizeOf_spec]
    omega
  · have := List.sizeOf_lt_of_mem hf
    rw [allOf.sizeOf_spec]
    omega

end Fragment

namespace TypeGraph

variable {τ ι : Type} {g : TypeGraph τ ι} {t u : τ} {v : EnumValue} {f : Fragment}

/-- A type is an enumeration that lists a value. -/
def Enumerates (g : TypeGraph τ ι) (t : τ) (v : EnumValue) : Prop :=
  ∃ base values, g.enumeration? t = some (base, values) ∧ v ∈ values

section Rules

variable {m : Type → Type} {R : (α : Type) → m α → α → Prop} {resolve : τ → m Fragment}

/-- What comes of resolving one of some types lists a value. -/
def Gives (R : (α : Type) → m α → α → Prop) (resolve : τ → m Fragment) (P : τ → Prop)
    (v : EnumValue) : Prop :=
  ∃ u f, P u ∧ R Fragment (resolve u) f ∧ f.Lists v

lemma Gives.mono {P Q : τ → Prop} (h : Gives R resolve P v) (hPQ : ∀ u, P u → Q u) :
    Gives R resolve Q v := by
  obtain ⟨u, f, hu, hf, hlists⟩ := h
  exact ⟨u, f, hPQ u hu, hf, hlists⟩

lemma lists_describeMember {d : Option String} (h : (describeMember d f).Lists v) : f.Lists v := by
  unfold describeMember at h
  split at h
  · exact h
  · exact h
  · exact h.of_describe

lemma exists_lists_of_objectOf {members : List (String × Fragment × Bool)}
    (h : (objectOf members).Lists v) : ∃ x ∈ members, x.2.1.Lists v := by
  cases h with
  | property hf h =>
    obtain ⟨x, hx, heq⟩ := List.mem_map.mp (Keyed.mem_of_mem_ofPairs hf)
    obtain ⟨-, rfl⟩ := Prod.mk.inj heq
    exact ⟨x, hx, h⟩

variable [Monad m] [MonadLiftT Outcome m] (hR : Comes R)

include hR

lemma gives_of_mapInOrder {ts : List τ} {fs : List Fragment}
    (h : R (List Fragment) (mapInOrder resolve ts) fs) (hf : f ∈ fs) (hlists : f.Lists v) :
    Gives R resolve (· ∈ ts) v := by
  obtain ⟨u, hu, hresolved⟩ := exists_of_forall₂ (hR.mapInOrder h).flip hf
  exact ⟨u, f, hu, hresolved, hlists⟩

lemma gives_of_resolveUnionWith {ts : List τ} (h : R Fragment (resolveUnionWith resolve ts) f)
    (hlists : f.Lists v) : Gives R resolve (· ∈ ts) v := by
  unfold resolveUnionWith at h
  split at h
  · exact ⟨_, f, List.mem_cons_self, h, hlists⟩
  · obtain ⟨fs, hfs, h⟩ := hR.bind h
    obtain rfl := hR.pure h
    obtain ⟨f, hf, hlists⟩ := Fragment.exists_lists_of_oneOfAll hlists
    exact gives_of_mapInOrder hR hfs hf hlists

lemma gives_of_resolveOptionalWith {x : Fragment × Bool}
    (h : R (Fragment × Bool) (g.resolveOptionalWith resolve t) x) (hlists : x.1.Lists v) :
    Gives R resolve (g.Asks t) v := by
  unfold resolveOptionalWith at h
  split at h
  · rename_i hunion
    rw [Bool.and_eq_true] at hunion
    obtain ⟨f, hf, h⟩ := hR.bind h
    obtain rfl := hR.pure h
    exact (gives_of_resolveUnionWith hR hf hlists).mono fun u hu => .inr ⟨hunion.1, hu⟩
  · obtain ⟨f, hf, h⟩ := hR.bind h
    obtain rfl := hR.pure h
    exact ⟨t, f, .inl rfl, hf, hlists⟩

lemma gives_of_resolveMemberWith {member : Member τ} {x : String × Fragment × Bool}
    (h : R (String × Fragment × Bool) (g.resolveMemberWith resolve member) x)
    (hlists : x.2.1.Lists v) : Gives R resolve (g.Asks member.type) v := by
  obtain ⟨⟨f, optional⟩, hf, h⟩ := hR.bind h
  obtain rfl := hR.pure h
  exact gives_of_resolveOptionalWith hR hf (lists_describeMember hlists)

/-- A value that the rules list is one of the type's own, or comes from a type that it calls for. -/
lemma lists_of_resolveShapeWith {shape : TypeShape τ} (hshape : (g.shape t).value = .ok shape)
    (h : R Fragment (g.resolveShapeWith resolve t shape) f) (hlists : f.Lists v) :
    g.Enumerates t v ∨ Gives R resolve (g.Calls t) v := by
  have hparts : Gives R resolve (· ∈ shape.parts) v → Gives R resolve (g.Calls t) v :=
    fun hgives => hgives.mono fun u hu => ⟨u, part_of_mem_shape hshape hu, .inl rfl⟩
  match shape, tells_of_shape hshape with
  | .unconstrained, _ =>
    obtain rfl := hR.pure h
    cases hlists
  | .primitive type, _ =>
    obtain rfl := hR.pure h
    cases hlists
  | .array none, _ =>
    obtain rfl := hR.pure h
    cases hlists with
    | items hlists => cases hlists
  | .enumeration base values, hvalues =>
    obtain rfl := hR.pure h
    cases hlists with
    | enum hv => exact .inl ⟨base, values, hvalues, hv⟩
  | .array (some element), _ =>
    obtain ⟨items, hitems, h⟩ := hR.bind h
    obtain rfl := hR.pure h
    cases hlists with
    | items hlists => exact .inr (hparts ⟨element, items, List.mem_cons_self, hitems, hlists⟩)
  | .object ms, _ =>
    obtain ⟨members, hmembers, h⟩ := hR.bind h
    obtain rfl := hR.pure h
    obtain ⟨x, hx, hlists⟩ := exists_lists_of_objectOf hlists
    obtain ⟨member, hmember, hresolved⟩ := exists_of_forall₂ (hR.mapInOrder hmembers).flip hx
    have hpart := part_of_mem_shape hshape (List.mem_map_of_mem (f := Member.type) hmember)
    exact .inr ((gives_of_resolveMemberWith hR hresolved hlists).mono fun u hu =>
      ⟨member.type, hpart, hu⟩)
  | .union members, _ => exact .inr (hparts (gives_of_resolveUnionWith hR h hlists))
  | .intersection members, _ =>
    obtain ⟨fs, hfs, h⟩ := hR.bind h
    obtain ⟨f', hf', hlists⟩ := Fragment.exists_lists_of_allOfAll (hR.answer h) hlists
    exact .inr (hparts (gives_of_mapInOrder hR hfs hf' hlists))
  | .unsupported, _ =>
    obtain ⟨-, -, h⟩ := hR.bind h
    obtain rfl := hR.pure h
    cases hlists

end Rules

variable [BEq ι] {limit : Nat}

/-- A value that a resolved fragment lists is one of an enumeration that the type reaches. -/
theorem enumerates_of_resolving {s : List ι} (h : (g.resolving limit t s).outcome.value = .ok f)
    (hlists : f.Lists v) : ∃ u, g.Reaches t u ∧ g.Enumerates u v := by
  induction limit generalizing t s f with
  | zero => cases h
  | succ limit ih =>
    cases hs : s.contains (g.identity t) with
    | true =>
      rw [resolving_of_inProgress hs] at h
      obtain rfl := Except.ok.inj h
      cases hlists
    | false =>
      rw [resolving_of_not_inProgress hs] at h
      have hR := comes_resolving τ ι
      obtain ⟨shape, hshape, h⟩ := hR.bind ⟨_, h⟩
      rcases lists_of_resolveShapeWith hR (hR.answer hshape) h hlists with
        hown | ⟨u, f', hcalls, ⟨s', hf'⟩, hlists⟩
      · exact ⟨t, .refl, hown⟩
      · obtain ⟨u', hreaches, henumerates⟩ := ih hf' hlists
        exact ⟨u', hcalls.below.to_reflTransGen.trans hreaches, henumerates⟩

theorem enumerates_of_resolveOptional {x : Fragment × Bool}
    (h : (g.resolveOptional limit t).value = .ok x) (hlists : x.1.Lists v) :
    ∃ u, g.Reaches t u ∧ g.Enumerates u v := by
  obtain ⟨u, f, hasks, ⟨s, hf⟩, hlists⟩ :=
    gives_of_resolveOptionalWith (comes_resolving τ ι) ⟨[], h⟩ hlists
  obtain ⟨u', hreaches, henumerates⟩ := enumerates_of_resolving hf hlists
  exact ⟨u', hasks.reaches.trans hreaches, henumerates⟩

end TypeGraph

end CallSchema

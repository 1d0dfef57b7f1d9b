import CallSchema.Proofs.AcyclicTypes
import CallSchema.Proofs.NormalUnions
import CallSchema.Proofs.ResolvedFragments

/-!
# Nested unions of enumerations

A union whose members list values of one base resolves to a single enumeration of their values, from
left to right. So does a union of such unions, however deep they are nested, since what a nested
union comes to is an enumeration again, or unknown if it lists nothing.
-/

namespace CallSchema

namespace Fragment

variable {base : EnumBase}

/-- The enumeration of values, which is unknown if there are none. -/
def ofValues (base : EnumBase) (values : List EnumValue) : Fragment :=
  if values = [] then unknown none else enum none base values

lemma ofValues_of_ne_nil {values : List EnumValue} (h : values ≠ []) :
    ofValues base values = enum none base values := if_neg h

lemma filter_map_ofValues (lists : List (List EnumValue)) :
    (lists.map (ofValues base)).filter (!·.isUnknown) =
      (lists.filter (· ≠ [])).map (enum none base) := by
  induction lists with
  | nil => rfl
  | cons values lists ih =>
    by_cases h : values = [] <;> simp [ofValues, isUnknown, h] at ih ⊢ <;> exact ih

lemma oneOfAll_filter_isUnknown (fs : List Fragment) :
    oneOfAll (fs.filter (!·.isUnknown)) = oneOfAll fs := by
  simp only [oneOfAll, List.filter_filter, Bool.and_self]

lemma oneOfAll_map_ofValues (lists : List (List EnumValue)) :
    oneOfAll (lists.map (ofValues base)) = ofValues base lists.flatten := by
  have hne : ∀ values ∈ lists.filter (· ≠ []), values ≠ [] := by simp
  rw [← oneOfAll_filter_isUnknown, filter_map_ofValues, ← List.flatten_filter_ne_nil]
  generalize lists.filter (· ≠ []) = known at hne ⊢
  have henums : ∀ f ∈ known.map (enum none base), f.isUnknown = false := by simp [isUnknown]
  rcases known with _ | ⟨first, _ | ⟨second, rest⟩⟩
  · rfl
  · rw [List.flatten_singleton, ofValues_of_ne_nil (hne first List.mem_cons_self)]
    rfl
  · have hflatten : (first :: second :: rest).flatten ≠ [] := by
      simp [hne first List.mem_cons_self]
    have hjoin : joinEnums? ((first :: second :: rest).map (enum none base)) =
        some (base, (first :: second :: rest).flatten) := by
      refine joinEnums?_eq_some_iff.mpr ⟨_, List.cons_ne_nil _ _, ?_, rfl⟩
      rw [List.forall₂_map_left_iff]
      exact List.forall₂_same.mpr fun _ _ => rfl
    rw [oneOfAll_of_many (by simp) henums, hjoin, ofValues_of_ne_nil hflatten]

end Fragment

namespace Constant

lemma enum?_listed (v : EnumValue) : (listed v).enum? = some (v.base, v) := by
  cases v <;> rfl

lemma enumAll?_listed {base : EnumBase} {values : List EnumValue} (hne : values ≠ [])
    (h : ∀ v ∈ values, v.base = base) : enumAll? (values.map listed) = some (base, values) := by
  have hlisted : (values.map listed).mapM enum? = some (values.map fun v => (base, v)) := by
    rw [mapM_eq_some_iff, List.forall₂_map_left_iff, List.forall₂_map_right_iff]
    exact List.forall₂_same.mpr fun v hv => h v hv ▸ enum?_listed v
  cases values with
  | nil => exact absurd rfl hne
  | cons v values =>
    rw [enumAll?, hlisted]
    simp [Function.comp_def]

end Constant

namespace TypeGraph

open Fragment

variable {τ ι : Type}

/-- The types among the members of a union, if that is what a type is, but for those that mark
absence. -/
def Nests (g : TypeGraph τ ι) (t u : τ) : Prop := g.FirstFits t .union ∧ u ∈ g.presentMembers t

/-- A type is a nesting of unions that lists the values `values`, which are all of one base, from
left to right. The types that stand innermost are literals and enumerations of the base, or they are
unconstrained or unsupported and list nothing. Absence lists nothing either. -/
inductive Flattens (g : TypeGraph τ ι) (base : EnumBase) : τ → List EnumValue → Prop
  | literal {t : τ} {v : EnumValue} (ht : g.FirstFits t .literal)
    (h : g.literal? t = some (.listed v)) (hv : v.base = base) : Flattens g base t [v]
  | enumeration {t : τ} {values : List EnumValue} (ht : g.FirstFits t .enumeration)
    (h : g.enumValues? t = some (values.map .listed)) (hvalues : ∀ v ∈ values, v.base = base) :
    Flattens g base t values
  | unconstrained {t : τ} (ht : (g.isNone t || g.isAny t) = true) : Flattens g base t []
  | unsupported {t : τ} (ht : g.FitsNoRule t) : Flattens g base t []
  | union {t : τ} {values : τ → List EnumValue} (ht : g.FirstFits t .union)
    (h : ∀ u ∈ g.unionMembers t, g.isAbsent u = false → Flattens g base u (values u)) :
    Flattens g base t ((g.presentMembers t).flatMap values)

/-- No type of a nesting stands in itself. -/
def AcyclicNesting (g : TypeGraph τ ι) [BEq ι] (t : τ) : Prop :=
  ∀ u v, Relation.ReflTransGen g.Nests t u → Relation.TransGen g.Nests u v →
    (g.identity v == g.identity u) = false

variable {g : TypeGraph τ ι} {base : EnumBase} {t u : τ} {values : List EnumValue}

lemma enumeration?_of_literal {v : EnumValue} (h : g.literal? t = some (.listed v)) :
    g.enumeration? t = some (v.base, [v]) := by
  simp [enumeration?, h, Constant.enum?_listed]

lemma enumeration?_of_enumValues (ht : g.FirstFits t .enumeration)
    (h : g.enumValues? t = some (values.map .listed)) (hvalues : ∀ v ∈ values, v.base = base) :
    values ≠ [] ∧ g.enumeration? t = some (base, values) := by
  have hliteral : (g.literal? t).bind Constant.enum? = none := by
    simpa [Fits] using ht.earlier .literal (by decide)
  have hne : values ≠ [] := by
    rintro rfl
    have hfits := ht.fits
    simp [Fits, h, Constant.enumAll?] at hfits
  refine ⟨hne, ?_⟩
  simp [enumeration?, hliteral, h, Constant.enumAll?_listed hne hvalues]

variable [BEq ι] {limit : Nat} {s : List ι}

/-- A union of types that resolve to enumerations of one base, or to nothing, resolves to the
enumeration of all their values. -/
lemma value_resolveUnionWith {values : τ → List EnumValue} {ts : List τ}
    (h : ∀ u ∈ ts, (g.resolving limit u s).outcome.value = .ok (ofValues base (values u))) :
    (resolveUnionWith (g.resolving limit) ts s).outcome.value =
      .ok (ofValues base (ts.flatMap values)) := by
  unfold resolveUnionWith
  split
  · rename_i u
    rw [h u List.mem_cons_self, List.flatMap_singleton]
  · rw [Resolving.outcome_bind]
    refine Outcome.value_bind_eq_ok.mpr ⟨_, value_mapInOrder_resolving h, ?_⟩
    rw [List.flatMap, ← oneOfAll_map_ofValues, List.map_map]
    rfl

lemma acyclicNesting_of_not_recursive (h : ∀ u, g.Reaches t u → ¬g.Recursive u) :
    g.AcyclicNesting t := by
  have hpart : ∀ u v, g.Nests u v → g.Part u v := fun _ _ huv =>
    part_of_mem_presentMembers huv.1.fits huv.2
  intro u v hu hv
  have hrecursive := h u (Relation.ReflTransGen.mono hpart _ _ hu)
  exact Bool.eq_false_iff.mpr fun heq =>
    hrecursive ⟨v, Relation.TransGen.mono hpart _ _ hv, heq⟩

lemma AcyclicNesting.nests (h : g.AcyclicNesting t) (hu : g.Nests t u) : g.AcyclicNesting u :=
  fun v w hv hw => h v w (.head hu hv) hw

/-- A type resolves to a fragment at any limit that is high enough, if no type of its nesting is in
progress. -/
def ResolvesTo (g : TypeGraph τ ι) (t : τ) (f : Fragment) : Prop :=
  ∃ n, ∀ limit, n < limit → ∀ s : List ι,
    (∀ u, Relation.ReflTransGen g.Nests t u → s.contains (g.identity u) = false) →
    (g.resolving limit t s).outcome.value = .ok f

omit [BEq ι] in
lemma exists_forall_lt {p : τ → Nat → Prop} {ts : List τ}
    (h : ∀ u ∈ ts, ∃ n, ∀ m, n < m → p u m) : ∃ n, ∀ m, n < m → ∀ u ∈ ts, p u m := by
  induction ts with
  | nil => exact ⟨0, by simp⟩
  | cons u ts ih =>
    obtain ⟨n, hn⟩ := h u List.mem_cons_self
    obtain ⟨k, hk⟩ := ih fun v hv => h v (List.mem_cons_of_mem u hv)
    refine ⟨max n k, fun m hm => List.forall_mem_cons.mpr ⟨hn m ?_, hk m ?_⟩⟩ <;> omega

lemma resolvesTo_of_shape {shape : TypeShape τ} {f : Fragment}
    (hshape : (g.shape t).value = .ok shape)
    (h : ∀ limit s, (g.resolveShapeWith (g.resolving limit) t shape s).outcome.value = .ok f) :
    g.ResolvesTo t f := by
  refine ⟨0, fun limit hlimit s hs => ?_⟩
  obtain ⟨k, rfl⟩ := Nat.exists_eq_add_of_lt hlimit
  rw [Nat.zero_add, value_resolving_of_shape (hs t .refl) hshape]
  exact h _ _

lemma resolvesTo_of_union {values : τ → List EnumValue} (ht : g.FirstFits t .union)
    (hacyclic : g.AcyclicNesting t)
    (h : ∀ u ∈ g.presentMembers t, g.ResolvesTo u (ofValues base (values u))) :
    g.ResolvesTo t (ofValues base ((g.presentMembers t).flatMap values)) := by
  obtain ⟨n, hn⟩ := exists_forall_lt h
  refine ⟨n + 1, fun limit hlimit s hs => ?_⟩
  obtain ⟨k, rfl⟩ := Nat.exists_eq_add_of_lt hlimit
  rw [value_resolving_of_shape (hs t .refl) (value_shape_of_union ht)]
  refine value_resolveUnionWith fun u hu => hn _ (by omega) u hu _ fun v hv => ?_
  -- below the union its own identity is in progress too, which is that of no type in it
  have hbelow : Relation.TransGen g.Nests t v := .head' ⟨ht, hu⟩ hv
  have hother : (g.identity v == g.identity t) = false := hacyclic t v .refl hbelow
  simp [hother, hs v hbelow.to_reflTransGen]

lemma resolvesTo_of_flattens (h : g.Flattens base t values) (hacyclic : g.AcyclicNesting t) :
    g.ResolvesTo t (ofValues base values) := by
  induction h with
  | @literal t v ht h hv =>
    obtain rfl := hv
    have hshape := shape_of_enumeration? ht.constrained (enumeration?_of_literal h)
    exact resolvesTo_of_shape (congrArg Outcome.value hshape) fun _ _ => rfl
  | @enumeration t values ht h hvalues =>
    obtain ⟨hne, henum⟩ := enumeration?_of_enumValues ht h hvalues
    have hshape := shape_of_enumeration? ht.constrained henum
    rw [ofValues_of_ne_nil hne]
    exact resolvesTo_of_shape (congrArg Outcome.value hshape) fun _ _ => rfl
  | unconstrained ht =>
    have hshape := shape_of_unconstrained ht
    exact resolvesTo_of_shape (congrArg Outcome.value hshape) fun _ _ => rfl
  | unsupported ht => exact resolvesTo_of_shape (value_shape_of_fitsNoRule ht) fun _ _ => rfl
  | @union t values ht _ ih =>
    refine resolvesTo_of_union ht hacyclic fun u hu => ?_
    obtain ⟨hmember, habsent⟩ := List.mem_filter.mp hu
    exact ih u hmember (by simpa using habsent) (hacyclic.nests ⟨ht, hu⟩)

/-- A nesting of unions of any depth and width whose innermost types list values of one base, and at
least one value, resolves to one enumeration of that base, which lists the values from left to
right. A value that is listed twice stays so, and what a shared union lists counts at each place
where the union stands. -/
theorem resolve_of_flattens (g : TypeGraph τ ι) (base : EnumBase) (t : τ) (values : List EnumValue)
    (h : g.Flattens base t values) (hacyclic : g.AcyclicNesting t) (hne : values ≠ []) :
    ∃ n, ∀ limit, n < limit → (g.resolve limit t).value = .ok (.enum none base values) := by
  obtain ⟨n, hn⟩ := resolvesTo_of_flattens h hacyclic
  refine ⟨n, fun limit hlimit => ?_⟩
  rw [← ofValues_of_ne_nil hne]
  exact hn limit hlimit [] fun _ _ => rfl

/-- The colours of a paint: warm ones stand at two places among them. -/
inductive Colour
  | colours
  | warm
  | cold
  | red
  | amber
  | blues
  | custom
  | measured
  | unset
  deriving DecidableEq

/-- The rule that a colour resolves by, if there is one. -/
def Colour.rule? : Colour → Option Rule
  | colours | warm | cold => some .union
  | red | amber => some .literal
  | blues => some .enumeration
  | custom | measured | unset => none

def Colour.listed : Colour → List EnumValue
  | colours =>
    [.text "red", .text "amber", .text "blue", .text "navy", .text "red", .text "amber"]
  | warm => [.text "red", .text "amber"]
  | cold | blues => [.text "blue", .text "navy"]
  | red => [.text "red"]
  | amber => [.text "amber"]
  | custom | measured | unset => []

def Colour.size : Colour → Nat
  | colours => 2
  | warm | cold => 1
  | _ => 0

def paints : TypeGraph Colour Colour where
  identity t := t
  describe _ := "colour"
  isNone _ := false
  isAny t := t = .custom
  literal?
    | .red => some (.listed (.text "red"))
    | .amber => some (.listed (.text "amber"))
    | _ => none
  enumValues? t :=
    if t = .blues then some [.listed (.text "blue"), .listed (.text "navy")] else none
  primitive? _ := none
  isArrayLike _ := false
  elementType? _ := .ok none
  members _ := .ok []
  isUnion t := t = .colours ∨ t = .warm ∨ t = .cold
  unionMembers
    | .colours => [.warm, .unset, .cold, .custom, .warm]
    | .warm => [.red, .amber]
    | .cold => [.measured, .blues]
    | _ => []
  isIntersection _ := false
  intersectionMembers _ := []
  isAbsent t := t = .unset

lemma fits_paints_iff {t : Colour} {r : Rule} : paints.Fits t r ↔ t.rule? = some r := by
  cases t <;> cases r <;> simp [Fits, paints, Colour.rule?, Constant.enum?, Constant.enumAll?,
    Outcome.ok]

lemma firstFits_paints {t : Colour} {r : Rule} (h : t.rule? = some r) : paints.FirstFits t r := by
  refine ⟨?_, fits_paints_iff.mpr h, fun r' hplace hr' => ?_⟩
  · cases t <;> first | rfl | cases h
  · obtain rfl : r' = r := Option.some.inj ((fits_paints_iff.mp hr').symm.trans h)
    exact Nat.lt_irrefl _ hplace

lemma size_lt_of_part_paints {t u : Colour} (h : paints.Part t u) : u.size < t.size := by
  cases h with
  | element ht | intersectionMember ht => simp [paints] at ht
  | member ht hm =>
    simp only [paints, Outcome.ok, Except.ok.injEq] at ht
    simp [← ht] at hm
  | unionMember _ hu =>
    have hsmaller : ∀ v ∈ paints.unionMembers t, v.size < t.size := by cases t <;> decide
    exact hsmaller u hu

lemma flattens_paints (t : Colour) (h : paints.isAbsent t = false) :
    paints.Flattens .string t t.listed := by
  induction hn : t.size using Nat.strongRecOn generalizing t with
  | ind n ih =>
    subst hn
    have hunion (ht : t.rule? = some .union) :
        paints.Flattens .string t ((paints.presentMembers t).flatMap Colour.listed) :=
      .union (firstFits_paints ht) fun u hu habsent =>
        ih u.size (size_lt_of_part_paints (.unionMember (fits_paints_iff.mpr ht) hu)) u habsent rfl
    cases t with
    | colours | warm | cold => exact hunion rfl
    | red | amber => exact .literal (firstFits_paints rfl) rfl rfl
    | blues => exact .enumeration (firstFits_paints rfl) rfl (by decide)
    | custom => exact .unconstrained rfl
    | measured => exact .unsupported ⟨rfl, fun r hr => nomatch fits_paints_iff.mp hr⟩
    | unset => cases h

theorem resolve_of_flattens_paints :
    paints.Flattens .string .colours Colour.colours.listed ∧ paints.AcyclicNesting .colours ∧
      ∃ n, ∀ limit, n < limit → (paints.resolve limit .colours).value =
        .ok (.enum none .string [.text "red", .text "amber", .text "blue", .text "navy",
          .text "red", .text "amber"]) := by
  have hflattens := flattens_paints .colours rfl
  have hacyclic : paints.AcyclicNesting .colours := acyclicNesting_of_not_recursive fun u _ =>
    not_recursive_of_size Colour.size size_lt_of_part_paints fun h => by simp_all [paints]
  exact ⟨hflattens, hacyclic,
    resolve_of_flattens paints .string .colours _ hflattens hacyclic (by decide)⟩

end TypeGraph

end CallSchema

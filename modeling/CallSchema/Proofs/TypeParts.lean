import CallSchema.TypeGraph
import Mathlib.Logic.Relation
import Mathlib.Tactic.Lemma

/-!
# What types are made of

`g.Part t u` says that `u` stands directly in `t`: as the element of an array-like type, or among
the members of a structured type, a union or an intersection. The types in the shape of a type are
parts of it, so a resolver only ever goes from a type to what is below it. A type that only the
union rule fits has the shape of a union.
-/

namespace CallSchema

namespace TypeShape

variable {τ : Type}

/-- The types that stand in a shape. -/
def parts : TypeShape τ → List τ
  | array (some element) => [element]
  | object members => members.map (·.type)
  | union members => members
  | intersection members => members
  | _ => []

end TypeShape

namespace TypeGraph

variable {τ ι : Type} (g : TypeGraph τ ι)

/-- A type stands directly in another one. -/
inductive Part : τ → τ → Prop
  | element {t u : τ} (ht : g.isArrayLike t = true) (hu : g.elementType? t = .ok (some u)) :
    Part t u
  | member {t : τ} {ms : List (Member τ)} {m : Member τ} (ht : (g.members t).value = .ok ms)
    (hm : m ∈ ms) : Part t m.type
  | unionMember {t u : τ} (ht : g.isUnion t = true) (hu : u ∈ g.unionMembers t) : Part t u
  | intersectionMember {t u : τ} (ht : g.isIntersection t = true)
    (hu : u ∈ g.intersectionMembers t) : Part t u

/-- A type is another one or stands in it, at any depth. -/
abbrev Reaches : τ → τ → Prop := Relation.ReflTransGen g.Part

/-- A type stands in another one, at any depth. -/
abbrev Below : τ → τ → Prop := Relation.TransGen g.Part

/-- The types that are resolved when it is asked whether a type may be absent: the type, or the
members of the union that it is. -/
def Asks (t u : τ) : Prop := u = t ∨ (g.isUnion t = true ∧ u ∈ g.presentMembers t)

/-- The types for which a call to resolve one makes calls. -/
def Calls (t u : τ) : Prop := ∃ v, g.Part t v ∧ g.Asks v u

variable {g} {t u : τ}

lemma part_of_mem_presentMembers (ht : g.isUnion t = true) (hu : u ∈ g.presentMembers t) :
    g.Part t u :=
  .unionMember ht (List.mem_filter.mp hu).1

lemma Asks.reaches (h : g.Asks t u) : g.Reaches t u := by
  rcases h with rfl | ⟨hunion, hu⟩
  · exact .refl
  · exact .single (part_of_mem_presentMembers hunion hu)

lemma Calls.below (h : g.Calls t u) : g.Below t u := by
  obtain ⟨v, hpart, hasks⟩ := h
  exact Relation.TransGen.head' hpart hasks.reaches

lemma mem_warnings_members_of_shape {w : Warning} (h : w ∈ (g.shape t).warnings) :
    w ∈ (g.members t).warnings := by
  unfold TypeGraph.shape TypeGraph.shapeWith at h
  split at h
  · simp [Outcome.warnings_pure] at h
  split at h
  · simp [Outcome.warnings_pure] at h
  split at h
  · simp [Outcome.warnings_pure] at h
  split at h
  · rcases Outcome.mem_warnings_bind.mp h with h | ⟨_, _, h⟩
    · simp [Outcome.ofExcept] at h
    · simp [Outcome.warnings_pure] at h
  · rcases Outcome.mem_warnings_bind.mp h with h | ⟨_, _, h⟩
    · exact h
    · repeat' split at h
      all_goals simp [Outcome.warnings_pure] at h

/-- The rules by which types resolve, in the order in which they are tried. -/
inductive Rule
  | literal
  | enumeration
  | primitive
  | array
  | object
  | union
  | intersection
  deriving DecidableEq

/-- A rule fits a type, whichever rule comes first. -/
def Fits (g : TypeGraph τ ι) (t : τ) : Rule → Prop
  | .literal => ((g.literal? t).bind Constant.enum?).isSome
  | .enumeration => ((g.enumValues? t).bind Constant.enumAll?).isSome
  | .primitive => (g.primitive? t).isSome
  | .array => g.isArrayLike t = true
  | .object => (g.members t).value ≠ .ok []
  | .union => g.isUnion t = true
  | .intersection => g.isIntersection t = true

/-- How many rules are tried before a rule. -/
def Rule.place : Rule → Nat
  | .literal => 0
  | .enumeration => 1
  | .primitive => 2
  | .array => 3
  | .object => 4
  | .union => 5
  | .intersection => 6

/-- A rule is the first one that fits a type. Types that are unconstrained on purpose come before all
rules. -/
structure FirstFits (g : TypeGraph τ ι) (t : τ) (r : Rule) : Prop where
  constrained : (g.isNone t || g.isAny t) = false
  fits : g.Fits t r
  earlier : ∀ r' : Rule, r'.place < r.place → ¬g.Fits t r'

/-- A type that no rule supports. -/
structure FitsNoRule (g : TypeGraph τ ι) (t : τ) : Prop where
  constrained : (g.isNone t || g.isAny t) = false
  fits : ∀ r, ¬g.Fits t r

/-- At most one rule fits a type, and none if the type is unconstrained. -/
structure FitsOneRule (g : TypeGraph τ ι) (t : τ) : Prop where
  unique : ∀ r r', g.Fits t r → g.Fits t r' → r = r'
  unconstrained : (g.isNone t || g.isAny t) = true → ∀ r, ¬g.Fits t r

lemma FitsOneRule.firstFits (h : g.FitsOneRule t) {r : Rule} (hr : g.Fits t r) :
    g.FirstFits t r := by
  refine ⟨Bool.eq_false_iff.mpr fun hcon => h.unconstrained hcon r hr, hr, fun r' hplace hr' => ?_⟩
  obtain rfl := h.unique r r' hr hr'
  exact Nat.lt_irrefl _ hplace

/-- None of the first `n` rules fits a type. -/
def NoneBefore (g : TypeGraph τ ι) (t : τ) (n : Nat) : Prop :=
  ∀ r : Rule, r.place < n → ¬g.Fits t r

lemma noneBefore_succ {r : Rule} (h : g.NoneBefore t r.place) (hr : ¬g.Fits t r) :
    g.NoneBefore t (r.place + 1) := by
  intro r' hr'
  rcases Nat.lt_succ_iff_lt_or_eq.mp hr' with hlt | heq
  · exact h r' hlt
  · cases r <;> cases r' <;> first | exact hr | cases heq

lemma firstFits_of_enumeration? (hconstrained : (g.isNone t || g.isAny t) = false)
    {x : EnumBase × List EnumValue} (h : g.enumeration? t = some x) :
    g.FirstFits t .literal ∨ g.FirstFits t .enumeration := by
  unfold enumeration? at h
  split at h
  · rename_i hliteral
    refine .inl ⟨hconstrained, ?_, fun r hr => absurd hr (Nat.not_lt_zero _)⟩
    rw [Fits, hliteral]
    rfl
  · rename_i hliteral
    refine .inr ⟨hconstrained, ?_, noneBefore_succ (r := .literal) nofun ?_⟩
    · rw [Fits, h]
      rfl
    · simp [Fits, hliteral]

lemma noneBefore_of_enumeration? (h : g.enumeration? t = none) :
    g.NoneBefore t Rule.primitive.place := by
  unfold enumeration? at h
  split at h
  · cases h
  · rename_i hliteral
    apply noneBefore_succ (r := .enumeration)
    · apply noneBefore_succ (r := .literal) nofun
      simp [Fits, hliteral]
    · simp [Fits, h]

/-- What a shape says of its type: which rule is the first that fits it, and what the type answers to
that rule. -/
def IsShape (g : TypeGraph τ ι) (t : τ) : TypeShape τ → Prop
  | .unconstrained => (g.isNone t || g.isAny t) = true
  | .enumeration base values =>
    (g.FirstFits t .literal ∨ g.FirstFits t .enumeration) ∧ g.enumeration? t = some (base, values)
  | .primitive type => g.FirstFits t .primitive ∧ g.primitive? t = some type
  | .array element => g.FirstFits t .array ∧ g.elementType? t = .ok element
  | .object ms => g.FirstFits t .object ∧ (g.members t).value = .ok ms
  | .union ts => g.FirstFits t .union ∧ ts = g.presentMembers t
  | .intersection ts => g.FirstFits t .intersection ∧ ts = g.intersectionMembers t
  | .unsupported => g.FitsNoRule t

/-- The shape of a type is that of the first rule that fits it. -/
theorem isShape_of_shape {shape : TypeShape τ} (h : (g.shape t).value = .ok shape) :
    g.IsShape t shape := by
  unfold TypeGraph.shape TypeGraph.shapeWith at h
  split at h
  · rename_i hconstrained
    obtain rfl := Outcome.value_pure_eq_ok.mp h
    exact hconstrained
  rename_i hconstrained
  replace hconstrained : (g.isNone t || g.isAny t) = false := Bool.eq_false_iff.mpr hconstrained
  split at h
  · rename_i base values henum
    obtain rfl := Outcome.value_pure_eq_ok.mp h
    exact ⟨firstFits_of_enumeration? hconstrained henum, henum⟩
  rename_i henum
  have hprimitives := noneBefore_of_enumeration? henum
  split at h
  · rename_i type hprimitive
    obtain rfl := Outcome.value_pure_eq_ok.mp h
    refine ⟨⟨hconstrained, ?_, hprimitives⟩, hprimitive⟩
    rw [Fits, hprimitive]
    rfl
  rename_i hprimitive
  have harrays : g.NoneBefore t Rule.array.place :=
    noneBefore_succ hprimitives (by simp [Fits, hprimitive])
  split at h
  · rename_i harray
    obtain ⟨element, helement, h⟩ := Outcome.value_bind_eq_ok.mp h
    obtain rfl := Outcome.value_pure_eq_ok.mp h
    exact ⟨⟨hconstrained, harray, harrays⟩, helement⟩
  rename_i harray
  have hobjects : g.NoneBefore t Rule.object.place := noneBefore_succ harrays harray
  obtain ⟨ms, hms, h⟩ := Outcome.value_bind_eq_ok.mp h
  replace hms : (g.members t).value = .ok ms := hms
  split at h
  · rename_i hne
    obtain rfl := Outcome.value_pure_eq_ok.mp h
    refine ⟨⟨hconstrained, ?_, hobjects⟩, hms⟩
    rw [Fits, hms]
    intro hnil
    obtain rfl := Except.ok.inj hnil
    simp at hne
  rename_i hnil
  have hunions : g.NoneBefore t Rule.union.place := by
    refine noneBefore_succ hobjects ?_
    simp_all [Fits]
  split at h
  · rename_i hunion
    obtain rfl := Outcome.value_pure_eq_ok.mp h
    exact ⟨⟨hconstrained, hunion, hunions⟩, rfl⟩
  rename_i hunion
  have hintersections : g.NoneBefore t Rule.intersection.place := noneBefore_succ hunions hunion
  split at h
  · rename_i hintersection
    obtain rfl := Outcome.value_pure_eq_ok.mp h
    exact ⟨⟨hconstrained, hintersection, hintersections⟩, rfl⟩
  · rename_i hintersection
    obtain rfl := Outcome.value_pure_eq_ok.mp h
    refine ⟨hconstrained, fun r => noneBefore_succ hintersections hintersection r ?_⟩
    cases r <;> decide

lemma part_of_mem_shape {shape : TypeShape τ} (h : (g.shape t).value = .ok shape)
    (hu : u ∈ shape.parts) : g.Part t u := by
  match shape, isShape_of_shape h with
  | .array (some e), ⟨harray, helement⟩ =>
    obtain rfl : u = e := by simpa [TypeShape.parts] using hu
    exact .element harray.fits helement
  | .object ms, ⟨_, hms⟩ =>
    obtain ⟨m, hm, rfl⟩ := List.mem_map.mp hu
    exact .member hms hm
  | .union ts, ⟨hunion, hts⟩ =>
    obtain rfl := hts
    exact part_of_mem_presentMembers hunion.fits hu
  | .intersection ts, ⟨hintersection, hts⟩ =>
    obtain rfl := hts
    exact .intersectionMember hintersection.fits hu
  | .unconstrained, _ | .enumeration _ _, _ | .primitive _, _ | .array none, _ | .unsupported, _ =>
    simp [TypeShape.parts] at hu

lemma shape_of_unconstrained (h : (g.isNone t || g.isAny t) = true) :
    g.shape t = pure .unconstrained := by
  simp only [TypeGraph.shape, shapeWith, h, if_true]

lemma shape_of_enumeration? (hconstrained : (g.isNone t || g.isAny t) = false) {base : EnumBase}
    {values : List EnumValue} (h : g.enumeration? t = some (base, values)) :
    g.shape t = pure (.enumeration base values) := by
  simp only [TypeGraph.shape, shapeWith, hconstrained, h, Bool.false_eq_true, if_false]

lemma value_shape_of_array (h : g.FirstFits t .array) :
    (g.shape t).value = (g.elementType? t).map .array := by
  have hliteral := h.earlier .literal (by decide)
  have hvalues := h.earlier .enumeration (by decide)
  have hprimitive := h.earlier .primitive (by decide)
  have harray : g.isArrayLike t = true := h.fits
  simp only [Fits, Bool.not_eq_true, Option.isSome_eq_false_iff, Option.isNone_iff_eq_none]
    at hliteral hvalues hprimitive
  have henum : g.enumeration? t = none := by simp only [enumeration?, hliteral, hvalues]
  simp only [TypeGraph.shape, shapeWith, h.constrained, henum, hprimitive, harray,
    Bool.false_eq_true, if_false, if_true]
  cases helement : g.elementType? t with
  | error e => rfl
  | ok element => rfl

lemma value_shape_of_not_fits (hconstrained : (g.isNone t || g.isAny t) = false)
    (h : ∀ r : Rule, r.place < Rule.union.place → ¬g.Fits t r) :
    (g.shape t).value = .ok (if g.isUnion t then .union (g.presentMembers t)
      else if g.isIntersection t then .intersection (g.intersectionMembers t)
      else .unsupported) := by
  have hliteral := h .literal (by decide)
  have hvalues := h .enumeration (by decide)
  have hprimitive := h .primitive (by decide)
  have harray := h .array (by decide)
  have hobject := h .object (by decide)
  simp only [Fits, Bool.not_eq_true, Option.isSome_eq_false_iff, Option.isNone_iff_eq_none,
    ne_eq, Classical.not_not] at hliteral hvalues hprimitive harray hobject
  have henum : g.enumeration? t = none := by simp only [enumeration?, hliteral, hvalues]
  simp only [TypeGraph.shape, shapeWith, hconstrained, henum, hprimitive, harray,
    Bool.false_eq_true, if_false]
  refine Outcome.value_bind_eq_ok.mpr ⟨[], hobject, ?_⟩
  simp only [List.isEmpty_nil, Bool.not_true, Bool.false_eq_true, if_false]
  split
  · rfl
  · split <;> rfl

lemma value_shape_of_union (h : g.FirstFits t .union) :
    (g.shape t).value = .ok (.union (g.presentMembers t)) := by
  have hunion : g.isUnion t = true := h.fits
  rw [value_shape_of_not_fits h.constrained h.earlier, if_pos hunion]

lemma value_shape_of_fitsNoRule (h : g.FitsNoRule t) : (g.shape t).value = .ok .unsupported := by
  have hunion : ¬g.isUnion t = true := h.fits .union
  have hintersection : ¬g.isIntersection t = true := h.fits .intersection
  rw [value_shape_of_not_fits h.constrained fun r _ => h.fits r, if_neg hunion,
    if_neg hintersection]

end TypeGraph

end CallSchema

import CallSchema.Proofs.FragmentPaths
import CallSchema.Proofs.NormalUnions
import CallSchema.Proofs.ResolvedFragments

/-!
# Unions in resolved fragments

A resolver builds unions as normalizing does, so resolved fragments are normal, and so is what is
nested in them, but for one thing: the property of an object may be a union that was given the
description of its member. Normalizing builds such a union anew, without the description.
-/

namespace CallSchema

namespace Fragment

variable {f u : Fragment} {fs : List Fragment} {d : Option String}

/-- The fragments that stand directly in a fragment. -/
def parts : Fragment → List Fragment
  | object _ properties _ => properties.map (·.2)
  | array _ items => [items]
  | oneOf _ variants | allOf _ variants => variants
  | _ => []

/-- A fragment is another one or stands in it, at any depth. -/
abbrev Reaches : Fragment → Fragment → Prop := Relation.ReflTransGen fun f u => u ∈ f.parts

@[simp] lemma parts_describe (d : Option String) (f : Fragment) :
    (f.describe d).parts = f.parts := by
  cases f <;> rfl

@[simp] lemma isUnion_describe (d : Option String) (f : Fragment) :
    (f.describe d).isUnion = f.isUnion := by
  cases f <;> rfl

lemma describe_eq_self_iff : f.describe d = f ↔ f.description = d := by
  constructor
  · intro h
    rw [← h, description_describe]
  · rintro rfl
    exact describe_description f

lemma exists_of_isUnion (h : f.isUnion = true) : ∃ d variants, f = oneOf d variants := by
  cases f with
  | oneOf d variants => exact ⟨d, variants, rfl⟩
  | _ => cases h

/-- A fragment as a resolver leaves it: it has no description, if it is a union its variants are
distinguished, and its parts are as it is, but that properties may have descriptions. -/
inductive Settled : Fragment → Prop
  | intro {f : Fragment} (undescribed : f.description = none)
    (distinguished : ∀ d variants, f = oneOf d variants → Distinguished variants)
    (described : ∀ u ∈ f.parts, u.description ≠ none → ∃ name, (name, u) ∈ f.properties)
    (parts : ∀ u ∈ f.parts, Settled (u.describe none)) : Settled f

lemma Settled.description_eq (h : f.Settled) : f.description = none := by
  cases h
  assumption

lemma settled_of_leaf (hdescription : f.description = none) (hunion : f.isUnion = false)
    (hparts : f.parts = []) : f.Settled := by
  refine .intro hdescription ?_ (by simp [hparts]) (by simp [hparts])
  rintro d variants rfl
  cases hunion

lemma settled_of_parts (hdescription : f.description = none)
    (hunion : ∀ d variants, f = oneOf d variants → Distinguished variants)
    (hparts : ∀ u ∈ f.parts, u.Settled) : f.Settled := by
  refine .intro hdescription hunion (fun u hu hne => absurd (hparts u hu).description_eq hne) ?_
  intro u hu
  rw [describe_eq_self_iff.mpr (hparts u hu).description_eq]
  exact hparts u hu

lemma settled_oneOfAll (h : ∀ f ∈ fs, f.Settled) : (oneOfAll fs).Settled := by
  rcases oneOfAll_cases fs with heq | hmem | ⟨base, values, heq⟩ | ⟨known, hmem, hknown, heq⟩
  · exact heq ▸ settled_of_leaf rfl rfl rfl
  · exact h _ hmem
  · exact heq ▸ settled_of_leaf rfl rfl rfl
  · refine heq ▸ settled_of_parts rfl ?_ fun f hf => h f (hmem f hf)
    rintro d variants ⟨⟩
    exact hknown

lemma settled_allOfAll (h : ∀ f ∈ fs, f.Settled) (hf : allOfAll fs = .ok f) : f.Settled := by
  unfold allOfAll at hf
  split at hf
  · cases hf
  · obtain rfl := Except.ok.inj hf
    exact settled_of_parts rfl nofun h

lemma Settled.normal (h : f.Settled) : f.Normal := by
  induction h with
  | @intro f undescribed distinguished described _ ih =>
    match f with
    | oneOf d variants =>
      obtain rfl : d = none := undescribed
      refine .union (distinguished none variants rfl) fun v hv => ?_
      have hv' : v.description = none := by
        by_contra hne
        obtain ⟨name, hname⟩ := described v hv hne
        cases hname
      exact (describe_eq_self_iff.mpr hv') ▸ ih v hv
    | primitive _ _ | enum _ _ _ | object _ _ _ | array _ _ | allOf _ _ | unknown _ =>
      exact .leaf rfl

lemma Settled.of_reaches (h : f.Settled) (hu : f.Reaches u) : (u.describe none).Settled := by
  induction hu with
  | refl => rwa [describe_eq_self_iff.mpr h.description_eq]
  | tail _ hu ih =>
    cases ih with
    | intro _ _ _ parts => exact parts _ (by simpa using hu)

lemma Settled.property_of_described (h : f.Settled) (hu : f.Reaches u) (hne : u.description ≠ none) :
    ∃ o name, f.Reaches o ∧ (name, u) ∈ o.properties := by
  cases hu with
  | refl => exact absurd h.description_eq hne
  | @tail o _ ho hu =>
    cases h.of_reaches ho with
    | intro _ _ described _ =>
      obtain ⟨name, hname⟩ := described u (by simpa using hu) hne
      exact ⟨o, name, ho, by simpa using hname⟩

/-- A description is all that a union can lose. -/
lemma normalize_of_settled (h : (f.describe none).Settled) :
    f.normalize = if f.isUnion then f.describe none else f := by
  split
  · rename_i hunion
    obtain ⟨d, variants, rfl⟩ := exists_of_isUnion hunion
    rw [normalize_oneOf, ← normalize_oneOf none]
    exact h.normal.normalize_eq
  · rename_i hunion
    exact normalize_of_leaf (by simpa using hunion)

end Fragment

namespace TypeGraph

open Fragment

variable {τ ι : Type} {g : TypeGraph τ ι}

lemma describe_describeMember {f : Fragment} (d : Option String) (hf : f.description = none) :
    (describeMember d f).describe none = f := by
  unfold describeMember
  split
  · exact describe_eq_self_iff.mpr hf
  · exact describe_eq_self_iff.mpr hf
  · rw [describe_describe, describe_eq_self_iff.mpr hf]

lemma settled_objectOf {members : List (String × Fragment × Bool)}
    (h : ∀ x ∈ members, ∃ d f, f.Settled ∧ x.2.1 = describeMember d f) :
    (objectOf members).Settled := by
  refine .intro rfl nofun (fun u hu _ => ?_) fun u hu => ?_
  · obtain ⟨x, hx, rfl⟩ := List.mem_map.mp hu
    exact ⟨x.1, hx⟩
  · obtain ⟨x, hx, rfl⟩ := List.mem_map.mp hu
    obtain ⟨y, hy, rfl⟩ := List.mem_map.mp (Keyed.mem_of_mem_ofPairs hx)
    obtain ⟨d, f, hf, heq⟩ := h y hy
    rw [heq, describe_describeMember d hf.description_eq]
    exact hf

lemma closedUnderRules_settled (g : TypeGraph τ ι) : g.ClosedUnderRules Settled where
  unknown := settled_of_leaf rfl rfl rfl
  enum _ := settled_of_leaf rfl rfl rfl
  primitive _ := settled_of_leaf rfl rfl rfl
  array h := settled_of_parts rfl nofun (by simpa [parts] using h)
  object _ _ h := settled_objectOf h
  union h := settled_oneOfAll h
  intersection h hf := settled_allOfAll h hf

variable [BEq ι]

/-- Normalizing leaves a resolved fragment as it is. Of what is nested in one it changes exactly the
unions with a description, which only properties of objects have, and of these it only drops the
description. -/
theorem normalize_of_resolve (g : TypeGraph τ ι) (limit : Nat) (t : τ) {f : Fragment}
    (h : (g.resolve limit t).value = .ok f) :
    f.normalize = f ∧ ∀ u, f.Reaches u →
      (u.normalize = u ↔ ¬(u.isUnion = true ∧ u.description ≠ none)) ∧
      u.normalize.describe u.description = u ∧
      (u.description ≠ none → ∃ o name, f.Reaches o ∧ (name, u) ∈ o.properties) := by
  have hsettled : f.Settled := (closedUnderRules_settled g).resolving h
  refine ⟨hsettled.normal.normalize_eq, fun u hu => ⟨?_, ?_, hsettled.property_of_described hu⟩⟩
  · rw [normalize_of_settled (hsettled.of_reaches hu)]
    split
    · rename_i hunion
      simp [hunion, describe_eq_self_iff]
    · rename_i hunion
      simp [hunion]
  · rw [normalize_of_settled (hsettled.of_reaches hu)]
    split
    · rw [describe_describe, describe_description]
    · exact describe_description u

/-- The types of a parcel, which has a weight in grams or in words. -/
inductive Parcel
  | parcel
  | weight
  | grams
  | words
  deriving DecidableEq

def parcels : TypeGraph Parcel Parcel where
  identity t := t
  describe _ := "parcel"
  isNone _ := false
  isAny _ := false
  literal? _ := none
  enumValues? _ := none
  primitive? t := if t = .grams then some "number" else if t = .words then some "string" else none
  isArrayLike _ := false
  elementType? _ := .ok none
  members t := .ok (if t = .parcel then
    [⟨"weight", .weight, false, some "Without the box"⟩, ⟨"note", .words, true, some "Printed"⟩]
    else [])
  isUnion t := t = .weight
  unionMembers t := if t = .weight then [.grams, .words] else []
  isIntersection _ := false
  intersectionMembers _ := []
  isAbsent _ := false

/-- The weight of a parcel, as it is resolved. -/
def parcelWeight : Fragment :=
  .oneOf (some "Without the box") [.primitive none "number", .primitive none "string"]

def parcelFragment : Fragment :=
  .object none [("weight", parcelWeight), ("note", .primitive (some "Printed") "string")]
    ["weight"]

lemma resolve_parcel : (parcels.resolve 3 .parcel).value = .ok parcelFragment := by
  rfl

theorem normalize_of_resolve_parcel :
    (parcels.resolve 3 .parcel).value = .ok parcelFragment ∧
      parcelFragment.normalize = parcelFragment ∧
      parcelWeight.normalize.describe (some "Without the box") = parcelWeight := by
  have hweight : parcelFragment.Reaches parcelWeight := .single List.mem_cons_self
  obtain ⟨hnormal, hparts⟩ := normalize_of_resolve parcels 3 .parcel resolve_parcel
  exact ⟨resolve_parcel, hnormal, (hparts parcelWeight hweight).2.1⟩

/-- Normalizing drops the description of a property that is a union. -/
theorem description_normalize_parcelWeight : ∃ f u, (parcels.resolve 3 .parcel).value = .ok f ∧
    f.Reaches u ∧ u.normalize ≠ u ∧ u.description = some "Without the box" ∧
    u.normalize.description = none :=
  ⟨parcelFragment, parcelWeight, resolve_parcel, .single List.mem_cons_self, nofun, rfl, rfl⟩

end TypeGraph

end CallSchema

import CallSchema.Proofs.ValidSchemas

/-!
# Normal unions

Collapsing a union can make the union around it collapse in turn, so unions are collapsed from the
inside out. This file says which fragments cannot be collapsed any further and shows that one pass
reaches them: what comes of normalizing is normal, and what is normal stays as it is.
-/

namespace CallSchema.Fragment

variable {f v : Fragment} {fs : List Fragment}

def isUnion : Fragment → Bool
  | oneOf _ _ => true
  | _ => false

/-- A fragment lists values of a base. -/
def IsEnumOf (base : EnumBase) (f : Fragment) : Prop := ∃ d values, f = enum d base values

/-- Variants that no simpler fragment can stand for: there are two at least, all are known, and they
are not all enumerations of one base. -/
structure Distinguished (variants : List Fragment) : Prop where
  many : 2 ≤ variants.length
  known : ∀ v ∈ variants, v.isUnknown = false
  enums : ¬∃ base, ∀ v ∈ variants, v.IsEnumOf base

/-- A fragment that cannot be collapsed: it is no union, or a union without a description whose
variants are distinguished and cannot be collapsed themselves. -/
inductive Normal : Fragment → Prop
  | leaf {f : Fragment} (hf : f.isUnion = false) : Normal f
  | union {variants : List Fragment} (hvariants : Distinguished variants)
    (h : ∀ v ∈ variants, Normal v) : Normal (oneOf none variants)

/-- Induction over the variants of unions. Other fragments are not taken apart. -/
@[elab_as_elim]
theorem unionInduction {P : Fragment → Prop} (leaf : ∀ f, f.isUnion = false → P f)
    (union : ∀ d variants, (∀ v ∈ variants, P v) → P (oneOf d variants)) (f : Fragment) : P f := by
  match f with
  | oneOf d variants => exact union d variants fun v hv => unionInduction leaf union v
  | primitive _ _ | enum _ _ _ | object _ _ _ | array _ _ | allOf _ _ | unknown _ =>
    exact leaf _ rfl
termination_by sizeOf f
decreasing_by
  have := List.sizeOf_lt_of_mem hv
  rw [oneOf.sizeOf_spec]
  omega

lemma normalize_of_leaf (hf : f.isUnion = false) : f.normalize = f := by
  cases f with
  | oneOf => cases hf
  | _ => rfl

lemma normalize_oneOf (d : Option String) (variants : List Fragment) :
    (oneOf d variants).normalize = oneOfAll (variants.map normalize) := by
  rw [normalize, normalizeAll_eq_map]

lemma oneOfAll_of_many (hmany : 2 ≤ fs.length) (hknown : ∀ f ∈ fs, f.isUnknown = false) :
    oneOfAll fs = match joinEnums? fs with
      | some (base, values) => enum none base values
      | none => oneOf none fs := by
  have hfilter : fs.filter (!·.isUnknown) = fs :=
    List.filter_eq_self.mpr fun f hf => by simp [hknown f hf]
  rw [oneOfAll, hfilter]
  match fs, hmany with
  | _ :: _ :: _, _ => rfl

lemma oneOfAll_of_distinguished (h : Distinguished fs) : oneOfAll fs = oneOf none fs := by
  rw [oneOfAll_of_many h.many h.known]
  cases hjoin : joinEnums? fs with
  | none => rfl
  | some x =>
    refine absurd ⟨x.1, fun f hf => ?_⟩ h.enums
    obtain ⟨values, hvalues⟩ := exists_enum?_of_joinEnums? hjoin hf
    obtain ⟨d, rfl⟩ := enum?_eq_some_iff.mp hvalues
    exact ⟨d, values, rfl⟩

/-- A union comes to nothing, to one of its variants, to an enumeration, or to a union of variants
that are distinguished. -/
lemma oneOfAll_cases (fs : List Fragment) : oneOfAll fs = unknown none ∨ oneOfAll fs ∈ fs ∨
    (∃ base values, oneOfAll fs = enum none base values) ∨
      ∃ known, (∀ f ∈ known, f ∈ fs) ∧ Distinguished known ∧ oneOfAll fs = oneOf none known := by
  have hknown : ∀ f ∈ fs.filter (!·.isUnknown), f ∈ fs ∧ f.isUnknown = false := fun f hf => by
    rwa [List.mem_filter, Bool.not_eq_true'] at hf
  unfold oneOfAll
  generalize fs.filter (!·.isUnknown) = known at hknown ⊢
  split
  · exact .inl rfl
  · exact .inr (.inl (hknown _ List.mem_cons_self).1)
  · rename_i hnil hone
    split
    · exact .inr (.inr (.inl ⟨_, _, rfl⟩))
    · rename_i hjoin
      refine .inr (.inr (.inr ⟨known, fun f hf => (hknown f hf).1, ⟨?_, ?_, ?_⟩, rfl⟩))
      · match known, hnil, hone with
        | [], hnil, _ => exact absurd rfl hnil
        | [f], _, hone => exact absurd rfl (hone f)
        | _ :: _ :: _, _, _ => simp
      · exact fun f hf => (hknown f hf).2
      · rintro ⟨base, henums⟩
        refine joinEnums?_ne_none base hnil (fun f hf => ?_) hjoin
        obtain ⟨d, values, rfl⟩ := henums f hf
        exact ⟨values, rfl⟩

lemma normal_oneOfAll (h : ∀ f ∈ fs, f.Normal) : (oneOfAll fs).Normal := by
  rcases oneOfAll_cases fs with heq | hmem | ⟨base, values, heq⟩ | ⟨known, hmem, hknown, heq⟩
  · exact heq ▸ .leaf rfl
  · exact h _ hmem
  · exact heq ▸ .leaf rfl
  · exact heq ▸ .union hknown fun f hf => h f (hmem f hf)

theorem normal_normalize (f : Fragment) : f.normalize.Normal := by
  induction f using unionInduction with
  | leaf f hf =>
    rw [normalize_of_leaf hf]
    exact .leaf hf
  | union d variants ih =>
    rw [normalize_oneOf]
    refine normal_oneOfAll fun f hf => ?_
    obtain ⟨v, hv, rfl⟩ := List.mem_map.mp hf
    exact ih v hv

theorem Normal.normalize_eq (h : f.Normal) : f.normalize = f := by
  induction h with
  | leaf hf => exact normalize_of_leaf hf
  | union hvariants _ ih =>
    rw [normalize_oneOf, List.map_congr_left ih, List.map_id'', oneOfAll_of_distinguished hvariants]
    exact fun _ => rfl

/-- The normal fragments are those that normalizing leaves as they are. -/
theorem normalize_eq_self_iff : f.normalize = f ↔ f.Normal :=
  ⟨fun h => h ▸ normal_normalize f, Normal.normalize_eq⟩

/-- A fragment is among the variants of a union. -/
def HasVariant (f v : Fragment) : Prop := ∃ d variants, f = oneOf d variants ∧ v ∈ variants

lemma Normal.of_reached (h : f.Normal) (hv : Relation.ReflTransGen HasVariant f v) : v.Normal := by
  induction hv with
  | refl => exact h
  | tail _ hv ih =>
    obtain ⟨d, variants, rfl, hv⟩ := hv
    cases ih with
    | leaf hf => cases hf
    | union _ h => exact h _ hv

/-- Normalizing a second time changes nothing. In what it gives, every union that is reached through
variants of unions has two variants or more, none of them unknown and not all enumerations of one
base. -/
theorem normalize_normalize (f : Fragment) :
    f.normalize.normalize = f.normalize ∧
      ∀ d variants, Relation.ReflTransGen HasVariant f.normalize (oneOf d variants) →
        2 ≤ variants.length ∧ (∀ v ∈ variants, v.isUnknown = false) ∧
          ¬∃ base, ∀ v ∈ variants, v.IsEnumOf base := by
  refine ⟨(normal_normalize f).normalize_eq, fun d variants hreached => ?_⟩
  cases (normal_normalize f).of_reached hreached with
  | leaf hf => cases hf
  | union h _ => exact ⟨h.many, h.known, h.enums⟩

/-- The inner union collapses first, so the outer one can. -/
example : (oneOf none [oneOf (some "Size") [enum none .string [.text "S"], unknown none],
    enum none .string [.text "M", .text "L"]]).normalize =
      enum none .string [.text "S", .text "M", .text "L"] := rfl

end CallSchema.Fragment

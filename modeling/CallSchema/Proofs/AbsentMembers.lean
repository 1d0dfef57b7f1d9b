import CallSchema.Hint.Graph
import CallSchema.Proofs.ResolvedFragments

/-!
# Absence among the members of unions

A resolver leaves out absence at every level of nested unions, but reports it only for the members
of the union that it is asked about. So what it reports as optional may be absent, and a value that
may be absent is reported so unless absence only stands in unions among the members.
-/

namespace CallSchema

namespace TypeGraph

variable {τ ι : Type}

/-- A type stands among the members of a union. -/
def UnionMember (g : TypeGraph τ ι) (t u : τ) : Prop :=
  g.isUnion t = true ∧ u ∈ g.unionMembers t

/-- A union with absence among its members. -/
def HasAbsentMember (g : TypeGraph τ ι) (t : τ) : Prop :=
  ∃ u, g.UnionMember t u ∧ g.isAbsent u = true

/-- Absence is reached from a type by going from unions to their members, at any depth. -/
def ReachesAbsence (g : TypeGraph τ ι) (t : τ) : Prop :=
  ∃ u, Relation.TransGen g.UnionMember t u ∧ g.isAbsent u = true

variable {g : TypeGraph τ ι} {t : τ}

lemma reachesAbsence_iff : g.ReachesAbsence t ↔
    g.HasAbsentMember t ∨ ∃ u, g.UnionMember t u ∧ g.ReachesAbsence u := by
  constructor
  · rintro ⟨u, hu, habsent⟩
    obtain ⟨v, hv, hvu⟩ := Relation.TransGen.head'_iff.mp hu
    rcases Relation.reflTransGen_iff_eq_or_transGen.mp hvu with rfl | hvu
    · exact .inl ⟨u, hv, habsent⟩
    · exact .inr ⟨v, hv, u, hvu, habsent⟩
  · rintro (⟨u, hu, habsent⟩ | ⟨v, hv, u, hu, habsent⟩)
    · exact ⟨u, .single hu, habsent⟩
    · exact ⟨u, .head hv hu, habsent⟩

lemma hasAbsentMember_iff :
    g.HasAbsentMember t ↔ (g.isUnion t && (g.unionMembers t).any g.isAbsent) = true := by
  simp [HasAbsentMember, UnionMember, and_assoc]

section Rules

variable {m : Type → Type} [Monad m] [MonadLiftT Outcome m] {R : (α : Type) → m α → α → Prop}
  {resolve : τ → m Fragment}

lemma optional_iff_of_resolveOptionalWith (hR : Comes R) {x : Fragment × Bool}
    (h : R (Fragment × Bool) (g.resolveOptionalWith resolve t) x) :
    x.2 = true ↔ g.HasAbsentMember t := by
  rw [hasAbsentMember_iff]
  unfold resolveOptionalWith at h
  split at h
  all_goals
    rename_i habsent
    obtain ⟨f, -, h⟩ := hR.bind h
    obtain rfl := hR.pure h
    simpa using habsent

lemma required_iff_of_resolveMemberWith (hR : Comes R) {member : Member τ}
    {x : String × Fragment × Bool}
    (h : R (String × Fragment × Bool) (g.resolveMemberWith resolve member) x) :
    x.1 = member.name ∧
      (x.2.2 = true ↔ member.isOptional = false ∧ ¬g.HasAbsentMember member.type) := by
  obtain ⟨⟨f, optional⟩, hf, h⟩ := hR.bind h
  obtain rfl := hR.pure h
  have hoptional := optional_iff_of_resolveOptionalWith hR hf
  exact ⟨rfl, by simp [← hoptional]⟩

lemma mem_required_iff_of_mapInOrder (hR : Comes R) {ms : List (Member τ)}
    {members : List (String × Fragment × Bool)}
    (h : R (List (String × Fragment × Bool)) (mapInOrder (g.resolveMemberWith resolve) ms) members)
    {name : String} : name ∈ (members.filter (·.2.2)).map (·.1) ↔
      ∃ member ∈ ms, member.name = name ∧ member.isOptional = false ∧
        ¬g.HasAbsentMember member.type := by
  have hresolved := hR.mapInOrder h
  constructor
  · intro hname
    obtain ⟨x, hx, rfl⟩ := List.mem_map.mp hname
    obtain ⟨hx, hrequired⟩ := List.mem_filter.mp hx
    obtain ⟨member, hmember, hmx⟩ := exists_of_forall₂ hresolved.flip hx
    obtain ⟨hname, hiff⟩ := required_iff_of_resolveMemberWith hR hmx
    exact ⟨member, hmember, hname.symm, hiff.mp hrequired⟩
  · rintro ⟨member, hmember, rfl, hmay⟩
    obtain ⟨x, hx, hmx⟩ := exists_of_forall₂ hresolved hmember
    obtain ⟨hname, hiff⟩ := required_iff_of_resolveMemberWith hR hmx
    exact List.mem_map.mpr ⟨x, List.mem_filter.mpr ⟨hx, hiff.mpr hmay⟩, hname⟩

end Rules

variable [BEq ι] {limit : Nat} {s : List ι}

/-- A structured type resolves to an object that requires the members that are not optional
themselves and have no type with absence among its members. -/
lemma exists_required_of_resolving {ms : List (Member τ)} {f : Fragment}
    (hs : s.contains (g.identity t) = false) (hshape : (g.shape t).value = .ok (.object ms))
    (h : (g.resolving limit t s).outcome.value = .ok f) :
    ∃ properties required, f = .object none properties required ∧
      ∀ name, name ∈ required ↔ ∃ member ∈ ms, member.name = name ∧ member.isOptional = false ∧
        ¬g.HasAbsentMember member.type := by
  cases limit with
  | zero => cases h
  | succ limit =>
    have hR := comes_resolving τ ι
    rw [value_resolving_of_shape hs hshape] at h
    obtain ⟨members, hmembers, h⟩ := hR.bind ⟨g.identity t :: s, h⟩
    exact ⟨_, _, hR.pure h, fun _ => mem_required_iff_of_mapInOrder hR hmembers⟩

/-- A union is reported as optional exactly if absence is among its members. So absence is reached
from it if it is reported, and else only from a member that does not mark absence itself. The
members of a structured type that are required are those that are not optional themselves and would
not be reported. This holds wherever the types stand, so for any types in progress. -/
theorem optional_iff_of_resolvingOptional (g : TypeGraph τ ι) :
    (∀ limit t s f optional, g.isUnion t = true →
      (g.resolvingOptional limit t s).outcome.value = .ok (f, optional) →
      (optional = true ↔ ∃ u ∈ g.unionMembers t, g.isAbsent u = true) ∧
      (g.ReachesAbsence t ↔ optional = true ∨
        ∃ u ∈ g.unionMembers t, g.isAbsent u = false ∧ g.ReachesAbsence u)) ∧
    ∀ limit t s ms f, s.contains (g.identity t) = false →
      (g.shape t).value = .ok (.object ms) → (g.resolving limit t s).outcome.value = .ok f →
      ∃ properties required, f = .object none properties required ∧
        ∀ name, name ∈ required ↔ ∃ member ∈ ms, member.name = name ∧
          member.isOptional = false ∧ ¬g.HasAbsentMember member.type := by
  refine ⟨fun limit t s f optional ht h => ?_, fun _ _ _ _ _ => exists_required_of_resolving⟩
  have hoptional : optional = true ↔ g.HasAbsentMember t :=
    optional_iff_of_resolveOptionalWith (comes_resolving τ ι) ⟨s, h⟩
  have hmember : ∀ u, g.UnionMember t u ↔ u ∈ g.unionMembers t := fun u => by
    simp [UnionMember, ht]
  constructor
  · simp [hoptional, HasAbsentMember, hmember]
  · rw [reachesAbsence_iff, ← hoptional]
    constructor
    · rintro (hreported | ⟨u, hu, hreaches⟩)
      · exact .inl hreported
      · cases habsent : g.isAbsent u with
        | true => exact .inl (hoptional.mpr ⟨u, hu, habsent⟩)
        | false => exact .inr ⟨u, (hmember u).mp hu, habsent, hreaches⟩
    · rintro (hreported | ⟨u, hu, -, hreaches⟩)
      · exact .inl hreported
      · exact .inr ⟨u, (hmember u).mpr hu, hreaches⟩

/-- The types of a booking: a seat by its number, and a meal by its number or a dish. A seat may be
absent, and so may a dish. -/
inductive Booking
  | booking
  | seat
  | meal
  | dish
  | number
  | words
  | nothing
  deriving DecidableEq

def bookings : TypeGraph Booking Booking where
  identity t := t
  describe _ := "booking"
  isNone _ := false
  isAny _ := false
  literal? _ := none
  enumValues? _ := none
  primitive? t :=
    if t = .number then some "number" else if t = .words then some "string" else none
  isArrayLike _ := false
  elementType? _ := .ok none
  members t := .ok (if t = .booking then
    [⟨"seat", .seat, false, none⟩, ⟨"meal", .meal, false, none⟩] else [])
  isUnion t := t = .seat ∨ t = .meal ∨ t = .dish
  unionMembers
    | .seat => [.number, .nothing]
    | .meal => [.number, .dish]
    | .dish => [.words, .nothing]
    | _ => []
  isIntersection _ := false
  intersectionMembers _ := []
  isAbsent t := t = .nothing

theorem optional_iff_of_resolvingOptional_bookings :
    (bookings.resolveOptional 3 .seat).value = .ok (.primitive none "number", true) ∧
      bookings.ReachesAbsence .seat ∧ ∃ properties required,
        (bookings.resolve 4 .booking).value = .ok (.object none properties required) ∧
          "seat" ∉ required := by
  obtain ⟨hunion, hobject⟩ := optional_iff_of_resolvingOptional bookings
  have hseat : (bookings.resolveOptional 3 .seat).value = .ok (.primitive none "number", true) :=
    rfl
  obtain ⟨properties, required, hf, hrequired⟩ := hobject 4 .booking [] _ _ rfl rfl rfl
  refine ⟨hseat, (hunion 3 .seat [] _ true rfl hseat).2.mpr (.inl rfl), properties, required,
    congrArg Except.ok hf, fun hmem => ?_⟩
  obtain ⟨member, hmember, hname, -, hnot⟩ := (hrequired "seat").mp hmem
  rcases List.mem_pair.mp hmember with rfl | rfl
  · exact hnot ⟨.nothing, ⟨rfl, by decide⟩, rfl⟩
  · exact absurd hname (by decide)

end TypeGraph

namespace Context

open Hint

/-- A number, or a note that may be absent. -/
def numberOrNote : Hint :=
  union [cls (.builtin "int"), annotated (union [cls (.builtin "str"), noneType]) [.text "A note"]]

/-- Absence that stands in a union among the members is not reported. -/
theorem not_optional_numberOrNote :
    ({} : Context).graph.isUnion numberOrNote = true ∧
      ({} : Context).graph.ReachesAbsence numberOrNote ∧
      (({} : Context).resolveOptional numberOrNote).value.toOption.map Prod.snd = some false := by
  refine ⟨rfl, ⟨noneType, ?_, rfl⟩, by decide +kernel⟩
  exact .head ⟨rfl, List.mem_cons_of_mem _ List.mem_cons_self⟩
    (.single ⟨rfl, List.mem_cons_of_mem _ List.mem_cons_self⟩)

end Context

end CallSchema

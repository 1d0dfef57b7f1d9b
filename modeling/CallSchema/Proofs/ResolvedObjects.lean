import CallSchema.Proofs.AbsentMembers
import CallSchema.Proofs.AcyclicTypes
import CallSchema.Proofs.FailedRuns
import Mathlib.Data.List.Nodup

/-!
# Resolved objects

What a call answers for a type is what the rules make of it, given what the calls inside answer. So
an answer exists if calls may nest deep enough and no question on the way fails, and the object of
a structured type lists the type's members in their order, each with what its own type resolves to.
-/

namespace CallSchema

namespace Outcome

variable {α β : Type}

/-- A computation gives a result. -/
def Succeeds (x : Outcome α) : Prop := ∃ a, x.value = .ok a

end Outcome

namespace TypeGraph

variable {τ ι : Type} {g : TypeGraph τ ι} {t : τ}

/-- A type answers all questions that can fail, and an intersection has members. -/
structure Answers (g : TypeGraph τ ι) (t : τ) : Prop where
  element : g.isArrayLike t = true → ∃ u, g.elementType? t = .ok u
  members : (g.members t).Succeeds
  intersection : g.isIntersection t = true → g.intersectionMembers t ≠ []

lemma Answers.not_faults (h : g.Answers t) (e : Failure) : ¬g.Faults t e := by
  intro hfaults
  cases hfaults with
  | question hshape =>
    rcases error_of_shape hshape with ⟨harray, helement⟩ | hmembers
    · obtain ⟨u, hu⟩ := h.element harray
      exact absurd (hu.symm.trans helement) nofun
    · obtain ⟨ms, hms⟩ := h.members
      exact absurd (hms.symm.trans hmembers) nofun
  | intersection hshape =>
    obtain ⟨hintersection, hnil⟩ := isShape_of_shape hshape
    exact h.intersection hintersection.fits hnil.symm

section Rules

variable {resolve : τ → Outcome Fragment}

lemma mem_warnings_members_resolved {ms : List (Member τ)} {w : Warning}
    (hw : w ∈ (mapInOrder (g.resolveMemberWith resolve) ms).warnings) :
    ∃ m ∈ ms, w ∈ (g.resolveOptionalWith resolve m.type).warnings := by
  refine (kept_warnings fun w => ∃ m ∈ ms,
    w ∈ (g.resolveOptionalWith resolve m.type).warnings).mapInOrder (n := Outcome)
    (k := g.resolveMemberWith resolve) (fun m hm w hw => ?_) w hw
  rcases Outcome.mem_warnings_bind.mp hw with hw | ⟨_, _, hw⟩
  · exact ⟨m, hm, hw⟩
  · simp [Outcome.warnings_pure] at hw

end Rules

/-- A member must be given: it is not optional itself, and its type has no absence among its
members. -/
def Requires (g : TypeGraph τ ι) (m : Member τ) : Prop :=
  m.isOptional = false ∧ ¬g.HasAbsentMember m.type

/-- A fragment is the object of some members: it has a property for each of them, in their order,
which is what `answer` gives for its type but for the description, and it requires those that must
be given, in the same order. -/
structure IsObjectOf (g : TypeGraph τ ι) (answer : τ → Outcome (Fragment × Bool))
    (ms : List (Member τ)) (properties : List (String × Fragment)) (required : List String) :
    Prop where
  names : Keyed.keys properties = ms.map (·.name)
  fragments : ∀ m ∈ ms, ∃ x, (answer m.type).value = .ok x ∧
    Keyed.get? properties m.name = some (describeMember m.description x.1)
  order : required.Sublist (ms.map (·.name))
  required : ∀ m ∈ ms, m.name ∈ required ↔ g.Requires m

variable [BEq ι] {limit : Nat} {s : List ι}

/-- A call answers what the rules make of its type, given what the calls inside it answer. -/
lemma outcome_resolving_succ (hs : s.contains (g.identity t) = false) :
    (g.resolving (limit + 1) t s).outcome =
      g.resolveByRules (fun u => (g.resolving limit u (g.identity t :: s)).outcome) t := by
  rw [resolving_of_not_inProgress hs]
  have hkept := kept_outcome_eq (g.identity t :: s) fun _ : Call τ ι => True
  refine (hkept.resolveByRules _ _ (fun _ => trivial) (fun _ _ => trivial) fun u _ => ?_).related
    fun _ _ => trivial
  exact ⟨inProgress_resolving, fun _ => rfl⟩

lemma outcome_resolvingOptional_eq :
    (g.resolvingOptional limit t s).outcome =
      g.resolveOptionalWith (fun u => (g.resolving limit u s).outcome) t := by
  have hkept := kept_outcome_eq s fun _ : Call τ ι => True
  refine (hkept.resolveOptionalWith _ _ fun u _ => ?_).related fun _ _ => trivial
  exact ⟨inProgress_resolving, fun _ => rfl⟩

/-- A call gives a result if what it hands on to the calls inside it bounds how deep they nest, and
no question about their types fails. -/
lemma succeeds_resolving {I : Call τ ι → Prop} (hI : g.Inherited I)
    (hanswers : ∀ c, I c → g.Answers c.type) (hlevel : ∀ c, I c → c.level < limit)
    (h : I ⟨0, s, t⟩) : (g.resolving limit t s).outcome.Succeeds := by
  have hcalls : ∀ c ∈ (g.resolving limit t s).calls, I c := by
    simpa [Call.inside] using (steady_resolving hI 0 h).calls
  cases hvalue : (g.resolving limit t s).outcome.value with
  | ok f => exact ⟨f, hvalue⟩
  | error e =>
    have hwithin : Within limit (g.resolving limit t s) := fun c hc => hlevel c (hcalls c hc)
    obtain ⟨c, hc, -, hfaults⟩ := (resolving_eq_error_iff hwithin e).mp hvalue
    exact absurd hfaults ((hanswers c (hcalls c hc)).not_faults e)

section Objects

variable {ms : List (Member τ)} {f : Fragment}

/-- A structured type resolves to the object of its members. -/
theorem isObjectOf_of_resolving (hs : s.contains (g.identity t) = false)
    (hshape : (g.shape t).value = .ok (.object ms)) (hnodup : (ms.map (·.name)).Nodup)
    (h : (g.resolving (limit + 1) t s).outcome.value = .ok f) :
    ∃ properties required, f = .object none properties required ∧
      g.IsObjectOf (fun u => (g.resolvingOptional limit u (g.identity t :: s)).outcome) ms
        properties required := by
  rw [outcome_resolving_succ hs] at h
  obtain ⟨shape, hshape', h⟩ := Outcome.value_bind_eq_ok.mp h
  obtain rfl := Except.ok.inj (hshape.symm.trans hshape')
  obtain ⟨rows, hrows, h⟩ := Outcome.value_bind_eq_ok.mp h
  obtain rfl := Outcome.value_pure_eq_ok.mp h
  have hresolved := comes_outcome.mapInOrder hrows
  have hnames : rows.map (·.1) = ms.map (·.name) :=
    map_eq_map_of_forall₂ hresolved fun m x hx =>
      (required_iff_of_resolveMemberWith comes_outcome hx).1
  have hkeys : Keyed.keys (rows.map fun x => (x.1, x.2.1)) = ms.map (·.name) := by
    rw [← hnames, Keyed.keys, List.map_map]
    rfl
  have hproperties := Keyed.ofPairs_of_nodup (hkeys ▸ hnodup)
  refine ⟨_, _, rfl, ?_, fun m hm => ?_, ?_, fun m hm => ?_⟩
  · rw [hproperties, hkeys]
  · obtain ⟨x, hx, hmx⟩ := exists_of_forall₂ hresolved hm
    obtain ⟨y, hy, hmx⟩ := Outcome.value_bind_eq_ok.mp hmx
    obtain rfl := Outcome.value_pure_eq_ok.mp hmx
    refine ⟨y, by rw [outcome_resolvingOptional_eq]; exact hy, ?_⟩
    rw [hproperties, Keyed.get?_eq_some_iff_mem (hkeys ▸ hnodup)]
    exact List.mem_map_of_mem hx
  · rw [← hnames]
    exact List.filter_sublist.map _
  · rw [mem_required_iff_of_mapInOrder comes_outcome hrows]
    constructor
    · rintro ⟨m', hm', hname, hrequired⟩
      obtain rfl := List.inj_on_of_nodup_map hnodup hm' hm hname
      exact hrequired
    · exact fun hrequired => ⟨m, hm, rfl, hrequired⟩

end Objects

end TypeGraph

end CallSchema

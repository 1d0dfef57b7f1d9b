import CallSchema.Proofs.ResolverTermination

/-!
# Types that are not recursive

The types in progress at a call are those that its own type stands in. So a resolver of a type that
reaches no recursive type never finds a type in progress, however often types are shared, and what
it answers is what the rules alone answer.
-/

namespace CallSchema.TypeGraph

variable {τ ι : Type}

/-- Resolves a type by the rules alone, with calls nested at most `limit` deep. -/
def structural (g : TypeGraph τ ι) : (limit : Nat) → τ → Outcome Fragment
  | 0, _ => .fail .tooDeep
  | limit + 1, t => g.resolveByRules (structural g limit) t

lemma kept_outcome_eq (s : List ι) (Q : Call τ ι → Prop) : Kept (fun _ => True)
    fun α (x : Resolving τ ι α) y => RelatedIf s Q (fun _ run y => run.outcome = y) x y :=
  kept_relatedIf s Q (fun _ => rfl) (fun _ => rfl) fun {_ _ x _ _ _} hs hxy h => by
    rw [Resolving.outcome_bind, hs, ← hxy]
    exact Outcome.bind_congr h

variable [BEq ι] {g : TypeGraph τ ι} {limit : Nat} {t : τ} {s : List ι}

lemma outcome_resolving (h : ∀ c ∈ (g.resolving limit t s).calls, ¬g.Recurs c) :
    (g.resolving limit t s).outcome = g.structural limit t := by
  induction limit generalizing t s with
  | zero => rfl
  | succ limit ih =>
    have hs : s.contains (g.identity t) = false := by simpa [Recurs] using h _ first_mem_calls
    rw [resolving_of_not_inProgress hs] at h ⊢
    have hbody := (kept_outcome_eq (g.identity t :: s) fun c => ¬g.Recurs c).resolveByRules
      (g := g) (t := t) (g.resolving limit) (g.structural limit) (fun _ => trivial)
      (fun _ _ => trivial) fun u _ => ⟨inProgress_resolving, ih⟩
    refine hbody.related fun c hc => ?_
    have := h (c.inside 1) (List.mem_cons_of_mem _ (List.mem_map_of_mem hc))
    simpa [Recurs, Call.inside] using this

lemma outcome_resolvingOptional (h : ∀ c ∈ (g.resolvingOptional limit t s).calls, ¬g.Recurs c) :
    (g.resolvingOptional limit t s).outcome = g.resolveOptionalWith (g.structural limit) t :=
  ((kept_outcome_eq s fun c => ¬g.Recurs c).resolveOptionalWith _ _ fun _ _ =>
    ⟨inProgress_resolving, outcome_resolving⟩).related h

/-- A type with a type of its own identity below it. -/
def Recursive (g : TypeGraph τ ι) (t : τ) : Prop :=
  ∃ u, g.Below t u ∧ (g.identity u == g.identity t) = true

lemma not_recursive_of_size (size : τ → Nat) (hpart : ∀ {t u}, g.Part t u → size u < size t)
    (hid : ∀ {t u}, (g.identity u == g.identity t) = true → size u = size t) : ¬g.Recursive t := by
  rintro ⟨u, hu, heq⟩
  have hbelow : size u < size t := by
    clear heq
    induction hu with
    | single h => exact hpart h
    | tail _ h ih => exact Nat.lt_trans (hpart h) ih
  exact Nat.ne_of_lt hbelow (hid heq)

/-- What holds of all calls of a run from `t`: the identities in progress are those of types that
`t` reaches and that the call's own type is below. -/
structure UnderAncestors (g : TypeGraph τ ι) (t : τ) (c : Call τ ι) : Prop where
  reaches : g.Reaches t c.type
  ancestors : ∀ i ∈ c.inProgress, ∃ a, g.identity a = i ∧ g.Reaches t a ∧ g.Below a c.type

lemma inherited_underAncestors (g : TypeGraph τ ι) (t : τ) :
    g.Inherited (g.UnderAncestors t) := by
  intro c u h _ hu
  refine ⟨h.reaches.trans hu.below.to_reflTransGen, fun i hi => ?_⟩
  rcases List.mem_cons.mp hi with rfl | hi
  · exact ⟨c.type, rfl, h.reaches, hu.below⟩
  · obtain ⟨a, ha, hreaches, hbelow⟩ := h.ancestors i hi
    exact ⟨a, ha, hreaches, hbelow.trans hu.below⟩

omit [BEq ι] in
lemma underAncestors_of_reaches {u : τ} (h : g.Reaches t u) : g.UnderAncestors t ⟨0, [], u⟩ :=
  ⟨h, by simp⟩

lemma UnderAncestors.not_recurs (hacyclic : ∀ u, g.Reaches t u → ¬g.Recursive u) {c : Call τ ι}
    (h : g.UnderAncestors t c) : ¬g.Recurs c := by
  intro hc
  obtain ⟨i, hi, heq⟩ := List.contains_iff_exists_mem_beq.mp hc
  obtain ⟨a, rfl, hreaches, hbelow⟩ := h.ancestors i hi
  exact hacyclic a hreaches ⟨c.type, hbelow, heq⟩

/-- No call of a run from a type that reaches no recursive type finds its type in progress. -/
lemma not_recurs_of_steady {α : Type} {x : Resolving τ ι α}
    (hacyclic : ∀ u, g.Reaches t u → ¬g.Recursive u) (hx : Steady s (g.UnderAncestors t) x) :
    ∀ c ∈ (x s).calls, ¬g.Recurs c := fun c hc => (hx.calls c hc).not_recurs hacyclic

section Warnings

omit [BEq ι]

lemma kept_warnings (A : Warning → Prop) :
    Kept A fun α (x _ : Outcome α) => ∀ w ∈ x.warnings, A w where
  pure a := by simp [Outcome.warnings_pure]
  answer ho := ho
  ask {α β o f k} ho h := by
    intro w hw
    rcases Outcome.mem_warnings_bind.mp hw with hw | ⟨a, ha, hw⟩
    · exact ho w hw
    · exact h a ha w hw
  bind {α β x y f k} hx h := by
    intro w hw
    rcases Outcome.mem_warnings_bind.mp hw with hw | ⟨a, _, hw⟩
    · exact hx w hw
    · exact h a w hw

lemma mem_warnings_structural {A : Warning → Prop} (hA : ∀ d, A (.unsupportedType d))
    (hmembers : ∀ u, g.Reaches t u → ∀ w ∈ (g.members u).warnings, A w) :
    ∀ w ∈ (g.structural limit t).warnings, A w := by
  induction limit generalizing t with
  | zero => simp [structural, Outcome.fail]
  | succ limit ih =>
    refine (kept_warnings A).resolveByRules _ (g.structural limit) hA
      (hmembers t .refl) fun u hu => ih fun v hv => hmembers v (hu.below.to_reflTransGen.trans hv)

lemma value_structural_of_union (hrule : g.FitsOneRule t) (ht : g.isUnion t = true) :
    (g.structural (limit + 1) t).value =
      (resolveUnionWith (g.structural limit) (g.presentMembers t)).value := by
  have hshape := value_shape_of_union (hrule.firstFits ht)
  rw [structural, resolveByRules]
  change (Outcome.bind (g.shape t) _).value = _
  simp only [Outcome.bind, hshape]
  rfl

end Warnings

lemma not_recurs_resolving (hacyclic : ∀ u, g.Reaches t u → ¬g.Recursive u) :
    ∀ c ∈ (g.resolving limit t []).calls, ¬g.Recurs c := by
  refine not_recurs_of_steady hacyclic ?_
  simpa [Call.inside] using steady_resolving (inherited_underAncestors g t) 0
    (underAncestors_of_reaches .refl)

lemma not_recurs_resolvingOptional (hacyclic : ∀ u, g.Reaches t u → ¬g.Recursive u) :
    ∀ c ∈ (g.resolvingOptional limit t []).calls, ¬g.Recurs c :=
  not_recurs_of_steady hacyclic <|
    steady_resolvingOptional (inherited_underAncestors g t) fun _ hu =>
      underAncestors_of_reaches hu.reaches

lemma resolve_eq_structural (hacyclic : ∀ u, g.Reaches t u → ¬g.Recursive u) :
    g.resolve limit t = g.structural limit t :=
  outcome_resolving (not_recurs_resolving hacyclic)

/-- Asking whether a type may be absent resolves it to the same fragment, unless the run is cut off
or another rule than that of unions would come first. -/
lemma value_resolveOptional (hacyclic : ∀ u, g.Reaches t u → ¬g.Recursive u)
    (hrule : g.FitsOneRule t) (hlimit : Within limit (g.resolving limit t [])) :
    (g.resolveOptional limit t).value.map Prod.fst = (g.resolve limit t).value := by
  have hoptional : g.resolveOptional limit t = g.resolveOptionalWith (g.structural limit) t :=
    outcome_resolvingOptional (not_recurs_resolvingOptional hacyclic)
  have hmap : ∀ (x : Outcome Fragment) (b : Bool),
      (do pure (← x, b) : Outcome (Fragment × Bool)).value.map Prod.fst = x.value := by
    intro x b
    change (Outcome.bind x _).value.map _ = _
    cases hx : x.value <;> simp [Outcome.bind, hx, Except.map, pure, Outcome.ok]
  rw [hoptional, resolveOptionalWith]
  split
  · rename_i hunion
    rw [Bool.and_eq_true] at hunion
    -- the members are called here one level higher up than `resolve` calls them
    have hstable : g.resolve limit t = g.structural (limit + 1) t := by
      rw [← resolve_eq_structural hacyclic, resolve, resolving_succ_limit hlimit, resolve]
    rw [hmap, hstable, value_structural_of_union hrule hunion.1]
  · rw [hmap, resolve_eq_structural hacyclic]

lemma warnings_of_not_recursive (hacyclic : ∀ u, g.Reaches t u → ¬g.Recursive u) {d : String}
    (h : .recursiveType d ∈ (g.resolve limit t).warnings ∨
      .recursiveType d ∈ (g.resolveOptional limit t).warnings) :
    ∃ u, g.Reaches t u ∧ .recursiveType d ∈ (g.members u).warnings := by
  let A (w : Warning) : Prop := w = .recursiveType d →
    ∃ u, g.Reaches t u ∧ .recursiveType d ∈ (g.members u).warnings
  have hstructural : ∀ u, g.Reaches t u → ∀ w ∈ (g.structural limit u).warnings, A w :=
    fun u hu => mem_warnings_structural (by simp [A]) fun v hv w hw hrecursive =>
      ⟨v, hu.trans hv, hrecursive ▸ hw⟩
  rcases h with h | h
  · rw [resolve_eq_structural hacyclic] at h
    exact hstructural t .refl _ h rfl
  · rw [resolveOptional,
      outcome_resolvingOptional (not_recurs_resolvingOptional hacyclic)] at h
    exact (kept_warnings A).resolveOptionalWith _ (g.structural limit)
      (fun u hu => hstructural u hu.reaches) _ h rfl

/-- Looking for types in progress changes nothing for a type that reaches no recursive type: it
resolves as by the rules alone, no type is found in progress, so that only the members of a type can
warn of recursion, and it resolves to the same fragment if it is asked whether it may be absent. -/
theorem resolve_of_not_recursive (g : TypeGraph τ ι) (t : τ)
    (hacyclic : ∀ u, g.Reaches t u → ¬g.Recursive u) :
    (∀ limit, g.resolve limit t = g.structural limit t) ∧
      (∀ limit, (∀ c ∈ (g.resolving limit t []).calls, ¬g.Recurs c) ∧
        ∀ c ∈ (g.resolvingOptional limit t []).calls, ¬g.Recurs c) ∧
      (∀ limit d, .recursiveType d ∈ (g.resolve limit t).warnings ∨
          .recursiveType d ∈ (g.resolveOptional limit t).warnings →
        ∃ u, g.Reaches t u ∧ .recursiveType d ∈ (g.members u).warnings) ∧
      (g.FitsOneRule t → ∀ limit, Within limit (g.resolving limit t []) →
        (g.resolveOptional limit t).value.map Prod.fst = (g.resolve limit t).value) :=
  ⟨fun _ => resolve_eq_structural hacyclic,
    fun _ => ⟨not_recurs_resolving hacyclic, not_recurs_resolvingOptional hacyclic⟩,
    fun _ _ => warnings_of_not_recursive hacyclic,
    fun hrule _ => value_resolveOptional hacyclic hrule⟩

/-- The types of a place: an office or a house, which share the type of their address, or
nothing. -/
inductive Place
  | place
  | office
  | house
  | address
  | nothing
  deriving DecidableEq

def Place.size : Place → Nat
  | place => 2
  | office | house => 1
  | address | nothing => 0

def places : TypeGraph Place Place where
  identity t := t
  describe _ := "place"
  isNone _ := false
  isAny _ := false
  literal? _ := none
  enumValues? _ := none
  primitive? t := if t = .address then some "string" else none
  isArrayLike _ := false
  elementType? _ := .ok none
  members t := .ok (if t = .office ∨ t = .house then [⟨"address", .address, false, none⟩] else [])
  isUnion t := t = .place
  unionMembers t := if t = .place then [.office, .house, .nothing] else []
  isIntersection _ := false
  intersectionMembers _ := []
  isAbsent t := t = .nothing

lemma size_lt_of_part_places {t u : Place} (h : places.Part t u) : u.size < t.size := by
  cases h with
  | element ht | intersectionMember ht => simp [places] at ht
  | member ht hm =>
    cases t
    all_goals
      simp [places, Outcome.ok] at ht
      subst ht
      simp_all [Place.size]
  | unionMember ht hu =>
    obtain rfl : t = .place := by simpa [places] using ht
    simp only [places, if_true, List.mem_cons, List.not_mem_nil, or_false] at hu
    rcases hu with rfl | rfl | rfl <;> decide

theorem resolve_places : (∀ u, places.Reaches .place u → ¬places.Recursive u) ∧
    places.FitsOneRule .place ∧ Within 3 (places.resolving 3 .place []) ∧
    places.resolve 3 .place = places.structural 3 .place ∧
    (∀ c ∈ (places.resolving 3 .place []).calls, ¬places.Recurs c) ∧
    (places.resolveOptional 3 .place).value.map Prod.fst = (places.resolve 3 .place).value := by
  have hacyclic : ∀ u, places.Reaches .place u → ¬places.Recursive u := fun u _ =>
    not_recursive_of_size Place.size size_lt_of_part_places fun h => by simp_all [places]
  have hrule : places.FitsOneRule .place := by
    have honly : ∀ r, places.Fits .place r → r = .union := by
      intro r hr
      cases r <;> simp_all [Fits, places, Outcome.ok]
    exact ⟨fun r r' hr hr' => (honly r hr).trans (honly r' hr').symm, by simp [places]⟩
  have hlimit : Within 3 (places.resolving 3 .place []) := by
    unfold Within
    decide
  obtain ⟨hstructural, hrecurs, -, hoptional⟩ := resolve_of_not_recursive places .place hacyclic
  exact ⟨hacyclic, hrule, hlimit, hstructural 3, (hrecurs 3).1, hoptional hrule 3 hlimit⟩

end CallSchema.TypeGraph

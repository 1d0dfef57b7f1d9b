import CallSchema.Proofs.ResolvingRules

/-!
# The calls of a resolver

A call to resolve a type ends at once if the type is in progress or the call is nested too deep, and
else resolves the type by the rules with its identity in progress. This file shows that every call
leaves in progress what it found there, so that a resolver answers each query as a new one would,
and that what passes from a call to the calls it makes holds of all calls of a run.
-/

namespace CallSchema.TypeGraph

variable {τ ι : Type}

/-- A step that leaves in progress what it finds, with calls that all satisfy `P`. -/
structure Steady (s : List ι) (P : Call τ ι → Prop) {α : Type} (x : Resolving τ ι α) : Prop where
  inProgress : (x s).inProgress = s
  calls : ∀ c ∈ (x s).calls, P c

lemma Steady.bind {s : List ι} {P : Call τ ι → Prop} {α β : Type} {x : Resolving τ ι α}
    {f : α → Resolving τ ι β} (hx : Steady s P x)
    (h : ∀ a, (x s).outcome.value = .ok a → Steady s P (f a)) : Steady s P (x >>= f) := by
  constructor
  · exact Resolving.inProgress_bind hx.inProgress fun a ha => (h a ha).inProgress
  · intro c hc
    rcases Resolving.mem_calls_bind.mp hc with hc | ⟨a, ha, hc⟩
    · exact hx.calls c hc
    · rw [hx.inProgress] at hc
      exact (h a ha).calls c hc

lemma steady_answer (s : List ι) (P : Call τ ι → Prop) {α : Type} (o : Outcome α) :
    Steady s P (Resolving.answer o) :=
  ⟨rfl, by simp [Resolving.answer]⟩

lemma kept_steady (s : List ι) (P : Call τ ι → Prop) :
    Kept (fun _ => True) fun α (x _ : Resolving τ ι α) => Steady s P x where
  pure a := steady_answer s P (pure a)
  answer _ := steady_answer s P _
  ask _ h := (steady_answer s P _).bind h
  bind hx h := hx.bind fun a _ => h a

/-- A run from `s` that leaves `s` in progress, and that is related to `y` if its calls all satisfy
`Q`. -/
structure RelatedIf {n : Type → Type} (s : List ι) (Q : Call τ ι → Prop)
    (S : (α : Type) → Resolution τ ι α → n α → Prop) {α : Type} (x : Resolving τ ι α) (y : n α) :
    Prop where
  inProgress : (x s).inProgress = s
  related : (∀ c ∈ (x s).calls, Q c) → S α (x s) y

lemma kept_relatedIf {n : Type → Type} [Monad n] [MonadLiftT Outcome n] (s : List ι)
    (Q : Call τ ι → Prop) {S : (α : Type) → Resolution τ ι α → n α → Prop}
    (hpure : ∀ {α : Type} (a : α), S α (Resolving.answer (pure a) s) (pure a))
    (hanswer : ∀ {α : Type} (o : Outcome α), S α (Resolving.answer o s) (liftM o))
    (hbind : ∀ {α β : Type} {x : Resolving τ ι α} {y : n α} {f : α → Resolving τ ι β}
      {k : α → n β}, (x s).inProgress = s → S α (x s) y →
      (∀ a, (x s).outcome.value = .ok a → S β (f a s) (k a)) → S β ((x >>= f) s) (y >>= k)) :
    Kept (fun _ => True) fun α (x : Resolving τ ι α) y => RelatedIf s Q S x y := by
  have hrelated : ∀ {α β : Type} {x : Resolving τ ι α} {y : n α} {f : α → Resolving τ ι β}
      {k : α → n β}, RelatedIf s Q S x y →
      (∀ a, (x s).outcome.value = .ok a → RelatedIf s Q S (f a) (k a)) →
      RelatedIf s Q S (x >>= f) (y >>= k) := by
    intro α β x y f k hx h
    constructor
    · exact Resolving.inProgress_bind hx.inProgress fun a ha => (h a ha).inProgress
    · intro hc
      have hxy := hx.related fun c hcx => hc c (Resolving.mem_calls_bind.mpr (.inl hcx))
      refine hbind hx.inProgress hxy fun a ha => (h a ha).related fun c hca => hc c ?_
      refine Resolving.mem_calls_bind.mpr (.inr ⟨a, ha, ?_⟩)
      rwa [hx.inProgress]
  exact
    { pure := fun a => ⟨rfl, fun _ => hpure a⟩
      answer := fun _ => ⟨rfl, fun _ => hanswer _⟩
      ask := fun _ h => hrelated ⟨rfl, fun _ => hanswer _⟩ h
      bind := fun hx h => hrelated hx fun a _ => h a }

variable [BEq ι] {g : TypeGraph τ ι} {limit : Nat} {t : τ} {s : List ι}

lemma resolving_zero : g.resolving 0 t s = ⟨.fail .tooDeep, s, [⟨0, s, t⟩]⟩ := rfl

lemma resolving_succ :
    g.resolving (limit + 1) t s = Resolving.called t (if s.contains (g.identity t) then
        Resolving.answer ⟨[.recursiveType (g.describe t)], .ok (.unknown none)⟩
      else Resolving.during (g.identity t) (g.resolveByRules (g.resolving limit) t)) s := by
  change Resolving.called t (fun s => (if s.contains (g.identity t) then _ else _ :
    Resolving τ ι Fragment) s) s = _
  simp only [Resolving.called]
  split <;> rfl

lemma resolving_of_inProgress (h : s.contains (g.identity t) = true) :
    g.resolving (limit + 1) t s =
      ⟨⟨[.recursiveType (g.describe t)], .ok (.unknown none)⟩, s, [⟨0, s, t⟩]⟩ := by
  rw [resolving_succ, if_pos h]
  rfl

lemma resolving_of_not_inProgress (h : s.contains (g.identity t) = false) :
    g.resolving (limit + 1) t s =
      let body := g.resolveByRules (g.resolving limit) t (g.identity t :: s)
      ⟨body.outcome, body.inProgress.tail, ⟨0, s, t⟩ :: body.calls.map (Call.inside 1)⟩ := by
  rw [resolving_succ, if_neg (by simp [h])]
  rfl

lemma outcome_resolving_of_shape {shape : TypeShape τ} (h : s.contains (g.identity t) = false)
    (hshape : g.shape t = pure shape) :
    (g.resolving (limit + 1) t s).outcome =
      (g.resolveShapeWith (g.resolving limit) t shape (g.identity t :: s)).outcome := by
  rw [resolving_of_not_inProgress h]
  change (g.resolveByRules (g.resolving limit) t (g.identity t :: s)).outcome = _
  rw [resolveByRules, hshape, Resolving.outcome_bind]
  rfl

lemma value_resolving_of_shape {shape : TypeShape τ} (h : s.contains (g.identity t) = false)
    (hshape : (g.shape t).value = .ok shape) :
    (g.resolving (limit + 1) t s).outcome.value =
      (g.resolveShapeWith (g.resolving limit) t shape (g.identity t :: s)).outcome.value := by
  rw [resolving_of_not_inProgress h]
  change (g.resolveByRules (g.resolving limit) t (g.identity t :: s)).outcome.value = _
  rw [resolveByRules, Resolving.outcome_bind]
  change (Outcome.bind (g.shape t) _).value = _
  simp only [Outcome.bind, hshape]
  rfl

lemma first_mem_calls : ⟨0, s, t⟩ ∈ (g.resolving limit t s).calls := by
  cases limit with
  | zero => simp [resolving_zero]
  | succ limit => simp [resolving_succ, Resolving.called]

/-- A call finds its type in progress. -/
def Recurs (g : TypeGraph τ ι) (c : Call τ ι) : Prop :=
  c.inProgress.contains (g.identity c.type) = true

/-- What holds of a call holds of the calls that it makes. -/
def Inherited (g : TypeGraph τ ι) (I : Call τ ι → Prop) : Prop :=
  ∀ c u, I c → ¬g.Recurs c → g.Calls c.type u →
    I ⟨c.level + 1, g.identity c.type :: c.inProgress, u⟩

/-- Every call leaves in progress what it found, and what is inherited from the first call of a run
holds of all its calls. -/
theorem steady_resolving {I : Call τ ι → Prop} (hI : g.Inherited I) (level : Nat)
    (h : I ⟨level, s, t⟩) : Steady s (fun c => I (c.inside level)) (g.resolving limit t) := by
  -- the calls of the body stand one level deeper, with one more identity in progress
  induction limit generalizing level t s with
  | zero => exact ⟨rfl, by simpa [resolving_zero, Call.inside] using h⟩
  | succ limit ih =>
    cases hs : s.contains (g.identity t) with
    | true =>
      exact ⟨by rw [resolving_of_inProgress hs],
        by simpa [resolving_of_inProgress hs, Call.inside] using h⟩
    | false =>
      have hkept := kept_steady (g.identity t :: s) fun c => I (c.inside (level + 1))
      have hbody := hkept.resolveByRules (g := g) (t := t) (g.resolving limit) (g.resolving limit)
        (fun _ => trivial) (fun _ _ => trivial) fun u hu =>
          ih _ (hI _ u h (by simp [Recurs, hs]) hu)
      constructor
      · rw [resolving_of_not_inProgress hs]
        simp [hbody.inProgress]
      · rw [resolving_of_not_inProgress hs]
        intro c hc
        rcases List.mem_cons.mp hc with rfl | hc
        · simpa [Call.inside] using h
        · obtain ⟨d, hd, rfl⟩ := List.mem_map.mp hc
          have := hbody.calls d hd
          simpa [Call.inside, Nat.add_assoc] using this

lemma steady_resolvingOptional {I : Call τ ι → Prop} (hI : g.Inherited I)
    (h : ∀ u, g.Asks t u → I ⟨0, s, u⟩) : Steady s I (g.resolvingOptional limit t) := by
  refine (kept_steady s I).resolveOptionalWith _ (g.resolving limit) fun u hu => ?_
  simpa [Call.inside] using steady_resolving hI 0 (h u hu)

lemma inProgress_resolving : (g.resolving limit t s).inProgress = s :=
  (steady_resolving (I := fun _ => True) (fun _ _ _ _ _ => trivial) 0 trivial).inProgress

lemma value_mapInOrder_resolving {k : τ → Fragment} {ts : List τ}
    (h : ∀ u ∈ ts, (g.resolving limit u s).outcome.value = .ok (k u)) :
    (mapInOrder (g.resolving limit) ts s).outcome.value = .ok (ts.map k) := by
  induction ts with
  | nil => rfl
  | cons u ts ih =>
    have hrest := ih fun v hv => h v (List.mem_cons_of_mem u hv)
    rw [mapInOrder, Resolving.outcome_bind, inProgress_resolving]
    refine Outcome.value_bind_eq_ok.mpr ⟨k u, h u List.mem_cons_self, ?_⟩
    rw [Resolving.outcome_bind]
    exact Outcome.value_bind_eq_ok.mpr ⟨ts.map k, hrest, rfl⟩

lemma inProgress_resolvingOptional : (g.resolvingOptional limit t s).inProgress = s :=
  (steady_resolvingOptional (I := fun _ => True) (fun _ _ _ _ _ => trivial)
    fun _ _ => trivial).inProgress

lemma inProgress_answering (q : Query τ) : (g.answering limit q s).inProgress = s := by
  cases q with
  | fragment t => exact Resolving.inProgress_bind inProgress_resolving fun _ _ => rfl
  | optional t => exact Resolving.inProgress_bind inProgress_resolvingOptional fun (_, _) _ => rfl

/-- A resolver carries nothing over: each query leaves in progress what it found there, whether it
fails or not, and a sequence of queries is answered as by a new resolver for each. -/
theorem session_eq_map_answering (g : TypeGraph τ ι) (limit : Nat) :
    (∀ (q : Query τ) (s : List ι), (g.answering limit q s).inProgress = s) ∧
      ∀ qs : List (Query τ), g.session limit qs [] = qs.map fun q => g.answering limit q [] := by
  refine ⟨fun q s => inProgress_answering q, fun qs => ?_⟩
  induction qs with
  | nil => rfl
  | cons q qs ih => simp only [session, inProgress_answering, ih, List.map_cons]

end CallSchema.TypeGraph

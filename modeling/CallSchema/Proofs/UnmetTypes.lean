import CallSchema.Proofs.ResolverTermination

/-!
# Types in progress that are not met

A resolver looks up in progress the types that it is called for, and no others. So a run answers
alike if further types are in progress around it, as long as it is called for none of them.
-/

namespace CallSchema.TypeGraph

variable {τ ι : Type}

lemma kept_outcome_alike (s s' : List ι) (Q : Call τ ι → Prop) : Kept (fun _ => True)
    fun α (x y : Resolving τ ι α) => RelatedIf s Q
      (fun _ run y => run.outcome = (y s').outcome ∧ (y s').inProgress = s') x y := by
  refine kept_relatedIf s Q (fun _ => ⟨rfl, rfl⟩) (fun _ => ⟨rfl, rfl⟩) ?_
  intro α β x y f k hs hxy h
  constructor
  · rw [Resolving.outcome_bind, Resolving.outcome_bind, hs, hxy.2, ← hxy.1]
    exact Outcome.bind_congr fun a ha => (h a ha).1
  · exact Resolving.inProgress_bind hxy.2 fun a ha => (h a (hxy.1 ▸ ha)).2

variable [BEq ι] {g : TypeGraph τ ι} {limit : Nat} {t : τ} {s ids : List ι}

lemma contains_append_of_not (h : ids.contains (g.identity t) = false) :
    (s ++ ids).contains (g.identity t) = s.contains (g.identity t) := by
  rw [List.contains_append, h, Bool.or_false]

lemma outcome_resolving_append
    (h : ∀ c ∈ (g.resolving limit t s).calls, ids.contains (g.identity c.type) = false) :
    (g.resolving limit t s).outcome = (g.resolving limit t (s ++ ids)).outcome := by
  induction limit generalizing t s with
  | zero => rfl
  | succ limit ih =>
    have happend : (s ++ ids).contains (g.identity t) = s.contains (g.identity t) :=
      contains_append_of_not (h _ first_mem_calls)
    cases hs : s.contains (g.identity t) with
    | true => rw [resolving_of_inProgress hs, resolving_of_inProgress (happend.trans hs)]
    | false =>
      rw [resolving_of_not_inProgress hs] at h
      rw [resolving_of_not_inProgress hs, resolving_of_not_inProgress (happend.trans hs)]
      have hkept := kept_outcome_alike (g.identity t :: s) (g.identity t :: s ++ ids)
        fun c : Call τ ι => ids.contains (g.identity c.type) = false
      have hbody := hkept.resolveByRules (g := g) (t := t) (g.resolving limit) (g.resolving limit)
        (fun _ => trivial) (fun _ _ => trivial) fun u _ =>
          ⟨inProgress_resolving, fun hcalls => ⟨ih hcalls, inProgress_resolving⟩⟩
      refine (hbody.related fun c hc => ?_).1
      exact h (c.inside 1) (List.mem_cons_of_mem _ (List.mem_map_of_mem hc))

lemma inherited_reaches (g : TypeGraph τ ι) (t : τ) : g.Inherited fun c => g.Reaches t c.type :=
  fun _ _ h _ hu => h.trans hu.below.to_reflTransGen

/-- A run answers alike whatever else is in progress, if that is none of the types that it can
reach. -/
theorem outcome_resolving_of_unmet
    (h : ∀ u, g.Reaches t u → ids.contains (g.identity u) = false) :
    (g.resolving limit t (s ++ ids)).outcome = (g.resolving limit t s).outcome := by
  have hsteady : Steady s (fun c => g.Reaches t c.type) (g.resolving limit t) :=
    steady_resolving (inherited_reaches g t) 0 .refl
  exact (outcome_resolving_append fun c hc => h c.type (hsteady.calls c hc)).symm

theorem outcome_resolvingOptional_of_unmet
    (h : ∀ u, g.Reaches t u → ids.contains (g.identity u) = false) :
    (g.resolvingOptional limit t (s ++ ids)).outcome = (g.resolvingOptional limit t s).outcome := by
  have hkept := kept_outcome_alike (ι := ι) s (s ++ ids) fun _ : Call τ ι => True
  have hrun := hkept.resolveOptionalWith (g := g) (t := t) (g.resolving limit) (g.resolving limit)
    fun u hu => ⟨inProgress_resolving, fun _ =>
      ⟨(outcome_resolving_of_unmet fun v hv => h v (hu.reaches.trans hv)).symm,
        inProgress_resolving⟩⟩
  exact (hrun.related fun _ _ => trivial).1.symm

/-- A type without parts resolves alike at any depth and beside any types that are not itself. -/
theorem outcome_resolving_of_no_parts {n m : Nat} {s' : List ι} (hparts : ∀ u, ¬g.Part t u)
    (hs : s.contains (g.identity t) = false) (hs' : s'.contains (g.identity t) = false) :
    (g.resolving (n + 1) t s).outcome = (g.resolving (m + 1) t s').outcome := by
  rw [resolving_of_not_inProgress hs, resolving_of_not_inProgress hs']
  have hkept := kept_outcome_alike (ι := ι) (g.identity t :: s) (g.identity t :: s')
    fun _ : Call τ ι => True
  have hbody := hkept.resolveByRules (g := g) (t := t) (g.resolving n) (g.resolving m)
    (fun _ => trivial) (fun _ _ => trivial) fun u ⟨v, hv, _⟩ => absurd hv (hparts v)
  exact (hbody.related fun _ _ => trivial).1

end CallSchema.TypeGraph

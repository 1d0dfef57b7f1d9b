import CallSchema.Proofs.ResolvedFragments
import CallSchema.Proofs.ResolverTermination

/-!
# Failed runs

A call fails by itself if a question about its type fails, or if the type is an intersection of
nothing. Each call around it hands the failure on and makes no more calls. So the calls of a run
tell whether it fails, and with what.
-/

namespace CallSchema

lemma Outcome.value_bind_eq_error_iff {α β : Type} {x : Outcome α} {f : α → Outcome β}
    {e : Failure} : (x >>= f).value = .error e ↔
      x.value = .error e ∨ ∃ a, x.value = .ok a ∧ (f a).value = .error e := by
  change (Outcome.bind x f).value = _ ↔ _
  cases h : x.value <;> simp [Outcome.bind, h]

namespace TypeGraph

variable {τ ι : Type} {g : TypeGraph τ ι} {t : τ} {e : Failure}

/-- A type cannot be resolved, whatever its parts resolve to. -/
inductive Faults (g : TypeGraph τ ι) (t : τ) : Failure → Prop
  | question {e : Failure} (h : (g.shape t).value = .error e) : Faults g t e
  | intersection (h : (g.shape t).value = .ok (.intersection [])) : Faults g t .emptyIntersection

lemma error_of_shape (h : (g.shape t).value = .error e) :
    (g.isArrayLike t = true ∧ g.elementType? t = .error e) ∨ (g.members t).value = .error e := by
  unfold TypeGraph.shape shapeWith at h
  split at h
  · cases h
  split at h
  · cases h
  split at h
  · cases h
  split at h
  · rename_i harray
    rcases Outcome.value_bind_eq_error_iff.mp h with h | ⟨_, _, h⟩
    · exact .inl ⟨harray, h⟩
    · cases h
  · rcases Outcome.value_bind_eq_error_iff.mp h with h | ⟨ms, _, h⟩
    · exact .inr h
    · repeat' split at h
      all_goals cases h

/-- A step from `s` that leaves `s` in progress and, if its calls all satisfy `Q`, fails with just
what `P` says of one of its calls. -/
structure FailsByCalls (s : List ι) (Q : Call τ ι → Prop) (P : Call τ ι → Failure → Prop)
    {α : Type} (x : Resolving τ ι α) : Prop where
  inProgress : (x s).inProgress = s
  fails : (∀ c ∈ (x s).calls, Q c) →
    ∀ e, (x s).outcome.value = .error e ↔ ∃ c ∈ (x s).calls, P c e

section Rules

variable {α β : Type} {s : List ι} {Q : Call τ ι → Prop} {P : Call τ ι → Failure → Prop}

lemma failsByCalls_answer {o : Outcome α} {a : α} (h : o.value = .ok a) :
    FailsByCalls s Q P (Resolving.answer o) :=
  ⟨rfl, fun _ e => by simp [Resolving.answer, h]⟩

lemma failsByCalls_pure (a : α) : FailsByCalls s Q P (pure a : Resolving τ ι α) :=
  failsByCalls_answer (o := pure a) rfl

lemma FailsByCalls.bind {x : Resolving τ ι α} {f : α → Resolving τ ι β}
    (hx : FailsByCalls s Q P x)
    (h : ∀ a, (x s).outcome.value = .ok a → FailsByCalls s Q P (f a)) :
    FailsByCalls s Q P (x >>= f) := by
  refine ⟨Resolving.inProgress_bind hx.inProgress fun a ha => (h a ha).inProgress, fun hQ e => ?_⟩
  have hfirst := hx.fails fun c hc => hQ c (Resolving.mem_calls_bind.mpr (.inl hc))
  have hnext : ∀ a, (x s).outcome.value = .ok a → ∀ e,
      (f a s).outcome.value = .error e ↔ ∃ c ∈ (f a s).calls, P c e := fun a ha =>
    (h a ha).fails fun c hc => hQ c
      (Resolving.mem_calls_bind.mpr (.inr ⟨a, ha, by rwa [hx.inProgress]⟩))
  rw [Resolving.outcome_bind, Outcome.value_bind_eq_error_iff, hx.inProgress]
  constructor
  · rintro (he | ⟨a, ha, he⟩)
    · obtain ⟨c, hc, hP⟩ := (hfirst e).mp he
      exact ⟨c, Resolving.mem_calls_bind.mpr (.inl hc), hP⟩
    · obtain ⟨c, hc, hP⟩ := (hnext a ha e).mp he
      exact ⟨c, Resolving.mem_calls_bind.mpr (.inr ⟨a, ha, by rwa [hx.inProgress]⟩), hP⟩
  · rintro ⟨c, hc, hP⟩
    rcases Resolving.mem_calls_bind.mp hc with hc | ⟨a, ha, hc⟩
    · exact .inl ((hfirst e).mpr ⟨c, hc, hP⟩)
    · rw [hx.inProgress] at hc
      exact .inr ⟨a, ha, (hnext a ha e).mpr ⟨c, hc, hP⟩⟩

lemma failsByCalls_mapInOrder {f : α → Resolving τ ι β} {as : List α}
    (h : ∀ a ∈ as, FailsByCalls s Q P (f a)) : FailsByCalls s Q P (mapInOrder f as) := by
  induction as with
  | nil => exact failsByCalls_pure []
  | cons a as ih =>
    refine (h a List.mem_cons_self).bind fun b _ => ?_
    refine (ih fun c hc => h c (List.mem_cons_of_mem a hc)).bind fun bs _ => ?_
    exact failsByCalls_pure (b :: bs)

variable {resolve : τ → Resolving τ ι Fragment}

lemma failsByCalls_resolveUnionWith {ts : List τ} (h : ∀ u ∈ ts, FailsByCalls s Q P (resolve u)) :
    FailsByCalls s Q P (resolveUnionWith resolve ts) := by
  unfold resolveUnionWith
  split
  · exact h _ List.mem_cons_self
  · exact (failsByCalls_mapInOrder h).bind fun _ _ => failsByCalls_pure _

lemma failsByCalls_resolveOptionalWith (h : ∀ u, g.Asks t u → FailsByCalls s Q P (resolve u)) :
    FailsByCalls s Q P (g.resolveOptionalWith resolve t) := by
  unfold resolveOptionalWith
  split
  · rename_i habsent
    rw [Bool.and_eq_true] at habsent
    refine (failsByCalls_resolveUnionWith fun u hu => h u (.inr ⟨habsent.1, hu⟩)).bind ?_
    exact fun _ _ => failsByCalls_pure _
  · exact (h t (.inl rfl)).bind fun _ _ => failsByCalls_pure _

/-- Only an intersection of nothing fails without a call. -/
lemma failsByCalls_resolveShapeWith {shape : TypeShape τ} (hshape : (g.shape t).value = .ok shape)
    (hne : shape ≠ .intersection []) (h : ∀ u, g.Calls t u → FailsByCalls s Q P (resolve u)) :
    FailsByCalls s Q P (g.resolveShapeWith resolve t shape) := by
  have hparts : ∀ u ∈ shape.parts, FailsByCalls s Q P (resolve u) := fun u hu =>
    h u ⟨u, part_of_mem_shape hshape hu, .inl rfl⟩
  match shape with
  | .unconstrained | .enumeration _ _ | .primitive _ | .array none => exact failsByCalls_pure _
  | .array (some u) => exact (hparts u List.mem_cons_self).bind fun _ _ => failsByCalls_pure _
  | .object ms =>
    refine (failsByCalls_mapInOrder fun m hm => ?_).bind fun _ _ => failsByCalls_pure _
    have hpart := part_of_mem_shape hshape (List.mem_map_of_mem (f := Member.type) hm)
    refine (failsByCalls_resolveOptionalWith fun u hu => h u ⟨m.type, hpart, hu⟩).bind ?_
    exact fun _ _ => failsByCalls_pure _
  | .union ts => exact failsByCalls_resolveUnionWith hparts
  | .intersection [] => exact absurd rfl hne
  | .intersection (u :: ts) =>
    refine (failsByCalls_mapInOrder hparts).bind fun fs hfs => ?_
    have hlength := ((comes_resolving τ ι).mapInOrder ⟨s, hfs⟩).length_eq
    cases fs with
    | nil => cases hlength
    | cons f fs => exact failsByCalls_answer (a := .allOf none (f :: fs)) rfl
  | .unsupported => exact (failsByCalls_answer (a := ()) rfl).bind fun _ _ => failsByCalls_pure _

lemma resolveByRules_eq_error_iff (h : ∀ u, g.Calls t u → FailsByCalls s Q P (resolve u))
    (hQ : ∀ c ∈ (g.resolveByRules resolve t s).calls, Q c) (e : Failure) :
    (g.resolveByRules resolve t s).outcome.value = .error e ↔
      g.Faults t e ∨ ∃ c ∈ (g.resolveByRules resolve t s).calls, P c e := by
  have hcalls : ∀ c, c ∈ (g.resolveByRules resolve t s).calls ↔ ∃ shape,
      (g.shape t).value = .ok shape ∧ c ∈ (g.resolveShapeWith resolve t shape s).calls := by
    intro c
    refine Resolving.mem_calls_bind.trans (or_iff_right ?_)
    exact List.not_mem_nil
  have hvalue : (g.resolveByRules resolve t s).outcome.value = .error e ↔
      (g.shape t).value = .error e ∨ ∃ shape, (g.shape t).value = .ok shape ∧
        (g.resolveShapeWith resolve t shape s).outcome.value = .error e := by
    rw [resolveByRules, Resolving.outcome_bind]
    exact Outcome.value_bind_eq_error_iff
  rw [hvalue]
  constructor
  · rintro (hshape | ⟨shape, hshape, he⟩)
    · exact .inl (.question hshape)
    · by_cases hne : shape = .intersection []
      · subst hne
        obtain rfl : Failure.emptyIntersection = e := Except.error.inj he
        exact .inl (.intersection hshape)
      · have hbody := failsByCalls_resolveShapeWith (s := s) (Q := Q) (P := P) hshape hne h
        obtain ⟨c, hc, hP⟩ := (hbody.fails
          (fun c hc => hQ c ((hcalls c).mpr ⟨shape, hshape, hc⟩)) e).mp he
        exact .inr ⟨c, (hcalls c).mpr ⟨shape, hshape, hc⟩, hP⟩
  · rintro (hfaults | ⟨c, hc, hP⟩)
    · cases hfaults with
      | question hshape => exact .inl hshape
      | intersection hshape => exact .inr ⟨_, hshape, rfl⟩
    · obtain ⟨shape, hshape, hc⟩ := (hcalls c).mp hc
      refine .inr ⟨shape, hshape, ?_⟩
      have hne : shape ≠ .intersection [] := by
        rintro rfl
        exact absurd hc List.not_mem_nil
      have hbody := failsByCalls_resolveShapeWith (s := s) (Q := Q) (P := P) hshape hne h
      exact (hbody.fails (fun c hc => hQ c ((hcalls c).mpr ⟨shape, hshape, hc⟩)) e).mpr
        ⟨c, hc, hP⟩

end Rules

section Runs

variable [BEq ι] {s : List ι} {limit : Nat}

/-- A call is made for a type that cannot be resolved and is not in progress already. -/
def FailsIn (g : TypeGraph τ ι) (c : Call τ ι) (e : Failure) : Prop :=
  ¬g.Recurs c ∧ g.Faults c.type e

lemma failsByCalls_resolving :
    FailsByCalls s (fun c => c.level < limit) g.FailsIn (g.resolving limit t) := by
  -- inside a call the levels count from the call, so its body is within one level less
  induction limit generalizing t s with
  | zero => exact ⟨rfl, fun hlevel => absurd (hlevel _ first_mem_calls) (Nat.not_lt_zero _)⟩
  | succ limit ih =>
    refine ⟨inProgress_resolving, fun hlevel e => ?_⟩
    cases hs : s.contains (g.identity t) with
    | true =>
      have hrecurs : g.Recurs ⟨0, s, t⟩ := hs
      rw [resolving_of_inProgress hs]
      simp [FailsIn, hrecurs]
    | false =>
      have hnot : ¬g.Recurs ⟨0, s, t⟩ := by simp [Recurs, hs]
      rw [resolving_of_not_inProgress hs] at hlevel ⊢
      have hbody : ∀ c ∈ (g.resolveByRules (g.resolving limit) t (g.identity t :: s)).calls,
          c.level < limit := fun c hc => by
        have := hlevel (c.inside 1) (List.mem_cons_of_mem _ (List.mem_map_of_mem hc))
        simp only [Call.inside] at this
        omega
      refine (resolveByRules_eq_error_iff (fun u _ => ih) hbody e).trans ?_
      simp only [List.mem_cons, List.mem_map, exists_eq_or_imp, FailsIn, hnot,
        not_false_eq_true, true_and, exists_exists_and_eq_and]
      rfl

/-- A run fails exactly by a call for a type that cannot be resolved, and with what that one fails
with, unless the limit is too low. -/
theorem resolving_eq_error_iff (h : Within limit (g.resolving limit t s)) (e : Failure) :
    (g.resolving limit t s).outcome.value = .error e ↔
      ∃ c ∈ (g.resolving limit t s).calls, g.FailsIn c e :=
  failsByCalls_resolving.fails h e

theorem resolvingOptional_eq_error_iff (h : Within limit (g.resolvingOptional limit t s))
    (e : Failure) : (g.resolvingOptional limit t s).outcome.value = .error e ↔
      ∃ c ∈ (g.resolvingOptional limit t s).calls, g.FailsIn c e :=
  (failsByCalls_resolveOptionalWith fun _ _ => failsByCalls_resolving).fails h e

end Runs

end TypeGraph

end CallSchema

import CallSchema.Proofs.AcyclicTypes
import CallSchema.Proofs.SilentRules

/-!
# Runs without warnings

A resolver that gives no warning has told by a rule what each type is that it met, and has found
none of them in progress. So what it answers is what the rules make without a warning.
-/

namespace CallSchema.TypeGraph

variable {τ ι : Type} {g : TypeGraph τ ι} {t : τ} {s : List ι}

section Calls

open Outcome

variable {P : (α : Type) → Outcome α → Prop}

lemma kept_calls (hP : Passes P) (s : List ι) (Q : Call τ ι → Prop) : Kept (fun _ => True)
    fun α (x y : Resolving τ ι α) => RelatedIf s (fun _ => True)
      (fun α run _ => P α run.outcome → ∀ c ∈ run.calls, Q c) x y := by
  refine kept_relatedIf s _ (fun _ _ => by simp [Resolving.answer])
    (fun _ _ => by simp [Resolving.answer]) ?_
  intro α β x y f k hs hx h hbind c hc
  rw [Resolving.outcome_bind, hs] at hbind
  obtain ⟨hfirst, hnext⟩ := hP.of_bind hbind
  rcases Resolving.mem_calls_bind.mp hc with hc | ⟨a, ha, hc⟩
  · exact hx hfirst c hc
  · rw [hs] at hc
    exact h a ha (hnext a ha) c hc

variable [BEq ι] {limit : Nat}

/-- The run of a call that is made in a run of the limit given. -/
def callRun (g : TypeGraph τ ι) (limit : Nat) (c : Call τ ι) : Resolution τ ι Fragment :=
  g.resolving (limit - c.level) c.type c.inProgress

lemma callRun_inside (g : TypeGraph τ ι) (limit : Nat) (c : Call τ ι) :
    g.callRun (limit + 1) (c.inside 1) = g.callRun limit c := by
  have hlevel : limit + 1 - (1 + c.level) = limit - c.level := by omega
  simp only [callRun, Call.inside, hlevel]

/-- What passes from sequences of steps to the steps passes from a run to those of its calls. -/
theorem callRun_of_resolving (hP : Passes P) (h : P Fragment (g.resolving limit t s).outcome) :
    ∀ c ∈ (g.resolving limit t s).calls, P Fragment (g.callRun limit c).outcome := by
  induction limit generalizing t s with
  | zero =>
    intro c hc
    obtain rfl := List.mem_singleton.mp (show c ∈ [⟨0, s, t⟩] from hc)
    exact h
  | succ limit ih =>
    cases hs : s.contains (g.identity t) with
    | true =>
      intro c hc
      rw [resolving_of_inProgress hs] at hc
      obtain rfl := List.mem_singleton.mp hc
      exact h
    | false =>
      have hbody := (kept_calls hP (g.identity t :: s)
        fun c => P Fragment (g.callRun limit c).outcome).resolveByRules (g := g) (t := t)
        (g.resolving limit) (g.resolving limit) (fun _ => trivial) (fun _ _ => trivial)
        fun u _ => ⟨inProgress_resolving, fun _ => ih⟩
      intro c hc
      rw [resolving_of_not_inProgress hs] at hc
      rcases List.mem_cons.mp hc with rfl | hc
      · exact h
      · obtain ⟨d, hd, rfl⟩ := List.mem_map.mp hc
        rw [resolving_of_not_inProgress hs] at h
        rw [callRun_inside]
        exact hbody.related (fun _ _ => trivial) h d hd

lemma within_of_answer {f : Fragment} (h : (g.resolving limit t s).outcome.value = .ok f) :
    Within limit (g.resolving limit t s) := by
  intro c hc
  obtain ⟨f', hf'⟩ := callRun_of_resolving passes_answered ⟨f, h⟩ c hc
  by_contra hlevel
  rw [callRun, Nat.sub_eq_zero_of_le (Nat.not_lt.mp hlevel)] at hf'
  cases hf'

end Calls

lemma becomes_of_structural {limit : Nat} {f : Fragment} (h : g.structural limit t = .ok f) :
    g.Becomes t f := by
  induction limit generalizing t f with
  | zero => cases h
  | succ limit ih =>
    obtain ⟨shape, hshape, h⟩ := comes_silent.bind h
    exact becomes_of_resolveShapeWith (fun u f => ih) (congrArg Outcome.value hshape) h

section Silence

variable [BEq ι] {limit : Nat}

/-- It is told what a type is: it is unconstrained on purpose, or some rule is the first that fits
it. -/
def Classified (g : TypeGraph τ ι) (t : τ) : Prop :=
  (g.isNone t || g.isAny t) = true ∨ ∃ r, g.FirstFits t r

omit [BEq ι] in
lemma exists_firstFits (hconstrained : (g.isNone t || g.isAny t) = false) {r : Rule}
    (hr : g.Fits t r) : ∃ r', g.FirstFits t r' := by
  induction hn : r.place using Nat.strongRecOn generalizing r with
  | ind n ih =>
    by_cases hearlier : ∃ r' : Rule, r'.place < r.place ∧ g.Fits t r'
    · obtain ⟨r', hplace, hr'⟩ := hearlier
      exact ih r'.place (hn ▸ hplace) hr' rfl
    · exact ⟨r, hconstrained, hr, fun r' hplace hr' => hearlier ⟨r', hplace, hr'⟩⟩

omit [BEq ι] in
lemma classified_or_fitsNoRule (g : TypeGraph τ ι) (t : τ) :
    g.Classified t ∨ g.FitsNoRule t := by
  cases hconstrained : g.isNone t || g.isAny t with
  | true => exact .inl (.inl hconstrained)
  | false =>
    by_cases hr : ∃ r, g.Fits t r
    · obtain ⟨r, hr⟩ := hr
      exact .inl (.inr (exists_firstFits hconstrained hr))
    · exact .inr ⟨hconstrained, not_exists.mp hr⟩

lemma told_of_silent (h : (g.resolving (limit + 1) t s).outcome.warnings = []) :
    s.contains (g.identity t) = false ∧ g.Classified t := by
  have hs : s.contains (g.identity t) = false := by
    refine Bool.eq_false_iff.mpr fun hs => ?_
    rw [resolving_of_inProgress hs] at h
    cases h
  refine ⟨hs, (classified_or_fitsNoRule g t).resolve_right fun hnone => ?_⟩
  rw [resolving_of_not_inProgress hs] at h
  change (g.resolveByRules (g.resolving limit) t (g.identity t :: s)).outcome.warnings = [] at h
  rw [resolveByRules, Resolving.outcome_bind] at h
  -- what warns is the step that follows the one that finds the shape
  have hnext := (Outcome.passes_silent.of_bind h).2 _ (value_shape_of_fitsNoRule hnone)
  rw [resolveShapeWith, Resolving.outcome_bind] at hnext
  cases (Outcome.passes_silent.of_bind hnext).1

/-- A run that gives an answer and no warning is one of the rules alone. -/
lemma structural_of_silent {f : Fragment} (h : (g.resolving limit t s).outcome = .ok f) :
    g.structural limit t = .ok f := by
  obtain ⟨hsilent, hvalue⟩ := Outcome.eq_ok_iff.mp h
  rw [← h, outcome_resolving]
  intro c hc
  have hlevel := within_of_answer hvalue c hc
  have hrun := callRun_of_resolving Outcome.passes_silent hsilent c hc
  obtain ⟨n, hn⟩ := Nat.exists_eq_add_of_lt hlevel
  rw [callRun, show limit - c.level = n + 1 by omega] at hrun
  simpa [Recurs] using (told_of_silent hrun).1

lemma tellsNothingAt_of_silent {f : Fragment} {steps : List Fragment.Step}
    (hsilent : (g.resolving limit t s).outcome.warnings = [])
    (hvalue : (g.resolving limit t s).outcome.value = .ok f) (hf : f.UnknownAt steps) :
    g.TellsNothingAt t steps :=
  (becomes_of_structural <| structural_of_silent <|
    Outcome.eq_ok_iff.mpr ⟨hsilent, hvalue⟩).tellsNothingAt hf

/-- A resolver that gives no warning has found no type in progress, and for each type that it met it
was told what the type is. A type that came out unknown, as the members do that unions leave out, is
blank. If there is an answer then no call was cut off, and whatever is unknown in the answer stands
where a type is blank or does not tell the elements of an array. -/
theorem accounted_of_silent (g : TypeGraph τ ι) (limit : Nat) (t : τ)
    (h : (g.resolve limit t).warnings = []) :
    (∀ c ∈ (g.resolving limit t []).calls, c.level < limit →
      ¬g.Recurs c ∧ g.Classified c.type ∧
        ∀ d, (g.callRun limit c).outcome.value = .ok (.unknown d) → g.Blank c.type) ∧
    ∀ f, (g.resolve limit t).value = .ok f →
      (∀ c ∈ (g.resolving limit t []).calls, c.level < limit) ∧
        ∀ steps, f.UnknownAt steps → g.TellsNothingAt t steps := by
  constructor
  · intro c hc hlevel
    have hsilent := callRun_of_resolving Outcome.passes_silent h c hc
    obtain ⟨n, hn⟩ : ∃ n, limit - c.level = n + 1 := ⟨limit - c.level - 1, by omega⟩
    have htold := hsilent
    rw [callRun, hn] at htold
    obtain ⟨hprogress, hclassified⟩ := told_of_silent htold
    refine ⟨by simpa [Recurs] using hprogress, hclassified, fun d hd => ?_⟩
    have hbecomes := becomes_of_structural
      (structural_of_silent (Outcome.eq_ok_iff.mpr ⟨hsilent, hd⟩))
    exact (hbecomes.blank rfl).1
  · intro f hf
    exact ⟨within_of_answer hf, fun steps => tellsNothingAt_of_silent h hf⟩

end Silence

/-- The types of a crate: labels of any kind, a note that may be anything, and a weight that is a
number or anything. -/
inductive Crate
  | crate
  | labels
  | note
  | weight
  | number
  deriving DecidableEq

def crates : TypeGraph Crate Crate where
  identity t := t
  describe _ := "crate"
  isNone _ := false
  isAny t := t = .note
  literal? _ := none
  enumValues? _ := none
  primitive? t := if t = .number then some "number" else none
  isArrayLike t := t = .labels
  elementType? _ := .ok none
  members t := .ok (if t = .crate then
    [⟨"labels", .labels, false, none⟩, ⟨"note", .note, false, some "For the driver"⟩,
      ⟨"weight", .weight, false, none⟩] else [])
  isUnion t := t = .weight
  unionMembers t := if t = .weight then [.number, .note] else []
  isIntersection _ := false
  intersectionMembers _ := []
  isAbsent _ := false

theorem accounted_of_silent_crates : crates.resolve 3 .crate = .ok (.object none
      [("labels", .array none (.unknown none)), ("note", .unknown (some "For the driver")),
        ("weight", .primitive none "number")] ["labels", "note", "weight"]) ∧
    (∀ c ∈ (crates.resolving 3 .crate []).calls, ¬crates.Recurs c ∧ crates.Classified c.type) ∧
    crates.TellsNothingAt .crate [.property "labels", .items] ∧
    crates.TellsNothingAt .crate [.property "note"] := by
  have hresolve : crates.resolve 3 .crate = .ok _ := rfl
  obtain ⟨hcalls, hanswer⟩ :=
    accounted_of_silent crates 3 .crate (congrArg Outcome.warnings hresolve)
  obtain ⟨hlevel, hunknown⟩ := hanswer _ (congrArg Outcome.value hresolve)
  refine ⟨rfl, fun c hc => ?_, hunknown _ ⟨none, rfl⟩, hunknown _ ⟨some "For the driver", rfl⟩⟩
  obtain ⟨hprogress, hclassified, -⟩ := hcalls c hc (hlevel c hc)
  exact ⟨hprogress, hclassified⟩

end CallSchema.TypeGraph

import CallSchema.Proofs.HintParts

/-!
# Nested hints are different ones

Equal hints weigh the same, and what stands in a hint at any depth weighs less, but for the single
constants of a literal, which are not the literal of them all. So as long as no class is entered, no
hint has the identity of a hint that it stands in.
-/

namespace CallSchema.Hint

variable {a b t u : Hint} {hs ks : List Hint} {n : Nat}

lemma weightAll_eq_of_forall₂ (h : List.Forall₂ (fun x y => weight n x = weight n y) hs ks) :
    weightAll n hs = weightAll n ks := by
  induction h with
  | nil => rfl
  | cons hxy _ ih => rw [weightAll, weightAll, hxy, ih]

lemma weight_of_isClosed (h : a.isClosed = true) : weight n a = 0 := by
  cases a
  case unpack | starred | callable | typeVar | newType | constant | listing | tuple => simp [weight]
  all_goals cases h

/-- Equal hints weigh the same, if literals count for nothing. -/
theorem weight_eq_of_eqv (h : eqv a b = true) : weight 0 a = weight 0 b := by
  refine eqv_induction (P := fun a b => weight 0 a = weight 0 b) (fun a b hab => ?_) a b h
  cases hab with
  | same => rfl
  | closed ha hb => rw [weight_of_isClosed ha, weight_of_isClosed hb]
  | generic _ h | applied _ h | intersection h =>
    rw [weight, weight, weightAll_eq_of_forall₂ h]
  | union ha hb left right =>
    rw [weight_of_unionArgs ha, weight_of_unionArgs hb]
    refine congrArg (· + 1) (Nat.le_antisymm (weightAll_le fun x hx => ?_)
      (weightAll_le fun y hy => ?_))
    · obtain ⟨y, hy, hxy⟩ := left x hx
      exact hxy ▸ weight_le_weightAll hy
    · obtain ⟨x, hx, hxy⟩ := right y hy
      exact hxy ▸ weight_le_weightAll hx
  | literal => simp [weight]
  | annotated _ _ h | required h | notRequired h => rw [weight, weight, h]

/-- A hint stands in another one at any depth, without a class between them. -/
abbrev Inside : Hint → Hint → Prop := Relation.TransGen fun t u => StandsIn t.strip u

lemma standsIn_literal {vs : List Value} (h : StandsIn (literal vs) u) :
    1 < (Value.distinct vs).length ∧ ∃ v ∈ Value.distinct vs, u = literal [v] := by
  cases h with
  | element _ hu => cases hu
  | unionMember ht hu =>
    rcases membersOfUnion_cases ht hu with ⟨hs, hargs, -⟩ | ⟨ws, hws, hmany, hu⟩
    · cases hargs
    · obtain rfl := Hint.literal.inj hws
      exact ⟨hmany, hu⟩
  | intersectionMember hu => cases hu

lemma not_standsIn_single {v : Value} : ¬StandsIn (literal [v]) u := by
  intro h
  have := (standsIn_literal h).1
  have := length_distinct_single v
  omega

/-- What stands in a hint weighs less, or is a single constant of a literal. -/
lemma Inside.cases (h : Inside t u) : weight 0 u < weight 0 t ∨ ∃ vs v, t.strip = literal vs ∧
    1 < (Value.distinct vs).length ∧ v ∈ Value.distinct vs ∧ u = literal [v] := by
  have hstep : ∀ {t u : Hint}, StandsIn t.strip u → weight 0 u < weight 0 t ∨
      ∃ vs v, t.strip = literal vs ∧ 1 < (Value.distinct vs).length ∧ v ∈ Value.distinct vs ∧
        u = literal [v] := by
    intro t u h
    cases hconstants : t.strip.constants? with
    | none => exact .inl (weight_strip t ▸ h.weight_lt (.inr hconstants))
    | some vs =>
      obtain ⟨xs, hxs, -⟩ := constants?_eq_some hconstants
      rw [hxs] at h
      obtain ⟨hmany, v, hv, hu⟩ := standsIn_literal h
      exact .inr ⟨xs, v, hxs, hmany, hv, hu⟩
  induction h with
  | single h => exact hstep h
  | tail _ h ih =>
    rcases ih with hlt | ⟨vs, v, -, -, -, rfl⟩
    · rcases hstep h with hlt' | ⟨vs, v, -, -, -, rfl⟩
      · exact .inl (Nat.lt_trans hlt' hlt)
      · rw [weight_literal_single]
        exact .inl (Nat.lt_of_le_of_lt (Nat.zero_le _) hlt)
    · exact absurd h not_standsIn_single

lemma unhashableKind?_of_isHashable {vs : List Value} (h : (literal vs).isHashable = true) :
    Value.unhashableKind? vs = none := by
  rw [isHashable, unhashableKind?] at h
  exact Option.isNone_iff_eq_none.mp h

lemma not_sameValues {vs : List Value} {v : Value} (hmany : 1 < (Value.distinct vs).length)
    (hhash : (literal vs).isHashable = true) (hv : v ∈ Value.distinct vs) :
    sameValues [v] vs = false ∧ sameValues vs [v] = false := by
  have hnot := Value.not_all_same hmany (unhashableKind?_of_isHashable hhash) hv
  constructor
  · refine Bool.eq_false_iff.mpr fun h => hnot fun w hw => ?_
    have := List.all_eq_true.mp (Bool.and_eq_true_iff.mp h).2 w hw
    simpa using this
  · refine Bool.eq_false_iff.mpr fun h => hnot fun w hw => ?_
    have := List.all_eq_true.mp (Bool.and_eq_true_iff.mp h).1 w hw
    rw [Value.same_comm]
    simpa using this

/-- Hints of one identity are equal, or are the same hint. -/
lemma eqv_or_eq_of_key {objects : Objects}
    (h : ((⟨a⟩ : HintKey objects) == ⟨b⟩) = true) :
    (a.isHashable = true ∧ b.isHashable = true ∧ eqv a b = true) ∨ a = b := by
  change (if (a.isHashable && b.isHashable) = true then eqv a b else objects.same a b) = true at h
  split at h
  · rename_i hhash
    obtain ⟨ha, hb⟩ := Bool.and_eq_true_iff.mp hhash
    exact .inl ⟨ha, hb, h⟩
  · exact .inr (objects.eq_of_same h)

lemma weight_eq_of_key {objects : Objects} (h : ((⟨a⟩ : HintKey objects) == ⟨b⟩) = true) :
    weight 0 a = weight 0 b := by
  rcases eqv_or_eq_of_key h with ⟨-, -, h⟩ | rfl
  · exact weight_eq_of_eqv h
  · rfl

lemma single_ne {vs : List Value} {v : Value} (hmany : 1 < (Value.distinct vs).length) :
    literal [v] ≠ literal vs := by
  rintro h
  obtain rfl := Hint.literal.inj h
  have := length_distinct_single v
  omega

/-- A hint does not have the identity of one that it stands in, whichever hints are the same
objects. -/
theorem identity_ne_of_inside (objects : Objects) (h : Inside t u) :
    ((⟨u.strip⟩ : HintKey objects) == ⟨t.strip⟩) = false ∧
      ((⟨t.strip⟩ : HintKey objects) == ⟨u.strip⟩) = false := by
  rcases h.cases with hlt | ⟨vs, v, ht, hmany, hv, rfl⟩
  · rw [← weight_strip u, ← weight_strip t] at hlt
    constructor
    · exact Bool.eq_false_iff.mpr fun h => Nat.ne_of_lt hlt (weight_eq_of_key h)
    · exact Bool.eq_false_iff.mpr fun h => Nat.ne_of_gt hlt (weight_eq_of_key h)
  · have hstrip : (literal [v]).strip = literal [v] := rfl
    rw [ht, hstrip]
    constructor
    · refine Bool.eq_false_iff.mpr fun h => ?_
      rcases eqv_or_eq_of_key h with ⟨-, hhash, heq⟩ | heq
      · rw [eqv, (not_sameValues hmany hhash hv).1] at heq
        cases heq
      · exact single_ne hmany heq
    · refine Bool.eq_false_iff.mpr fun h => ?_
      rcases eqv_or_eq_of_key h with ⟨hhash, -, heq⟩ | heq
      · rw [eqv, (not_sameValues hmany hhash hv).2] at heq
        cases heq
      · exact single_ne hmany heq.symm

end CallSchema.Hint

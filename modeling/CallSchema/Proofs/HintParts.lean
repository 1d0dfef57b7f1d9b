import CallSchema.Hint.Graph
import CallSchema.Proofs.EqualHints
import CallSchema.Proofs.ListSteps
import CallSchema.Proofs.TypeParts

/-!
# What stands in a hint

A resolver goes from a hint to its element, to the members of a union or of an intersection, or to
the members of a class. The union of a tuple's element types and the single literals of a literal
stand nowhere in the hint itself; still each step that is no step into a class goes to a hint of less
weight.
-/

namespace CallSchema

lemma Binary64.eqv_comm (x y : Binary64) : x.eqv y = y.eqv x := by
  cases x <;> cases y <;> simp only [Binary64.eqv, Bool.and_comm, Bool.beq_comm]

lemma Number.eqv_comm (m n : Number) : m.eqv n = n.eqv m := by
  cases m <;> cases n <;> simp only [Number.eqv, Binary64.eqv_comm, Bool.beq_comm]

namespace Value

variable {v w : Value} {vs : List Value}

lemma mem_of_mem_dedup (h : v ∈ dedup vs) : v ∈ vs := by
  induction vs with
  | nil => cases h
  | cons w ws ih =>
    rw [dedup] at h
    rcases List.mem_cons.mp h with rfl | h
    · exact List.mem_cons_self
    · exact List.mem_cons_of_mem w (ih (List.mem_of_mem_filter h))

lemma pairwise_dedup (vs : List Value) : (dedup vs).Pairwise fun v w => same v w = false := by
  induction vs with
  | nil => exact .nil
  | cons v vs ih =>
    rw [dedup]
    refine .cons (fun w hw => ?_) (ih.filter _)
    simpa using (List.mem_filter.mp hw).2

lemma same_comm (v w : Value) : same v w = same w v := by
  cases v <;> cases w <;> try first | rfl | (cases ‹Number› <;> rfl)
  case bool.bool => simp only [same, eqv, eqvPlain, number?, Number.eqv_comm]
  case number.number m n =>
    cases m <;> cases n <;>
      simp only [same, eqv, eqvPlain, number?, Number.eqv_comm, Bool.false_and]
  case text.text => simp only [same, eqv, eqvPlain, number?, text?, Bool.beq_comm]
  case bytes.bytes | object.object => simp only [same, eqv, eqvPlain, Bool.beq_comm]
  case member.member o on n f x o' on' n' f' x' =>
    have hplain : eqvPlain (member o on n f x) (member o' on' n' f' x') =
        eqvPlain (member o' on' n' f' x') (member o on n f x) := by
      cases f <;> cases f' <;> simp only [eqvPlain, Bool.beq_comm] <;>
        cases number? (member o on n _ x) <;> cases number? (member o' on' n' _ x') <;>
        cases text? (member o on n _ x) <;> cases text? (member o' on' n' _ x') <;>
        simp only [Number.eqv_comm, Bool.beq_comm]
    simp only [same, eqv, Bool.beq_comm, hplain]

lemma not_all_same (hmany : 1 < (distinct vs).length) (hhash : unhashableKind? vs = none)
    (hv : v ∈ distinct vs) : ¬∀ w ∈ vs, same v w = true := by
  rw [distinct, hhash, Option.isSome_none, if_neg Bool.false_ne_true] at hmany hv
  intro hall
  have hpairs := pairwise_dedup vs
  have hmem : ∀ w ∈ dedup vs, w ∈ vs := fun w hw => mem_of_mem_dedup hw
  rcases hvs : dedup vs with _ | ⟨w, _ | ⟨w', ws⟩⟩
  · simp [hvs] at hv
  · simp [hvs] at hmany
  · rw [hvs] at hpairs hv hmem
    obtain ⟨hfirst, -⟩ := List.pairwise_cons.mp hpairs
    rcases List.mem_cons.mp hv with rfl | hv
    · have hsame := hall w' (hmem w' (by simp))
      rw [hfirst w' List.mem_cons_self] at hsame
      cases hsame
    · have hsame := hall w (hmem w List.mem_cons_self)
      rw [same_comm, hfirst v hv] at hsame
      cases hsame

end Value

namespace Hint

mutual

/-- The number of layers of a hint that steps into it go through, where each literal of several
constants counts as `n` more. -/
def weight (n : Nat) : Hint → Nat
  | generic _ args | applied _ args => weightAll n args + 2
  | union args | alternatives args | intersection args => weightAll n args + 1
  | literal values => if 1 < (Value.distinct values).length then n else 0
  | annotated h _ | required h | notRequired h => weight n h
  | _ => 0

/-- The greatest weight of a list of hints. -/
def weightAll (n : Nat) : List Hint → Nat
  | [] => 0
  | h :: hs => max (weight n h) (weightAll n hs)

end

variable {n : Nat} {h t u : Hint} {hs : List Hint}

lemma weight_le_weightAll (h : t ∈ hs) : weight n t ≤ weightAll n hs := by
  induction hs with
  | nil => cases h
  | cons x xs ih =>
    rw [weightAll]
    rcases List.mem_cons.mp h with rfl | h
    · exact Nat.le_max_left _ _
    · exact Nat.le_trans (ih h) (Nat.le_max_right _ _)

lemma weightAll_le {m : Nat} (h : ∀ t ∈ hs, weight n t ≤ m) : weightAll n hs ≤ m := by
  induction hs with
  | nil => exact Nat.zero_le m
  | cons x xs ih =>
    rw [weightAll]
    exact Nat.max_le.mpr ⟨h x List.mem_cons_self, ih fun t ht => h t (List.mem_cons_of_mem x ht)⟩

lemma weight_strip (h : Hint) : weight n h.strip = weight n h := by
  fun_induction strip h with
  | case1 h _ ih | case2 h ih | case3 h ih => rw [ih, weight]
  | case4 => rfl

section Unions

variable {cs : List Hint} {c p e : Hint}

lemma converted_eq_ok {home : Option String} (hc : converted home h = .ok c) :
    c = h ∨ (h = null ∧ c = noneType) ∨ ∃ s, h = text s ∧ c = forward s home := by
  unfold converted at hc
  split at hc
  · exact .inr (.inl ⟨rfl, (Except.ok.inj hc).symm⟩)
  · rename_i s
    rw [forwardOf] at hc
    split at hc
    · cases hc
    · split at hc
      · exact .inr (.inr ⟨s, rfl, (Except.ok.inj hc).symm⟩)
      · cases hc
  · exact .inl (Except.ok.inj hc).symm

lemma checkedAs_eq_ok {standing : Standing} {home : Option String}
    (hc : checkedAs standing home h = .ok c) :
    c = h ∨ (h = null ∧ c = noneType) ∨ ∃ s, h = text s ∧ c = forward s home := by
  obtain ⟨c', hconverted, hmatch⟩ := bind_eq_ok_iff.mp hc
  have hsame : c = c' := by
    split at hmatch
    case h_1 | h_2 | h_3 | h_4 =>
      split at hmatch
      all_goals first
        | exact (Except.ok.inj hmatch).symm
        | cases hmatch
    case h_5 => exact (Except.ok.inj hmatch).symm
  exact hsame ▸ converted_eq_ok hconverted

lemma refuseTuple_eq_ok {message : String} (hc : refuseTuple message h = .ok c) : c = h := by
  unfold refuseTuple at hc
  split at hc
  · cases hc
  · exact (Except.ok.inj hc).symm

lemma checkedArg_eq_ok {message : String} (hc : checkedArg message h = .ok c) :
    checked none h = .ok c := by
  obtain ⟨c', hchecked, hrefuse⟩ := bind_eq_ok_iff.mp hc
  exact refuseTuple_eq_ok hrefuse ▸ hchecked

/-- The members of a union of hints: those of a hint among them, the hint itself, or what stands for
`None` or a text. -/
inductive Piece (hs : List Hint) : Hint → Prop
  | flattened {h p : Hint} (hh : h ∈ hs) (hp : p ∈ flattened h) : Piece hs p
  | noneType : Piece hs noneType
  | forward (s : String) : Piece hs (forward s none)

lemma piece_of_checkedAll {message : String} (hcs : checkedAll message hs = .ok cs)
    (hp : p ∈ cs.flatMap flattened) : Piece hs p := by
  obtain ⟨c, hc, hp⟩ := List.mem_flatMap.mp hp
  obtain ⟨h, hh, hchecked⟩ := exists_of_mem_mapM hcs hc
  rcases checkedAs_eq_ok (checkedArg_eq_ok hchecked) with rfl | ⟨-, rfl⟩ | ⟨s, -, rfl⟩
  · exact .flattened hh hp
  · obtain rfl := List.mem_singleton.mp hp
    exact .noneType
  · obtain rfl := List.mem_singleton.mp hp
    exact .forward s

lemma mem_of_mem_dedup (h : p ∈ dedup hs) : p ∈ hs := by
  induction hs with
  | nil => cases h
  | cons x xs ih =>
    rw [dedup] at h
    rcases List.mem_cons.mp h with rfl | h
    · exact List.mem_cons_self
    · exact List.mem_cons_of_mem x (ih (List.mem_of_mem_filter h))

lemma dedupChecked_eq_ok (h : dedupChecked hs = .ok cs) : dedup hs = cs := by
  rw [dedupChecked] at h
  split at h
  · cases h
  · exact Except.ok.inj h

/-- A union is made of its checked and flattened members without repeats, or is a single one. -/
lemma unionOf_eq_ok (h : unionOf hs = .ok e) : ∃ cs, checkedAll unionArgument hs = .ok cs ∧
    (dedup (cs.flatMap flattened) = [e] ∨ e = union (dedup (cs.flatMap flattened))) := by
  rw [unionOf] at h
  split at h
  · cases h
  · obtain ⟨cs, hcs, h⟩ := bind_eq_ok_iff.mp h
    obtain ⟨members, hmembers, h⟩ := bind_eq_ok_iff.mp h
    refine ⟨cs, hcs, ?_⟩
    rw [dedupChecked_eq_ok hmembers]
    split at h
    · exact .inl (congrArg (fun x => [x]) (Except.ok.inj h))
    · exact .inr (Except.ok.inj h).symm

lemma weight_le_of_piece (h : Piece hs p) : weight n p ≤ weightAll n hs := by
  cases h with
  | @flattened h p hh hp =>
    refine Nat.le_trans ?_ (weight_le_weightAll hh)
    unfold flattened at hp
    split at hp
    · rw [weight]
      exact Nat.le_succ_of_le (weight_le_weightAll hp)
    · rw [weight]
      exact Nat.le_succ_of_le (weight_le_weightAll hp)
    · obtain rfl := List.mem_singleton.mp hp
      exact Nat.le_refl _
  | noneType => simp [noneType, weight]
  | forward s => simp [weight]

lemma weight_unionOf_lt (h : unionOf hs = .ok e) : weight n e < weightAll n hs + 2 := by
  obtain ⟨cs, hcs, hsingle | rfl⟩ := unionOf_eq_ok h
  · have hmem : e ∈ cs.flatMap flattened := mem_of_mem_dedup (hsingle ▸ List.mem_singleton_self e)
    have := weight_le_of_piece (n := n) (piece_of_checkedAll hcs hmem)
    omega
  · have hall : weightAll n (dedup (cs.flatMap flattened)) ≤ weightAll n hs :=
      weightAll_le fun p hp => weight_le_of_piece (piece_of_checkedAll hcs (mem_of_mem_dedup hp))
    rw [weight]
    omega

end Unions

/-- A hint stands directly in another one, which is no class. -/
inductive StandsIn : Hint → Hint → Prop
  | element {t u : Hint} (ht : standsFor arrayClasses t = true) (hu : elementOf? t = .ok (some u)) :
    StandsIn t u
  | unionMember {t u : Hint} (ht : t.isUnionHint = true) (hu : u ∈ t.membersOfUnion) : StandsIn t u
  | intersectionMember {t u : Hint} (hu : u ∈ t.membersOfIntersection) : StandsIn t u

lemma args_cases (h : Hint) : (∃ origin, h = generic origin h.args) ∨
    (∃ name, h = applied name h.args) ∨ h.args = [] := by
  cases h
  case generic origin hs => exact .inl ⟨origin, rfl⟩
  case applied name hs => exact .inr (.inl ⟨name, rfl⟩)
  all_goals exact .inr (.inr rfl)

lemma present?_eq_some (h : present? t = some u) : u = t := by
  unfold present? at h
  split at h
  · cases h
  · exact (Option.some.inj h).symm

lemma elementOf?_cases (h : elementOf? t = .ok (some u)) :
    u ∈ t.args ∨ unionOf t.args = .ok u := by
  unfold elementOf? at h
  split at h
  · cases h
  · rename_i first rest hargs
    rw [hargs]
    split at h
    · obtain ⟨e, he, h⟩ := bind_eq_ok_iff.mp h
      exact .inr (present?_eq_some (Except.ok.inj h) ▸ he)
    split at h
    · cases h
    · exact .inl (present?_eq_some (Except.ok.inj h) ▸ List.mem_cons_self)

lemma constants?_eq_some {vs : List Value} (h : t.constants? = some vs) :
    ∃ xs, t = literal xs ∧ Value.distinct xs = vs := by
  unfold constants? at h
  split at h
  · exact ⟨_, rfl, Option.some.inj h⟩
  · cases h

lemma membersOfUnion_cases (ht : t.isUnionHint = true) (hu : u ∈ t.membersOfUnion) :
    (∃ hs, t.unionArgs? = some hs ∧ u ∈ hs) ∨ ∃ vs, t = literal vs ∧
      1 < (Value.distinct vs).length ∧ ∃ v ∈ Value.distinct vs, u = literal [v] := by
  unfold isUnionHint at ht
  unfold membersOfUnion at hu
  split at ht
  · exact .inl ⟨_, rfl, hu⟩
  · exact .inl ⟨_, rfl, hu⟩
  · split at ht
    · rename_i v w vs hconstants
      obtain ⟨xs, rfl, hdistinct⟩ := constants?_eq_some hconstants
      obtain ⟨x, hx, rfl⟩ := List.mem_map.mp hu
      exact .inr ⟨xs, rfl, by simp [hdistinct], x, hx, rfl⟩
    · cases ht

lemma length_distinct_single (v : Value) : (Value.distinct [v]).length = 1 := by
  rw [Value.distinct]
  split <;> rfl

lemma weight_literal_single (v : Value) : weight n (literal [v]) = 0 := by
  have := length_distinct_single v
  rw [weight, if_neg (by omega)]

lemma weight_of_unionArgs (h : t.unionArgs? = some hs) : weight n t = weightAll n hs + 1 := by
  unfold unionArgs? at h
  split at h
  · rw [weight, Option.some.inj h]
  · rw [weight, Option.some.inj h]
  · cases h

/-- A step into a hint goes to one of less weight, but that to a single constant of a literal does
so only if literals of several constants count for more. -/
lemma StandsIn.weight_lt (h : StandsIn t u) (hn : 0 < n ∨ t.constants? = none) :
    weight n u < weight n t := by
  cases h with
  | element ht hu =>
    have hargs : weight n u < weightAll n t.args + 2 := by
      rcases elementOf?_cases hu with hu | hu
      · have := weight_le_weightAll (n := n) hu
        omega
      · exact weight_unionOf_lt hu
    rcases args_cases t with ⟨origin, ht⟩ | ⟨name, ht⟩ | ht
    · rwa [ht, weight]
    · rwa [ht, weight]
    · rw [elementOf?, ht] at hu
      cases hu
  | unionMember ht hu =>
    rcases membersOfUnion_cases ht hu with ⟨hs, hargs, hu⟩ | ⟨vs, rfl, hmany, v, -, rfl⟩
    · rw [weight_of_unionArgs hargs]
      exact Nat.lt_succ_of_le (weight_le_weightAll hu)
    · rw [weight_literal_single, weight, if_pos hmany]
      exact hn.resolve_right (by simp [constants?])
  | intersectionMember hu =>
    cases t
    case intersection args =>
      rw [weight]
      exact Nat.lt_succ_of_le (weight_le_weightAll hu)
    all_goals cases hu

end Hint

end CallSchema

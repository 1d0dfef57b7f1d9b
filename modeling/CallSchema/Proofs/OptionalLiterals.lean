import CallSchema.Proofs.HintResolution
import CallSchema.Proofs.UnmetTypes

/-!
# `None` among the values of a literal

A literal with `None` among its values is a union of single literals, one of which marks absence.
Without `None`, a literal of several values that is to be optional stands as one member of a union,
so that it is resolved by a rule of its own: by that for truth values, or as the union of the same
single literals. Both spellings come to the same, unless the rule for truth values comes first.
-/

namespace CallSchema

namespace Value

variable {v : Value} {vs before after : List Value}

/-- No two of the values are the same. -/
abbrev Different (vs : List Value) : Prop := vs.Pairwise fun v w => same v w = false

lemma dedup_eq_self (h : Different vs) : dedup vs = vs := by
  induction vs with
  | nil => rfl
  | cons v vs ih =>
    obtain ⟨hfirst, hrest⟩ := List.pairwise_cons.mp h
    rw [dedup, ih hrest, List.filter_eq_self.mpr fun w hw => by simp [hfirst w hw]]

lemma distinct_eq_self (h : Different vs) : distinct vs = vs := by
  rw [distinct]
  split
  · rfl
  · exact dedup_eq_self h

lemma distinct_single (v : Value) : distinct [v] = [v] :=
  distinct_eq_self (List.pairwise_singleton _ v)

lemma same_null (h : v ≠ .null) : same .null v = false := by
  cases v <;> first | exact absurd rfl h | rfl

lemma pairwise_insert_null (hnull : ∀ v ∈ before ++ after, v ≠ .null)
    (h : Different (before ++ after)) : Different (before ++ .null :: after) := by
  obtain ⟨hbefore, hafter, hboth⟩ := List.pairwise_append.mp h
  have hfirst : ∀ w ∈ after, same .null w = false := fun w hw =>
    same_null (hnull w (List.mem_append_right before hw))
  refine List.pairwise_append.mpr ⟨hbefore, List.pairwise_cons.mpr ⟨hfirst, hafter⟩, ?_⟩
  intro v hv w hw
  rcases List.mem_cons.mp hw with rfl | hw
  · rw [same_comm]
    exact same_null (hnull v (List.mem_append_left after hv))
  · exact hboth v hv w hw

end Value

namespace Hint

variable {v : Value} {vs : List Value} {h : Hint}

/-- A literal of constants, as it is written. -/
def writtenLiteral (vs : List Value) : Except Failure Hint :=
  subscript (form "typing" "Literal") (vs.map ofValue)

/-- A hint that may also be absent, as it is written. -/
def writtenOptional (h : Hint) : Except Failure Hint := subscript (form "typing" "Optional") [h]

lemma toLiterals_ofValue (v : Value) : toLiterals (ofValue v) = [v] := by
  cases v <;> rfl

lemma subscript_form {args : List Hint} (home name : String) (h : ∀ hs, args ≠ [tuple hs]) :
    subscript (form home name) args = subscriptForm home name args := by
  unfold subscript
  split
  · exact absurd rfl (h _)
  · rfl

lemma writtenLiteral_eq (vs : List Value) : writtenLiteral vs = .ok (literalOf vs) := by
  have hargs : ∀ hs, vs.map ofValue ≠ [tuple hs] := by
    intro hs h
    obtain ⟨v, -, hv⟩ := List.mem_map.mp (h ▸ List.mem_singleton_self (tuple hs))
    cases v <;> cases hv
  have hvalues : (vs.map ofValue).flatMap toLiterals = vs := by
    rw [List.flatMap_map]
    simp only [toLiterals_ofValue, List.flatMap_singleton']
  rw [writtenLiteral, subscript_form _ _ hargs, subscriptForm, hvalues]

lemma writtenOptional_literal (vs : List Value) :
    writtenOptional (literal vs) = .ok (union [literal vs, noneType]) := by
  have hchecked : checkedAll unionArgument [literal vs, noneType] =
      .ok [literal vs, noneType] := by
    have hliteral : checkedArg unionArgument (literal vs) = .ok (literal vs) := rfl
    have hnone : checkedArg unionArgument noneType = .ok noneType := rfl
    rw [checkedAll, List.mapM_cons, List.mapM_cons, hliteral, hnone]
    rfl
  have hmembers : dedupChecked [literal vs, noneType] = .ok [literal vs, noneType] := by
    have hne : eqv (literal vs) noneType = false := by simp [noneType, eqv]
    have hfault : repeatFault? [] [literal vs, noneType] = none := by
      simp [repeatFault?, lookupFault?, comparisonFault?, noneType]
    rw [dedupChecked, hfault, ite_self]
    simp [dedup, hne]
  have hunion : unionOf [literal vs, noneType] = .ok (union [literal vs, noneType]) := by
    rw [unionOf, if_neg (by simp), hchecked]
    simp only [bind, Except.bind]
    have hflat : [literal vs, noneType].flatMap flattened = [literal vs, noneType] := rfl
    rw [hflat, hmembers]
  rw [writtenOptional, subscript_form _ _ (by simp), subscriptForm]
  exact hunion

lemma isAbsence_single (v : Value) : isAbsence (literal [v]) = true ↔ v = .null := by
  have hconstants : constants? (literal [v]) = some [v] := congrArg some (Value.distinct_single v)
  change (isNoneType (literal [v]) || isNullLiteral (literal [v])) = true ↔ _
  rw [isNullLiteral, hconstants]
  cases v <;> simp [isNoneType]

end Hint

namespace Context

open TypeGraph Hint

variable {ctx : Context} {v : Value} {vs before after : List Value}

lemma not_part_single {u : Hint} : ¬ctx.graph.Part (literal [v]) u := by
  intro h
  rcases part_cases h with hin | ⟨c, -, hstrip, -⟩
  · exact not_standsIn_single hin
  · cases hstrip

lemma constants?_literal (h : Value.Different vs) : constants? (literal vs) = some vs :=
  congrArg some (Value.distinct_eq_self h)

lemma unionMembers_literal (h : Value.Different vs) :
    ctx.graph.unionMembers (literal vs) = vs.map fun v => literal [v] := by
  change ((constants? (literal vs)).getD []).map _ = _
  rw [constants?_literal h, Option.getD_some]

lemma isAbsent_single (v : Value) : ctx.graph.isAbsent (literal [v]) = true ↔ v = .null :=
  isAbsence_single v

lemma presentMembers_literal (h : Value.Different vs) :
    ctx.graph.presentMembers (literal vs) =
      (vs.filter fun v => !(v matches .null)).map fun v => literal [v] := by
  have habsent : ∀ v : Value, (!ctx.graph.isAbsent (literal [v])) = !(v matches .null) := by
    intro v
    refine congrArg (!·) (Bool.eq_iff_iff.mpr ((isAbsent_single v).trans ?_))
    cases v <;> simp
  rw [TypeGraph.presentMembers, unionMembers_literal h, List.filter_map]
  exact congrArg _ (List.filter_congr fun v _ => habsent v)

lemma filter_not_null (h : ∀ v ∈ vs, v ≠ .null) : vs.filter (fun v => !(v matches .null)) = vs := by
  refine List.filter_eq_self.mpr fun v hv => ?_
  cases v <;> first | rfl | exact absurd rfl (h _ hv)

lemma exists_two (hmany : 2 ≤ vs.length) : ∃ v w ws, vs = v :: w :: ws := by
  match vs with
  | v :: w :: ws => exact ⟨v, w, ws, rfl⟩

lemma isUnion_literal (ctx : Context) (hmany : 2 ≤ vs.length) (h : Value.Different vs) :
    ctx.graph.isUnion (literal vs) = true := by
  change isUnionHint (literal vs) = true
  obtain ⟨v, w, ws, rfl⟩ := exists_two hmany
  simp only [isUnionHint, constants?_literal h]

lemma isHashable_of_truths (h : vs.all isTruth = true) : isHashable (literal vs) = true := by
  have hnone : Value.unhashableKind? vs = none := by
    rw [Value.unhashableKind?, Option.map_eq_none_iff, List.find?_eq_none]
    intro v hv
    have htruth := List.all_eq_true.mp h v hv
    cases v <;> simp_all [isTruth, Value.isHashable]
  rw [isHashable, unhashableKind?, hnone, Option.isNone_none]

lemma primitive?_literal (hmany : 2 ≤ vs.length) (h : Value.Different vs) :
    ctx.graph.primitive? (literal vs) = if vs.all isTruth then some "boolean" else none := by
  change primitiveOf? (literal vs) = _
  have hclasses : standsFor objectClasses (literal vs) = false := rfl
  have hconstants := constants?_literal h
  obtain ⟨v, w, ws, rfl⟩ := exists_two hmany
  unfold primitiveOf?
  rw [hclasses]
  simp only [hconstants]
  cases htruths : (v :: w :: ws).all isTruth with
  | true => simp [isHashable_of_truths htruths]
  | false => simp

lemma shape_literal (vs : List Value) :
    ctx.graph.shape (literal vs) =
      match ctx.graph.enumeration? (literal vs), ctx.graph.primitive? (literal vs) with
      | some (base, values), _ => pure (.enumeration base values)
      | none, some type => pure (.primitive type)
      | none, none => if ctx.graph.isUnion (literal vs) then
          pure (.union (ctx.graph.presentMembers (literal vs))) else pure .unsupported := by
  have hconstrained : (ctx.graph.isNone (literal vs) || ctx.graph.isAny (literal vs)) = false := rfl
  have harray : ctx.graph.isArrayLike (literal vs) = false := rfl
  have hmembers : ctx.graph.members (literal vs) = pure [] := rfl
  have hintersection : ctx.graph.isIntersection (literal vs) = false := rfl
  rw [TypeGraph.shape, TypeGraph.shapeWith, hconstrained, harray, hmembers, hintersection]
  rcases ctx.graph.enumeration? (literal vs) with _ | ⟨base, values⟩
  · cases ctx.graph.primitive? (literal vs) with
    | some type => rfl
    | none => cases ctx.graph.isUnion (literal vs) <;> rfl
  · rfl

lemma shape_literal_of_several (hmany : 2 ≤ vs.length) (h : Value.Different vs) :
    ctx.graph.shape (literal vs) = if vs.all isTruth then pure (.primitive "boolean")
      else pure (.union (ctx.graph.presentMembers (literal vs))) := by
  have henum : ctx.graph.enumeration? (literal vs) = none := by
    have hliteral : literalOf? (literal vs) = none := by
      have hconstants := constants?_literal h
      obtain ⟨v, w, ws, rfl⟩ := exists_two hmany
      rw [literalOf?, hconstants]
    have hconstant : ctx.graph.literal? (literal vs) = none := by
      change (literalOf? (literal vs)).map Value.toConstant = none
      rw [hliteral, Option.map_none]
    rw [TypeGraph.enumeration?, hconstant]
    rfl
  rw [shape_literal, henum, primitive?_literal hmany h, isUnion_literal ctx hmany h]
  cases vs.all isTruth <;> rfl

lemma contains_nil (h : Hint) :
    ([] : List (HintKey .apart)).contains (ctx.graph.identity h) = false := rfl

lemma not_contains_single (hmany : 2 ≤ vs.length) (h : Value.Different vs) (hv : v ∈ vs) :
    [ctx.graph.identity (literal vs)].contains (ctx.graph.identity (literal [v])) = false := by
  have hin : StandsIn (literal vs).strip (literal [v]) := by
    refine .unionMember (isUnion_literal ctx hmany h) ?_
    change literal [v] ∈ ctx.graph.unionMembers (literal vs)
    rw [unionMembers_literal h]
    exact List.mem_map_of_mem hv
  have hne := (identity_ne_of_inside .apart (.single hin)).1
  change (_ || false) = false
  rw [Bool.or_false]
  exact hne

lemma exists_value_single (ctx : Context) (v : Value) (n : Nat) :
    ∃ f, (ctx.graph.resolving (n + 1) (literal [v]) []).outcome.value = .ok f := by
  have hunion : ctx.graph.isUnion (literal [v]) = false := by
    change isUnionHint (literal [v]) = false
    simp only [isUnionHint, constants?_literal (List.pairwise_singleton _ v)]
  have hshape : ∃ shape, ctx.graph.shape (literal [v]) = pure shape ∧ ∀ s, ∃ f,
      (ctx.graph.resolveShapeWith (ctx.graph.resolving n) (literal [v]) shape s).outcome.value =
        .ok f := by
    rw [shape_literal, hunion]
    rcases ctx.graph.enumeration? (literal [v]) with _ | ⟨base, values⟩
    · cases ctx.graph.primitive? (literal [v]) with
      | some type => exact ⟨.primitive type, rfl, fun _ => ⟨_, rfl⟩⟩
      | none => exact ⟨.unsupported, rfl, fun _ => ⟨_, rfl⟩⟩
    · exact ⟨.enumeration base values, rfl, fun _ => ⟨_, rfl⟩⟩
  obtain ⟨shape, hshape, hanswer⟩ := hshape
  rw [outcome_resolving_of_shape (contains_nil _) hshape]
  exact hanswer _

lemma outcome_resolving_truth {v : Value} (hv : isTruth v = true) (n : Nat) :
    (ctx.graph.resolving (n + 1) (literal [v]) []).outcome = pure (.primitive none "boolean") := by
  have hshape : ctx.graph.shape (literal [v]) = pure (.primitive "boolean") := by
    cases v <;> first | rfl | cases hv
  rw [outcome_resolving_of_shape (contains_nil _) hshape]
  rfl

lemma resolveOptional_of_absent {h : Hint} (hunion : ctx.graph.isUnion h = true)
    (habsent : ∃ u ∈ ctx.graph.unionMembers h, ctx.graph.isAbsent u = true) :
    ctx.resolveOptional h =
      ((resolveUnionWith (ctx.graph.resolving (ctx.depth h)) (ctx.graph.presentMembers h)
        []).outcome >>= fun f => pure (f, true)) := by
  have hany : (ctx.graph.unionMembers h).any ctx.graph.isAbsent = true :=
    List.any_eq_true.mpr habsent
  rw [resolveOptional, TypeGraph.resolveOptional, resolvingOptional, resolveOptionalWith, hunion,
    hany, if_pos (by rfl), Resolving.outcome_bind]
  rfl

lemma resolveOptional_with_null (hnull : ∀ v ∈ before ++ after, v ≠ .null)
    (hne : before ++ after ≠ []) (h : Value.Different (before ++ after)) :
    ctx.resolveOptional (literal (before ++ .null :: after)) =
      ((resolveUnionWith (ctx.graph.resolving (ctx.depth (literal (before ++ .null :: after))))
        ((before ++ after).map fun v => literal [v]) []).outcome >>= fun f => pure (f, true)) := by
  have hall := Value.pairwise_insert_null hnull h
  have hmany : 2 ≤ (before ++ .null :: after).length := by
    have := List.length_pos_iff.mpr hne
    simp only [List.length_append, List.length_cons] at this ⊢
    omega
  have hpresent : ctx.graph.presentMembers (literal (before ++ .null :: after)) =
      (before ++ after).map fun v => literal [v] := by
    rw [presentMembers_literal hall, List.filter_append, List.filter_cons]
    rw [filter_not_null fun v hv => hnull v (List.mem_append_left after hv),
      filter_not_null fun v hv => hnull v (List.mem_append_right before hv)]
    rfl
  rw [resolveOptional_of_absent (isUnion_literal ctx hmany hall), hpresent]
  refine ⟨literal [.null], ?_, (isAbsent_single .null).mpr rfl⟩
  rw [unionMembers_literal hall]
  exact List.mem_map_of_mem (by simp)

lemma resolveOptional_of_optional (ctx : Context) (hnull : ∀ v ∈ vs, v ≠ .null)
    (h : Value.Different vs) :
    ctx.resolveOptional (union [literal vs, noneType]) =
      ((ctx.graph.resolving (ctx.depth (union [literal vs, noneType])) (literal vs) []).outcome
        >>= fun f => pure (f, true)) := by
  have hliteral : ctx.graph.isAbsent (literal vs) = false := by
    change (false || isNullLiteral (literal vs)) = false
    rw [Bool.false_or, isNullLiteral, constants?_literal h]
    split
    · rename_i heq
      obtain rfl := Option.some.inj heq
      exact absurd rfl (hnull .null List.mem_cons_self)
    · rfl
  have hpresent : ctx.graph.presentMembers (union [literal vs, noneType]) = [literal vs] := by
    change [literal vs, noneType].filter (!ctx.graph.isAbsent ·) = _
    rw [List.filter_cons, hliteral]
    rfl
  rw [resolveOptional_of_absent rfl ⟨noneType, .tail _ (.head _), rfl⟩, hpresent]
  rfl

/-- Single constants resolve as by themselves, at any depth and beside any types in progress that
are not they. -/
lemma outcome_resolveUnionWith_singles {s : List (HintKey .apart)} {n : Nat}
    (hs : ∀ v ∈ vs, s.contains (ctx.graph.identity (literal [v])) = false) :
    (resolveUnionWith (ctx.graph.resolving (n + 1)) (vs.map fun v => literal [v]) s).outcome =
      resolveUnionWith (ctx.graph.resolve 1) (vs.map fun v => literal [v]) := by
  refine ((kept_outcome_eq s fun _ => True).resolveUnionWith fun u hu => ?_).related
    fun _ _ => trivial
  obtain ⟨v, hv, rfl⟩ := List.mem_map.mp hu
  refine ⟨inProgress_resolving, fun _ => ?_⟩
  exact outcome_resolving_of_no_parts (fun _ => not_part_single) (hs v hv) (contains_nil _)

lemma exists_value_singles (ctx : Context) (vs : List Value) :
    ∃ f, (resolveUnionWith (ctx.graph.resolve 1) (vs.map fun v => literal [v])).value = .ok f := by
  have hall : ∃ fs, (mapInOrder (ctx.graph.resolve 1) (vs.map fun v => literal [v])).value =
      .ok fs := by
    induction vs with
    | nil => exact ⟨[], rfl⟩
    | cons v vs ih =>
      obtain ⟨f, hf⟩ := exists_value_single ctx v 0
      obtain ⟨fs, hfs⟩ := ih
      refine ⟨f :: fs, Outcome.value_bind_eq_ok.mpr ⟨f, hf, ?_⟩⟩
      exact Outcome.value_bind_eq_ok.mpr ⟨fs, hfs, rfl⟩
  obtain ⟨fs, hfs⟩ := hall
  match vs with
  | [v] => exact exists_value_single ctx v 0
  | [] | _ :: _ :: _ =>
    exact ⟨Fragment.oneOfAll fs, Outcome.value_bind_eq_ok.mpr ⟨fs, hfs, rfl⟩⟩

lemma exists_truths (hmany : 2 ≤ vs.length) (htruths : vs.all isTruth = true)
    (h : Value.Different vs) : ∃ b, vs = [.bool b, .bool !b] := by
  have hbool : ∀ v ∈ vs, ∃ b, v = .bool b := by
    intro v hv
    have htruth := List.all_eq_true.mp htruths v hv
    cases v <;> first | exact ⟨_, rfl⟩ | cases htruth
  have hne : ∀ a b : Bool, Value.same (.bool a) (.bool b) = false → b = !a := by decide
  obtain ⟨v, w, ws, rfl⟩ := exists_two hmany
  obtain ⟨a, rfl⟩ := hbool v (by simp)
  obtain ⟨b, rfl⟩ := hbool w (by simp)
  obtain ⟨hfirst, hrest⟩ := List.pairwise_cons.mp h
  obtain rfl := hne a b (hfirst _ List.mem_cons_self)
  cases ws with
  | nil => exact ⟨a, rfl⟩
  | cons x ws =>
    -- a third one is the first or the second
    obtain ⟨c, rfl⟩ := hbool x (by simp)
    have hc := hne a c (hfirst _ (by simp))
    have hc' := hne (!a) c ((List.pairwise_cons.mp hrest).1 _ List.mem_cons_self)
    cases a <;> simp [hc] at hc'

lemma outcome_resolving_literal {n : Nat} (hne : vs ≠ []) (hnull : ∀ v ∈ vs, v ≠ .null)
    (h : Value.Different vs) (htruths : ¬(2 ≤ vs.length ∧ vs.all isTruth = true)) :
    (ctx.graph.resolving (n + 2) (literal vs) []).outcome =
      resolveUnionWith (ctx.graph.resolve 1) (vs.map fun v => literal [v]) := by
  match vs with
  | [v] => exact outcome_resolving_of_no_parts (fun _ => not_part_single) rfl rfl
  | v :: w :: ws =>
    have hmany : 2 ≤ (v :: w :: ws).length := by simp
    have hunion : ctx.graph.shape (literal (v :: w :: ws)) =
        pure (.union ((v :: w :: ws).map fun v => literal [v])) := by
      rw [shape_literal_of_several hmany h, presentMembers_literal h, filter_not_null hnull,
        if_neg fun hall => htruths ⟨hmany, hall⟩]
    rw [outcome_resolving_of_shape (contains_nil _) hunion]
    exact outcome_resolveUnionWith_singles fun v hv => not_contains_single hmany h hv

lemma written_with_null (hnull : ∀ v ∈ before ++ after, v ≠ .null)
    (h : Value.Different (before ++ after)) :
    writtenLiteral (before ++ .null :: after) = .ok (literal (before ++ .null :: after)) := by
  rw [writtenLiteral_eq, literalOf, Value.distinct_eq_self (Value.pairwise_insert_null hnull h)]

lemma written_optional (h : Value.Different vs) :
    (writtenLiteral vs >>= writtenOptional) = .ok (union [literal vs, noneType]) := by
  rw [writtenLiteral_eq, literalOf, Value.distinct_eq_self h]
  exact writtenOptional_literal vs

/-- The single constants beside `None` are resolved by themselves. -/
lemma resolveOptional_with_null_eq (ctx : Context) (hne : before ++ after ≠ [])
    (hnull : ∀ v ∈ before ++ after, v ≠ .null) (h : Value.Different (before ++ after)) :
    ctx.resolveOptional (literal (before ++ .null :: after)) =
      (resolveUnionWith (ctx.graph.resolve 1) ((before ++ after).map fun v => literal [v]) >>=
        fun f => pure (f, true)) := by
  obtain ⟨n, hn⟩ := Nat.exists_eq_add_of_le' (two_le_depth ctx (literal (before ++ .null :: after)))
  rw [resolveOptional_with_null hnull hne h, hn, outcome_resolveUnionWith_singles fun _ _ => rfl]

lemma resolveOptional_truths_with_null (hnull : ∀ v ∈ before ++ after, v ≠ .null)
    (h : Value.Different (before ++ after)) (hmany : 2 ≤ (before ++ after).length)
    (htruths : (before ++ after).all isTruth = true) :
    ctx.resolveOptional (literal (before ++ .null :: after)) =
      pure (.oneOf none [.primitive none "boolean", .primitive none "boolean"], true) := by
  have hne : before ++ after ≠ [] := List.ne_nil_of_length_pos (by omega)
  have htruth : ∀ b, ctx.graph.resolve 1 (literal [.bool b]) = pure (.primitive none "boolean") :=
    fun b => outcome_resolving_truth rfl 0
  obtain ⟨b, hb⟩ := exists_truths hmany htruths h
  rw [resolveOptional_with_null_eq ctx hne hnull h, hb, List.map_cons, List.map_cons, List.map_nil]
  simp only [resolveUnionWith, mapInOrder, htruth]
  rfl

lemma resolveOptional_optional_truths (hnull : ∀ v ∈ vs, v ≠ .null)
    (h : Value.Different vs) (hmany : 2 ≤ vs.length) (htruths : vs.all isTruth = true) :
    ctx.resolveOptional (union [literal vs, noneType]) =
      pure (.primitive none "boolean", true) := by
  obtain ⟨n, hn⟩ := Nat.exists_eq_add_of_le' (two_le_depth ctx (union [literal vs, noneType]))
  have hshape : ctx.graph.shape (literal vs) = pure (.primitive "boolean") := by
    rw [shape_literal_of_several hmany h, if_pos htruths]
  rw [resolveOptional_of_optional ctx hnull h, hn,
    outcome_resolving_of_shape (contains_nil _) hshape]
  rfl

/-- `None` among the values of a literal means the same as a literal of the others that may be
absent: the same fragment and warnings, and that it may be absent. Only where the others are the two
truth values does it come to a union of two types instead of one. -/
theorem resolveOptional_of_null_among (ctx : Context) (before after : List Value)
    (hne : before ++ after ≠ []) (hnull : ∀ v ∈ before ++ after, v ≠ .null)
    (hdistinct : Value.Different (before ++ after)) :
    ∃ spelled optional, writtenLiteral (before ++ .null :: after) = .ok spelled ∧
      (writtenLiteral (before ++ after) >>= writtenOptional) = .ok optional ∧
      (¬(2 ≤ (before ++ after).length ∧ (before ++ after).all isTruth = true) →
        ctx.resolveOptional spelled = ctx.resolveOptional optional ∧
          ∃ f, (ctx.resolveOptional spelled).value = .ok (f, true)) ∧
      (2 ≤ (before ++ after).length ∧ (before ++ after).all isTruth = true →
        ctx.resolveOptional spelled =
            pure (.oneOf none [.primitive none "boolean", .primitive none "boolean"], true) ∧
          ctx.resolveOptional optional = pure (.primitive none "boolean", true)) := by
  refine ⟨_, _, written_with_null hnull hdistinct, written_optional hdistinct, ?_, ?_⟩
  · intro htruths
    have hleft := resolveOptional_with_null_eq ctx hne hnull hdistinct
    have hright := resolveOptional_of_optional ctx hnull hdistinct
    obtain ⟨n, hn⟩ := Nat.exists_eq_add_of_le'
      (two_le_depth ctx (union [literal (before ++ after), noneType]))
    rw [hn, outcome_resolving_literal hne hnull hdistinct htruths] at hright
    obtain ⟨f, hf⟩ := exists_value_singles ctx (before ++ after)
    refine ⟨hleft.trans hright.symm, f, ?_⟩
    rw [hleft]
    exact Outcome.value_bind_eq_ok.mpr ⟨f, hf, rfl⟩
  · rintro ⟨hmany, htruths⟩
    exact ⟨resolveOptional_truths_with_null hnull hdistinct hmany htruths,
      resolveOptional_optional_truths hnull hdistinct hmany htruths⟩

theorem resolveOptional_of_null_among_modes :
    ([.text "on", .text "off"] ++ [.number (.int 3)] : List Value) ≠ [] ∧
      (∀ v ∈ ([.text "on", .text "off"] ++ [.number (.int 3)] : List Value), v ≠ .null) ∧
      Value.Different ([.text "on", .text "off"] ++ [.number (.int 3)]) ∧
      ∃ spelled optional,
        writtenLiteral [.text "on", .text "off", .null, .number (.int 3)] = .ok spelled ∧
        (writtenLiteral [.text "on", .text "off", .number (.int 3)] >>= writtenOptional) =
          .ok optional ∧
        ({} : Context).resolveOptional spelled = ({} : Context).resolveOptional optional := by
  have hne : ([.text "on", .text "off"] ++ [.number (.int 3)] : List Value) ≠ [] := by simp
  have hnull : ∀ v ∈ ([.text "on", .text "off"] ++ [.number (.int 3)] : List Value), v ≠ .null := by
    simp
  have hdistinct : Value.Different ([.text "on", .text "off"] ++ [.number (.int 3)]) := by decide
  obtain ⟨spelled, optional, hspelled, hoptional, hsame, -⟩ :=
    resolveOptional_of_null_among {} _ _ hne hnull hdistinct
  exact ⟨hne, hnull, hdistinct, spelled, optional, hspelled, hoptional,
    (hsame (by decide)).1⟩

theorem resolveOptional_truths_or_null : ∃ spelled optional f f',
    writtenLiteral [.bool true, .bool false, .null] = .ok spelled ∧
      (writtenLiteral [.bool true, .bool false] >>= writtenOptional) = .ok optional ∧
      (({} : Context).resolveOptional spelled).value = .ok (f, true) ∧
      (({} : Context).resolveOptional optional).value = .ok (f', true) ∧ f ≠ f' := by
  have hnull : ∀ v ∈ ([.bool true, .bool false] ++ [] : List Value), v ≠ .null := by simp
  have hdistinct : Value.Different ([.bool true, .bool false] ++ []) := by decide
  have hmany : 2 ≤ ([.bool true, .bool false] ++ [] : List Value).length := by decide
  have htruths : ([.bool true, .bool false] ++ [] : List Value).all isTruth = true := by decide
  refine ⟨_, _, _, _, written_with_null hnull hdistinct, written_optional hdistinct,
    congrArg Outcome.value (resolveOptional_truths_with_null hnull hdistinct hmany htruths),
    congrArg Outcome.value (resolveOptional_optional_truths hnull hdistinct hmany htruths), ?_⟩
  exact nofun

end Context

end CallSchema

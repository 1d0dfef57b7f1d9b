import CallSchema.Proofs.LayeredHints
import CallSchema.Proofs.StructuredClasses
import CallSchema.Proofs.UnmetTypes

/-!
# Hints that cannot be resolved

The elements of a tuple of several types are of the union of these types, and that union is built
when the tuple is resolved. It cannot be built of everything that can stand in a tuple: not of what
is no type, nor of constants that would have to be members of a set. Resolving a hint fails by such
a tuple, and by nothing else that can be written. Whatever no rule fits is unknown and warned of.
-/

namespace CallSchema

open TypeGraph

namespace Hint

variable {t u : Hint} {hs : List Hint} {c : ClassRef} {e : Failure}

/-- A hint is a tuple of several types, for which no union can be built. -/
structure HasNoUnion (h : Hint) (e : Failure) : Prop where
  origin : h.strip.origin? = some (.builtin "tuple")
  several : areSeveral h.strip.args = true
  fails : unionOf h.strip.args = .error e

/-- A hint cannot be resolved, whatever its parts resolve to. An intersection of nothing cannot be
written. -/
inductive Unresolvable (h : Hint) : Failure → Prop
  | tuple {e : Failure} (hh : h.HasNoUnion e) : Unresolvable h e
  | intersection (hh : h.strip = intersection []) : Unresolvable h .emptyIntersection

/-- Some arguments may not stand in a union: one of them is no type, or is not hashable. -/
inductive SpoilsUnion (hs : List Hint) : Failure → Prop
  | refused {h : Hint} {e : Failure} (hh : h ∈ hs) (hrefused : checkedArg unionArgument h = .error e) :
    SpoilsUnion hs e
  | unhashable {h : Hint} (hh : h ∈ hs) (hhash : h.isHashable = false) (kind : String) :
    SpoilsUnion hs (raised "TypeError" ("unhashable type: '" ++ kind ++ "'"))

lemma standsFor_of_origin? {classes : List ClassRef} (h : t.origin? = some c) :
    standsFor classes t = classes.contains c := by
  unfold standsFor
  split
  · cases h
  · rw [h]
    rfl

lemma elementOf?_eq_error_iff : elementOf? t = .error e ↔
    t.origin? = some (.builtin "tuple") ∧ areSeveral t.args = true ∧ unionOf t.args = .error e := by
  unfold elementOf?
  split
  · rename_i hargs
    simp [hargs, areSeveral]
  · rename_i first rest hargs
    rw [hargs]
    split
    · rename_i hseveral
      rw [Bool.and_eq_true, decide_eq_true_eq] at hseveral
      rw [bind_eq_error_iff]
      simp [hseveral]
    · rename_i hseveral
      rw [Bool.and_eq_true, decide_eq_true_eq] at hseveral
      constructor
      · intro h
        split at h <;> cases h
      · rintro ⟨horigin, hmany, -⟩
        exact absurd ⟨horigin, hmany⟩ hseveral

lemma spoilsUnion_of_dedupChecked {cs : List Hint} (hcs : checkedAll unionArgument hs = .ok cs)
    (h : dedupChecked (cs.flatMap flattened) = .error e) : SpoilsUnion hs e := by
  by_cases hhash : ∀ h ∈ hs, h.isHashable = true
  · have hpieces : ∀ p ∈ cs.flatMap flattened, p.isHashable = true := fun p hp =>
      isHashable_of_piece hhash (piece_of_checkedAll hcs hp)
    rw [dedupChecked_of_isHashable hpieces] at h
    cases h
  · obtain ⟨h', hnot⟩ := not_forall.mp hhash
    obtain ⟨hmem, hnot⟩ := Classical.not_imp.mp hnot
    rw [Bool.not_eq_true] at hnot
    rw [dedupChecked] at h
    split at h
    · rename_i kind _
      obtain rfl := Except.error.inj h
      exact .unhashable hmem hnot kind
    · cases h

lemma spoilsUnion_of_unionOf (hne : hs ≠ []) (h : unionOf hs = .error e) : SpoilsUnion hs e := by
  rw [unionOf, if_neg (by simpa using hne)] at h
  rcases bind_eq_error_iff.mp h with hchecks | ⟨cs, hcs, h⟩
  · rw [checkedAll, ← failure?_eq_some_iff, failure?_mapM] at hchecks
    obtain ⟨h', hmem, hrefused⟩ := List.exists_of_findSome?_eq_some hchecks
    exact .refused hmem (failure?_eq_some_iff.mp hrefused)
  · rcases bind_eq_error_iff.mp h with hdedup | ⟨members, _, h⟩
    · exact spoilsUnion_of_dedupChecked hcs hdedup
    · split at h <;> cases h

lemma HasNoUnion.spoilsUnion (h : u.HasNoUnion e) : SpoilsUnion u.strip.args e := by
  refine spoilsUnion_of_unionOf ?_ h.fails
  intro hnil
  have hseveral := h.several
  rw [hnil] at hseveral
  cases hseveral

lemma eq_intersection_nil (h : isIntersectionHint t = true) (hnil : membersOfIntersection t = []) :
    t = intersection [] := by
  cases t
  case intersection => exact congrArg intersection hnil
  all_goals cases h

end Hint

namespace Context

open Hint

variable {ctx : Context} {objects : Objects} {u : Hint} {hs : List Hint} {e : Failure}

lemma firstFits_of_tuple (h : u.strip.origin? = some (.builtin "tuple")) :
    (ctx.graphWith objects).FirstFits u .array := by
  have hnull : (ctx.graphWith objects).isNone u = false := ctx.isNone_of_ne_null (by
    rintro rfl
    cases h)
  obtain ⟨hany, hliteral, hvalues, hprimitive, harray⟩ :
      isUnconstrained u.strip = false ∧ literalOf? u.strip = none ∧
        ctx.enumValues? u.strip = none ∧ primitiveOf? u.strip = none ∧
        standsFor arrayClasses u.strip = true := by
    generalize u.strip = t at h
    cases t
    case generic | applied | form =>
      refine ⟨rfl, rfl, rfl, ?_, standsFor_of_origin? h⟩
      unfold primitiveOf?
      rw [standsFor_of_origin? h]
      split <;> rfl
    all_goals cases h
  refine ⟨?_, harray, fun r hr => ?_⟩
  · change ((ctx.graphWith objects).isNone u || isUnconstrained u.strip) = false
    rw [hnull, hany]
    rfl
  · cases r with
    | literal => simp [Fits, graphWith, hliteral]
    | enumeration => simp [Fits, graphWith, hvalues]
    | primitive => simp [Fits, graphWith, hprimitive]
    | _ => exact absurd hr (by decide)

lemma value_shape_of_intersection (h : u.strip = intersection hs) :
    ((ctx.graphWith objects).shape u).value = .ok (.intersection hs) := by
  have hnull : (ctx.graphWith objects).isNone u = false := ctx.isNone_of_ne_null (by
    rintro rfl
    cases h)
  have hprimitive : primitiveOf? (intersection hs) = none := by
    unfold primitiveOf?
    split <;> rfl
  have hmembers : (ctx.graphWith objects).members u = pure [] := by
    rw [members_graphWith, h]
    rfl
  rw [value_shape_of_not_fits]
  · simp only [graphWith, h]
    rfl
  · change ((ctx.graphWith objects).isNone u || isUnconstrained u.strip) = false
    rw [hnull, h]
    rfl
  · intro r hr
    cases r with
    | literal => simp [Fits, graphWith, h, literalOf?, constants?]
    | enumeration => simp [Fits, graphWith, h, enumValues?]
    | primitive => simp [Fits, graphWith, h, hprimitive]
    | array => simp [Fits, graphWith, h, standsFor, origin?]
    | object => simp [Fits, hmembers, Outcome.value_pure_eq_ok]
    | _ => exact absurd hr (by decide)

lemma unresolvable_of_faults (h : (ctx.graphWith objects).Faults u e) : u.Unresolvable e := by
  cases h with
  | question hshape =>
    rcases error_of_shape hshape with ⟨-, helement⟩ | hmembers
    · obtain ⟨horigin, hseveral, hfails⟩ := elementOf?_eq_error_iff.mp helement
      exact .tuple ⟨horigin, hseveral, hfails⟩
    · rw [members_graphWith] at hmembers
      cases hclass : ctx.classOf? u.strip with
      | none =>
        rw [hclass] at hmembers
        cases hmembers
      | some c =>
        obtain ⟨ms, hms⟩ := exists_value_members ctx c
        rw [hclass] at hmembers
        exact absurd (hms.symm.trans hmembers) nofun
  | intersection hshape =>
    obtain ⟨hintersection, hnil⟩ := isShape_of_shape hshape
    exact .intersection (eq_intersection_nil hintersection.fits hnil.symm)

lemma faults_of_unresolvable (h : u.Unresolvable e) : (ctx.graphWith objects).Faults u e := by
  cases h with
  | tuple h =>
    refine .question ?_
    rw [value_shape_of_array (firstFits_of_tuple h.origin)]
    have helement : (ctx.graphWith objects).elementType? u = .error e :=
      elementOf?_eq_error_iff.mpr ⟨h.origin, h.several, h.fails⟩
    rw [helement]
    rfl
  | intersection h => exact .intersection (value_shape_of_intersection h)

lemma failsIn_iff {c : Call Hint (HintKey objects)} : (ctx.graphWith objects).FailsIn c e ↔
    ¬(ctx.graphWith objects).Recurs c ∧ c.type.Unresolvable e :=
  and_congr_right fun _ => ⟨unresolvable_of_faults, faults_of_unresolvable⟩

section Examples

/-- The literal of a list with one number. -/
def listLiteral (n : Int) : Hint := literal [.list [.number (.int n)]]

def listPair : Hint := generic (.builtin "tuple") [listLiteral 1, listLiteral 2]

lemma listPair_hasNoUnion : listPair.HasNoUnion (raised "TypeError" "unhashable type: 'list'") :=
  ⟨rfl, rfl, failure?_eq_some_iff.mp (by decide +kernel)⟩

end Examples

end Context

end CallSchema

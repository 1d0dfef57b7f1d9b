import CallSchema.Proofs.AcyclicTypes
import CallSchema.Proofs.HeldClasses
import Mathlib.Algebra.Order.BigOperators.Group.List
import Mathlib.Algebra.Order.Ring.Nat

/-!
# Resolving hints

A run from a hint goes into the hint or enters a class of the set. Inside a hint each step takes some
of its weight, and a class that is entered is in progress from then on, so that each run ends however
the classes refer to one another. A hint that is met again below itself has entered a class that it
enters once more.
-/

namespace CallSchema.Context

open TypeGraph Hint

variable {ctx : Context} {objects : Objects} {c : ClassInfo} {t u h : Hint}

section Parts

lemma part_of_standsIn (h : StandsIn t.strip u) : (ctx.graphWith objects).Part t u := by
  cases h with
  | element ht hu => exact .element ht hu
  | unionMember ht hu => exact .unionMember ht hu
  | intersectionMember hu =>
    refine .intersectionMember ?_ hu
    change t.strip.isIntersectionHint = true
    cases ht : t.strip
    case intersection => rfl
    all_goals
      rw [ht] at hu
      cases hu

lemma exists_class (h : ctx.classOf? t = some c) : c ∈ ctx.classes ∧ t = c.hint := by
  unfold classOf? at h
  split at h
  · rename_i r
    unfold info? at h
    have href : (c.ref == r) = true := List.find?_some (p := fun d : ClassInfo => d.ref == r) h
    exact ⟨List.mem_of_find?_eq_some h, congrArg cls (eq_of_beq href).symm⟩
  · cases h

lemma members_graphWith (t : Hint) :
    (ctx.graphWith objects).members t = (ctx.classOf? t.strip).elim (pure []) ctx.members := by
  unfold graphWith
  dsimp only
  cases ctx.classOf? t.strip <;> rfl

lemma members_hint (hc : ctx.info? c.ref = some c) :
    (ctx.graphWith objects).members c.hint = ctx.members c := by
  have hclass : ctx.classOf? c.hint.strip = some c := hc
  rw [members_graphWith, hclass]
  rfl

lemma part_cases (h : (ctx.graphWith objects).Part t u) :
    StandsIn t.strip u ∨ ∃ c ∈ ctx.classes, t.strip = c.hint ∧ u ∈ ctx.memberTypes c := by
  cases h with
  | element ht hu => exact .inl (.element ht hu)
  | unionMember ht hu => exact .inl (.unionMember ht hu)
  | intersectionMember _ hu => exact .inl (.intersectionMember hu)
  | @member ms m ht hm =>
    rw [members_graphWith] at ht
    cases hclass : ctx.classOf? t.strip with
    | some c =>
      rw [hclass] at ht
      obtain ⟨hc, hstrip⟩ := exists_class hclass
      refine .inr ⟨c, hc, hstrip, ?_⟩
      rw [memberTypes, show (ctx.members c).value = .ok ms from ht]
      exact List.mem_map_of_mem hm
    | none =>
      rw [hclass] at ht
      obtain rfl := Outcome.value_pure_eq_ok.mp ht
      cases hm

lemma part_of_strip_eq {t' : Hint} (hstrip : t.strip = t'.strip)
    (h : (ctx.graphWith objects).Part t u) : (ctx.graphWith objects).Part t' u := by
  cases h with
  | element ht hu =>
    change standsFor arrayClasses t.strip = true at ht
    change elementOf? t.strip = _ at hu
    rw [hstrip] at ht hu
    exact .element ht hu
  | unionMember ht hu =>
    change t.strip.isUnionHint = true at ht
    change u ∈ t.strip.membersOfUnion at hu
    rw [hstrip] at ht hu
    exact .unionMember ht hu
  | intersectionMember ht hu =>
    change t.strip.isIntersectionHint = true at ht
    change u ∈ t.strip.membersOfIntersection at hu
    rw [hstrip] at ht hu
    exact .intersectionMember ht hu
  | @member ms m ht hm =>
    rw [members_graphWith, hstrip, ← members_graphWith] at ht
    exact .member ht hm

end Parts

section Recursion

/-- A class stands in its own members, at any depth. -/
def ReachesItself (ctx : Context) (objects : Objects) (c : ClassInfo) : Prop :=
  ∃ x, (ctx.graphWith objects).Below c.hint x ∧ x.strip = c.hint

/-- What is below a hint stands inside it, or in a class that it holds. -/
lemma below_cases (h : (ctx.graphWith objects).Below t u) :
    Inside t u ∨ ∃ c ∈ ctx.classes, Holds c.ref t ∧ (ctx.graphWith objects).Below c.hint u := by
  induction h using Relation.TransGen.head_induction_on with
  | single hpart =>
    rcases part_cases hpart with hin | ⟨c, hc, hstrip, -⟩
    · exact .inl (.single hin)
    · exact .inr ⟨c, hc, .here hstrip, .single (part_of_strip_eq hstrip hpart)⟩
  | head hpart hbelow ih =>
    rcases part_cases hpart with hin | ⟨c, hc, hstrip, -⟩
    · rcases ih with hinside | ⟨c, hc, hholds, hbelow⟩
      · exact .inl (.head hin hinside)
      · exact .inr ⟨c, hc, .inside hin hholds, hbelow⟩
    · exact .inr ⟨c, hc, .here hstrip, .head (part_of_strip_eq hstrip hpart) hbelow⟩

lemma exists_reaches_of_holds (ctx : Context) (objects : Objects) {r : ClassRef} (h : Holds r t) :
    ∃ x, (ctx.graphWith objects).Reaches t x ∧ x.strip = cls r := by
  induction h with
  | here hh => exact ⟨_, .refl, hh⟩
  | inside hu _ ih =>
    obtain ⟨x, hreaches, hx⟩ := ih
    exact ⟨x, .head (part_of_standsIn hu) hreaches, hx⟩

lemma holds_iff_of_key {r : ClassRef} (hne : r ≠ .builtin "NoneType")
    (h : ((⟨t.strip⟩ : HintKey objects) == ⟨u.strip⟩) = true) : Holds r t ↔ Holds r u := by
  rw [← holds_strip_iff, ← holds_strip_iff (h := u)]
  rcases eqv_or_eq_of_key h with ⟨ht, hu, heq⟩ | heq
  · exact holds_iff_of_eqv hne _ _ heq ht hu
  · rw [heq]

lemma exists_class_of_below (hbelow : (ctx.graphWith objects).Below t u)
    (hid : ((ctx.graphWith objects).identity u == (ctx.graphWith objects).identity t) = true) :
    ∃ c ∈ ctx.classes, Holds c.ref t ∧ ctx.ReachesItself objects c := by
  rcases below_cases hbelow with hinside | ⟨c, hc, hholds, hcu⟩
  · have hne := (identity_ne_of_inside objects hinside).1
    exact absurd (hid.symm.trans hne) nofun
  · obtain ⟨x, hreaches, hx⟩ := exists_reaches_of_holds ctx objects
      ((holds_iff_of_key (by exact nofun) hid).mpr hholds)
    exact ⟨c, hc, hholds, x, hcu.trans_left hreaches, hx⟩

lemma mem_warnings_fieldHints {w : Warning} (h : w ∈ (ctx.fieldHints c).warnings) :
    ∃ message, w = .classHints c.identity c.name message := by
  unfold fieldHints at h
  split at h
  · simp [Outcome.ok] at h
  · rename_i e _
    rcases Outcome.mem_warnings_bind.mp h with h | ⟨_, _, h⟩
    · exact ⟨e.message, by simpa [Outcome.warn] using h⟩
    · simp [Outcome.warnings_pure] at h

lemma mem_warnings_members {w : Warning} (h : w ∈ (ctx.members c).warnings) :
    ∃ message, w = .classHints c.identity c.name message := by
  unfold members at h
  simp only at h
  split at h
  · simp [Outcome.warnings_pure] at h
  · split at h
    · simp [Outcome.warnings_pure] at h
    · rcases Outcome.mem_warnings_bind.mp h with h | ⟨_, _, h⟩
      · exact mem_warnings_fieldHints h
      · simp [Outcome.warnings_pure] at h
  · split at h
    · rcases Outcome.mem_warnings_bind.mp h with h | ⟨_, _, h⟩
      · exact mem_warnings_fieldHints h
      · simp [Outcome.warnings_pure] at h
    · simp [Outcome.warnings_pure] at h

lemma not_recursiveType_members {d : String} :
    .recursiveType d ∉ ((ctx.graphWith objects).members t).warnings := by
  rw [members_graphWith]
  cases ctx.classOf? t.strip with
  | some c =>
    intro h
    obtain ⟨message, h⟩ := mem_warnings_members h
    cases h
  | none => exact List.not_mem_nil

lemma exists_class_of_warning {limit : Nat} {d : String}
    (h : .recursiveType d ∈ ((ctx.graphWith objects).resolve limit t).warnings ∨
      .recursiveType d ∈ ((ctx.graphWith objects).resolveOptional limit t).warnings) :
    ∃ c ∈ ctx.classes, (∃ x, (ctx.graphWith objects).Reaches t x ∧ x.strip = c.hint) ∧
      ctx.ReachesItself objects c := by
  by_cases hacyclic : ∀ u, (ctx.graphWith objects).Reaches t u → ¬(ctx.graphWith objects).Recursive u
  · obtain ⟨u, -, hu⟩ := warnings_of_not_recursive hacyclic h
    exact absurd hu not_recursiveType_members
  · obtain ⟨u, hu⟩ := not_forall.mp hacyclic
    obtain ⟨hreaches, hrecursive⟩ := Classical.not_imp.mp hu
    obtain ⟨v, hbelow, hid⟩ := Classical.not_not.mp hrecursive
    obtain ⟨c, hc, hholds, hitself⟩ := exists_class_of_below hbelow hid
    obtain ⟨x, hx, hstrip⟩ := exists_reaches_of_holds ctx objects hholds
    exact ⟨c, hc, ⟨x, hreaches.trans hx, hstrip⟩, hitself⟩

end Recursion

section Termination

/-- How many calls the classes that are not in progress can still take. -/
def room (ctx : Context) (s : List (HintKey objects)) : Nat :=
  ((ctx.classes.filter fun c => !s.contains ⟨c.hint⟩).map
    fun c => weightAll 1 (ctx.memberTypes c) + 1).sum

lemma sum_filter_add_le {α : Type} (f : α → Nat) {p q : α → Bool} {as : List α} {a : α}
    (hpq : ∀ b, p b = true → q b = true) (ha : a ∈ as) (hq : q a = true) (hp : p a = false) :
    ((as.filter p).map f).sum + f a ≤ ((as.filter q).map f).sum := by
  induction as with
  | nil => cases ha
  | cons b bs ih =>
    rcases List.mem_cons.mp ha with rfl | ha
    · have hle := ((List.monotone_filter_right bs hpq).map f).sum_le_sum fun _ _ => Nat.zero_le _
      simp only [List.filter_cons, hp, hq, Bool.false_eq_true, if_false, if_true, List.map_cons,
        List.sum_cons]
      omega
    · have := ih ha
      cases hb : p b with
      | true =>
        simp only [List.filter_cons, hb, hpq b hb, if_true, List.map_cons, List.sum_cons]
        omega
      | false =>
        simp only [List.filter_cons, hb, Bool.false_eq_true, if_false]
        split
        · rw [List.map_cons, List.sum_cons]
          omega
        · exact this

variable {s : List (HintKey objects)} {bound : Nat}

lemma not_contains_of_cons {k key : HintKey objects} (h : (!(k :: s).contains key) = true) :
    (!s.contains key) = true := by
  rw [List.contains_cons, Bool.not_or, Bool.and_eq_true] at h
  exact h.2

lemma room_cons_le (ctx : Context) (k : HintKey objects) : ctx.room (k :: s) ≤ ctx.room s :=
  ((List.monotone_filter_right _ fun _ => not_contains_of_cons).map _).sum_le_sum
    fun _ _ => Nat.zero_le _

lemma room_cons_add_le (hc : c ∈ ctx.classes) (hs : s.contains ⟨c.hint⟩ = false) :
    ctx.room (⟨c.hint⟩ :: s) + (weightAll 1 (ctx.memberTypes c) + 1) ≤ ctx.room s := by
  have hself : ((⟨c.hint⟩ : HintKey objects) == ⟨c.hint⟩) = true := by
    change (if (c.hint.isHashable && c.hint.isHashable) = true then eqv c.hint c.hint
      else objects.same c.hint c.hint) = true
    rw [if_pos (by rfl), ClassInfo.hint, eqv]
    exact beq_self_eq_true c.ref
  refine sum_filter_add_le _ (fun _ => not_contains_of_cons) hc (by simpa using hs) ?_
  rw [List.contains_cons, hself, Bool.true_or, Bool.not_true]

lemma weight_le_of_asks (h : (ctx.graphWith objects).Asks t u) : weight 1 u ≤ weight 1 t := by
  rcases h with rfl | ⟨hunion, hu⟩
  · exact Nat.le_refl _
  · have hlt := (StandsIn.unionMember hunion (List.mem_filter.mp hu).1).weight_lt
      (.inl Nat.one_pos)
    rw [weight_strip] at hlt
    exact Nat.le_of_lt hlt

/-- What holds of all calls of a run: how deep it can still go from a call is bounded. -/
def Bounded (ctx : Context) (objects : Objects) (bound : Nat) (c : Call Hint (HintKey objects)) :
    Prop :=
  c.level + weight 1 c.type + ctx.room c.inProgress ≤ bound

lemma inherited_bounded : (ctx.graphWith objects).Inherited (ctx.Bounded objects bound) := by
  rintro c u h hrecurs ⟨v, hpart, hasks⟩
  have hu := weight_le_of_asks hasks
  rcases part_cases hpart with hin | ⟨d, hd, hstrip, hv⟩
  · have hlt := hin.weight_lt (.inl Nat.one_pos)
    have hle := room_cons_le ctx (s := c.inProgress) ((ctx.graphWith objects).identity c.type)
    rw [weight_strip] at hlt
    simp only [Bounded] at h ⊢
    omega
  · have hkey : (ctx.graphWith objects).identity c.type = ⟨d.hint⟩ := congrArg HintKey.mk hstrip
    have hs : c.inProgress.contains ⟨d.hint⟩ = false := by
      rw [← hkey]
      exact Bool.eq_false_iff.mpr hrecurs
    have hle := room_cons_add_le hd hs
    have := weight_le_weightAll (n := 1) hv
    simp only [Bounded, hkey] at h ⊢
    omega

mutual

lemma weight_le_size (h : Hint) : weight 1 h ≤ 2 * h.size := by
  cases h with
  | generic _ args | applied _ args | union args | alternatives args | intersection args =>
    have := weightAll_le_size args
    rw [weight, size]
    omega
  | literal values =>
    rw [weight, size]
    split <;> omega
  | annotated h _ | required h | notRequired h =>
    have := weight_le_size h
    rw [weight, size]
    omega
  | _ => simp [weight]

lemma weightAll_le_size (hs : List Hint) : weightAll 1 hs ≤ 2 * sizeAll hs := by
  cases hs with
  | nil => exact Nat.le_refl _
  | cons h hs =>
    have := weight_le_size h
    have := weightAll_le_size hs
    rw [weightAll, sizeAll]
    omega

end

lemma foldl_add_eq {α : Type} (f : α → Nat) (as : List α) (m : Nat) :
    as.foldl (fun n a => n + f a + 1) m = m + (as.map fun a => f a + 1).sum := by
  induction as generalizing m with
  | nil => rfl
  | cons a as ih =>
    rw [List.foldl_cons, ih, List.map_cons, List.sum_cons]
    omega

lemma room_le (ctx : Context) (s : List (HintKey objects)) :
    ctx.room s ≤ (ctx.classes.map fun c => 2 * sizeAll (ctx.memberTypes c) + 1).sum := by
  refine Nat.le_trans ((List.filter_sublist.map _).sum_le_sum fun _ _ => Nat.zero_le _) ?_
  refine List.sum_le_sum fun c _ => ?_
  exact Nat.succ_le_succ (weightAll_le_size (ctx.memberTypes c))

lemma room_lt_depth (ctx : Context) (h : Hint) (s : List (HintKey objects)) :
    weight 1 h + ctx.room s < ctx.depth h := by
  have hroom := room_le ctx s
  have hweight := weight_le_size h
  rw [depth, foldl_add_eq fun c => 2 * sizeAll (ctx.memberTypes c)]
  omega

lemma two_le_depth (ctx : Context) (h : Hint) : 2 ≤ ctx.depth h := by
  rw [depth, foldl_add_eq fun c => 2 * sizeAll (ctx.memberTypes c)]
  omega

lemma bounded_first (hle : weight 1 u ≤ weight 1 h) :
    ctx.Bounded objects (weight 1 h + ctx.room s) ⟨0, s, u⟩ := by
  simp only [Bounded]
  omega

lemma within_of_steady {α : Type} {x : Resolving Hint (HintKey objects) α} {limit : Nat}
    (hx : Steady s (ctx.Bounded objects bound) x) (hlimit : bound < limit) :
    Within limit (x s) := by
  intro c hc
  have hbounded := hx.calls c hc
  simp only [Bounded] at hbounded
  omega

/-- No call of a run is nested deeper than the weight of its hint and the room that the types in
progress leave. -/
lemma within_resolving {m limit : Nat} (hlimit : weight 1 h + ctx.room s < limit) :
    Within limit ((ctx.graphWith objects).resolving m h s) := by
  have hsteady : Steady s (ctx.Bounded objects (weight 1 h + ctx.room s))
      ((ctx.graphWith objects).resolving m h) := by
    simpa [Call.inside] using steady_resolving inherited_bounded 0 (bounded_first (Nat.le_refl _))
  exact within_of_steady hsteady hlimit

lemma within_resolvingOptional {m limit : Nat} (hlimit : weight 1 h + ctx.room s < limit) :
    Within limit ((ctx.graphWith objects).resolvingOptional m h s) :=
  within_of_steady (steady_resolvingOptional inherited_bounded fun _ hu =>
    bounded_first (weight_le_of_asks hu)) hlimit

lemma resolving_of_room_lt {m limit : Nat} (hm : weight 1 h + ctx.room s < m) (hle : m ≤ limit) :
    (ctx.graphWith objects).resolving limit h s = (ctx.graphWith objects).resolving m h s := by
  induction limit, hle using Nat.le_induction with
  | base => rfl
  | succ limit hle ih =>
    exact (resolving_succ_limit (within_resolving (Nat.lt_of_lt_of_le hm hle))).symm.trans ih

lemma resolvingOptional_of_room_lt {m limit : Nat} (hm : weight 1 h + ctx.room s < m)
    (hle : m ≤ limit) :
    (ctx.graphWith objects).resolvingOptional limit h s =
      (ctx.graphWith objects).resolvingOptional m h s := by
  induction limit, hle using Nat.le_induction with
  | base => rfl
  | succ limit hle ih =>
    exact (resolvingOptional_succ_limit
      (within_resolvingOptional (Nat.lt_of_lt_of_le hm hle))).symm.trans ih

end Termination

/-- Resolving a hint ends and finds recursion only where there is some, whichever hints are the same
objects: no call of a run is cut off, so that a higher limit changes nothing; a recursive type is
only warned of if a class that the hint reaches reaches itself; a hint that stands in another one
never has its identity unless a class is entered between them, and then only if a class reaches
itself. -/
theorem resolving_hints (ctx : Context) (objects : Objects) (h : Hint) :
    (∀ limit, ctx.depth h ≤ limit →
      (ctx.graphWith objects).resolving limit h [] =
          (ctx.graphWith objects).resolving (ctx.depth h) h [] ∧
        Within limit ((ctx.graphWith objects).resolving limit h []) ∧
        (ctx.graphWith objects).resolvingOptional limit h [] =
          (ctx.graphWith objects).resolvingOptional (ctx.depth h) h [] ∧
        Within limit ((ctx.graphWith objects).resolvingOptional limit h [])) ∧
      (∀ limit d, .recursiveType d ∈ ((ctx.graphWith objects).resolve limit h).warnings ∨
          .recursiveType d ∈ ((ctx.graphWith objects).resolveOptional limit h).warnings →
        ∃ c ∈ ctx.classes, (∃ x, (ctx.graphWith objects).Reaches h x ∧ x.strip = c.hint) ∧
          ctx.ReachesItself objects c) ∧
      (∀ t u, Inside t u →
        ((ctx.graphWith objects).identity u == (ctx.graphWith objects).identity t) = false ∧
          ((ctx.graphWith objects).identity t == (ctx.graphWith objects).identity u) = false) ∧
      ∀ t u, (ctx.graphWith objects).Below t u →
        ((ctx.graphWith objects).identity u == (ctx.graphWith objects).identity t) = true →
        ∃ c ∈ ctx.classes, Holds c.ref t ∧ ctx.ReachesItself objects c :=
  ⟨fun _ hlimit =>
      have hdepth := room_lt_depth ctx h ([] : List (HintKey objects))
      have hwithin := Nat.lt_of_lt_of_le hdepth hlimit
      ⟨resolving_of_room_lt hdepth hlimit, within_resolving hwithin,
        resolvingOptional_of_room_lt hdepth hlimit, within_resolvingOptional hwithin⟩,
    fun _ _ => exists_class_of_warning, fun _ _ => identity_ne_of_inside objects,
    fun _ _ => exists_class_of_below⟩

/-- A model of a list whose field holds a pair of a number and the rest of the list. -/
def pairList : ClassInfo where
  identity := 0
  qualifiedName := "PairList"
  home := "lists"
  metaclass := .model
  ancestors := [.baseModel, .object]
  annotations := .empty
  attributes := []
  model := some
    { fields := .ofPairs
        [("pair",
          { hasDefault := false, description := none
            type := generic (.builtin "tuple")
              [cls (.builtin "int"), cls (.described 0 .model "lists" "PairList")] })] }

example : (({ classes := [pairList] } : Context).resolve pairList.hint).warnings.any
    (· matches .recursiveType _) = true := by
  decide +kernel

end CallSchema.Context

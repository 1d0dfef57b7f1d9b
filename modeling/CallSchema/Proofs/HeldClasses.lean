import CallSchema.Proofs.HintIdentity

/-!
# The classes that stand in a hint

A resolver that comes to one of two equal hints comes to the same classes as from the other one: the
members of a union in another order, and what is left of the arguments of a tuple without repeats,
hold the same classes.
-/

namespace CallSchema.Hint

variable {r : ClassRef} {a b c e h p t u : Hint} {hs ks cs : List Hint} {n : Nat}

/-- A class stands in a hint at any depth, without another class between them. -/
inductive Holds (r : ClassRef) : Hint → Prop
  | here {h : Hint} (hh : h.strip = cls r) : Holds r h
  | inside {h u : Hint} (hu : StandsIn h.strip u) (hr : Holds r u) : Holds r h

lemma holds_of_strip_eq (hstrip : a.strip = b.strip) (h : Holds r a) : Holds r b := by
  cases h with
  | here hh => exact .here (hstrip ▸ hh)
  | inside hu hr => exact .inside (hstrip ▸ hu) hr

lemma holds_annotated_iff {metadata : List Value} :
    Holds r (annotated h metadata) ↔ Holds r h :=
  ⟨holds_of_strip_eq rfl, holds_of_strip_eq rfl⟩

lemma holds_required_iff : Holds r (required h) ↔ Holds r h :=
  ⟨holds_of_strip_eq rfl, holds_of_strip_eq rfl⟩

lemma holds_notRequired_iff : Holds r (notRequired h) ↔ Holds r h :=
  ⟨holds_of_strip_eq rfl, holds_of_strip_eq rfl⟩

lemma holds_strip_iff : Holds r h.strip ↔ Holds r h := by
  fun_induction strip h with
  | case1 h _ ih => rw [ih, holds_annotated_iff]
  | case2 h ih => rw [ih, holds_required_iff]
  | case3 h ih => rw [ih, holds_notRequired_iff]
  | case4 => exact Iff.rfl

section Steps

lemma strip_of_unionArgs (h : t.unionArgs? = some hs) : t.strip = t := by
  cases t
  case union | alternatives => rfl
  all_goals cases h

lemma holds_iff_of_unionArgs (ha : t.unionArgs? = some hs) :
    Holds r t ↔ ∃ h ∈ hs, Holds r h := by
  have hstrip := strip_of_unionArgs ha
  have hunion : t.isUnionHint = true ∧ t.membersOfUnion = hs ∧ t.args = [] ∧
      t.membersOfIntersection = [] ∧ t ≠ cls r := by
    cases t
    case union | alternatives => exact ⟨rfl, Option.some.inj ha, rfl, rfl, nofun⟩
    all_goals cases ha
  obtain ⟨hunion, hmembers, hargs, hnone, hcls⟩ := hunion
  constructor
  · intro h
    cases h with
    | here hh => exact absurd (hstrip ▸ hh) hcls
    | @inside _ u hu hr =>
      rw [hstrip] at hu
      cases hu with
      | element _ hu => simp [elementOf?, hargs] at hu
      | unionMember _ hu => exact ⟨u, hmembers ▸ hu, hr⟩
      | intersectionMember hu => simp [hnone] at hu
  · rintro ⟨h, hh, hr⟩
    refine .inside ?_ hr
    rw [hstrip]
    exact .unionMember hunion (hmembers ▸ hh)

lemma holds_intersection_iff : Holds r (intersection hs) ↔ ∃ h ∈ hs, Holds r h := by
  constructor
  · intro h
    cases h with
    | here hh => cases hh
    | @inside _ u hu hr =>
      cases hu with
      | element _ hu => cases hu
      | unionMember ht _ => cases ht
      | intersectionMember hu => exact ⟨u, hu, hr⟩
  · rintro ⟨h, hh, hr⟩
    exact .inside (.intersectionMember hh) hr

lemma not_holds_literal {vs : List Value} : ¬Holds r (literal vs) := by
  intro h
  cases h with
  | here hh => cases hh
  | inside hu hr =>
    obtain ⟨-, v, -, rfl⟩ := standsIn_literal hu
    cases hr with
    | here hh => cases hh
    | inside hu _ => exact not_standsIn_single hu

lemma holds_iff_element (hstrip : t.strip = t) (hunion : t.isUnionHint = false)
    (hnone : t.membersOfIntersection = []) (hcls : t ≠ cls r) :
    Holds r t ↔ standsFor arrayClasses t = true ∧ ∃ u, elementOf? t = .ok (some u) ∧ Holds r u := by
  constructor
  · intro h
    cases h with
    | here hh => exact absurd (hstrip ▸ hh) hcls
    | @inside _ u hu hr =>
      rw [hstrip] at hu
      cases hu with
      | element ht hu => exact ⟨ht, u, hu, hr⟩
      | unionMember ht _ => simp [hunion] at ht
      | intersectionMember hu => simp [hnone] at hu
  · rintro ⟨ht, u, hu, hr⟩
    refine .inside ?_ hr
    rw [hstrip]
    exact .element ht hu

lemma holds_generic_iff {origin : ClassRef} : Holds r (generic origin hs) ↔
    standsFor arrayClasses (generic origin hs) = true ∧
      ∃ u, elementOf? (generic origin hs) = .ok (some u) ∧ Holds r u :=
  holds_iff_element rfl rfl rfl nofun

lemma holds_applied_iff {name : String} : Holds r (applied name hs) ↔
    standsFor arrayClasses (applied name hs) = true ∧
      ∃ u, elementOf? (applied name hs) = .ok (some u) ∧ Holds r u :=
  holds_iff_element rfl rfl rfl nofun

lemma not_holds (hstrip : t.strip = t) (hargs : t.args = []) (hunion : t.isUnionHint = false)
    (hnone : t.membersOfIntersection = []) (hcls : t ≠ cls r) : ¬Holds r t := by
  rw [holds_iff_element hstrip hunion hnone hcls]
  rintro ⟨-, u, hu, -⟩
  simp [elementOf?, hargs] at hu

lemma not_holds_of_isClosed (h : t.isClosed = true) : ¬Holds r t := by
  cases t
  case unpack | starred | callable | typeVar | newType | constant | listing | tuple =>
    exact not_holds rfl rfl rfl rfl nofun
  all_goals cases h

end Steps

/-- What a hint and an equal one have in common as arguments. -/
structure Alike (r : ClassRef) (h k : Hint) : Prop where
  holds : Holds r h ↔ Holds r k
  ellipsis : h = ellipsis ↔ k = ellipsis
  checks : (checkedArg unionArgument h).isOk = (checkedArg unionArgument k).isOk

lemma Alike.symm (h : Alike r a b) : Alike r b a :=
  ⟨h.holds.symm, h.ellipsis.symm, h.checks.symm⟩

lemma isOk_checked_of_isClosed (h : a.isClosed = true) : (checked none a).isOk = true := by
  cases a
  case unpack | starred | callable | typeVar | newType | constant | listing | tuple => rfl
  all_goals cases h

lemma isOk_checked_of_unionArgs (h : a.unionArgs? = some hs) : (checked none a).isOk = true := by
  cases a
  case union | alternatives => rfl
  all_goals cases h

/-- Whether a hint is a special name that is no type with notes around it either. -/
def isOutermostForm : Hint → Bool
  | form _ name => isOutermost .argument name
  | _ => false

lemma isOk_checked_annotated (h : Hint) (metadata : List Value) :
    (checked none (annotated h metadata)).isOk = !h.isOutermostForm := by
  cases h
  case form home name =>
    change (if isOutermost .argument name = true then _ else _ : Except Failure Hint).isOk = _
    rw [isOutermostForm]
    split
    · rename_i houter
      rw [houter]
      rfl
    · rename_i houter
      rw [Bool.not_eq_true] at houter
      rw [houter]
      rfl
  all_goals rfl

lemma isOutermostForm_of_eqv (h : eqv a b = true) : a.isOutermostForm = b.isOutermostForm := by
  have hclosed : ∀ {a : Hint}, a.isClosed = true → a.isOutermostForm = false := by
    intro a ha
    cases a
    case form => cases ha
    all_goals rfl
  have hunion : ∀ {a : Hint} {hs : List Hint}, a.unionArgs? = some hs →
      a.isOutermostForm = false := by
    intro a hs ha
    cases a
    case form => cases ha
    all_goals rfl
  cases matching_of_eqv (P := fun _ _ => True) (fun _ _ _ _ => trivial) h with
  | same => rfl
  | closed ha hb => rw [hclosed ha, hclosed hb]
  | union ha hb => rw [hunion ha, hunion hb]
  | _ => rfl

lemma isOk_checked_of_eqv (h : eqv a b = true) :
    (checked none a).isOk = (checked none b).isOk := by
  cases matching_of_eqv (P := fun x y => eqv x y = true) (fun _ _ _ hxy => hxy) h with
  | same => rfl
  | closed ha hb => rw [isOk_checked_of_isClosed ha, isOk_checked_of_isClosed hb]
  | union ha hb => rw [isOk_checked_of_unionArgs ha, isOk_checked_of_unionArgs hb]
  | applied name _ =>
    change (if isOutermost .argument name = true then _ else _ : Except Failure Hint).isOk =
      (if isOutermost .argument name = true then _ else _ : Except Failure Hint).isOk
    split <;> rfl
  | annotated xs ys hinner =>
    rw [isOk_checked_annotated, isOk_checked_annotated, isOutermostForm_of_eqv hinner]
  | _ => rfl

/-- Whether a hint is several ones in parentheses. -/
def isTuple : Hint → Bool
  | tuple _ => true
  | _ => false

lemma isTuple_of_eqv (h : eqv a b = true) : a.isTuple = b.isTuple := by
  cases a
  case tuple =>
    cases b
    case tuple => rfl
    all_goals simp [eqv] at h
  all_goals
    cases b
    case tuple => simp [eqv] at h
    all_goals rfl

lemma isOk_checkedArg (message : String) (h : Hint) :
    (checkedArg message h).isOk = ((checked none h).isOk && !h.isTuple) := by
  have hrefuse : ∀ h : Hint, (refuseTuple message h).isOk = !h.isTuple := by
    intro h
    cases h <;> rfl
  unfold checkedArg
  cases hc : checked none h with
  | error => rfl
  | ok c =>
    refine (hrefuse c).trans ?_
    rcases checkedAs_eq_ok hc with rfl | ⟨rfl, rfl⟩ | ⟨s, rfl, rfl⟩
    all_goals rfl

lemma ellipsis_iff_of_eqv (h : eqv a b = true) : a = ellipsis ↔ b = ellipsis := by
  constructor
  · rintro rfl
    cases b
    case ellipsis => rfl
    all_goals simp [eqv] at h
  · rintro rfl
    cases a
    case ellipsis => rfl
    all_goals simp [eqv] at h

lemma alike_of_eqv (h : eqv a b = true) (hholds : Holds r a ↔ Holds r b) : Alike r a b :=
  ⟨hholds, ellipsis_iff_of_eqv h, by
    rw [isOk_checkedArg, isOk_checkedArg, isOk_checked_of_eqv h, isTuple_of_eqv h]⟩

section Elements

lemma areSeveral_cons (h : b ≠ ellipsis ∨ hs ≠ []) : areSeveral (a :: b :: hs) = true := by
  unfold areSeveral
  split
  all_goals simp_all

lemma areSeveral_eq (h : List.Forall₂ (Alike r) hs ks) : areSeveral hs = areSeveral ks := by
  cases h with
  | nil => rfl
  | cons hfirst hrest =>
    cases hrest with
    | nil => rfl
    | @cons x y _ _ hsecond hrest =>
      cases hrest with
      | cons =>
        rw [areSeveral_cons (.inr (List.cons_ne_nil _ _)),
          areSeveral_cons (.inr (List.cons_ne_nil _ _))]
      | nil =>
        by_cases hx : x = ellipsis
        · rw [hx, hsecond.ellipsis.mp hx]
          rfl
        · have hy : y ≠ ellipsis := fun hy => hx (hsecond.ellipsis.mpr hy)
          rw [areSeveral_cons (.inl hx), areSeveral_cons (.inl hy)]

lemma not_holds_null : ¬Holds r null := not_holds rfl rfl rfl rfl nofun

lemma present?_of_holds (h : Holds r t) : present? t = some t := by
  unfold present?
  split
  · exact absurd h not_holds_null
  · rfl

lemma not_areParentheses_of_holds (h : Holds r t) : areParentheses (t :: hs) = false := by
  unfold areParentheses
  split
  · rename_i heq
    obtain ⟨rfl, -⟩ := List.cons.inj heq
    exact absurd h (not_holds rfl rfl rfl rfl nofun)
  · rfl

lemma exists_element (horigin : a.origin? = b.origin?)
    (hargs : List.Forall₂ (Alike r) a.args b.args)
    (hunion : ∀ e, unionOf a.args = .ok e → Holds r e →
      ∃ e', unionOf b.args = .ok e' ∧ Holds r e')
    (hu : elementOf? a = .ok (some u)) (hr : Holds r u) :
    ∃ u', elementOf? b = .ok (some u') ∧ Holds r u' := by
  unfold elementOf? at hu ⊢
  rw [← horigin]
  generalize a.args = hs at *
  generalize b.args = ks at *
  cases hargs with
  | nil => cases hu
  | @cons h k hs ks hfirst hrest =>
    simp only [← areSeveral_eq (.cons hfirst hrest)]
    simp only at hu
    split at hu
    · rename_i hseveral
      obtain ⟨e, he, hu⟩ := bind_eq_ok_iff.mp hu
      obtain rfl := present?_eq_some (Except.ok.inj hu)
      obtain ⟨e', he', hr'⟩ := hunion u he hr
      refine ⟨e', ?_, hr'⟩
      rw [if_pos hseveral, he']
      exact congrArg Except.ok (present?_of_holds hr')
    · rename_i hseveral
      split at hu
      · cases hu
      · obtain rfl := present?_eq_some (Except.ok.inj hu)
        have hr' := hfirst.holds.mp hr
        refine ⟨k, ?_, hr'⟩
        rw [if_neg hseveral, not_areParentheses_of_holds hr', Bool.and_false, present?_of_holds hr']
        rfl

end Elements

section Unions

lemma exists_holds_dedup
    (hkeeps : ∀ p ∈ hs, ∀ q ∈ hs, eqv q p = true → Holds r p → Holds r q) (hp : p ∈ hs)
    (hr : Holds r p) : ∃ q ∈ dedup hs, Holds r q := by
  induction hs generalizing p with
  | nil => cases hp
  | cons x xs ih =>
    rw [dedup]
    rcases List.mem_cons.mp hp with rfl | hp
    · exact ⟨p, List.mem_cons_self, hr⟩
    · obtain ⟨q, hq, hr⟩ := ih (fun p hp q hq => hkeeps p (List.mem_cons_of_mem x hp) q
        (List.mem_cons_of_mem x hq)) hp hr
      cases heq : eqv x q with
      | true =>
        have hmem := List.mem_cons_of_mem x (mem_of_mem_dedup hq)
        exact ⟨x, List.mem_cons_self, hkeeps q hmem x List.mem_cons_self heq hr⟩
      | false =>
        exact ⟨q, List.mem_cons_of_mem x (List.mem_filter.mpr ⟨hq, by simp [heq]⟩), hr⟩

lemma holds_of_mem_flattened (hp : p ∈ flattened h) (hr : Holds r p) : Holds r h := by
  unfold flattened at hp
  split at hp
  · exact (holds_iff_of_unionArgs rfl).mpr ⟨p, hp, hr⟩
  · exact (holds_iff_of_unionArgs rfl).mpr ⟨p, hp, hr⟩
  · exact List.mem_singleton.mp hp ▸ hr

lemma exists_holds_flattened (hr : Holds r h) : ∃ p ∈ flattened h, Holds r p := by
  unfold flattened
  split
  · exact (holds_iff_of_unionArgs rfl).mp hr
  · exact (holds_iff_of_unionArgs rfl).mp hr
  · exact ⟨h, List.mem_singleton_self h, hr⟩

lemma checkedArg_of_holds {message : String} (hr : Holds r h) (hc : checkedArg message h = .ok c) :
    c = h := by
  rcases checkedAs_eq_ok (checkedArg_eq_ok hc) with rfl | ⟨rfl, -⟩ | ⟨s, rfl, -⟩
  · rfl
  · exact absurd hr not_holds_null
  · exact absurd hr (not_holds rfl rfl rfl rfl nofun)

lemma exists_holds_of_unionOf (hne : r ≠ .builtin "NoneType") (he : unionOf hs = .ok e)
    (hr : Holds r e) : ∃ h ∈ hs, Holds r h := by
  obtain ⟨cs, hcs, hcases⟩ := unionOf_eq_ok he
  have hpiece : ∀ p ∈ dedup (cs.flatMap flattened), Holds r p → ∃ h ∈ hs, Holds r h := by
    intro p hp hr
    cases piece_of_checkedAll hcs (mem_of_mem_dedup hp) with
    | flattened hh hp => exact ⟨_, hh, holds_of_mem_flattened hp hr⟩
    | noneType =>
      exact absurd hr (not_holds rfl rfl rfl rfl fun h => hne (Hint.cls.inj h).symm)
    | forward s => exact absurd hr (not_holds rfl rfl rfl rfl nofun)
  rcases hcases with hsingle | rfl
  · exact hpiece e (hsingle ▸ List.mem_singleton_self e) hr
  · obtain ⟨p, hp, hr⟩ := (holds_iff_of_unionArgs rfl).mp hr
    exact hpiece p hp hr

lemma unhashableKindAll?_eq_none_iff :
    unhashableKindAll? hs = none ↔ ∀ h ∈ hs, h.isHashable = true := by
  induction hs with
  | nil => simp [unhashableKindAll?]
  | cons h hs ih =>
    rw [unhashableKindAll?, Option.or_eq_none_iff, ih, List.forall_mem_cons, isHashable,
      Option.isNone_iff_eq_none]

lemma isHashable_of_piece (hks : ∀ k ∈ ks, k.isHashable = true) (hp : Piece ks p) :
    p.isHashable = true := by
  cases hp with
  | @flattened k _ hk hp =>
    have hhash := hks k hk
    unfold flattened at hp
    split at hp
    · rw [isHashable, unhashableKind?, Option.isNone_iff_eq_none] at hhash
      exact unhashableKindAll?_eq_none_iff.mp hhash p hp
    · rw [isHashable, unhashableKind?, Option.isNone_iff_eq_none] at hhash
      exact unhashableKindAll?_eq_none_iff.mp hhash p hp
    · exact List.mem_singleton.mp hp ▸ hhash
  | noneType | forward => rfl

lemma dedupChecked_of_isHashable (h : ∀ x ∈ hs, x.isHashable = true) :
    dedupChecked hs = .ok (dedup hs) := by
  rw [dedupChecked, if_pos (List.all_eq_true.mpr h)]

lemma exists_unionOf (hne : ks ≠ []) (hcs : checkedAll unionArgument ks = .ok cs)
    (hhash : ∀ p ∈ cs.flatMap flattened, p.isHashable = true) :
    ∃ e, unionOf ks = .ok e := by
  have hdedup := dedupChecked_of_isHashable hhash
  rw [unionOf, if_neg (by simpa using hne), hcs]
  simp only [hdedup, bind, Except.bind]
  split
  · exact ⟨_, rfl⟩
  · exact ⟨_, rfl⟩

lemma holds_unionOf (hne : r ≠ .builtin "NoneType") (hargs : List.Forall₂ (Alike r) hs ks)
    (hhash : ∀ k ∈ ks, k.isHashable = true)
    (hkeeps : ∀ p q, Piece ks p → Piece ks q → eqv q p = true → Holds r p → Holds r q)
    (he : unionOf hs = .ok e) (hr : Holds r e) : ∃ e', unionOf ks = .ok e' ∧ Holds r e' := by
  obtain ⟨h, hh, hr⟩ := exists_holds_of_unionOf hne he hr
  obtain ⟨k, hk, hhk⟩ := exists_of_forall₂ hargs hh
  obtain ⟨cs, hcs, -⟩ := unionOf_eq_ok he
  have hchecks : ∀ k ∈ ks, ∃ c, checkedArg unionArgument k = .ok c := by
    intro k hk
    obtain ⟨h, hh, hkh⟩ := exists_of_forall₂ (R := fun k h => Alike r h k) hargs.flip hk
    obtain ⟨c, -, hc⟩ := exists_of_forall₂ (mapM_eq_ok_iff.mp hcs) hh
    have hok := hkh.checks
    rw [hc] at hok
    cases hck : checkedArg unionArgument k with
    | ok c => exact ⟨c, rfl⟩
    | error => simp [hck, Except.isOk, Except.toBool] at hok
  obtain ⟨cs', hcs'⟩ := exists_mapM_eq_ok hchecks
  have hpiece : ∀ p ∈ cs'.flatMap flattened, Piece ks p := fun p hp => piece_of_checkedAll hcs' hp
  obtain ⟨e', he'⟩ := exists_unionOf (List.ne_nil_of_mem hk) hcs'
    fun p hp => isHashable_of_piece hhash (hpiece p hp)
  refine ⟨e', he', ?_⟩
  obtain ⟨c, hc, hck⟩ := exists_of_forall₂ (mapM_eq_ok_iff.mp hcs') hk
  obtain rfl := checkedArg_of_holds (hhk.holds.mp hr) hck
  obtain ⟨p, hp, hrp⟩ := exists_holds_flattened (hhk.holds.mp hr)
  obtain ⟨q, hq, hrq⟩ := exists_holds_dedup
    (fun p hp q hq => hkeeps p q (hpiece p hp) (hpiece q hq))
    (List.mem_flatMap.mpr ⟨c, hc, hp⟩) hrp
  obtain ⟨cs'', hcs'', hcases⟩ := unionOf_eq_ok he'
  obtain rfl : cs' = cs'' := Except.ok.inj (hcs'.symm.trans hcs'')
  rcases hcases with hsingle | rfl
  · rw [hsingle] at hq
    exact List.mem_singleton.mp hq ▸ hrq
  · exact (holds_iff_of_unionArgs rfl).mpr ⟨q, hq, hrq⟩

end Unions

lemma forall₂_alike (h : List.Forall₂ (fun x y => eqv x y = true) hs ks)
    (hhs : ∀ x ∈ hs, x.isHashable = true) (hks : ∀ y ∈ ks, y.isHashable = true)
    (hsame : ∀ x ∈ hs, ∀ y, eqv x y = true → x.isHashable = true → y.isHashable = true →
      (Holds r x ↔ Holds r y)) : List.Forall₂ (Alike r) hs ks := by
  induction h with
  | nil => exact .nil
  | cons hxy _ ih =>
    rw [List.forall_mem_cons] at hhs hks hsame
    exact .cons (alike_of_eqv hxy (hsame.1 _ hxy hhs.1 hks.1)) (ih hhs.2 hks.2 hsame.2)

/-- Hints with equal arguments in brackets hold the same classes, if equal hints of no more weight
than the arguments do. -/
lemma exists_element_iff (hne : r ≠ .builtin "NoneType") (horigin : a.origin? = b.origin?)
    (hargs : List.Forall₂ (fun x y => eqv x y = true) a.args b.args)
    (ha : ∀ x ∈ a.args, x.isHashable = true) (hb : ∀ y ∈ b.args, y.isHashable = true)
    (hless : ∀ x y, weight 0 x ≤ weightAll 0 a.args → eqv x y = true → x.isHashable = true →
      y.isHashable = true → (Holds r x ↔ Holds r y)) :
    (∃ u, elementOf? a = .ok (some u) ∧ Holds r u) ↔
      ∃ u, elementOf? b = .ok (some u) ∧ Holds r u := by
  have hweight : weightAll 0 a.args = weightAll 0 b.args :=
    weightAll_eq_of_forall₂ (hargs.imp fun _ _ => weight_eq_of_eqv)
  have halike := forall₂_alike hargs ha hb fun x hx y => hless x y (weight_le_weightAll hx)
  -- the pieces of a union are no arguments, but weigh no more than they do
  have hkeeps : ∀ {ks : List Hint}, weightAll 0 ks = weightAll 0 a.args →
      (∀ k ∈ ks, k.isHashable = true) → ∀ p q, Piece ks p → Piece ks q → eqv q p = true →
      Holds r p → Holds r q := fun hks hhash p q hp hq hqp =>
    (hless q p (hks ▸ weight_le_of_piece hq) hqp (isHashable_of_piece hhash hq)
      (isHashable_of_piece hhash hp)).mpr
  constructor
  · rintro ⟨u, hu, hr⟩
    exact exists_element horigin halike
      (fun e he hr => holds_unionOf hne halike hb (hkeeps hweight.symm hb) he hr) hu hr
  · rintro ⟨u, hu, hr⟩
    have hflip : List.Forall₂ (Alike r) b.args a.args := (halike.imp fun _ _ => Alike.symm).flip
    exact exists_element horigin.symm hflip
      (fun e he hr => holds_unionOf hne hflip ha (hkeeps rfl ha) he hr) hu hr

lemma unhashableKindAll?_of_unionArgs (h : t.unionArgs? = some hs) (ht : t.isHashable = true) :
    ∀ x ∈ hs, x.isHashable = true := by
  refine unhashableKindAll?_eq_none_iff.mp ?_
  unfold unionArgs? at h
  split at h
  · rw [isHashable, unhashableKind?, Option.isNone_iff_eq_none] at ht
    exact Option.some.inj h ▸ ht
  · rw [isHashable, unhashableKind?, Option.isNone_iff_eq_none] at ht
    exact Option.some.inj h ▸ ht
  · cases h

/-- Equal hints that can be members of sets hold the same classes. -/
theorem holds_iff_of_eqv (hne : r ≠ .builtin "NoneType") (a b : Hint) (h : eqv a b = true)
    (ha : a.isHashable = true) (hb : b.isHashable = true) : Holds r a ↔ Holds r b := by
  have hless : ∀ x y, weight 0 x < weight 0 a → eqv x y = true → x.isHashable = true →
      y.isHashable = true → (Holds r x ↔ Holds r y) := fun x y hlt hxy hx hy =>
    holds_iff_of_eqv hne x y hxy hx hy
  have hlayer : ∀ x y, weight 0 x = weight 0 a → x.size < a.size → eqv x y = true →
      x.isHashable = true → y.isHashable = true → (Holds r x ↔ Holds r y) :=
    fun x y hsame hlt hxy hx hy => holds_iff_of_eqv hne x y hxy hx hy
  cases matching_of_eqv (P := fun x y => eqv x y = true) (fun _ _ _ hxy => hxy) h with
  | same => exact Iff.rfl
  | closed ha hb =>
    exact iff_of_false (not_holds_of_isClosed ha) (not_holds_of_isClosed hb)
  | @generic origin hs ks hargs | @applied origin hs ks hargs =>
    rw [isHashable, unhashableKind?, Option.isNone_iff_eq_none,
      unhashableKindAll?_eq_none_iff] at ha hb
    simp only [holds_generic_iff, holds_applied_iff]
    refine and_congr Iff.rfl (exists_element_iff hne rfl hargs ha hb fun x y hx => hless x y ?_)
    rw [weight]
    exact Nat.lt_succ_of_lt (Nat.lt_succ_of_le hx)
  | @union _ _ hs ks hargs hargs' left right =>
    have hhs := unhashableKindAll?_of_unionArgs hargs ha
    have hks := unhashableKindAll?_of_unionArgs hargs' hb
    have hlt : ∀ x ∈ hs, weight 0 x < weight 0 a := fun x hx => by
      rw [weight_of_unionArgs hargs]
      exact Nat.lt_succ_of_le (weight_le_weightAll hx)
    rw [holds_iff_of_unionArgs hargs, holds_iff_of_unionArgs hargs']
    constructor
    · rintro ⟨x, hx, hr⟩
      obtain ⟨y, hy, hxy⟩ := left x hx
      exact ⟨y, hy, (hless x y (hlt x hx) hxy (hhs x hx) (hks y hy)).mp hr⟩
    · rintro ⟨y, hy, hr⟩
      obtain ⟨x, hx, hxy⟩ := right y hy
      exact ⟨x, hx, (hless x y (hlt x hx) hxy (hhs x hx) (hks y hy)).mpr hr⟩
  | literal => exact iff_of_false not_holds_literal not_holds_literal
  | @annotated x y xs ys hxy =>
    rw [isHashable, unhashableKind?, Option.isNone_iff_eq_none, Option.or_eq_none_iff] at ha hb
    rw [holds_annotated_iff, holds_annotated_iff]
    exact hlayer x y (by rw [weight]) (by simp [size]) hxy (Option.isNone_iff_eq_none.mpr ha.1)
      (Option.isNone_iff_eq_none.mpr hb.1)
  | @required x y hxy =>
    rw [isHashable, unhashableKind?] at ha hb
    rw [holds_required_iff, holds_required_iff]
    exact hlayer x y (by rw [weight]) (by simp [size]) hxy ha hb
  | @notRequired x y hxy =>
    rw [isHashable, unhashableKind?] at ha hb
    rw [holds_notRequired_iff, holds_notRequired_iff]
    exact hlayer x y (by rw [weight]) (by simp [size]) hxy ha hb
  | @intersection hs ks hargs =>
    rw [isHashable, unhashableKind?, Option.isNone_iff_eq_none,
      unhashableKindAll?_eq_none_iff] at ha hb
    have halike := forall₂_alike hargs ha hb fun x hx y => hless x y (by
      rw [weight]
      exact Nat.lt_succ_of_le (weight_le_weightAll hx))
    rw [holds_intersection_iff, holds_intersection_iff]
    constructor
    · rintro ⟨x, hx, hr⟩
      obtain ⟨y, hy, hxy⟩ := exists_of_forall₂ halike hx
      exact ⟨y, hy, hxy.holds.mp hr⟩
    · rintro ⟨y, hy, hr⟩
      obtain ⟨x, hx, hxy⟩ := exists_of_forall₂ (R := fun y x => Alike r x y) halike.flip hy
      exact ⟨x, hx, hxy.holds.mpr hr⟩
termination_by (weight 0 a, a.size)
decreasing_by
  · exact Prod.Lex.left _ _ hlt
  · rw [hsame]
    exact Prod.Lex.right _ hlt

end CallSchema.Hint

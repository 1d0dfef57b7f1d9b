import CallSchema.Module.Load
import CallSchema.Proofs.HintResolution
import CallSchema.Proofs.KeyedPairs
import CallSchema.Proofs.RepeatedWarnings
import Mathlib.Data.List.Nodup

/-!
# Sharing the hints of classes

What is kept of a class is what a new evaluation of its hints gives, whether they can be evaluated
or not. So questions that share hints are answered as if each evaluated its own. They only warn
less: that the hints of a class cannot be evaluated is not said where it was said before.
-/

namespace CallSchema

namespace Context

variable {ctx : Context} {known : HintCache} {c d : ClassInfo} {i : Nat}

/-- The classes are numbered in the order in which they were made. -/
def IsNumbered (ctx : Context) : Prop :=
  ctx.classes.map (·.identity) = List.range ctx.classes.length

/-- What is kept are hints of described classes as evaluating them again gives them. -/
def Knows (ctx : Context) (known : HintCache) : Prop :=
  ∀ x ∈ known, ∃ c, ctx.info? x.1 = some c ∧ (ctx.fieldHints c).value = .ok x.2

/-- The classes whose hints are kept although they cannot be evaluated. -/
def told (ctx : Context) (known : HintCache) : List Nat :=
  known.flatMap fun x => ((ctx.info? x.1).map fun c =>
    Warning.classes (ctx.fieldHints c).warnings).getD []

/-- A computation that shares hints gives what one without does: whatever is kept before, it has the
same result, it warns of what has not been told, and what it keeps is right again. -/
structure Shares (ctx : Context) {α : Type} (x : Sharing α) (y : Outcome α) : Prop where
  value : ∀ known, ctx.Knows known → (x known).1.value = y.value
  knows : ∀ known, ctx.Knows known → ctx.Knows (x known).2
  told : ∀ known, ctx.Knows known → ∀ i, i ∈ ctx.told (x known).2 ↔
    i ∈ ctx.told known ∨ i ∈ Warning.classes y.warnings
  warnings : ctx.IsNumbered → ∀ known, ctx.Knows known →
    (x known).1.warnings = (Warning.dropRepeated (ctx.told known) y.warnings).2

section Classes

lemma eq_of_identity_eq (h : ctx.IsNumbered) (hc : c ∈ ctx.classes) (hd : d ∈ ctx.classes)
    (hcd : c.identity = d.identity) : c = d := by
  have hnodup : (ctx.classes.map (·.identity)).Nodup := h ▸ List.nodup_range
  exact List.inj_on_of_nodup_map hnodup hc hd hcd

lemma info?_of_classOf? {h : Hint} (hc : ctx.classOf? h = some c) : ctx.info? c.ref = some c := by
  obtain ⟨-, rfl⟩ := exists_class hc
  exact hc

lemma info?_of_unpackedFields? {h : Hint} (hc : ctx.unpackedFields? h = some c) :
    ctx.info? c.ref = some c := by
  unfold unpackedFields? at hc
  split at hc
  · exact info?_of_classOf? (Option.filter_eq_some_iff.mp hc).1
  · exact info?_of_classOf? (Option.filter_eq_some_iff.mp hc).1
  · cases hc

lemma knows_nil : ctx.Knows [] := fun _ h => absurd h List.not_mem_nil

lemma mem_told : i ∈ ctx.told known ↔
    ∃ x ∈ known, ∃ c, ctx.info? x.1 = some c ∧ i ∈ Warning.classes (ctx.fieldHints c).warnings := by
  rw [told, List.mem_flatMap]
  refine exists_congr fun x => and_congr_right fun _ => ?_
  cases ctx.info? x.1 <;> simp

lemma fieldHints_cases (ctx : Context) (c : ClassInfo) :
    ∃ hints, (ctx.fieldHints c).value = .ok hints ∧
      ((ctx.fieldHints c).warnings = [] ∨
        ∃ message, (ctx.fieldHints c).warnings = [.classHints c.identity c.name message]) := by
  unfold fieldHints
  cases ctx.evaluatedHints c with
  | ok hints => exact ⟨hints, rfl, .inl rfl⟩
  | error e => exact ⟨c.annotations, rfl, .inr ⟨e.message, rfl⟩⟩

lemma eq_of_mem_classes_fieldHints (h : i ∈ Warning.classes (ctx.fieldHints c).warnings) :
    i = c.identity := by
  obtain ⟨w, hw, hi⟩ := List.mem_filterMap.mp h
  obtain ⟨message, rfl⟩ := mem_warnings_fieldHints hw
  exact (Option.some.inj hi).symm

end Classes

section Computations

variable {α β : Type} {x : Sharing α} {y : Outcome α} {f : α → Sharing β} {k : α → Outcome β}
  {o : Outcome α} {a : α}

lemma shares_answer (ho : ∀ w ∈ o.warnings, w.class? = none) : Shares ctx (.answer o) o where
  value _ _ := rfl
  knows _ h := h
  told known _ i := by
    have hnone : Warning.classes o.warnings = [] := List.filterMap_eq_nil_iff.mpr ho
    simp [Sharing.answer, hnone]
  warnings _ known _ := by rw [Warning.dropRepeated_of_forall ho]; rfl

lemma shares_pure (a : α) : Shares ctx (pure a) (pure a) :=
  shares_answer (o := pure a) fun _ h => absurd h List.not_mem_nil

lemma Shares.bind_of_error {e : Failure} (hx : Shares ctx x y) (hy : y.value = .error e) :
    Shares ctx (x >>= f) (y >>= k) := by
  have hrun : ∀ known, ctx.Knows known →
      (x >>= f) known = (⟨(x known).1.warnings, .error e⟩, (x known).2) := by
    intro known hknown
    change Sharing.bind x f known = _
    simp only [Sharing.bind, hx.value known hknown, hy]
  have hbind : y >>= k = ⟨y.warnings, .error e⟩ := by
    change Outcome.bind y k = _
    simp only [Outcome.bind, hy]
  rw [hbind]
  constructor
  · intro known hknown
    rw [hrun known hknown]
  · intro known hknown
    rw [hrun known hknown]
    exact hx.knows known hknown
  · intro known hknown
    rw [hrun known hknown]
    exact hx.told known hknown
  · intro hnumbered known hknown
    rw [hrun known hknown]
    exact hx.warnings hnumbered known hknown

lemma Shares.bind_of_ok (hx : Shares ctx x y) (hy : y.value = .ok a)
    (hnext : Shares ctx (f a) (k a)) : Shares ctx (x >>= f) (y >>= k) := by
  have hrun : ∀ known, ctx.Knows known →
      (x >>= f) known =
        (⟨(x known).1.warnings ++ (f a (x known).2).1.warnings, (f a (x known).2).1.value⟩,
          (f a (x known).2).2) := by
    intro known hknown
    change Sharing.bind x f known = _
    simp only [Sharing.bind, hx.value known hknown, hy]
  have hbind : y >>= k = ⟨y.warnings ++ (k a).warnings, (k a).value⟩ := by
    change Outcome.bind y k = _
    simp only [Outcome.bind, hy]
  rw [hbind]
  constructor
  · intro known hknown
    rw [hrun known hknown]
    exact hnext.value _ (hx.knows known hknown)
  · intro known hknown
    rw [hrun known hknown]
    exact hnext.knows _ (hx.knows known hknown)
  · intro known hknown i
    rw [hrun known hknown, Warning.classes_append, List.mem_append, ← or_assoc,
      ← hx.told known hknown]
    exact hnext.told _ (hx.knows known hknown) i
  · intro hnumbered known hknown
    -- the second computation begins with all told that the first has told of
    have htold : ∀ i, i ∈ ctx.told (x known).2 ↔
        i ∈ (Warning.dropRepeated (ctx.told known) y.warnings).1 := by
      intro i
      rw [hx.told known hknown, Warning.mem_dropRepeated]
    rw [hrun known hknown, Warning.dropRepeated_append, hx.warnings hnumbered known hknown,
      hnext.warnings hnumbered _ (hx.knows known hknown), Warning.dropRepeated_congr htold]

lemma Shares.bind (hx : Shares ctx x y) (hf : ∀ a, y.value = .ok a → Shares ctx (f a) (k a)) :
    Shares ctx (x >>= f) (y >>= k) := by
  cases hy : y.value with
  | error e => exact hx.bind_of_error hy
  | ok a => exact hx.bind_of_ok hy (hf a hy)

lemma Shares.alone_eq (h : Shares ctx x y) (hnumbered : ctx.IsNumbered) :
    x.alone = ⟨Warning.oncePerClass y.warnings, y.value⟩ := by
  have hvalue : x.alone.value = y.value := h.value [] knows_nil
  have hwarnings : x.alone.warnings = Warning.oncePerClass y.warnings :=
    h.warnings hnumbered [] knows_nil
  rw [← hvalue, ← hwarnings]

end Computations

section Hints

variable {hints : Dict Hint}

lemma sharedHints_of_known (h : known.lookup c.ref = some hints) :
    ctx.sharedHints c known = (.ok hints, known) := by
  unfold sharedHints
  rw [h]

lemma sharedHints_of_unknown (h : known.lookup c.ref = none)
    (hvalue : (ctx.fieldHints c).value = .ok hints) :
    ctx.sharedHints c known = (ctx.fieldHints c, (c.ref, hints) :: known) := by
  unfold sharedHints
  rw [h]
  simp only [hvalue]

lemma exists_of_lookup (hc : ctx.info? c.ref = some c) (hknown : ctx.Knows known)
    (h : known.lookup c.ref = some hints) : (ctx.fieldHints c).value = .ok hints ∧
      ∀ i ∈ Warning.classes (ctx.fieldHints c).warnings, i ∈ ctx.told known := by
  have hmem : (c.ref, hints) ∈ known := by
    obtain ⟨before, after, heq, -⟩ := List.lookup_eq_some_iff.mp h
    rw [heq]
    exact List.mem_append_right before List.mem_cons_self
  obtain ⟨d, hd, hvalue⟩ := hknown _ hmem
  obtain rfl : c = d := Option.some.inj (hc.symm.trans hd)
  exact ⟨hvalue, fun i hi => mem_told.mpr ⟨_, hmem, c, hc, hi⟩⟩

lemma not_mem_told (hnumbered : ctx.IsNumbered) (hc : ctx.info? c.ref = some c)
    (h : known.lookup c.ref = none) : c.identity ∉ ctx.told known := by
  intro hmem
  obtain ⟨x, hx, d, hd, hi⟩ := mem_told.mp hmem
  have hcd : c = d := eq_of_identity_eq hnumbered (List.mem_of_find?_eq_some hc)
    (List.mem_of_find?_eq_some hd) (eq_of_mem_classes_fieldHints hi)
  have href : (d.ref == x.1) = true := List.find?_some (p := fun a : ClassInfo => a.ref == x.1) hd
  have hne := List.lookup_eq_none_iff.mp h x hx
  rw [hcd, eq_of_beq href] at hne
  simp at hne

lemma told_cons (hc : ctx.info? c.ref = some c) : i ∈ ctx.told ((c.ref, hints) :: known) ↔
    i ∈ ctx.told known ∨ i ∈ Warning.classes (ctx.fieldHints c).warnings := by
  have happ : ctx.told ((c.ref, hints) :: known) =
      Warning.classes (ctx.fieldHints c).warnings ++ ctx.told known := by
    simp [told, hc]
  rw [happ, List.mem_append, or_comm]

lemma shares_sharedHints (hc : ctx.info? c.ref = some c) :
    Shares ctx (ctx.sharedHints c) (ctx.fieldHints c) := by
  obtain ⟨hints, hvalue, hwarnings⟩ := fieldHints_cases ctx c
  constructor
  · intro known hknown
    cases h : known.lookup c.ref with
    | some kept =>
      rw [sharedHints_of_known h, (exists_of_lookup hc hknown h).1]
      rfl
    | none => rw [sharedHints_of_unknown h hvalue]
  · intro known hknown
    cases h : known.lookup c.ref with
    | some kept =>
      rw [sharedHints_of_known h]
      exact hknown
    | none =>
      rw [sharedHints_of_unknown h hvalue]
      exact List.forall_mem_cons.mpr ⟨⟨c, hc, hvalue⟩, hknown⟩
  · intro known hknown i
    cases h : known.lookup c.ref with
    | some kept =>
      rw [sharedHints_of_known h]
      exact ⟨.inl, fun hi => hi.elim id ((exists_of_lookup hc hknown h).2 i)⟩
    | none =>
      rw [sharedHints_of_unknown h hvalue]
      exact told_cons hc
  · intro hnumbered known hknown
    cases h : known.lookup c.ref with
    | some kept =>
      rw [sharedHints_of_known h]
      have htold := (exists_of_lookup hc hknown h).2
      rcases hwarnings with hnone | ⟨message, hone⟩
      · rw [hnone]
        rfl
      · rw [hone] at htold ⊢
        rw [Warning.dropRepeated_told rfl (htold c.identity List.mem_cons_self)]
        rfl
    | none =>
      rw [sharedHints_of_unknown h hvalue]
      rcases hwarnings with hnone | ⟨message, hone⟩
      · rw [hnone]
        rfl
      · rw [hone, Warning.dropRepeated_new rfl (not_mem_told hnumbered hc h)]
        rfl

end Hints

section Members

variable {α β : Type} {x : Sharing α} {f : α → Sharing β} {a : α} {hints : Dict Hint} {m : ModelInfo}
  {name : String}

lemma bind_of_told (h : x known = (.ok a, known)) : (x >>= f) known = f a known := by
  change Sharing.bind x f known = _
  simp [Sharing.bind, h, Outcome.ok]

lemma mapInOrder_of_told {k : α → β} {as : List α}
    (h : ∀ a ∈ as, f a known = (.ok (k a), known)) :
    mapInOrder f as known = (.ok (as.map k), known) := by
  induction as with
  | nil => rfl
  | cons a as ih =>
    have hrest := ih fun b hb => h b (List.mem_cons_of_mem a hb)
    rw [mapInOrder, bind_of_told (h a List.mem_cons_self), bind_of_told hrest]
    rfl

lemma mapInOrder_map {m : Type → Type} [Monad m] {γ : Type} (f : β → m γ) (k : α → β)
    (as : List α) : mapInOrder f (as.map k) = mapInOrder (fun a => f (k a)) as := by
  induction as with
  | nil => rfl
  | cons a as ih =>
    rw [List.map_cons, mapInOrder, mapInOrder, ih]

lemma sharing_bind_assoc {γ : Type} {k : β → Sharing γ} :
    ((x >>= f) >>= k) = x >>= fun a => f a >>= k := by
  funext known
  change Sharing.bind (Sharing.bind x f) k known =
    Sharing.bind x (fun a => Sharing.bind (f a) k) known
  unfold Sharing.bind
  cases hx : (x known).1.value with
  | error e => simp [hx]
  | ok a =>
    cases hf : (f a (x known).2).1.value with
    | error e => simp [hx, hf]
    | ok b => simp [hx, hf]

lemma sharedHints_bind_congr {f k : Dict Hint → Sharing α}
    (h : ∀ hints known, known.lookup c.ref = some hints → f hints known = k hints known) :
    (ctx.sharedHints c >>= f) = (ctx.sharedHints c >>= k) := by
  funext known
  change Sharing.bind _ f known = Sharing.bind _ k known
  obtain ⟨hints, hvalue, -⟩ := fieldHints_cases ctx c
  cases hlookup : known.lookup c.ref with
  | some kept =>
    simp only [Sharing.bind, sharedHints_of_known hlookup, Outcome.ok, h kept known hlookup]
  | none =>
    have hkept : ((c.ref, hints) :: known).lookup c.ref = some hints := List.lookup_cons_self
    simp only [Sharing.bind, sharedHints_of_unknown hlookup hvalue, hvalue, h hints _ hkept]

/-- A computation asks for the hints of a class before anything else. -/
def AsksFirst (ctx : Context) (c : ClassInfo) (x : Sharing α) : Prop :=
  ∃ f, x = ctx.sharedHints c >>= f

lemma AsksFirst.bind (h : ctx.AsksFirst c x) : ctx.AsksFirst c (x >>= f) := by
  obtain ⟨k, rfl⟩ := h
  exact ⟨_, sharing_bind_assoc⟩

lemma AsksFirst.eq_bind (h : ctx.AsksFirst c x) : x = ctx.sharedHints c >>= fun _ => x := by
  obtain ⟨f, rfl⟩ := h
  refine sharedHints_bind_congr fun hints known hlookup => ?_
  exact (bind_of_told (sharedHints_of_known hlookup)).symm

/-- A member of a class that is no model, by the hints of its fields. -/
def memberOf (ctx : Context) (c : ClassInfo) (hints : Dict Hint) (name : String) : Member Hint :=
  let h := (hints.get? name).getD Hint.anyHint
  { name, type := h, isOptional := ctx.isOptionalMember c name h, description := noteOf h }

lemma sharedMember_of_known (hmodel : c.model = none) (h : known.lookup c.ref = some hints) :
    ctx.sharedMember c name known = (.ok (ctx.memberOf c hints name), known) := by
  have hask : ∀ {α : Type} {k : Dict Hint → Sharing α},
      (ctx.sharedHints c >>= k) known = k hints known := bind_of_told (sharedHints_of_known h)
  have htype : ctx.sharedMemberType c name known =
      (.ok ((hints.get? name).getD Hint.anyHint), known) := by
    unfold sharedMemberType
    rw [hmodel]
    exact hask
  have hoptional : ctx.sharedIsOptional c name known =
      (.ok (ctx.isOptionalMember c name ((hints.get? name).getD Hint.anyHint)), known) := by
    unfold sharedIsOptional isOptionalMember
    rw [hmodel]
    cases c.keys with
    | none => cases ctx.dataFields? c <;> cases ctx.tupleDefaults? c <;> rfl
    | some keys =>
      dsimp only
      cases keys.optional.contains name with
      | true => rfl
      | false =>
        refine hask.trans ?_
        cases hints.get? name <;> rfl
  have hdescription : ctx.sharedDescription c name known =
      (.ok (noteOf ((hints.get? name).getD Hint.anyHint)), known) := by
    unfold sharedDescription
    rw [hmodel]
    refine hask.trans ?_
    cases hints.get? name <;> rfl
  unfold sharedMember
  rw [bind_of_told htype, bind_of_told hoptional, bind_of_told hdescription]
  rfl

/-- A member of a model. -/
def fieldMember (x : String × ModelField) : Member Hint :=
  { name := x.1, type := x.2.type, isOptional := x.2.hasDefault, description := x.2.description }

lemma sharedMember_of_model (hmodel : c.model = some m) {x : String × ModelField}
    (hx : x ∈ m.fields.pairs) : ctx.sharedMember c x.1 known = (.ok (fieldMember x), known) := by
  have hfield : m.field x.1 = pure x.2 := by
    unfold ModelInfo.field Dict.get?
    rw [(Keyed.get?_eq_some_iff_mem m.fields.nodup).mpr hx]
  unfold sharedMember sharedMemberType sharedIsOptional sharedDescription
  simp only [hmodel, hfield]
  rfl

lemma asksFirst_mapInOrder (hmodel : c.model = none) (names : List String) :
    ctx.AsksFirst c (mapInOrder (ctx.sharedMember c) (name :: names)) := by
  have htype : ctx.AsksFirst c (ctx.sharedMemberType c name) := by
    unfold sharedMemberType
    rw [hmodel]
    exact ⟨_, rfl⟩
  exact htype.bind.bind

lemma sharedMembers_of_model (hmodel : c.model = some m) :
    ctx.sharedMembers c = pure (m.fields.pairs.map fieldMember) := by
  funext known
  have hnames : ctx.sharedMemberNames c known = (.ok (m.fields.pairs.map (·.1)), known) := by
    unfold sharedMemberNames
    rw [hmodel]
    rfl
  unfold sharedMembers
  rw [bind_of_told hnames, mapInOrder_map]
  exact mapInOrder_of_told fun x hx => sharedMember_of_model hmodel hx

lemma sharedHints_bind_mapInOrder (hmodel : c.model = none) (names : Dict Hint → List String) :
    (ctx.sharedHints c >>= fun hints => mapInOrder (ctx.sharedMember c) (names hints)) =
      ctx.sharedHints c >>= fun hints => pure ((names hints).map (ctx.memberOf c hints)) :=
  sharedHints_bind_congr fun _ _ hlookup =>
    mapInOrder_of_told fun _ _ => sharedMember_of_known hmodel hlookup

lemma map_memberOf_names (hints : Dict Hint) :
    (hints.pairs.map (·.1)).map (ctx.memberOf c hints) = hints.pairs.map fun x =>
      { name := x.1, type := x.2, isOptional := ctx.isOptionalMember c x.1 x.2,
        description := noteOf x.2 } := by
  rw [List.map_map]
  refine List.map_congr_left fun x hx => ?_
  have hget : hints.get? x.1 = some x.2 := (Keyed.get?_eq_some_iff_mem hints.nodup).mpr hx
  simp only [Function.comp, memberOf, hget, Option.getD_some]

lemma shares_sharedMembers (hc : ctx.info? c.ref = some c) :
    Shares ctx (ctx.sharedMembers c) (ctx.members c) := by
  cases hmodel : c.model with
  | some m =>
    rw [sharedMembers_of_model hmodel]
    unfold members
    rw [hmodel]
    exact shares_pure _
  | none =>
    unfold sharedMembers sharedMemberNames members
    rw [hmodel]
    cases ctx.dataFields? c with
    | some fields =>
      dsimp only
      cases hnames : (fields.pairs.filter (·.2.isMember)).map (·.1) with
      | nil => exact shares_pure []
      | cons name names =>
        -- the hints are asked for once, with the first member
        have hfirst : ctx.AsksFirst c (mapInOrder (ctx.sharedMember c) (name :: names)) :=
          asksFirst_mapInOrder hmodel names
        change Shares ctx (mapInOrder (ctx.sharedMember c) (name :: names)) _
        rw [hfirst.eq_bind, sharedHints_bind_mapInOrder hmodel fun _ => name :: names]
        exact (shares_sharedHints hc).bind fun hints _ => shares_pure _
    | none =>
      dsimp only
      cases c.keys.isSome || ctx.isNamedTuple c with
      | false => exact shares_pure []
      | true =>
        change Shares ctx ((ctx.sharedHints c >>= fun hints => pure (hints.pairs.map (·.1))) >>=
          mapInOrder (ctx.sharedMember c)) _
        rw [sharing_bind_assoc]
        change Shares ctx (ctx.sharedHints c >>= fun hints =>
          mapInOrder (ctx.sharedMember c) (hints.pairs.map (·.1))) _
        rw [sharedHints_bind_mapInOrder hmodel]
        refine (shares_sharedHints hc).bind fun hints _ => ?_
        rw [map_memberOf_names]
        exact shares_pure _

end Members

section Resolving

variable {τ ι : Type} {g : TypeGraph τ ι} {members : τ → Sharing (List (Member τ))} {t : τ}
  {limit : Nat} {s : List ι}

lemma kept_shares (ctx : Context) :
    TypeGraph.Kept (fun w => w.class? = none) fun α (x : Sharing α) (y : Outcome α) =>
      Shares ctx x y where
  pure a := shares_pure a
  answer ho := shares_answer ho
  ask ho h := (shares_answer ho).bind h
  bind hx h := hx.bind fun a _ => h a

lemma kept_shares_outcome (ctx : Context) (s : List ι) :
    TypeGraph.Kept (fun w => w.class? = none) fun α (x : Sharing α) (y : Resolving τ ι α) =>
      (y s).inProgress = s ∧ Shares ctx x (y s).outcome where
  pure a := ⟨rfl, shares_pure a⟩
  answer ho := ⟨rfl, shares_answer ho⟩
  ask {α β o f k} ho h := by
    refine ⟨Resolving.inProgress_bind rfl fun a ha => (h a ha).1, ?_⟩
    rw [Resolving.outcome_bind]
    exact (shares_answer ho).bind fun a ha => (h a ha).2
  bind {α β x y f k} hx h := by
    refine ⟨Resolving.inProgress_bind hx.1 fun a _ => (h a).1, ?_⟩
    rw [Resolving.outcome_bind, hx.1]
    exact hx.2.bind fun a _ => (h a).2

lemma shares_shapeWith (hmembers : Shares ctx (members t) (g.members t)) :
    Shares ctx (g.shapeWith members t) (g.shape t) := by
  unfold TypeGraph.shape TypeGraph.shapeWith
  split
  · exact shares_pure _
  cases g.enumeration? t with
  | some => exact shares_pure _
  | none =>
    cases g.primitive? t with
    | some => exact shares_pure _
    | none =>
      dsimp only
      split
      · exact (shares_answer fun _ h => absurd h List.not_mem_nil).bind fun _ _ => shares_pure _
      refine hmembers.bind fun ms _ => ?_
      repeat' split
      all_goals exact shares_pure _

/-- A resolver that shares hints resolves a type as one that keeps nothing of them. -/
lemma shares_resolvingWith [BEq ι] (hmembers : ∀ t, Shares ctx (members t) (g.members t)) :
    Shares ctx (g.resolvingWith members limit s t) (g.resolving limit t s).outcome := by
  induction limit generalizing t s with
  | zero => exact shares_answer fun _ h => absurd h List.not_mem_nil
  | succ limit ih =>
    unfold TypeGraph.resolvingWith
    dsimp only
    cases hs : s.contains (g.identity t) with
    | true =>
      rw [TypeGraph.resolving_of_inProgress hs]
      have hrecursive : ∀ w ∈ (Outcome.warn (.recursiveType (g.describe t))).warnings,
          w.class? = none := fun w hw => List.mem_singleton.mp hw ▸ rfl
      exact (kept_shares ctx).ask hrecursive fun _ _ => shares_pure _
    | false =>
      rw [TypeGraph.resolving_of_not_inProgress hs]
      change Shares ctx _ (g.resolveByRules (g.resolving limit) t (g.identity t :: s)).outcome
      unfold TypeGraph.resolveByRules
      rw [Resolving.outcome_bind]
      refine (shares_shapeWith (hmembers t)).bind fun shape hshape => ?_
      exact ((kept_shares_outcome ctx (g.identity t :: s)).resolveShapeWith (fun _ => rfl) hshape
        fun u _ => ⟨TypeGraph.inProgress_resolving, ih⟩).2

lemma shares_sharedMembersOf (h : Hint) :
    Shares ctx (ctx.sharedMembersOf h) (ctx.graph.members h) := by
  rw [graph, members_graphWith]
  unfold sharedMembersOf
  cases hc : ctx.classOf? h.strip with
  | some c => exact shares_sharedMembers (info?_of_classOf? hc)
  | none => exact shares_pure _

lemma shares_sharedResolveOptional (h : Hint) :
    Shares ctx (ctx.sharedResolveOptional h) (ctx.resolveOptional h) :=
  ((kept_shares_outcome ctx []).resolveOptionalWith _ _ fun _ _ =>
    ⟨TypeGraph.inProgress_resolving, shares_resolvingWith shares_sharedMembersOf⟩).2

end Resolving

section Functions

variable {docs : List (String × String)} {hints : List (String × Hint)}

lemma shares_fieldParams (hc : ctx.info? c.ref = some c) :
    Shares ctx (fieldParamsWith ctx.askingShared docs c) (ctx.fieldParams docs c) :=
  (shares_sharedMembers hc).bind fun _ _ => (kept_shares ctx).mapInOrder fun m _ =>
    (shares_sharedResolveOptional m.type).bind fun (_, _) _ => shares_pure _

lemma shares_signatureParams (p : SignatureParam) :
    Shares ctx (ctx.signatureParamsWith ctx.askingShared docs hints p)
      (ctx.signatureParams docs hints p) := by
  unfold signatureParams signatureParamsWith
  dsimp only
  split
  · exact shares_pure _
  split
  · cases hc : (hints.lookup p.name).bind ctx.unpackedFields? with
    | none => exact shares_pure _
    | some c =>
      obtain ⟨h, -, hc⟩ := Option.bind_eq_some_iff.mp hc
      exact shares_fieldParams (info?_of_unpackedFields? hc)
  · cases hints.lookup p.name with
    | none => exact (shares_pure _).bind fun (_, _) _ => shares_pure _
    | some h => exact (shares_sharedResolveOptional h).bind fun (_, _) _ => shares_pure _

lemma class?_of_hints {f : Callable} {w : Warning} (h : w ∈ (f.hints ctx).warnings) :
    w.class? = none := by
  unfold Callable.hints at h
  split at h
  · exact absurd h List.not_mem_nil
  · obtain rfl := List.mem_singleton.mp h
    rfl

lemma class?_of_uniqueParams {function : String} {seen : List String} {ps : List Param}
    {w : Warning} (h : w ∈ (uniqueParams function seen ps).warnings) : w.class? = none := by
  induction ps generalizing seen with
  | nil => exact absurd h List.not_mem_nil
  | cons p ps ih =>
    rw [uniqueParams] at h
    split at h
    · rcases Outcome.mem_warnings_bind.mp h with h | ⟨-, -, h⟩
      · obtain rfl := List.mem_singleton.mp h
        rfl
      · exact ih h
    · rcases Outcome.mem_warnings_bind.mp h with h | ⟨_, _, h⟩
      · exact ih h
      · exact absurd h List.not_mem_nil

lemma shares_document (f : Callable) (given : Option String) :
    Shares ctx (ctx.documentShared f given) (ctx.document f given) := by
  have hmade : ∀ {α : Type} (x : Except Failure α),
      Shares ctx (.answer (Outcome.ofExcept x)) (Outcome.ofExcept x) := fun x =>
    shares_answer fun _ h => absurd h List.not_mem_nil
  unfold documentShared document documentWith
  refine (hmade _).bind fun doc _ => ?_
  cases f.params with
  | none => exact hmade _
  | some params =>
    refine (shares_answer fun _ => class?_of_hints).bind fun hints _ => ?_
    refine ((kept_shares ctx).mapInOrder fun p _ => shares_signatureParams p).bind fun found _ => ?_
    exact (shares_answer fun _ => class?_of_uniqueParams).bind fun unique _ => hmade _

end Functions

end Context

namespace Sources

lemma shares_documentAll (ctx : Context) (home : String) (m : Module) :
    ctx.Shares (mapInOrder (fun (name, f) => ctx.documentShared f (some name))
        (callables ctx home m))
      (mapInOrder (fun (name, f) => ctx.document f (some name)) (callables ctx home m)) :=
  (Context.kept_shares ctx).mapInOrder fun x _ => Context.shares_document x.2 (some x.1)

lemma value_documentAll (ctx : Context) (home : String) (m : Module) :
    (documentAll ctx home m).value =
      (mapInOrder (fun (name, f) => ctx.document f (some name)) (callables ctx home m)).value :=
  (shares_documentAll ctx home m).value [] Context.knows_nil

end Sources

end CallSchema

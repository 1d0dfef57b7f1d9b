import CallSchema.Class.Define
import CallSchema.Proofs.InheritedHints

/-!
# The fields of classes as they are made

Data classes, tuples with named fields and validated models get their fields when they are made,
each kind in its own way. In all of them fields are in the order in which they are declared: those
of ancestors before those of the class itself, and a field that is declared again in the place where
it was declared first.
-/

namespace CallSchema

namespace Dict

variable {α β : Type}

lemma keys_foldl_putAll (f : β → Dict α) (bs : List β) (d : Dict α) :
    (bs.foldl (fun d b => d.putAll (f b).pairs) d).keys =
      (d.keys ++ bs.flatMap fun b => (f b).keys).eraseDups := by
  induction bs generalizing d with
  | nil =>
    rw [List.flatMap_nil, List.append_nil]
    exact (Keyed.eraseDups_of_nodup d.nodup).symm
  | cons b bs ih =>
    rw [List.foldl_cons, ih, keys_putAll, Keyed.eraseDups_eraseDups_append, List.flatMap_cons,
      List.append_assoc]

lemma get?_foldl_putAll (f : β → Dict α) (bs : List β) (d : Dict α) (key : String) :
    (bs.foldl (fun d b => d.putAll (f b).pairs) d).get? key =
      (bs.reverse.findSome? fun b => (f b).get? key).or (d.get? key) := by
  induction bs generalizing d with
  | nil => rfl
  | cons b bs ih =>
    rw [List.foldl_cons, ih, get?_putAll, List.reverse_cons, List.findSome?_append,
      List.findSome?_singleton, Option.or_assoc]

end Dict

section Made

/-- What a computation gives, if it gives anything, satisfies `P`. -/
def Yields {α : Type} (P : α → Prop) (x : Except Failure α) : Prop := ∀ a, x = .ok a → P a

variable {α β : Type} {P : α → Prop} {Q : β → Prop} {x : Except Failure α}
  {f : α → Except Failure β}

lemma yields_ok {a : α} (h : P a) : Yields P (.ok a) := fun _ ha => Except.ok.inj ha ▸ h

lemma yields_error (e : Failure) : Yields P (.error e) := fun _ ha => by cases ha

lemma Yields.bind (hx : Yields P x) (h : ∀ a, P a → Yields Q (f a)) : Yields Q (x >>= f) := by
  intro b hb
  obtain ⟨a, ha, hb⟩ := bind_eq_ok_iff.mp hb
  exact h a (hx a ha) b hb

lemma yields_bind (h : ∀ a, Yields Q (f a)) : Yields Q (x >>= f) := by
  intro b hb
  obtain ⟨a, -, hb⟩ := bind_eq_ok_iff.mp hb
  exact h a b hb

variable {o : Outcome α} {k : α → Outcome β}

lemma yields_value_bind (h : ∀ a, Yields Q (k a).value) : Yields Q (o >>= k).value := by
  intro b hb
  obtain ⟨a, -, hb⟩ := Outcome.value_bind_eq_ok.mp hb
  exact h a b hb

lemma yields_value_of_bind (ho : Yields P o.value) (h : ∀ a, P a → Yields Q (k a).value) :
    Yields Q (o >>= k).value := by
  intro b hb
  obtain ⟨a, ha, hb⟩ := Outcome.value_bind_eq_ok.mp hb
  exact h a (ho a ha) b hb

lemma yields_foldlM {γ : Type} {step : α → γ → Outcome α} {a : α} (cs : List γ) (ha : P a)
    (h : ∀ a c, P a → Yields P (step a c).value) : Yields P (cs.foldlM step a).value := by
  induction cs generalizing a with
  | nil => exact yields_ok ha
  | cons c cs ih =>
    rw [List.foldlM_cons]
    exact yields_value_of_bind (h a c ha) fun b hb => ih hb

end Made

variable {ctx : Context} {c d : ClassInfo}

section DataClasses

/-- The names of the fields of a data class in the order in which they are declared. -/
def Context.declaredNames (ctx : Context) (c : ClassInfo) : List String :=
  ((ctx.describedAncestors c).reverse.flatMap (fun a => ((ctx.dataFields? a).getD .empty).keys) ++
    c.annotations.keys).eraseDups

/-- The field that a data class has under a name: the one that its own hint makes, or else that of
the nearest ancestor that has one. -/
def Context.declaredField? (ctx : Context) (c : ClassInfo) (name : String) : Option DataField :=
  match c.annotations.get? name with
  | some h => (DataField.make name h (ctx.attribute? c name)).toOption
  | none => (ctx.describedAncestors c).findSome? fun a =>
    ((ctx.dataFields? a).getD .empty).get? name

/-- What a class that is made a data class declares is what it has. -/
theorem exists_fields_of_asDataClass (h : c.asDataClass ctx = .ok d) :
    ∃ fields, d.dataFields = some fields ∧ fields.keys = ctx.declaredNames c ∧
      ∀ name, fields.get? name = ctx.declaredField? c name := by
  obtain ⟨_, hown, h⟩ := bind_eq_ok_iff.mp h
  obtain ⟨own, rfl, hnames, hmade⟩ := Dict.exists_computed_of_mapM hown
  obtain ⟨attributes, -, h⟩ := bind_eq_ok_iff.mp h
  dsimp only at h
  split at h
  · cases h
  obtain ⟨-, -, h⟩ := bind_eq_ok_iff.mp h
  obtain rfl := Except.ok.inj h
  refine ⟨_, rfl, ?_, fun name => ?_⟩
  · rw [Dict.keys_putAll, Dict.keys_foldl_putAll, Keyed.eraseDups_eraseDups_append,
      Context.declaredNames, ← hnames]
    rfl
  · rw [Dict.get?_putAll, Dict.get?_foldl_putAll, List.reverse_reverse, Context.declaredField?]
    cases hname : c.annotations.get? name with
    | some h =>
      obtain ⟨f, hf, hget⟩ := hmade name h hname
      dsimp only at hf ⊢
      rw [hget, hf]
      rfl
    | none =>
      rw [Dict.get?_eq_none hnames hname]
      exact Option.or_none

end DataClasses

section NamedTuples

lemma defaults_eq {hasDefault : String → Bool} {refused : List String → String → Failure}
    {fields found names : List String}
    (h : fields.foldlM (fun found n =>
      if hasDefault n then pure (found ++ [n])
      else if found.isEmpty then pure found
      else Except.error (refused found n)) found = Except.ok names) :
    names = found ++ fields.filter hasDefault := by
  induction fields generalizing found with
  | nil =>
    obtain rfl := Except.ok.inj h
    simp
  | cons n fields ih =>
    obtain ⟨found', hfound, h⟩ := bind_eq_ok_iff.mp h
    rw [ih h, List.filter_cons]
    beta_reduce at hfound
    split at hfound
    · rename_i hn
      obtain rfl := Except.ok.inj hfound
      simp [hn]
    · rename_i hn
      split at hfound
      · obtain rfl := Except.ok.inj hfound
        simp [hn]
      · cases hfound

/-- What a body becomes as a tuple with named fields. -/
structure IsTupleOf (c d : ClassInfo) : Prop where
  names : d.annotations.keys = c.annotations.keys
  defaults : d.tupleDefaults = c.annotations.keys.filter (Keyed.has c.attributes)
  extendsTuple : ClassRef.builtin "tuple" ∈ d.ancestors
  known : ∀ a ∈ d.ancestors, a.identity? = none
  isTuple : d.tupleFields = some c.annotations.keys
  others : d.model = c.model ∧ d.keys = c.keys ∧ d.dataFields = c.dataFields

lemma mem_ancestors {bases as : List ClassRef} (hbases : NamedTuple.checkBases bases = .ok ())
    (h : NamedTuple.ancestors bases = .ok as) :
    ClassRef.builtin "tuple" ∈ as ∧ ∀ a ∈ as, a.identity? = none := by
  unfold NamedTuple.checkBases at hbases
  split at hbases
  · cases hbases
  rename_i hany
  unfold NamedTuple.ancestors at h
  dsimp only at h
  split at h
  · cases h
  obtain rfl := Except.ok.inj h
  refine ⟨?_, fun a ha => ?_⟩
  · obtain ⟨b, hb, hmakes⟩ : ∃ b ∈ bases, b.metaclass = .namedTuple := by simpa using hany
    refine List.mem_append_left _ (List.mem_map.mpr ⟨b, hb, if_neg ?_⟩)
    rintro rfl
    exact absurd hmakes (by decide)
  · rcases List.mem_append.mp ha with ha | ha
    · obtain ⟨b, -, rfl⟩ := List.mem_map.mp ha
      split
      · rename_i hb
        rw [hb]
        rfl
      · rfl
    · obtain rfl := List.mem_singleton.mp ha
      rfl

theorem isTupleOf_of_asNamedTuple {bases : List ClassRef} (h : c.asNamedTuple bases = .ok d) :
    IsTupleOf c d := by
  obtain ⟨_, hbases, h⟩ := bind_eq_ok_iff.mp h
  obtain ⟨defaults, hdefaults, h⟩ := bind_eq_ok_iff.mp h
  obtain ⟨_, hchecked, h⟩ := bind_eq_ok_iff.mp h
  obtain ⟨made, hmade, h⟩ := bind_eq_ok_iff.mp h
  obtain ⟨-, -, hmade⟩ := bind_eq_ok_iff.mp hmade
  obtain rfl := Except.ok.inj hmade
  obtain ⟨ancestors, hancestors, h⟩ := bind_eq_ok_iff.mp h
  obtain ⟨checked, rfl, hnames, -⟩ := Dict.exists_computed_of_mapM hchecked
  obtain ⟨htuple, hknown⟩ := mem_ancestors hbases hancestors
  dsimp only at h
  split at h
  · cases h
  · obtain rfl := Except.ok.inj h
    refine ⟨?_, defaults_eq hdefaults, htuple, hknown, rfl, rfl, rfl, rfl⟩
    rw [← hnames]
    change Keyed.keys (Dict.ofPairs checked.pairs).pairs = Keyed.keys checked.pairs
    rw [Dict.pairs_ofPairs, Keyed.ofPairs_of_nodup checked.nodup]

end NamedTuples

section Models

/-- One more hint adds at most a field of its name to a model. Of the class it changes no more than
which names stay in it. -/
lemma ModelDraft.addHint_cases (draft : ModelDraft) (m : ModelInfo) (name : String) (h : Hint)
    (isKnown : Bool) :
    Yields (fun x => (∃ attributes, x.1.made = { draft.made with attributes }) ∧
        (x.2.fields = m.fields ∨ ∃ f, x.2.fields = m.fields.put name f))
      (draft.addHint ctx m name h isKnown).value := by
  have hsame : ∃ attributes, draft.made = { draft.made with attributes } :=
    ⟨draft.made.attributes, rfl⟩
  unfold addHint
  split
  · exact yields_ok ⟨hsame, .inl rfl⟩
  refine yields_value_bind fun _ => ?_
  split
  · exact yields_ok ⟨hsame, .inl rfl⟩
  split
  · exact yields_ok ⟨hsame, .inl rfl⟩
  refine yields_value_bind fun _ => ?_
  dsimp only
  cases draft.held? ctx name with
  | none =>
    cases draft.inheritedField? ctx name with
    | none => exact yields_value_bind fun f => yields_ok ⟨hsame, .inr ⟨f, rfl⟩⟩
    | some f =>
      dsimp only
      split
      · exact yields_value_bind fun f => yields_ok ⟨hsame, .inr ⟨f, rfl⟩⟩
      · exact yields_ok ⟨hsame, .inr ⟨f, rfl⟩⟩
  | some held =>
    dsimp only
    split
    · exact yields_error _
    refine yields_value_bind fun f => yields_value_bind fun t => ?_
    split
    · exact yields_value_bind fun _ => yields_ok ⟨hsame, .inl rfl⟩
    · exact yields_ok ⟨⟨_, rfl⟩, .inr ⟨_, rfl⟩⟩

namespace ModelDraft

variable {x y : ModelDraft × ModelInfo} {hints : List (String × Hint × Bool)}

/-- The fields that hints add stand in the order of the hints, after those that were there. -/
lemma exists_names_of_addHints (hnodup : (x.2.fields.keys ++ Keyed.keys hints).Nodup)
    (h : (hints.foldlM (fun (x : ModelDraft × ModelInfo) (hint : String × Hint × Bool) =>
      x.1.addHint ctx x.2 hint.1 hint.2.1 hint.2.2) x).value = .ok y) :
    ∃ names, names.Sublist (Keyed.keys hints) ∧ y.2.fields.keys = x.2.fields.keys ++ names := by
  induction hints generalizing x with
  | nil =>
    obtain rfl := Outcome.value_pure_eq_ok.mp h
    exact ⟨[], .slnil, (List.append_nil _).symm⟩
  | cons hint hints ih =>
    obtain ⟨x', hx', h⟩ := Outcome.value_bind_eq_ok.mp h
    obtain ⟨-, hfields⟩ := addHint_cases x.1 x.2 hint.1 hint.2.1 hint.2.2 x' hx'
    have hkeys : x'.2.fields.keys = x.2.fields.keys ∨
        x'.2.fields.keys = x.2.fields.keys ++ [hint.1] := by
      refine hfields.imp (congrArg Dict.keys) ?_
      rintro ⟨f, hf⟩
      have hnew : hint.1 ∉ Keyed.keys x.2.fields.pairs := fun hmem =>
        (List.nodup_append.mp hnodup).2.2 hint.1 hmem hint.1 List.mem_cons_self rfl
      exact (congrArg Dict.keys hf).trans (Keyed.keys_put_of_not_mem f hnew)
    rcases hkeys with hkeys | hkeys
    · have hrest := hnodup.sublist ((List.sublist_cons_self _ _).append_left _)
      obtain ⟨names, hnames, hy⟩ := ih (hkeys ▸ hrest) h
      exact ⟨names, hnames.cons hint.1, hkeys ▸ hy⟩
    · have hrest : (x'.2.fields.keys ++ Keyed.keys hints).Nodup := by
        rw [hkeys, List.append_assoc]
        exact hnodup
      obtain ⟨names, hnames, hy⟩ := ih hrest h
      refine ⟨hint.1 :: names, hnames.cons_cons hint.1, ?_⟩
      rw [hy, hkeys, List.append_assoc]
      rfl

lemma keys_settled (fields : Dict ModelField) :
    Yields (fun out => out.keys = fields.keys) (settled ctx c fields) := by
  intro out h
  obtain ⟨known, hknown, h⟩ := bind_eq_ok_iff.mp h
  obtain rfl := Except.ok.inj h
  cases hall : known.mapM id with
  | none => rfl
  | some pairs =>
    have hsome : known = pairs.map some := by
      simpa using (map_eq_map_of_forall₂ (mapM_eq_some_iff.mp hall) fun _ _ h => h.symm).symm
    subst hsome
    have hnames : Keyed.keys pairs = fields.keys := by
      refine map_eq_map_of_forall₂ (List.forall₂_map_right_iff.mp (mapM_eq_ok_iff.mp hknown)) ?_
      rintro ⟨name, f⟩ p hp
      dsimp only at hp
      split at hp
      · exact (Option.some.inj (Except.ok.inj hp)) ▸ rfl
      · obtain ⟨k, -, hp⟩ := bind_eq_ok_iff.mp hp
        split at hp
        · cases hp
        · obtain ⟨t, -, hp⟩ := bind_eq_ok_iff.mp hp
          exact (Option.some.inj (Except.ok.inj hp)) ▸ rfl
    have hnodup : (Keyed.keys pairs).Nodup := hnames ▸ fields.nodup
    change Keyed.keys (Dict.ofPairs pairs).pairs = fields.keys
    rw [Dict.pairs_ofPairs, Keyed.ofPairs_of_nodup hnodup, hnames]

lemma keys_of_puts {α β : Type}
    {step : List (String × α) → String × β → Except Failure (List (String × α))}
    (hstep : ∀ found x next, step found x = .ok next → ∃ a, next = Keyed.put found x.1 a)
    {xs : List (String × β)} {found out : List (String × α)} (hnodup : (Keyed.keys found).Nodup)
    (h : xs.foldlM step found = .ok out) :
    Keyed.keys out = (Keyed.keys found ++ Keyed.keys xs).eraseDups := by
  induction xs generalizing found with
  | nil =>
    obtain rfl := Except.ok.inj h
    change Keyed.keys found = (Keyed.keys found ++ []).eraseDups
    rw [List.append_nil, Keyed.eraseDups_of_nodup hnodup]
  | cons x xs ih =>
    obtain ⟨next, hnext, h⟩ := bind_eq_ok_iff.mp h
    obtain ⟨a, rfl⟩ := hstep found x next hnext
    have hkeys : Keyed.keys (Keyed.put found x.1 a) = (Keyed.keys found ++ [x.1]).eraseDups :=
      Keyed.keys_putAll hnodup [(x.1, a)]
    rw [ih (hkeys ▸ Keyed.nodup_eraseDups _) h, hkeys, Keyed.eraseDups_eraseDups_append,
      List.append_assoc]
    rfl

lemma keys_hints {draft : ModelDraft} {found : List (String × Hint × Bool)}
    (h : draft.hints ctx = .ok found) :
    Keyed.keys found = Context.hintedNames (ctx.described draft.made) := by
  rw [hints] at h
  generalize ctx.described draft.made = as at h
  induction as generalizing found with
  | nil =>
    obtain rfl := Except.ok.inj h
    rfl
  | cons a as ih =>
    rw [List.reverse_cons, List.foldlM_append] at h
    obtain ⟨inherited, hinherited, h⟩ := bind_eq_ok_iff.mp h
    obtain ⟨_, hfound, h⟩ := bind_eq_ok_iff.mp h
    obtain rfl := Except.ok.inj h
    have hinherited := ih hinherited
    have hnodup : (Keyed.keys inherited).Nodup := hinherited ▸ Keyed.nodup_eraseDups _
    rw [Context.hintedNames_cons, ← hinherited]
    refine keys_of_puts (fun found x next hnext => ?_) hnodup hfound
    obtain ⟨known, -, hnext⟩ := bind_eq_ok_iff.mp hnext
    dsimp only at hnext
    split at hnext
    · exact ⟨_, (Except.ok.inj hnext).symm⟩
    · obtain ⟨h, -, hnext⟩ := bind_eq_ok_iff.mp hnext
      exact ⟨_, (Except.ok.inj hnext).symm⟩

end ModelDraft

/-- The fields of a model stand in the order in which the model and its ancestors give hints to
their names. -/
theorem exists_fields_of_asModel {bases : List ClassRef} (h : (c.asModel ctx bases).value = .ok d) :
    ∃ m, d.model = some m ∧ m.fields.keys.Sublist (Context.hintedNames (ctx.described c)) := by
  obtain ⟨hints, hhints, h⟩ := Outcome.value_bind_eq_ok.mp h
  obtain ⟨x, hx, h⟩ := Outcome.value_bind_eq_ok.mp h
  obtain ⟨fields, hfields, h⟩ := Outcome.value_bind_eq_ok.mp h
  have hnames := ModelDraft.keys_hints hhints
  have hnodup : (Keyed.keys hints).Nodup := hnames ▸ Keyed.nodup_eraseDups _
  obtain ⟨names, hsublist, hkeys⟩ := ModelDraft.exists_names_of_addHints (by exact hnodup) hx
  have hkept : fields.keys = names := (ModelDraft.keys_settled _ fields hfields).trans hkeys
  have horder : fields.keys.Sublist (Context.hintedNames (ctx.described c)) := by
    rw [hkept, ← hnames]
    exact hsublist
  refine ⟨{ x.2 with fields }, ?_, horder⟩
  dsimp only at h
  split at h
  · obtain ⟨-, -, h⟩ := Outcome.value_bind_eq_ok.mp h
    obtain rfl := Outcome.value_pure_eq_ok.mp h
    rfl
  · obtain rfl := Outcome.value_pure_eq_ok.mp h
    rfl

end Models

end CallSchema

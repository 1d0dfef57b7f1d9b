import CallSchema.Proofs.ClassFields
import CallSchema.Proofs.JoinedNotes

/-!
# Keys that may be left out of typed dictionaries

Whether a key of a typed dictionary must be given follows from the declaration that governs it: the
dictionary's own one, or else that of the last base that has the key. It is told from two sources.
The keys are sorted when the class is made, by the hints as they stand and by what the class asks of
keys that do not say otherwise. The marks on the evaluated hints are looked at later. Only these show
what a text says, and of them only those that let a key be left out are looked for.
-/

namespace CallSchema

namespace Hint

/-- What a layer around a hint says of the key of a typed dictionary. -/
inductive Mark
  | required
  | notRequired
  deriving DecidableEq

/-- What the layers around a hint say, from the outermost one on. -/
def marks : Hint → List Mark
  | annotated h _ => marks h
  | required h => .required :: marks h
  | notRequired h => .notRequired :: marks h
  | _ => []

variable {h h' : Hint} {metadata : List Value}

lemma isNotRequired_iff : h.isNotRequired = true ↔ .notRequired ∈ h.marks := by
  induction h using marks.induct with
  | case1 h _ ih => exact ih
  | case2 h ih => simpa [isNotRequired, marks] using ih
  | case3 h => simp [isNotRequired, marks]
  | case4 h =>
    rw [isNotRequired, marks]
    · simp
    all_goals assumption

lemma saysRequired_iff : h.saysRequired = true ↔ .required ∈ h.marks := by
  induction h using marks.induct with
  | case1 h _ ih => exact ih
  | case2 h => simp [saysRequired, marks]
  | case3 h ih => simpa [saysRequired, marks] using ih
  | case4 h =>
    rw [saysRequired, marks]
    · simp
    all_goals assumption

lemma marks_annotate (he : annotate h metadata = .ok h') : h'.marks = h.marks := by
  unfold annotate at he
  split at he
  all_goals first
    | obtain rfl := Except.ok.inj he
      rfl
    | cases he

/-- What a dictionary says of a key of its own, by the rules of a module. -/
def requirementBy? (rules : String) (h : Hint) : Option Bool :=
  if rules = "typing" then h.outerRequirement? else h.requirement?

/-- The mark that is found, if any, is one of the marks of the hint. -/
def ShowsMark (h : Hint) (found : Option Bool) : Prop :=
  (found = none ∧ h.marks = []) ∨ (found = some true ∧ .required ∈ h.marks) ∨
    (found = some false ∧ .notRequired ∈ h.marks)

/-- The outermost layers are notes and a mark, so that a hint without a mark there has none. -/
lemma showsMark_outerRequirement? (hnotes : h.notesOnce = true) :
    h.ShowsMark h.outerRequirement? := by
  unfold outerRequirement?
  split
  · exact .inr (.inl ⟨rfl, List.mem_cons_self⟩)
  · exact .inr (.inl ⟨rfl, List.mem_cons_self⟩)
  · exact .inr (.inr ⟨rfl, List.mem_cons_self⟩)
  · exact .inr (.inr ⟨rfl, List.mem_cons_self⟩)
  · rename_i hrequired' hrequired hnotRequired' hnotRequired
    refine .inl ⟨rfl, ?_⟩
    rw [marks.eq_def]
    split
    · rename_i of metadata
      rw [marks]
      · intro inner notes heq
        rw [notesOnce, heq] at hnotes
        cases hnotes
      · exact fun inner heq => hrequired' inner metadata (heq ▸ rfl)
      · exact fun inner heq => hnotRequired' inner metadata (heq ▸ rfl)
    · exact absurd rfl (hrequired _)
    · exact absurd rfl (hnotRequired _)
    · rfl

lemma showsMark_requirement? : h.ShowsMark h.requirement? := by
  rw [requirement?]
  by_cases hrequired : h.saysRequired = true
  · exact .inr (.inl ⟨if_pos hrequired, saysRequired_iff.mp hrequired⟩)
  rw [if_neg hrequired]
  by_cases hnot : h.isNotRequired = true
  · exact .inr (.inr ⟨if_pos hnot, isNotRequired_iff.mp hnot⟩)
  refine .inl ⟨if_neg hnot, List.eq_nil_iff_forall_not_mem.mpr fun mark hmark => ?_⟩
  cases mark with
  | required => exact hrequired (saysRequired_iff.mpr hmark)
  | notRequired => exact hnot (isNotRequired_iff.mpr hmark)

lemma showsMark_requirementBy? (rules : String) (hnotes : h.notesOnce = true) :
    h.ShowsMark (h.requirementBy? rules) := by
  unfold requirementBy?
  split
  · exact showsMark_outerRequirement? hnotes
  · exact showsMark_requirement?

lemma marks_evaluateWith {onText : Standing → String → Option String → Except Failure Hint}
    (he : evaluateWith onText h = .ok h') : h.marks <+: h'.marks := by
  induction h using marks.induct generalizing h' with
  | case1 h metadata ih =>
    by_cases hforward : ∃ s home, h = forward s home
    · obtain ⟨s, home, rfl⟩ := hforward
      exact List.nil_prefix
    · rw [evaluateWith] at he
      · obtain ⟨inner, hinner, he⟩ := bind_eq_ok_iff.mp he
        rw [marks_annotate he]
        exact ih hinner
      · exact fun s home heq => hforward ⟨s, home, heq⟩
  | case2 h ih =>
    rw [evaluateWith] at he
    obtain ⟨inner, hinner, he⟩ := bind_eq_ok_iff.mp he
    obtain rfl := Except.ok.inj he
    exact (List.prefix_cons_inj _).mpr (ih hinner)
  | case3 h ih =>
    rw [evaluateWith] at he
    obtain ⟨inner, hinner, he⟩ := bind_eq_ok_iff.mp he
    obtain rfl := Except.ok.inj he
    exact (List.prefix_cons_inj _).mpr (ih hinner)
  | case4 h =>
    rw [marks]
    · exact List.nil_prefix
    all_goals assumption

lemma marks_evaluate {scope : Scope} {standing : Standing}
    (he : evaluate scope standing h = .ok h') : h.marks <+: h'.marks := by
  unfold evaluate at he
  dsimp only at he
  split at he
  · exact List.nil_prefix
  · exact List.nil_prefix
  · exact marks_evaluateWith he

end Hint

namespace KeySets

variable {keys base : KeySets} {name key : String}

/-- Whether a key may be left out; nothing if the dictionary does not have it. -/
def optional? (keys : KeySets) (name : String) : Option Bool :=
  if name ∈ keys.optional then some true else if name ∈ keys.required then some false else none

lemma mem_optional_iff : name ∈ keys.optional ↔ keys.optional? name = some true := by
  unfold optional?
  split <;> simp_all

lemma optional?_inherit :
    (keys.inherit base).optional? name = (base.optional? name).or (keys.optional? name) := by
  have hoptional : name ∈ (keys.inherit base).optional ↔
      name ∈ base.optional ∨ name ∈ keys.optional ∧ name ∉ base.required := by
    simp [inherit, union, without]
    tauto
  have hrequired : name ∈ (keys.inherit base).required ↔
      (name ∈ base.required ∨ name ∈ keys.required) ∧ name ∉ base.optional := by
    simp [inherit, union, without]
    tauto
  unfold optional?
  simp only [hoptional, hrequired]
  by_cases hbase : name ∈ base.optional
  · simp [hbase]
  · by_cases hmust : name ∈ base.required
    · simp [hbase, hmust]
    · simp [hbase, hmust]

lemma optional?_own (isRequired : Bool) : (keys.own key isRequired).optional? name =
    if name = key then some (!isRequired) else keys.optional? name := by
  rw [own, optional?_inherit]
  cases isRequired with
  | true => by_cases h : name = key <;> simp [optional?, h]
  | false => by_cases h : name = key <;> simp [optional?, h]

lemma optional?_foldl_inherit {β : Type} (f : β → KeySets) (bs : List β) :
    (bs.foldl (fun keys b => keys.inherit (f b)) keys).optional? name =
      (bs.reverse.findSome? fun b => (f b).optional? name).or (keys.optional? name) := by
  induction bs generalizing keys with
  | nil => rfl
  | cons b bs ih =>
    rw [List.foldl_cons, ih, optional?_inherit, List.reverse_cons, List.findSome?_append,
      List.findSome?_singleton, Option.or_assoc]

lemma optional?_foldl_own {α : Type} {xs : List (String × α)} (isRequired : α → Bool)
    (hnodup : (Keyed.keys xs).Nodup) :
    (xs.foldl (fun (keys : KeySets) x => keys.own x.1 (isRequired x.2)) keys).optional? name =
      ((Keyed.get? xs name).map fun a => !isRequired a).or (keys.optional? name) := by
  induction xs generalizing keys with
  | nil => rfl
  | cons x xs ih =>
    obtain ⟨hx, hxs⟩ := List.nodup_cons.mp hnodup
    rw [List.foldl_cons, ih hxs, optional?_own, Keyed.get?_cons]
    by_cases h : name = x.1
    · have hnone : Keyed.get? xs name = none := by
        rw [← Option.not_isSome_iff_eq_none, Keyed.isSome_get?, h]
        exact hx
      rw [hnone, if_pos h, if_pos h]
      rfl
    · rw [if_neg h, if_neg h]

end KeySets

/-- What a typed dictionary declares of a key: the hint as it stands, whether the dictionary asks for
keys that do not say otherwise, and the module whose rules it keeps. -/
structure KeyDeclaration where
  hint : Hint
  total : Bool
  rules : String

/-- Whether a dictionary that is being made takes the key for one that may be left out. -/
def KeyDeclaration.letsOut (g : KeyDeclaration) : Bool :=
  !((g.hint.requirementBy? g.rules).getD g.total)

/-- What the body of a typed dictionary declares of a key. -/
def ClassInfo.ownKey? (c : ClassInfo) (rules : String) (total : Bool) (name : String) :
    Option KeyDeclaration :=
  (c.annotations.get? name).bind fun h =>
    (Hint.checked (some c.home) h).toOption.map fun h => ⟨h, total, rules⟩

/-- A class that has been made as a typed dictionary, with the declarations that govern its keys:
its own ones, and for each other key what governs it in the last base that has it. -/
inductive Governed : ClassInfo → (String → Option KeyDeclaration) → Prop
  | made {ctx : Context} {c d : ClassInfo} {rules : String} {bases : List ClassRef} {total : Bool}
      {governing : ClassInfo → String → Option KeyDeclaration}
      (hmade : c.asTypedDict ctx rules bases total = .ok d)
      (hbases : ∀ b ∈ bases.filterMap ctx.info?, Governed b (governing b)) :
      Governed d fun name => (c.ownKey? rules total name).or
        ((bases.filterMap ctx.info?).reverse.findSome? (governing · name))

section Made

variable {ctx : Context} {c d : ClassInfo} {governing : String → Option KeyDeclaration}
  {name : String} {g : KeyDeclaration} {h : Hint} {hints : Dict Hint}

lemma exists_own_of_asTypedDict {rules : String} {bases : List ClassRef} {total : Bool}
    (hmade : c.asTypedDict ctx rules bases total = .ok d) :
    let parents := bases.filterMap ctx.info?
    ∃ own : Dict Hint, (∀ name, own.get? name = (c.ownKey? rules total name).map (·.hint)) ∧
      d = { c with
        ancestors := ctx.dictionaryAncestors bases
        annotations := (parents.foldl (fun hints b => hints.putAll b.annotations.pairs)
          Dict.empty).putAll own.pairs
        keys := some (own.pairs.foldl
          (fun (keys : KeySets) x => keys.own x.1 ((x.2.requirementBy? rules).getD total))
          (parents.foldl (fun keys b => keys.inherit (b.keys.getD {})) {})) } := by
  unfold ClassInfo.asTypedDict at hmade
  cases hbases : bases.any fun b => b.metaclass != .typedDict rules && b != .generic with
  | true =>
    rw [hbases] at hmade
    cases hmade
  | false =>
    rw [hbases] at hmade
    obtain ⟨_, hown, hmade⟩ := bind_eq_ok_iff.mp hmade
    obtain ⟨own, rfl, hnames, hchecked⟩ := Dict.exists_computed_of_mapM hown
    obtain rfl := Except.ok.inj hmade
    refine ⟨own, fun name => ?_, ?_⟩
    · rw [ClassInfo.ownKey?]
      cases hname : c.annotations.get? name with
      | none => exact Dict.get?_eq_none hnames hname
      | some h =>
        obtain ⟨h', hh', hget⟩ := hchecked name h hname
        dsimp only at hh'
        rw [hget, Option.bind_some, hh']
        rfl
    · unfold Hint.requirementBy?
      split <;> rfl

/-- What is kept of the keys of a typed dictionary is what governs them. -/
structure KeepsKeys (d : ClassInfo) (governing : String → Option KeyDeclaration) : Prop where
  keys : ∃ keys, d.keys = some keys ∧
    ∀ name, keys.optional? name = (governing name).map (·.letsOut)
  annotations : ∀ name, d.annotations.get? name = (governing name).map (·.hint)
  known : ∀ a ∈ d.ancestors, a.identity? = none

lemma identity?_of_mem_dictionaryAncestors {bases : List ClassRef} :
    ∀ a ∈ ctx.dictionaryAncestors bases, a.identity? = none := by
  intro a ha
  rcases List.mem_append.mp ha with ha | ha
  · split at ha
    · obtain rfl := List.mem_singleton.mp ha
      rfl
    · cases ha
  · rcases List.mem_pair.mp ha with rfl | rfl <;> rfl

lemma findSome?_map_congr {α β γ : Type} {f : α → Option β} {k : α → Option γ} {m : γ → β}
    {as : List α} (h : ∀ a ∈ as, f a = (k a).map m) :
    as.findSome? f = (as.findSome? k).map m := by
  induction as with
  | nil => rfl
  | cons a as ih =>
    rw [List.findSome?_cons, List.findSome?_cons, h a List.mem_cons_self,
      ih fun b hb => h b (List.mem_cons_of_mem a hb)]
    cases k a <;> rfl

lemma Governed.keepsKeys (hd : Governed d governing) : KeepsKeys d governing := by
  induction hd with
  | @made ctx c d rules bases total governing hmade _ ih =>
    obtain ⟨own, hown, rfl⟩ := exists_own_of_asTypedDict hmade
    refine ⟨⟨_, rfl, fun name => ?_⟩, fun name => ?_, identity?_of_mem_dictionaryAncestors⟩
    · have hparents : (bases.filterMap ctx.info?).reverse.findSome?
          (fun b => (b.keys.getD {}).optional? name) =
            ((bases.filterMap ctx.info?).reverse.findSome? (governing · name)).map (·.letsOut) := by
        refine findSome?_map_congr fun b hb => ?_
        obtain ⟨keys, hkeys, hsays⟩ := (ih b (List.mem_reverse.mp hb)).keys
        rw [hkeys, Option.getD_some, hsays]
      have hempty : ({} : KeySets).optional? name = none := rfl
      rw [KeySets.optional?_foldl_own (fun h => (h.requirementBy? rules).getD total) own.nodup,
        KeySets.optional?_foldl_inherit, hparents, hempty, Option.or_none, Option.map_or]
      refine congrArg (Option.or · _) ?_
      change (own.get? name).map _ = _
      rw [hown, Option.map_map, ClassInfo.ownKey?]
      cases c.annotations.get? name with
      | none => rfl
      | some h =>
        rw [Option.bind_some]
        cases Hint.checked (some c.home) h <;> rfl
    · have hparents : (bases.filterMap ctx.info?).reverse.findSome?
          (fun b => b.annotations.get? name) =
            ((bases.filterMap ctx.info?).reverse.findSome? (governing · name)).map (·.hint) :=
        findSome?_map_congr fun b hb => (ih b (List.mem_reverse.mp hb)).annotations name
      have hempty : (Dict.empty : Dict Hint).get? name = none := rfl
      change ((Dict.putAll _ own.pairs).get? name) = _
      rw [Dict.get?_putAll, Dict.get?_foldl_putAll, hown, hparents, hempty, Option.or_none,
        Option.map_or]

/-- No hint of a class has notes around notes. -/
def ClassInfo.JoinsNotes (c : ClassInfo) : Prop :=
  ∀ name h, c.annotations.get? name = some h → h.JoinsNotes

lemma ClassInfo.joinsNotes_of_pairs (h : ∀ x ∈ c.annotations.pairs, x.2.JoinsNotes) :
    c.JoinsNotes :=
  fun _ _ hget => h _ ((Keyed.get?_eq_some_iff_mem c.annotations.nodup).mp hget)

/-- A dictionary has no hint with notes around notes if neither its body nor its bases have one. -/
lemma ClassInfo.joinsNotes_of_asTypedDict {rules : String} {bases : List ClassRef} {total : Bool}
    (hmade : c.asTypedDict ctx rules bases total = .ok d) (hbody : c.JoinsNotes)
    (hbases : ∀ b ∈ bases.filterMap ctx.info?, b.JoinsNotes) : d.JoinsNotes := by
  obtain ⟨own, hown, rfl⟩ := exists_own_of_asTypedDict hmade
  intro name h hget
  change (Dict.putAll _ own.pairs).get? name = some h at hget
  rw [Dict.get?_putAll, Dict.get?_foldl_putAll, Option.or_eq_some_iff] at hget
  rcases hget with hget | ⟨-, hget⟩
  · change own.get? name = some h at hget
    rw [hown, ownKey?] at hget
    cases hname : c.annotations.get? name with
    | none =>
      rw [hname] at hget
      cases hget
    | some written =>
      rw [hname, Option.bind_some] at hget
      cases hchecked : Hint.checked (some c.home) written with
      | error e =>
        rw [hchecked] at hget
        cases hget
      | ok checked =>
        rw [hchecked] at hget
        obtain rfl := Option.some.inj hget
        exact Hint.joinsNotes_checkedAs _ _ (hbody name written hname) _ hchecked
  · rcases Option.or_eq_some_iff.mp hget with hget | ⟨-, hget⟩
    · obtain ⟨b, hb, hget⟩ := List.exists_of_findSome?_eq_some hget
      exact hbases b (List.mem_reverse.mp hb) name h hget
    · cases hget

lemma Governed.notesOnce (hd : Governed d governing) (hnotes : d.JoinsNotes)
    (hg : governing name = some g) : g.hint.notesOnce = true := by
  refine (hnotes name g.hint ?_).notesOnce
  rw [hd.keepsKeys.annotations, hg, Option.map_some]

lemma governed_of_own {rules : String} {bases : List ClassRef} {total : Bool}
    (hmade : c.asTypedDict ctx rules bases total = .ok d)
    (hbases : bases.filterMap ctx.info? = []) : Governed d (c.ownKey? rules total) := by
  have hd : Governed d fun name => (c.ownKey? rules total name).or
      ((bases.filterMap ctx.info?).reverse.findSome? fun _ => none) := .made hmade fun b hb => by
    rw [hbases] at hb
    cases hb
  simpa [hbases] using hd

lemma governed_of_base {rules : String} {bases : List ClassRef} {total : Bool} {b : ClassInfo}
    (hmade : c.asTypedDict ctx rules bases total = .ok d)
    (hbases : bases.filterMap ctx.info? = [b]) (hb : Governed b governing) :
    Governed d fun name => (c.ownKey? rules total name).or (governing name) := by
  have hd : Governed d fun name => (c.ownKey? rules total name).or
      ((bases.filterMap ctx.info?).reverse.findSome? fun _ => governing name) :=
    .made hmade fun b' hb' => by
      rw [hbases] at hb'
      obtain rfl := List.mem_singleton.mp hb'
      exact hb
  simpa [hbases] using hd

namespace Context

lemma letsOut_iff (hnotes : g.hint.notesOnce = true) (hmarks : g.hint.marks <+: h.marks) :
    g.letsOut = true ∨ Hint.Mark.notRequired ∈ h.marks ↔
      .notRequired ∈ h.marks ∨ g.total = false ∧ .required ∉ g.hint.marks := by
  rw [KeyDeclaration.letsOut]
  rcases Hint.showsMark_requirementBy? g.rules hnotes with
    ⟨hnone, hbare⟩ | ⟨hmust, hrequired⟩ | ⟨hmay, hnotRequired⟩
  · simp [hnone, hbare, or_comm]
  · simp [hmust, hrequired]
  · simp [hmay, hmarks.subset hnotRequired]

lemma described_of_keepsKeys (h : KeepsKeys d governing) : ctx.described d = [d] := by
  rw [described, describedAncestors_eq_nil h.known]

/-- The hint that a key is found to have. -/
def keyHint? (ctx : Context) (d : ClassInfo) (name : String) : Option Hint :=
  (ctx.fieldHints d).value.toOption.bind (·.get? name)

/-- How the hint of a key is read: evaluated, or as it stands if a hint of the dictionary cannot be
evaluated. -/
def ReadsAs (ctx : Context) (d : ClassInfo) (written h : Hint) : Prop :=
  match ctx.evaluatedHints d with
  | .ok _ => Hint.evaluate (ctx.classScope d) .field written = .ok h
  | .error _ => h = written

lemma marks_of_readsAs {written : Hint} (h' : ctx.ReadsAs d written h) :
    written.marks <+: h.marks := by
  unfold ReadsAs at h'
  split at h'
  · exact Hint.marks_evaluate h'
  · exact h' ▸ List.prefix_rfl

lemma exists_hint_of_keepsKeys (ctx : Context) (hd : KeepsKeys d governing)
    (hg : governing name = some g) :
    ∃ h, ctx.keyHint? d name = some h ∧ ctx.ReadsAs d g.hint h := by
  have hhint : d.annotations.get? name = some g.hint := by
    rw [hd.annotations, hg, Option.map_some]
  unfold keyHint? ReadsAs
  rw [value_fieldHints]
  cases hevaluated : ctx.evaluatedHints d with
  | error e => exact ⟨g.hint, hhint, rfl⟩
  | ok hints =>
    obtain ⟨hkeys, hget⟩ := keys_evaluatedHints hevaluated
    rw [described_of_keepsKeys hd] at hkeys hget
    have hmem : name ∈ hints.keys := by
      rw [hkeys, hintedNames, List.reverse_singleton, List.flatMap_singleton]
      exact Keyed.eraseDups_of_nodup d.annotations.nodup ▸
        Dict.isSome_get?.mp (Option.isSome_of_eq_some hhint)
    obtain ⟨h, hh⟩ := Option.isSome_iff_exists.mp (Dict.isSome_get?.mpr hmem)
    have hfound : (ctx.evaluateIn (d, g.hint)).toOption = some h := by
      rw [← hh, hget, firstHint?, List.findSome?_singleton, hhint]
      rfl
    refine ⟨h, hh, ?_⟩
    change ctx.evaluateIn (d, g.hint) = .ok h
    cases hvalue : ctx.evaluateIn (d, g.hint) with
    | error e =>
      rw [hvalue] at hfound
      cases hfound
    | ok h' =>
      rw [hvalue] at hfound
      exact congrArg Except.ok (Option.some.inj hfound)

lemma isOptionalMember_iff (ctx : Context) (h : Hint) (hd : KeepsKeys d governing)
    (hg : governing name = some g) :
    ctx.isOptionalMember d name h = true ↔ g.letsOut = true ∨ .notRequired ∈ h.marks := by
  obtain ⟨keys, hkeys, hsays⟩ := hd.keys
  have hkey : name ∈ keys.optional ↔ g.letsOut = true := by
    rw [KeySets.mem_optional_iff, hsays, hg, Option.map_some, Option.some_inj]
  rw [← hkey, isOptionalMember, hkeys, ← Hint.isNotRequired_iff]
  simp

/-- A key of a typed dictionary may be left out if and only if the declaration that governs it is
marked so, or is made in a dictionary that does not ask for its keys and is not marked as it stands.
The marks that let a key be left out are those of the evaluated hint, so that it does not matter
whether they stand in a text. A text hides the others. Where none is hidden, the marks of the
evaluated hint alone decide. -/
theorem isOptionalMember_of_governed (ctx : Context) {d : ClassInfo}
    {governing : String → Option KeyDeclaration} (hd : Governed d governing) :
    (∀ name, name ∈ d.annotations.keys ↔ (governing name).isSome = true) ∧
    ∀ name g, governing name = some g → g.hint.notesOnce = true →
      ∃ h, ctx.keyHint? d name = some h ∧ ctx.ReadsAs d g.hint h ∧
        (ctx.isOptionalMember d name h = true ↔
          .notRequired ∈ h.marks ∨ g.total = false ∧ .required ∉ g.hint.marks) ∧
        ((.required ∈ h.marks → .required ∈ g.hint.marks) →
          (ctx.isOptionalMember d name h = true ↔
            .notRequired ∈ h.marks ∨ g.total = false ∧ .required ∉ h.marks)) := by
  have hkept := hd.keepsKeys
  refine ⟨fun name => ?_, fun name g hg hnotes => ?_⟩
  · rw [← Dict.isSome_get?, hkept.annotations, Option.isSome_map]
  · obtain ⟨h, hh, hread⟩ := exists_hint_of_keepsKeys ctx hkept hg
    have hmarks := marks_of_readsAs hread
    have hiff := (isOptionalMember_iff ctx h hkept hg).trans
      (letsOut_iff hnotes hmarks)
    refine ⟨h, hh, hread, hiff, fun hshown => ?_⟩
    have hsame : Hint.Mark.required ∈ g.hint.marks ↔ .required ∈ h.marks :=
      ⟨fun hmem => hmarks.subset hmem, hshown⟩
    rw [hiff, hsame]

end Context

end Made

section Examples

open Hint

/-- The body of a typed dictionary. -/
def travelBody (identity : Nat) (name : String) (annotations : List (String × Hint)) :
    ClassInfo where
  identity := identity
  qualifiedName := name
  home := "travel"
  metaclass := .typedDict "typing"
  ancestors := []
  annotations := .ofPairs annotations
  attributes := []

/-- The typed dictionary that it becomes. -/
def travelDict (body : ClassInfo) (annotations : List (String × Hint)) (keys : KeySets) :
    ClassInfo :=
  { body with
    ancestors := [.builtin "dict", .object], annotations := .ofPairs annotations, keys := some keys }

def stopBody : ClassInfo :=
  travelBody 0 "Stop" [("place", cls (.builtin "str")), ("pause", notRequired (cls (.builtin "int")))]

def stop : ClassInfo :=
  travelDict stopBody stopBody.annotations.pairs { required := ["place"], optional := ["pause"] }

/-- A stop of which the pause must be given, and nothing else is asked for. -/
def detourBody : ClassInfo :=
  travelBody 1 "Detour" [("via", cls (.builtin "str")), ("pause", required (cls (.builtin "int")))]

def detour : ClassInfo :=
  travelDict detourBody
    [("place", cls (.builtin "str")), ("pause", required (cls (.builtin "int"))),
      ("via", cls (.builtin "str"))]
    { required := ["place", "pause"], optional := ["via"] }

def travel : Context where
  classes := [stop]
  modules := [("travel", [("Required", .hint (form "typing" "Required"))])]

lemma dictionaryAncestors_typedDict (ctx : Context) :
    ctx.dictionaryAncestors [.known "typing" "TypedDict"] = [.builtin "dict", .object] := by
  have hknown : (ClassRef.known "typing" "TypedDict").knownLineage.contains .generic = false := by
    decide +kernel
  have hlineage : (ctx.lineage (.known "typing" "TypedDict")).contains .generic = false := by
    rw [Context.lineage, Context.info?_of_identity? rfl]
    exact hknown
  unfold Context.dictionaryAncestors
  rw [List.any_cons, List.any_nil, Bool.or_false, hlineage]
  rfl

lemma made_stop :
    stopBody.asTypedDict {} "typing" [.known "typing" "TypedDict"] true = .ok stop := by
  unfold ClassInfo.asTypedDict
  rw [dictionaryAncestors_typedDict]
  rfl

lemma made_detour : detourBody.asTypedDict travel "typing" [stop.ref] false = .ok detour := rfl

/-- The names of which the hint of a pause is built. -/
def travelScope : Scope where
  home := "travel"
  names := [("Required", form "typing" "Required")]
  attribute? := fun _ _ => none

lemma joinsNotes_travelScope : travelScope.JoinsNotes where
  names := List.forall_mem_singleton.mpr (joinsNotes_of_parts_eq_nil rfl rfl)
  own := List.forall_mem_nil _
  attributes _ _ _ h := by cases h

lemma build_pause : build travelScope (.subscript (.name "Required") [.name "int"]) =
    .ok (required (cls (.builtin "int"))) := by
  have hname : lookupName travelScope "Required" = .ok (form "typing" "Required") := rfl
  have hint : lookupName travelScope "int" = .ok (cls (.builtin "int")) := rfl
  rw [build, build, buildAll, build, buildAll, hname, hint]
  rfl

lemma joinsNotes_stop : stop.JoinsNotes := by
  refine ClassInfo.joinsNotes_of_asTypedDict made_stop (ClassInfo.joinsNotes_of_pairs ?_)
    (List.forall_mem_nil _)
  exact List.forall_mem_cons.mpr ⟨joinsNotes_cls _,
    List.forall_mem_singleton.mpr (joinsNotes_of_parts_eq_nil rfl rfl)⟩

lemma joinsNotes_detour : detour.JoinsNotes := by
  refine ClassInfo.joinsNotes_of_asTypedDict made_detour (ClassInfo.joinsNotes_of_pairs ?_)
    (List.forall_mem_singleton.mpr joinsNotes_stop)
  exact List.forall_mem_cons.mpr ⟨joinsNotes_cls _,
    List.forall_mem_singleton.mpr (joinsNotes_build joinsNotes_travelScope _ _ build_pause)⟩

/-- The place of a detour is that of a stop. Its pause is its own. -/
theorem isOptionalMember_of_governed_detour : ∃ governing, Governed detour governing ∧
    travel.isOptionalMember detour "place" (cls (.builtin "str")) = false ∧
    travel.isOptionalMember detour "pause" (required (cls (.builtin "int"))) = false ∧
    travel.isOptionalMember detour "via" (cls (.builtin "str")) = true := by
  have hdetour := governed_of_base made_detour rfl (governed_of_own made_stop rfl)
  obtain ⟨-, hkey⟩ := Context.isOptionalMember_of_governed travel hdetour
  have hread : ∀ name g, _ := fun name g hg =>
    hkey name g hg (hdetour.notesOnce joinsNotes_detour hg)
  have hplace := hread "place" ⟨cls (.builtin "str"), true, "typing"⟩ rfl
  have hpause := hread "pause" ⟨required (cls (.builtin "int")), false, "typing"⟩ rfl
  have hvia := hread "via" ⟨cls (.builtin "str"), false, "typing"⟩ rfl
  obtain ⟨_, -, hread, hplace, -⟩ := hplace
  obtain rfl := Except.ok.inj hread
  obtain ⟨_, -, hread, hpause, -⟩ := hpause
  obtain rfl := Except.ok.inj hread
  obtain ⟨_, -, hread, hvia, -⟩ := hvia
  obtain rfl := Except.ok.inj hread
  refine ⟨_, hdetour, ?_, ?_, hvia.mpr (.inr ⟨rfl, List.not_mem_nil⟩)⟩
  · exact Bool.eq_false_iff.mpr fun h => absurd (hplace.mp h) (by decide)
  · exact Bool.eq_false_iff.mpr fun h => absurd (hpause.mp h) (by decide)

lemma checked_text {s : String} {home : Option String} (h : (forwardOf s home).isOk = true) :
    checked home (text s) = .ok (forward s home) := by
  have hforward : forwardOf s home = .ok (forward s home) := by
    unfold forwardOf at h ⊢
    split at h
    · cases h
    · rename_i hs
      rw [if_neg hs]
      split at h
      · rfl
      · cases h
  unfold checked checkedAs
  rw [converted, hforward]
  rfl

/-- A way by a place that must be given, as a text says. -/
def bypassBody : ClassInfo := travelBody 2 "Bypass" [("via", text "Required[str]")]

def bypass : ClassInfo :=
  travelDict bypassBody [("via", forward "Required[str]" (some "travel"))] { optional := ["via"] }

/-- A mark in a text by which a key must be given does not count, though it is read. -/
theorem optional_of_required_text :
    bypassBody.asTypedDict travel "typing" [.known "typing" "TypedDict"] false = .ok bypass ∧
    ∃ h, travel.keyHint? bypass "via" = some h ∧ h.marks = [.required] ∧
      travel.isOptionalMember bypass "via" h = true := by
  have hvia : checked (some "travel") (text "Required[str]") =
      .ok (forward "Required[str]" (some "travel")) := checked_text (by decide +kernel)
  have hown : bypassBody.annotations.pairs.mapM (fun x => do
      pure (x.1, ← checked (some bypassBody.home) x.2)) =
        .ok [("via", forward "Required[str]" (some "travel"))] :=
    mapM_eq_ok_iff.mpr (.cons (bind_pure_eq_ok_iff.mpr ⟨_, hvia, rfl⟩) .nil)
  have hmarks : (travel.keyHint? bypass "via").map marks = some [.required] := by decide +kernel
  obtain ⟨h, hh, hmarks⟩ := Option.map_eq_some_iff.mp hmarks
  refine ⟨?_, h, hh, hmarks, rfl⟩
  unfold ClassInfo.asTypedDict
  rw [hown, dictionaryAncestors_typedDict]
  rfl

end Examples

end CallSchema

import CallSchema.Proofs.RejectedDeclarations
import CallSchema.Proofs.TextPieces
import CallSchema.Proofs.ValidSchemas

/-!
# Schemas of declared parameters

What reading a declaration line gives has a type that is known, several such types, or listed values
of its type. The fragments into which such declarations are folded are valid.
-/

namespace CallSchema

namespace Text

variable {c : Char} {cs : List Char} {p : Char → Bool}

lemma length_splitWhere (p : Char → Bool) (cs : List Char) :
    (splitWhere p cs).length = cs.countP p + 1 := by
  induction cs with
  | nil => rfl
  | cons c cs ih =>
    rw [splitWhere, List.countP_cons]
    split
    · rw [List.length_cons, ih]
    · rw [← ih]
      cases h : splitWhere p cs with
      | nil => simp [h] at ih
      | cons => rfl

lemma lowerIn_eq (runs : List (Nat × Nat × Nat × Nat)) (n : Nat) : lowerIn runs n = n ∨
    ∃ run ∈ runs, run.1 ≤ n ∧ n ≤ run.2.1 ∧ lowerIn runs n = run.2.2.2 + (n - run.1) := by
  induction runs with
  | nil => exact .inl rfl
  | cons run runs ih =>
    obtain ⟨first, last, step, partner⟩ := run
    rw [lowerIn]
    split
    · rename_i hrun
      simp only [Bool.and_eq_true, decide_eq_true_eq] at hrun
      exact .inr ⟨_, List.mem_cons_self, hrun.1.1, hrun.1.2, rfl⟩
    · refine ih.imp_right ?_
      rintro ⟨run, hrun, h⟩
      exact ⟨run, List.mem_cons_of_mem _ hrun, h⟩

lemma toNat_of_ofNat_eq {n : Nat} (h : Char.ofNat n = c) (hc : c.toNat ≠ 0) : n = c.toNat := by
  subst h
  by_cases hvalid : n.isValidChar
  · rw [Char.ofNat, dif_pos hvalid]
    rfl
  · rw [Char.ofNat, dif_neg hvalid] at hc
    exact absurd rfl hc

lemma bar_of_mem_lowerChar (h : '|' ∈ lowerChar c) : c = '|' := by
  unfold lowerChar at h
  split at h
  · rename_i hascii
    have hall : ∀ n < 128, '|' ∈ [(Char.ofNat n).toLower] → Char.ofNat n = '|' := by decide
    exact Char.ofNat_toNat c ▸ hall c.toNat hascii (by rwa [Char.ofNat_toNat])
  · rename_i hascii
    split at h
    · exact absurd h (by decide)
    · have hcode : lowerIn lowerRuns c.toNat = '|'.toNat :=
        toNat_of_ofNat_eq (List.mem_singleton.mp h).symm (by decide)
      have hruns : ∀ run ∈ lowerRuns, '|'.toNat < run.2.2.2 ∨
          run.2.2.2 + (run.2.1 - run.1) < '|'.toNat := by decide +kernel
      have hbar : '|'.toNat < 128 := by decide
      rcases lowerIn_eq lowerRuns c.toNat with hsame | ⟨run, hrun, hfirst, hlast, hlower⟩
      · omega
      · have := hruns run hrun
        omega

lemma mem_lowerFrom {before : List Char} (h : '|' ∈ lowerFrom before cs) : '|' ∈ cs := by
  induction cs generalizing before with
  | nil => exact h
  | cons c cs ih =>
    rw [lowerFrom, List.mem_append] at h
    rcases h with hhere | hrest
    · split at hhere
      · split at hhere <;> exact absurd hhere (by decide)
      · exact List.mem_cons.mpr (.inl (bar_of_mem_lowerChar hhere).symm)
    · exact List.mem_cons_of_mem c (ih hrest)

lemma mem_of_mem_trim (h : c ∈ trim cs) : c ∈ cs := by
  rw [trim, trimRight, dropTailWhile, List.mem_reverse] at h
  exact (List.dropWhile_suffix _).subset (List.mem_reverse.mp ((List.dropWhile_suffix _).subset h))

end Text

namespace Jsdoc

open Text

variable {nested ds : List Declaration} {d : Declaration} {f base : Fragment} {line : List Char}
  {params : List Param} {p : Param}

/-- The types and the values that reading a declaration line gives. -/
structure Declaration.WellTyped (d : Declaration) : Prop where
  type : d.isEnum = false → d.unionTypes = none → d.typeToken ∈ typeNames
  union : ∀ types, d.unionTypes = some types → 2 ≤ types.length ∧ ∀ t ∈ types, t ∈ typeNames
  values : ∀ values, d.enumValues = some values → ∀ v ∈ values, v.base.name = d.typeToken

section Lines

lemma checkType_eq_ok_iff {token : List Char} {type : String} :
    checkType token = .ok type ↔ normalToken token = type ∧ type ∈ typeNames := by
  rw [checkType]
  split
  · rename_i hknown
    rw [List.contains_iff_mem] at hknown
    constructor
    · rintro ⟨⟩
      exact ⟨rfl, hknown⟩
    · rintro ⟨rfl, -⟩
      rfl
  · rename_i hunknown
    rw [List.contains_iff_mem] at hunknown
    constructor
    · intro h
      cases h
    · rintro ⟨rfl, hknown⟩
      exact absurd hknown hunknown

lemma checkUnion_eq_ok {token : List Char} {types : List String}
    (h : checkUnion token = .ok types) :
    types.length = token.count '|' + 1 ∧ ∀ t ∈ types, t ∈ typeNames := by
  simp only [checkUnion] at h
  split at h
  · rename_i hnone
    obtain rfl := Except.ok.inj h
    refine ⟨?_, fun t ht => ?_⟩
    · rw [List.length_map, splitOn, length_splitWhere, List.count]
    · simpa using List.filter_eq_nil_iff.mp hnone t ht
  · cases h

lemma count_bar_pos {token : List Char} (h : isUnionToken (normalToken token).toList = true) :
    0 < token.count '|' := by
  rw [isUnionToken, normalToken, String.toList_ofList, List.contains_iff_mem] at h
  exact List.count_pos_iff.mpr (mem_of_mem_trim (mem_lowerFrom h))

lemma base_of_classifyValues {values : List (List Char)} {type : String} {vs : List EnumValue}
    (h : classifyValues values = .ok (type, vs)) : ∀ v ∈ vs, v.base.name = type := by
  rw [classifyValues_eq, bind_pure_eq_ok_iff] at h
  obtain ⟨numbers, -, hpair⟩ := h
  rw [classified] at hpair
  split at hpair
  · obtain ⟨rfl, rfl⟩ := Prod.mk.inj hpair
    rw [List.forall_mem_map]
    exact fun _ _ => rfl
  · obtain ⟨rfl, rfl⟩ := Prod.mk.inj hpair
    rw [List.forall_mem_map]
    exact fun _ _ => rfl

lemma wellTyped_single (hunion : d.unionTypes = none) (hvalues : d.enumValues = none)
    (h : d.isEnum = false → d.typeToken ∈ typeNames) : d.WellTyped where
  type henum _ := h henum
  union types htypes := by
    rw [hunion] at htypes
    cases htypes
  values values hlisted := by
    rw [hvalues] at hlisted
    cases hlisted

theorem wellTyped_of_parse (h : Declaration.parse line = .ok d) : d.WellTyped := by
  rw [Declaration.parse] at h
  split at h
  · cases h
  · rename_i p hp
    dsimp only at h
    split at h
    · rename_i hunion
      obtain ⟨types, htypes, rfl⟩ := bind_pure_eq_ok_iff.mp h
      obtain ⟨hlength, hknown⟩ := checkUnion_eq_ok htypes
      have := count_bar_pos hunion
      refine ⟨fun _ h => ?_, fun types h => ?_, fun _ h => ?_⟩
      · cases h
      · obtain rfl := Option.some.inj h
        exact ⟨by omega, hknown⟩
      · cases h
    · split at h
      · split at h
        · obtain rfl := Except.ok.inj h
          exact wellTyped_single rfl rfl fun henum => by cases henum
        · obtain ⟨⟨type, values⟩, hvalues, rfl⟩ := bind_pure_eq_ok_iff.mp h
          refine ⟨fun h => ?_, fun _ h => ?_, fun values h => ?_⟩
          · cases h
          · cases h
          · obtain rfl := Option.some.inj h
            exact base_of_classifyValues hvalues
      · obtain ⟨type, htype, rfl⟩ := bind_pure_eq_ok_iff.mp h
        exact wellTyped_single rfl rfl fun _ => (checkType_eq_ok_iff.mp htype).2

end Lines

section Folding

lemma valid_oneOf_primitives {types : List String} (hmany : 2 ≤ types.length)
    (h : ∀ t ∈ types, t ∈ typeNames) :
    (Fragment.oneOf none (types.map (.primitive none))).Valid := by
  refine .oneOf none (by simpa using hmany) ?_ ?_ ?_
  · rw [List.forall_mem_map]
    exact fun _ _ => rfl
  · cases types with
    | nil => rfl
    | cons t ts => simp [Fragment.joinEnums?, Fragment.enum?]
  · rw [List.forall_mem_map]
    exact fun t ht => .primitive none (h t ht)

lemma valid_base (hd : d.WellTyped) (h : d.base = .ok base) : base.Valid := by
  unfold Declaration.base at h
  split at h
  · rename_i t ts hunion
    obtain rfl := Except.ok.inj h
    obtain ⟨hmany, hknown⟩ := hd.union (t :: ts) hunion
    exact valid_oneOf_primitives hmany hknown
  · rename_i hunion
    split at h
    · split at h
      · obtain rfl := Except.ok.inj h
        exact .unknown none
      · rename_i values hvalues
        split at h
        · rename_i htoken
          obtain rfl := Except.ok.inj h
          exact .enum none fun v hv =>
            EnumBase.name_injective ((hd.values values hvalues v hv).trans htoken)
        · split at h
          · rename_i htoken
            obtain rfl := Except.ok.inj h
            exact .enum none fun v hv =>
              EnumBase.name_injective ((hd.values values hvalues v hv).trans htoken)
          · cases h
    · rename_i henum
      obtain rfl := Except.ok.inj h
      refine .primitive none (hd.type (by simpa using henum) ?_)
      -- a union has members
      cases htypes : d.unionTypes with
      | none => rfl
      | some types =>
        have := (hd.union types htypes).1
        cases types with
        | nil => simp at this
        | cons t ts => exact absurd htypes (hunion t ts)

lemma requiredFields_sublist (fields : List (String × Declaration)) :
    (requiredFields fields).Sublist (Keyed.keys fields) :=
  List.filter_sublist.map _

/-- Folding gives valid fragments: the properties of an object are the fields below its name, and
those that it requires are among them. -/
theorem valid_fold (hnested : ∀ c ∈ nested, c.WellTyped) (d : Declaration) (hd : d.WellTyped)
    {f : Fragment} (h : fold d nested = .ok f) : f.Valid := by
  rcases fold_cases h with ⟨hbase, -⟩ | ⟨properties, -, -, hproperties, rfl⟩
  · exact valid_base hd hbase
  · have hkeys := keys_of_foldField hproperties
    refine .object none (hkeys ▸ nodup_keys_fieldsBelow)
      (hkeys ▸ requiredFields_sublist _) fun x hx => ?_
    obtain ⟨⟨field, child⟩, hmem, hfield⟩ := exists_of_mem_mapM hproperties hx
    obtain ⟨g, hg, rfl⟩ := foldField_eq_ok_iff.mp hfield
    -- the recursion goes to longer names, and no declared name is longer than the longest
    have hlonger := longest_sub_lt_of_mem_fieldsBelow hmem
    exact (valid_fold hnested child (hnested child (mem_fieldsBelow hmem).1) hg).describe _
termination_by longest nested - d.name.length

lemma valid_of_mem_buildParams (hds : ∀ d ∈ ds, d.WellTyped) (h : buildParams ds = .ok params)
    (hp : p ∈ params) : p.fragment.Valid := by
  rw [buildParams_eq_mapM] at h
  obtain ⟨y, hy, hyp⟩ := exists_of_mem_mapM h hp
  obtain ⟨f, hf, rfl⟩ := foldParam_eq_ok_iff.mp hyp
  exact valid_fold (fun c hc => hds c (List.mem_filter.mp hc).1) y.2
    (hds y.2 (mem_of_mem_byName hy)) hf

end Folding

section Sources

variable {source : List Char} {fs : List DocumentedFunction} {a : DocumentedFunction}

lemma exists_declarations (h : functions source = .ok fs) (ha : a ∈ fs) :
    ∃ ds, (∀ d ∈ ds, ∃ line, Declaration.parse line = .ok d) ∧ buildParams ds = .ok a.params := by
  obtain ⟨found, hfound, rfl⟩ := bind_pure_eq_ok_iff.mp h
  have hsome : some a ∈ found := by simpa using ha
  obtain ⟨b, -, hb⟩ := exists_of_mem_mapM hfound hsome
  cases hout : b.isCommentedOut with
  | true => simp [Block.function?_of_isCommentedOut hout] at hb
  | false =>
    rw [Block.function?_of_shown hout] at hb
    cases hname : functionName? b.after with
    | none =>
      rw [hname] at hb
      obtain ⟨_, -, hnone⟩ := bind_pure_eq_ok_iff.mp hb
      cases hnone
    | some name =>
      rw [hname] at hb
      obtain ⟨a', ha', heq⟩ := bind_pure_eq_ok_iff.mp hb
      obtain rfl := Option.some.inj heq
      obtain ⟨-, -, ds, hds, hparams⟩ := documentedBy_eq_ok_iff.mp ha'
      exact ⟨ds, fun d hd => (exists_of_mem_mapM hds hd).imp fun _ => And.right, hparams⟩

/-- The parameters of a documented function have a valid schema. -/
theorem validSchema_functions (h : functions source = .ok fs) (ha : a ∈ fs) :
    (DocumentedFunction.parameters a.params).ValidSchema := by
  obtain ⟨ds, hds, hparams⟩ := exists_declarations h ha
  refine DocumentedFunction.validSchema_parameters (nodup_names_buildParams hparams) fun p hp => ?_
  constructor
  · exact valid_of_mem_buildParams
      (fun d hd => (hds d hd).elim fun _ => wellTyped_of_parse) hparams hp
  · exact toSchema_of_mem_buildParams
      (fun d hd => (hds d hd).elim fun _ => wellFormed_of_parse) hparams hp

/-- The values that are written over the schema of a parameter are those of its fragment. -/
theorem enum_functions (h : functions source = .ok fs) (ha : a ∈ fs) (hp : p ∈ a.params) :
    p.toSchema.field? "enum" = p.fragment.toSchema.field? "enum" := by
  obtain ⟨ds, hds, hparams⟩ := exists_declarations h ha
  rw [toSchema_of_mem_buildParams (fun d hd => (hds d hd).elim fun _ => wellFormed_of_parse)
    hparams hp, Fragment.field?_toSchema _ (by decide), Fragment.field?_toSchema _ (by decide)]
  cases p.fragment <;> rfl

end Sources

end Jsdoc

end CallSchema

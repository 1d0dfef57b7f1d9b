import CallSchema.Proofs.OptionalLiterals
import CallSchema.Proofs.UnpackedFields

/-!
# Parameters of signatures

A signature says which parameters a documented function may have: its own ones, and the fields of
the typed dictionary that stands for its named arguments. Of those of one name the first one stays,
and each other one is warned of. So the names are different whatever the parameters are, and the
schema requires those that have no default and may not be absent.
-/

namespace CallSchema

namespace Outcome

variable {α β : Type} {x : Outcome α}

lemma value_bind_of_ok {f : α → Outcome β} {a : α} (h : x.value = .ok a) :
    (x >>= f).value = (f a).value := by
  rw [value_bind, h]
  rfl

lemma warnings_bind_of_ok {f : α → Outcome β} {a : α} (h : x.value = .ok a) :
    (x >>= f).warnings = x.warnings ++ (f a).warnings := by
  change (bind x f).warnings = _
  rw [bind, h]

lemma warnings_bind_pure (x : Outcome α) (f : α → β) :
    (x >>= fun a => pure (f a)).warnings = x.warnings := by
  change (bind x fun a => pure (f a)).warnings = _
  cases h : x.value with
  | error e => simp [bind, h]
  | ok a => simp [bind, h, warnings_pure]

lemma forall_warnings_bind {A : Warning → Prop} {f : α → Outcome β} (hx : ∀ w ∈ x.warnings, A w)
    (hf : ∀ a, ∀ w ∈ (f a).warnings, A w) : ∀ w ∈ (x >>= f).warnings, A w :=
  (TypeGraph.kept_warnings A).bind (y := x) (k := f) hx hf

lemma forall_warnings_mapInOrder {A : Warning → Prop} {f : α → Outcome β} {as : List α}
    (h : ∀ a ∈ as, ∀ w ∈ (f a).warnings, A w) : ∀ w ∈ (mapInOrder f as).warnings, A w :=
  (TypeGraph.kept_warnings A).mapInOrder (k := f) h

end Outcome

section Firsts

variable {α β : Type} {name : α → String} {x : α} {xs : List α}

/-- The first item of each name, in order. -/
def firsts (name : α → String) (xs : List α) : List α :=
  xs.eraseDupsBy fun a b => name a == name b

lemma firsts_cons : firsts name (x :: xs) = x :: firsts name (xs.filter (name · ≠ name x)) := by
  rw [firsts, List.eraseDupsBy_cons, firsts]
  simp

lemma firsts_induction {motive : List α → Prop} (name : α → String) (hnil : motive [])
    (hcons : ∀ x xs, motive (xs.filter (name · ≠ name x)) → motive (x :: xs)) (xs : List α) :
    motive xs := by
  induction hn : xs.length using Nat.strong_induction_on generalizing xs with
  | _ n ih =>
    cases xs with
    | nil => exact hnil
    | cons x xs =>
      refine hcons x xs (ih _ ?_ _ rfl)
      rw [← hn, List.length_cons]
      exact Nat.lt_succ_of_le (List.length_filter_le _ _)

lemma map_firsts (name : α → String) (xs : List α) :
    (firsts name xs).map name = (xs.map name).eraseDups := by
  induction xs using firsts_induction name with
  | hnil => rfl
  | hcons x xs ih =>
    rw [firsts_cons, List.map_cons, ih, List.map_cons, List.eraseDups_cons, List.filter_map]
    refine congrArg (fun ys => name x :: (List.map name ys).eraseDups) (List.filter_congr ?_)
    intro y _
    rw [Function.comp_apply, decide_not, beq_eq_decide]

lemma nodup_names_firsts (name : α → String) (xs : List α) :
    ((firsts name xs).map name).Nodup := by
  rw [map_firsts]
  exact Keyed.nodup_eraseDups _

lemma forall₂_firsts {R : α → β → Prop} {other : β → String} {ys : List β}
    (h : List.Forall₂ R xs ys) (hnames : ∀ a b, R a b → other b = name a) :
    List.Forall₂ R (firsts name xs) (firsts other ys) := by
  induction xs using firsts_induction name generalizing ys with
  | hnil =>
    cases h
    exact .nil
  | hcons x xs ih =>
    obtain ⟨y, ys, hxy, hrest, rfl⟩ := List.forall₂_cons_left_iff.mp h
    rw [firsts_cons, firsts_cons]
    refine .cons hxy (ih (List.rel_filter (fun a b hab => ?_) hrest))
    simp [hnames a b hab, hnames x y hxy]

end Firsts

namespace Warning

/-- A warning of a second parameter of one name. -/
def isRepeatedParameter : Warning → Bool
  | .repeatedParameter _ _ => true
  | _ => false

end Warning

namespace TypeGraph

variable {τ ι : Type} [BEq ι] {g : TypeGraph τ ι} {A : Warning → Prop} {limit : Nat} {t : τ}
  {s : List ι}

lemma warnings_resolving (hrecursive : ∀ d, A (.recursiveType d))
    (hunsupported : ∀ d, A (.unsupportedType d)) (hmembers : ∀ u, ∀ w ∈ (g.members u).warnings, A w) :
    ∀ w ∈ (g.resolving limit t s).outcome.warnings, A w := by
  induction limit generalizing t s with
  | zero => exact List.forall_mem_nil _
  | succ limit ih =>
    cases hs : s.contains (g.identity t) with
    | true =>
      rw [resolving_of_inProgress hs]
      exact List.forall_mem_singleton.mpr (hrecursive _)
    | false =>
      rw [outcome_resolving_succ hs]
      exact (kept_warnings A).resolveByRules _ (g.structural limit) hunsupported (hmembers t)
        fun u _ => ih

end TypeGraph

namespace Hint

variable {h u : Hint}

/-- A hint for `None` and nothing else. -/
def IsNone (h : Hint) : Prop :=
  h.strip = null ∨ h.strip = noneType ∨ h.strip.constants? = some [.null]

/-- A union, or a literal of several constants, with `None` directly among them. -/
def HasNone (h : Hint) : Prop :=
  (∃ hs, h.strip.unionArgs? = some hs ∧ ∃ u ∈ hs, u.IsNone) ∨
    ∃ vs, h.strip.constants? = some vs ∧ 1 < vs.length ∧ .null ∈ vs

lemma isNoneType_iff : h.isNoneType = true ↔ h = noneType := by
  unfold isNoneType
  split
  · exact iff_of_true rfl rfl
  · rename_i hne
    exact iff_of_false Bool.false_ne_true hne

lemma isNullLiteral_iff : h.isNullLiteral = true ↔ h.constants? = some [.null] := by
  unfold isNullLiteral
  split
  · rename_i hnull
    exact iff_of_true rfl hnull
  · rename_i hne
    exact iff_of_false Bool.false_ne_true hne

lemma isAbsence_iff :
    h.isAbsence = true ↔ h = null ∨ h = noneType ∨ h.constants? = some [.null] := by
  unfold isAbsence
  split
  · exact iff_of_true rfl (.inl rfl)
  · rename_i hne
    rw [Bool.or_eq_true, isNoneType_iff, isNullLiteral_iff]
    exact (or_iff_right hne).symm

lemma isUnionHint_of_unionArgs? {hs : List Hint} (hargs : h.unionArgs? = some hs) :
    h.isUnionHint = true ∧ h.membersOfUnion = hs := by
  unfold unionArgs? at hargs
  split at hargs
  · exact ⟨rfl, Option.some.inj hargs⟩
  · exact ⟨rfl, Option.some.inj hargs⟩
  · cases hargs

lemma isUnionHint_of_constants? {vs : List Value} (hvs : h.constants? = some vs)
    (hmany : 1 < vs.length) :
    h.isUnionHint = true ∧ h.membersOfUnion = vs.map fun v => literal [v] := by
  obtain ⟨xs, rfl, hdistinct⟩ := constants?_eq_some hvs
  match vs with
  | [] | [_] => exact absurd hmany (by simp)
  | v :: w :: vs => simp [isUnionHint, membersOfUnion, hvs]

end Hint

namespace Context

open Hint TypeGraph

variable {h : Hint}

lemma hasAbsentMember_iff_hasNone (ctx : Context) : ctx.graph.HasAbsentMember h ↔ h.HasNone := by
  constructor
  · rintro ⟨u, ⟨hunion, hu⟩, habsent⟩
    rcases membersOfUnion_cases hunion hu with ⟨hs, hargs, hu⟩ | ⟨vs, hvs, hmany, v, hv, rfl⟩
    · exact .inl ⟨hs, hargs, u, hu, isAbsence_iff.mp habsent⟩
    · obtain rfl := (isAbsence_single v).mp habsent
      exact .inr ⟨_, hvs ▸ rfl, hmany, hv⟩
  · rintro (⟨hs, hargs, u, hu, hnone⟩ | ⟨vs, hvs, hmany, hnull⟩)
    · obtain ⟨hunion, hmembers⟩ := isUnionHint_of_unionArgs? hargs
      exact ⟨u, ⟨hunion, (congrArg (u ∈ ·) hmembers).mpr hu⟩, isAbsence_iff.mpr hnone⟩
    · obtain ⟨hunion, hmembers⟩ := isUnionHint_of_constants? hvs hmany
      refine ⟨literal [.null], ⟨hunion, ?_⟩, (isAbsence_single .null).mpr rfl⟩
      exact (congrArg (_ ∈ ·) hmembers).mpr (List.mem_map_of_mem hnull)

end Context

instance : DecidablePred Hint.HasNone := fun _ =>
  decidable_of_iff _
    (TypeGraph.hasAbsentMember_iff.symm.trans (Context.hasAbsentMember_iff_hasNone {}))

/-- A parameter that a function may have. -/
structure Candidate where
  name : String
  hint : Option Hint
  /-- Whether it has a default, or is a field that may be left out. -/
  isOptional : Bool
  note : Option String

namespace Candidate

/-- A parameter must be given if it has no default, is no field that may be left out, and its hint
does not allow `None` beside other types. -/
def MustBeGiven (x : Candidate) : Prop := x.isOptional = false ∧ ∀ h ∈ x.hint, ¬h.HasNone

instance : DecidablePred MustBeGiven := fun _ => inferInstanceAs (Decidable (_ ∧ _))

/-- The parameter, with a description from a documentation text before its own one. -/
def param (docs : List (String × String)) (x : Candidate) (answer : Fragment × Bool) : Param :=
  { name := x.name, description := Context.firstText [docs.lookup x.name, x.note],
    fragment := answer.1, isOptional := x.isOptional || answer.2 }

end Candidate

namespace Context

section Candidates

open Hint

/-- The fields of a class. -/
def fieldsOf (ctx : Context) (c : ClassInfo) : List (Member Hint) :=
  match (ctx.members c).value with
  | .ok ms => ms
  | .error _ => []

/-- The hints of a callable object, as they stand if one of them cannot be evaluated. -/
def hintsOf (ctx : Context) (f : Callable) : List (String × Hint) :=
  match f.evaluatedHints ctx with
  | .ok hints => hints
  | .error _ => f.annotations

/-- A field of a typed dictionary that stands for named arguments. -/
def ofField (m : Member Hint) : Candidate := ⟨m.name, some m.type, m.isOptional, m.description⟩

/-- A parameter of a signature by itself. -/
def ofParam (hints : List (String × Hint)) (p : SignatureParam) : Candidate :=
  ⟨p.name, hints.lookup p.name, p.hasDefault, (hints.lookup p.name).bind note?⟩

/-- What a parameter of a signature stands for. -/
def candidatesOf (ctx : Context) (hints : List (String × Hint)) (p : SignatureParam) :
    List Candidate :=
  if p.name = "self" ∨ p.name = "cls" then []
  else match p.kind with
    | .rest => []
    | .keywords =>
      match (hints.lookup p.name).bind ctx.unpackedFields? with
      | some c => (ctx.fieldsOf c).map ofField
      | none => []
    | .positional | .positionalOnly | .keywordOnly => [ofParam hints p]

/-- The parameters that a callable object may have, in order. An object without a signature has
none. -/
def candidates (ctx : Context) (f : Callable) : List Candidate :=
  (f.params.getD []).flatMap (ctx.candidatesOf (ctx.hintsOf f))

/-- What a candidate resolves to. Without a hint it is unknown. -/
def answer (ctx : Context) (x : Candidate) : Outcome (Fragment × Bool) :=
  match x.hint with
  | some h => ctx.resolveOptional h
  | none => pure (.unknown none, false)

end Candidates

section Values

variable {ctx : Context} {docs : List (String × String)} {hints : List (String × Hint)}
  {p : SignatureParam} {f : Callable} {given : Option String}

lemma value_members (ctx : Context) (c : ClassInfo) :
    (ctx.members c).value = .ok (ctx.fieldsOf c) := by
  obtain ⟨ms, hms⟩ := exists_value_members ctx c
  rw [fieldsOf, hms]

lemma value_hints (ctx : Context) (f : Callable) :
    (f.hints ctx).value = .ok (ctx.hintsOf f) := by
  unfold Callable.hints hintsOf
  cases f.evaluatedHints ctx <;> rfl

/-- A parameter is a candidate with the fragment that it resolves to. -/
def IsParamOf (ctx : Context) (docs : List (String × String)) (x : Candidate) (q : Param) : Prop :=
  ∃ r, (ctx.answer x).value = .ok r ∧ q = x.param docs r

/-- The parameter of a candidate. -/
def paramOf (ctx : Context) (docs : List (String × String)) (x : Candidate) :
    Except Failure Param :=
  x.param docs <$> (ctx.answer x).value

lemma paramOf_eq_ok_iff {x : Candidate} {q : Param} :
    ctx.paramOf docs x = .ok q ↔ ctx.IsParamOf docs x q := by
  unfold paramOf IsParamOf
  cases (ctx.answer x).value <;> simp [eq_comm]

lemma paramOf_eq_error_iff {x : Candidate} {e : Failure} :
    ctx.paramOf docs x = .error e ↔ ∃ h ∈ x.hint, (ctx.resolveOptional h).value = .error e := by
  unfold paramOf answer
  cases x.hint with
  | none => exact iff_of_false nofun (by simp)
  | some h =>
    cases hh : (ctx.resolveOptional h).value <;> simp [hh]

lemma name_of_paramOf {x : Candidate} {q : Param} (h : ctx.paramOf docs x = .ok q) :
    q.name = x.name := by
  obtain ⟨r, -, rfl⟩ := paramOf_eq_ok_iff.mp h
  rfl

lemma value_answered (x : Candidate) (docs : List (String × String)) :
    (ctx.answer x >>= fun r => pure (x.param docs r)).value = ctx.paramOf docs x := by
  rw [Outcome.value_bind, paramOf]
  cases (ctx.answer x).value <;> rfl

lemma signatureParams_ofParam {x : Candidate} (hx : x = ofParam hints p)
    (hname : ¬(p.name = "self" ∨ p.name = "cls")) (hrest : p.kind ≠ .rest)
    (hkeywords : p.kind ≠ .keywords) :
    ctx.signatureParams docs hints p = ctx.answer x >>= fun r => pure [x.param docs r] := by
  obtain ⟨hself, hcls⟩ := not_or.mp hname
  unfold signatureParams signatureParamsWith
  simp only [beq_eq_false_iff_ne.mpr hself, beq_eq_false_iff_ne.mpr hcls,
    beq_eq_false_iff_ne.mpr hrest, beq_eq_false_iff_ne.mpr hkeywords, Bool.or_self,
    Bool.false_eq_true, if_false, hx, ofParam, answer]
  cases hints.lookup p.name <;> rfl

lemma signatureParams_cases (ctx : Context) (docs : List (String × String))
    (hints : List (String × Hint)) (p : SignatureParam) :
    (ctx.candidatesOf hints p = [] ∧ ctx.signatureParams docs hints p = pure []) ∨
      (∃ c, ctx.candidatesOf hints p = (ctx.fieldsOf c).map ofField ∧
        ctx.signatureParams docs hints p = ctx.fieldParams docs c) ∨
      ∃ x, ctx.candidatesOf hints p = [x] ∧
        ctx.signatureParams docs hints p = ctx.answer x >>= fun r => pure [x.param docs r] := by
  unfold candidatesOf
  by_cases hname : p.name = "self" ∨ p.name = "cls"
  · refine .inl ⟨if_pos hname, ?_⟩
    rcases hname with hname | hname
    all_goals simp [signatureParams, signatureParamsWith, hname]
  · rw [if_neg hname]
    have hne := not_or.mp hname
    cases hkind : p.kind with
    | rest =>
      refine .inl ⟨rfl, ?_⟩
      simp [signatureParams, signatureParamsWith, hkind]
    | keywords =>
      cases hfields : (hints.lookup p.name).bind ctx.unpackedFields? with
      | none =>
        refine .inl ⟨rfl, ?_⟩
        simp [signatureParams, signatureParamsWith, hkind, hfields]
      | some c =>
        obtain ⟨h, hlookup, hc⟩ := Option.bind_eq_some_iff.mp hfields
        exact .inr (.inl ⟨c, rfl, signatureParams_of_keywords hkind hne hlookup hc⟩)
    | positional | positionalOnly | keywordOnly =>
      have hrest : p.kind ≠ .rest := by simp [hkind]
      have hkeywords : p.kind ≠ .keywords := by simp [hkind]
      exact .inr (.inr ⟨_, rfl, signatureParams_ofParam rfl hname hrest hkeywords⟩)

lemma value_fieldParams_eq (docs : List (String × String)) (c : ClassInfo) :
    (ctx.fieldParams docs c).value =
      ((ctx.fieldsOf c).map ofField).mapM (ctx.paramOf docs) := by
  rw [fieldParams, fieldParamsWith, Outcome.value_bind, List.mapM_map]
  change (ctx.members c).value >>= _ = _
  rw [value_members]
  refine (Outcome.value_mapInOrder _ _).trans (congrArg (fun k => List.mapM k _) ?_)
  exact funext fun m => value_answered (ofField m) docs

lemma value_signatureParams : (ctx.signatureParams docs hints p).value =
    (ctx.candidatesOf hints p).mapM (ctx.paramOf docs) := by
  rcases signatureParams_cases ctx docs hints p with
    ⟨hnone, hps⟩ | ⟨c, hfields, hps⟩ | ⟨x, hx, hps⟩
  · rw [hnone, hps]
    rfl
  · rw [hfields, hps, value_fieldParams_eq]
  · rw [hx, hps, List.mapM_cons, List.mapM_nil, Outcome.value_bind, paramOf]
    cases (ctx.answer x).value <;> rfl

lemma mapM_flatMap {ε α β γ : Type} (f : β → Except ε γ) (k : α → List β) (as : List α) :
    (as.flatMap k).mapM f = List.flatten <$> as.mapM fun a => (k a).mapM f := by
  induction as with
  | nil => rfl
  | cons a as ih =>
    rw [List.flatMap_cons, List.mapM_append, List.mapM_cons, ih]
    cases (k a).mapM f with
    | error e => rfl
    | ok bs => cases as.mapM fun a => (k a).mapM f <;> rfl

lemma value_found (params : List SignatureParam) :
    List.flatten <$> (mapInOrder (ctx.signatureParams docs hints) params).value =
      (params.flatMap (ctx.candidatesOf hints)).mapM (ctx.paramOf docs) := by
  rw [Outcome.value_mapInOrder, mapM_flatMap]
  exact congrArg (fun k => List.flatten <$> List.mapM k params)
    (funext fun _ => value_signatureParams)

/-- Of the parameters of names not seen before, the first ones of their names are kept. -/
lemma value_uniqueParams_eq {function : String} {seen : List String} (ps : List Param) :
    (uniqueParams function seen ps).value =
      .ok (firsts Param.name (ps.filter (·.name ∉ seen))) := by
  induction ps generalizing seen with
  | nil => rfl
  | cons p ps ih =>
    rw [uniqueParams]
    by_cases hp : p.name ∈ seen
    · rw [if_pos (List.contains_iff_mem.mpr hp), List.filter_cons_of_neg (by simpa using hp), ← ih]
      rfl
    · rw [if_neg (mt List.contains_iff_mem.mp hp), List.filter_cons_of_pos (by simpa using hp),
        Outcome.value_bind, ih, firsts_cons, List.filter_filter]
      refine congrArg (fun qs => Except.ok (p :: firsts Param.name qs)) ?_
      refine List.filter_congr fun q _ => ?_
      simp [not_or]

lemma value_uniqueParams_nil {function : String} (ps : List Param) :
    (uniqueParams function [] ps).value = .ok (firsts Param.name ps) := by
  rw [value_uniqueParams_eq, List.filter_eq_self.mpr fun _ _ => decide_eq_true List.not_mem_nil]

lemma document_of_params {params : List SignatureParam} (hparams : f.params = some params) :
    ctx.document f given =
      Outcome.ofExcept (Docstring.parse (Text.clean (f.doc.getD "").toList)) >>= fun doc =>
        f.hints ctx >>= fun hints =>
          mapInOrder (ctx.signatureParams (paramTexts doc) hints) params >>= fun found =>
            uniqueParams (f.registeredName given) [] found.flatten >>= fun unique =>
              Outcome.ofExcept (DocumentedFunction.make (collapsed (doc.description.getD ""))
                (f.registeredName given) unique) := by
  unfold document documentWith
  rw [hparams]
  rfl

lemma value_document_eq (ctx : Context) (f : Callable) (given : Option String) :
    (ctx.document f given).value =
      Docstring.parse (Text.clean (f.doc.getD "").toList) >>= fun doc =>
        (ctx.candidates f).mapM (ctx.paramOf (paramTexts doc)) >>= fun ps =>
          pure { notice := collapsed (doc.description.getD ""),
                 functionName := f.registeredName given, params := firsts Param.name ps } := by
  unfold candidates
  cases hparams : f.params with
  | none =>
    unfold document documentWith
    rw [hparams, Outcome.value_bind]
    rfl
  | some params =>
    rw [document_of_params hparams, Outcome.value_bind]
    refine congrArg (Bind.bind _) (funext fun doc => ?_)
    rw [Option.getD_some, ← value_found, Outcome.value_bind_of_ok (value_hints ctx f),
      Outcome.value_bind]
    cases (mapInOrder (ctx.signatureParams _ (ctx.hintsOf f)) params).value with
    | error e => rfl
    | ok found =>
      refine (Outcome.value_bind_of_ok (value_uniqueParams_nil found.flatten)).trans ?_
      exact DocumentedFunction.make_of_nodup (nodup_names_firsts _ _) _ _

end Values

section Warnings

open TypeGraph

variable {ctx : Context} {docs : List (String × String)} {hints : List (String × Hint)}

lemma warnings_uniqueParams {function : String} {seen : List String} (ps : List Param) :
    (uniqueParams function seen ps).warnings =
      ((ps.map (·.name)).diff ((ps.map (·.name)).filter (· ∉ seen)).eraseDups).map
        (.repeatedParameter · function) := by
  induction ps generalizing seen with
  | nil => rfl
  | cons p ps ih =>
    rw [uniqueParams, List.map_cons]
    by_cases hp : p.name ∈ seen
    · have hdropped : p.name ∉ ((ps.map (·.name)).filter (· ∉ seen)).eraseDups := by
        simp [hp]
      rw [if_pos (List.contains_iff_mem.mpr hp), List.filter_cons_of_neg (by simpa using hp),
        List.cons_diff_of_not_mem hdropped, List.map_cons, ← ih]
      rfl
    · have hseen : ((ps.map (·.name)).filter (· ∉ seen)).filter (fun n => !n == p.name) =
          (ps.map (·.name)).filter (· ∉ p.name :: seen) := by
        rw [List.filter_filter]
        refine List.filter_congr fun n _ => ?_
        simp [beq_eq_decide]
      rw [if_neg (mt List.contains_iff_mem.mp hp), List.filter_cons_of_pos (by simpa using hp),
        List.eraseDups_cons, hseen, List.diff_cons, List.erase_cons_head, ← ih]
      exact Outcome.warnings_bind_pure _ _

lemma warnings_uniqueParams_nil {function : String} (ps : List Param) :
    (uniqueParams function [] ps).warnings =
      ((ps.map (·.name)).diff (ps.map (·.name)).eraseDups).map
        (.repeatedParameter · function) := by
  rw [warnings_uniqueParams,
    List.filter_eq_self.mpr fun _ _ => decide_eq_true List.not_mem_nil]

lemma not_repeated_members (c : ClassInfo) :
    ∀ w ∈ (ctx.members c).warnings, w.isRepeatedParameter = false := by
  intro w hw
  obtain ⟨message, rfl⟩ := mem_warnings_members hw
  rfl

lemma not_repeated_resolveOptional (h : Hint) :
    ∀ w ∈ (ctx.resolveOptional h).warnings, w.isRepeatedParameter = false := by
  have hmembers : ∀ u, ∀ w ∈ (ctx.graph.members u).warnings, w.isRepeatedParameter = false := by
    intro u
    rw [graph, members_graphWith]
    cases ctx.classOf? u.strip with
    | none => exact List.forall_mem_nil _
    | some c => exact not_repeated_members c
  change ∀ w ∈ (ctx.graph.resolvingOptional _ h []).outcome.warnings, _
  rw [outcome_resolvingOptional_eq]
  exact (kept_warnings fun w => w.isRepeatedParameter = false).resolveOptionalWith _
    (ctx.graph.structural 0) fun u _ => warnings_resolving (fun _ => rfl) (fun _ => rfl) hmembers

lemma not_repeated_answer (x : Candidate) :
    ∀ w ∈ (ctx.answer x).warnings, w.isRepeatedParameter = false := by
  unfold answer
  cases x.hint with
  | none => exact List.forall_mem_nil _
  | some h => exact not_repeated_resolveOptional h

lemma not_repeated_signatureParams (p : SignatureParam) :
    ∀ w ∈ (ctx.signatureParams docs hints p).warnings, w.isRepeatedParameter = false := by
  rcases signatureParams_cases ctx docs hints p with ⟨-, hps⟩ | ⟨c, -, hps⟩ | ⟨x, -, hps⟩
  · rw [hps]
    exact List.forall_mem_nil _
  · rw [hps]
    refine Outcome.forall_warnings_bind (not_repeated_members c) fun ms => ?_
    refine Outcome.forall_warnings_mapInOrder fun m _ => ?_
    exact Outcome.forall_warnings_bind (not_repeated_resolveOptional m.type)
      fun _ => List.forall_mem_nil _
  · rw [hps, Outcome.warnings_bind_pure]
    exact not_repeated_answer x

lemma not_repeated_hints (f : Callable) :
    ∀ w ∈ (f.hints ctx).warnings, w.isRepeatedParameter = false := by
  unfold Callable.hints
  split
  · exact List.forall_mem_nil _
  · exact List.forall_mem_singleton.mpr rfl

lemma filter_repeated_of_forall {ws : List Warning} (h : ∀ w ∈ ws, w.isRepeatedParameter = false) :
    ws.filter Warning.isRepeatedParameter = [] :=
  List.filter_eq_nil_iff.mpr fun w hw => Bool.eq_false_iff.mp (h w hw)

lemma repeated_warnings_document {f : Callable} {given : Option String} {a : DocumentedFunction}
    (h : (ctx.document f given).value = .ok a) :
    (ctx.document f given).warnings.filter Warning.isRepeatedParameter =
      (((ctx.candidates f).map (·.name)).diff ((ctx.candidates f).map (·.name)).eraseDups).map
        (.repeatedParameter · (f.registeredName given)) := by
  unfold candidates
  cases hparams : f.params with
  | none =>
    unfold document documentWith at h ⊢
    rw [hparams] at h ⊢
    obtain ⟨doc, hdoc, -⟩ := Outcome.value_bind_eq_ok.mp h
    rw [Outcome.warnings_bind_of_ok hdoc]
    rfl
  | some params =>
    rw [document_of_params hparams] at h ⊢
    obtain ⟨doc, hdoc, h⟩ := Outcome.value_bind_eq_ok.mp h
    obtain ⟨hints, hhints, h⟩ := Outcome.value_bind_eq_ok.mp h
    obtain ⟨found, hfound, h⟩ := Outcome.value_bind_eq_ok.mp h
    obtain ⟨unique, hunique, -⟩ := Outcome.value_bind_eq_ok.mp h
    obtain rfl := Except.ok.inj ((value_hints ctx f).symm.trans hhints)
    have hmap : (params.flatMap (ctx.candidatesOf (ctx.hintsOf f))).mapM
        (ctx.paramOf (paramTexts doc)) = .ok found.flatten :=
      (value_found params).symm.trans (congrArg (List.flatten <$> ·) hfound)
    have hnames := map_eq_map_of_forall₂ (mapM_eq_ok_iff.mp hmap) fun _ _ => name_of_paramOf
    have hsigned : ∀ w ∈ (mapInOrder (ctx.signatureParams (paramTexts doc) (ctx.hintsOf f))
        params).warnings, w.isRepeatedParameter = false :=
      Outcome.forall_warnings_mapInOrder fun p _ => not_repeated_signatureParams p
    rw [Outcome.warnings_bind_of_ok hdoc, Outcome.warnings_bind_of_ok hhints,
      Outcome.warnings_bind_of_ok hfound, Outcome.warnings_bind_of_ok hunique]
    change List.filter _ (_ ++ (_ ++ (_ ++ []))) = _
    rw [List.append_nil, List.filter_append, List.filter_append,
      filter_repeated_of_forall (not_repeated_hints f), filter_repeated_of_forall hsigned,
      warnings_uniqueParams_nil, hnames, List.nil_append, List.nil_append]
    refine List.filter_eq_self.mpr fun w hw => ?_
    obtain ⟨n, -, rfl⟩ := List.mem_map.mp hw
    rfl

end Warnings

section Documents

open TypeGraph

variable {ctx : Context} {docs : List (String × String)} {x : Candidate} {q : Param}

lemma isOptional_of_isParamOf (h : ctx.IsParamOf docs x q) :
    q.isOptional = false ↔ x.MustBeGiven := by
  obtain ⟨r, hr, rfl⟩ := h
  have hmay : r.2 = true ↔ ∃ h ∈ x.hint, h.HasNone := by
    unfold answer at hr
    cases hhint : x.hint with
    | none =>
      rw [hhint] at hr
      obtain rfl := Outcome.value_pure_eq_ok.mp hr
      simp
    | some h =>
      rw [hhint] at hr
      have hiff := optional_iff_of_resolveOptionalWith (comes_resolving Hint _) ⟨[], hr⟩
      simpa using hiff.trans (hasAbsentMember_iff_hasNone ctx)
  rw [Candidate.MustBeGiven, Candidate.param, Bool.or_eq_false_iff]
  refine and_congr_right fun _ => ?_
  rw [← Bool.not_eq_true, hmay]
  push Not
  rfl

lemma required_of_isParamOf {xs : List Candidate} {qs : List Param}
    (h : List.Forall₂ (ctx.IsParamOf docs) xs qs) :
    (qs.filter (!·.isOptional)).map (·.name) = (xs.filter (·.MustBeGiven)).map (·.name) := by
  have hfiltered := List.rel_filter (p := fun x : Candidate => decide x.MustBeGiven)
    (q := fun q : Param => !q.isOptional) (fun x q hq => ?_) h
  · refine map_eq_map_of_forall₂ hfiltered fun x q hq => ?_
    obtain ⟨r, -, rfl⟩ := hq
    rfl
  · simpa using (isOptional_of_isParamOf hq).symm

lemma exists_of_mapM_paramOf {xs : List Candidate} {e : Failure}
    (h : xs.mapM (ctx.paramOf docs) = .error e) :
    ∃ x ∈ xs, ∃ h ∈ x.hint, (ctx.resolveOptional h).value = .error e := by
  have hfailed := failure?_eq_some_iff.mpr h
  rw [failure?_mapM] at hfailed
  obtain ⟨x, hx, hfailed⟩ := List.exists_of_findSome?_eq_some hfailed
  exact ⟨x, hx, paramOf_eq_error_iff.mp (failure?_eq_some_iff.mp hfailed)⟩

end Documents

section Examples

open Hint

/-- A method with a parameter of the name of a field, which stays because it comes first. -/
def sketch : Callable where
  name := some "sketch"
  home := "shapes"
  doc := some "Sketches a shape."
  params := some [⟨"self", .positional, false⟩, ⟨"unit", .positional, false⟩,
    ⟨"points", .rest, false⟩, namedArguments]
  annotations :=
    [("unit", union [cls (.builtin "str"), noneType]), ("kwargs", starred measures.hint)]

end Examples

end Context

end CallSchema

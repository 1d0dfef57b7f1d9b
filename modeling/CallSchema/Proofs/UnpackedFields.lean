import CallSchema.Proofs.StructuredClasses
import CallSchema.Proofs.UnmetTypes

/-!
# Typed dictionaries that stand for named arguments

The fields of a typed dictionary are resolved one by one where they stand for named arguments, and
inside the dictionary where it is resolved as an object. A dictionary that does not reach itself is
never met among its own fields, so that both give the same properties and require the same ones.
-/

namespace CallSchema

namespace Outcome

variable {α β : Type}

lemma value_bind (x : Outcome α) (f : α → Outcome β) :
    (x >>= f).value = x.value >>= fun a => (f a).value := by
  change (bind x f).value = _
  cases h : x.value <;> simp [bind, h, Bind.bind, Except.bind]

lemma value_mapInOrder (f : α → Outcome β) (as : List α) :
    (mapInOrder f as).value = as.mapM fun a => (f a).value := by
  induction as with
  | nil => rfl
  | cons a as ih =>
    rw [mapInOrder, List.mapM_cons, value_bind]
    refine congrArg ((f a).value >>= ·) (funext fun b => ?_)
    rw [value_bind, ih]
    rfl

end Outcome

namespace Document

/-- A schema without its own description. -/
def undescribed : Document → Document
  | .object fields => .object (Keyed.erase fields "description")
  | d => d

def mapFields (f : Document → Document) : Document → Document
  | .object fields => .object (fields.map fun x => (x.1, f x.2))
  | d => d

/-- The schema of an object without the descriptions of its properties. -/
def withBareProperties : Document → Document
  | .object fields => .object (fields.map fun x =>
    if x.1 = "properties" then (x.1, x.2.mapFields undescribed) else x)
  | d => d

lemma withBareProperties_object (properties : List (String × Document)) (required : Document) :
    (Document.object [("type", .text "object"), ("properties", .object properties),
        ("required", required)]).withBareProperties =
      .object [("type", .text "object"),
        ("properties", .object (properties.map fun x => (x.1, x.2.undescribed))),
        ("required", required)] := by
  simp [withBareProperties, mapFields]

end Document

/-- A class made as a typed dictionary: it has keys, and no values as enumerations do. -/
structure ClassInfo.IsTypedDict (c : ClassInfo) : Prop where
  keys : c.keys.isSome = true
  enumeration : c.enumeration = none

/-- What a class statement with the base of typed dictionaries gives is one. -/
theorem ClassInfo.isTypedDict_asTypedDict {c d : ClassInfo} {ctx : Context} {rules : String}
    {bases : List ClassRef} {total : Bool} (hc : c.enumeration = none)
    (h : c.asTypedDict ctx rules bases total = .ok d) : d.IsTypedDict := by
  unfold asTypedDict at h
  cases hbases : bases.any fun b => b.metaclass != .typedDict rules && b != .generic with
  | true =>
    rw [hbases] at h
    cases h
  | false =>
    rw [hbases] at h
    obtain ⟨own, -, h⟩ := bind_eq_ok_iff.mp h
    obtain rfl := Except.ok.inj h
    exact ⟨rfl, hc⟩

namespace Context

open TypeGraph Hint

variable {ctx : Context} {c : ClassInfo} {u : Hint} {m : Member Hint} {ms : List (Member Hint)}

section Fields

lemma shape_of_isTypedDict (hc : ctx.info? c.ref = some c) (hdict : c.IsTypedDict)
    (hne : (ctx.members c).value ≠ .ok []) :
    ctx.graph.shape c.hint = ctx.members c >>= fun ms => pure (.object ms) := by
  have henum : ctx.graph.enumeration? c.hint = none := by
    have hvalues : ctx.enumValues? c.hint = none := by
      rw [ClassInfo.hint, enumValues?]
      simp only [hc]
      exact Option.map_eq_none_iff.mpr hdict.enumeration
    change ((ctx.enumValues? c.hint).map (·.map Value.toConstant)).bind Constant.enumAll? = none
    rw [hvalues]
    rfl
  refine (shape_of_class hc henum).trans (Outcome.bind_congr fun ms hms => ?_)
  cases ms with
  | nil => exact absurd hms hne
  | cons m ms => rfl

lemma eq_of_eqv_cls {h : Hint} {r : ClassRef} (heq : eqv h (cls r) = true) : h = cls r := by
  cases h with
  | cls r' =>
    rw [eqv] at heq
    exact congrArg cls (eq_of_beq heq)
  | _ => simp [eqv] at heq

lemma not_contains_of_below (hnot : ¬ctx.ReachesItself .apart c)
    (hbelow : ctx.graph.Below c.hint u) :
    [ctx.graph.identity c.hint].contains (ctx.graph.identity u) = false := by
  refine Bool.eq_false_iff.mpr fun h => hnot ⟨u, hbelow, ?_⟩
  have hkey : ((⟨u.strip⟩ : HintKey .apart) == ⟨c.hint⟩) = true := by
    obtain ⟨k, hk, heq⟩ := List.contains_iff_exists_mem_beq.mp h
    obtain rfl := List.mem_singleton.mp hk
    exact heq
  rcases eqv_or_eq_of_key hkey with ⟨-, -, heq⟩ | heq
  · exact eq_of_eqv_cls heq
  · exact heq

lemma outcome_resolvingOptional_field (hc : ctx.info? c.ref = some c)
    (hnot : ¬ctx.ReachesItself .apart c) (hms : (ctx.members c).value = .ok ms) (hm : m ∈ ms)
    {n : Nat} (hn : ctx.depth c.hint = n + 1) :
    (ctx.graph.resolvingOptional n m.type [ctx.graph.identity c.hint]).outcome =
      ctx.resolveOptional m.type := by
  have hclass : c ∈ ctx.classes := List.mem_of_find?_eq_some hc
  have hpart : ctx.graph.Part c.hint m.type := .member ((members_hint hc).symm ▸ hms) hm
  -- in progress, the dictionary leaves less room, so that its fields need no deeper calls
  have hroom : weight 1 m.type + ctx.room [ctx.graph.identity c.hint] < n := by
    have hentered : ctx.room [ctx.graph.identity c.hint] +
        (weightAll 1 (ctx.memberTypes c) + 1) ≤ ctx.room ([] : List (HintKey .apart)) :=
      room_cons_add_le hclass rfl
    have hweight : weight 1 m.type ≤ weightAll 1 (ctx.memberTypes c) := by
      rw [memberTypes, hms]
      exact weight_le_weightAll (List.mem_map_of_mem hm)
    have hdepth := room_lt_depth ctx c.hint ([] : List (HintKey .apart))
    omega
  have halone : weight 1 m.type + ctx.room ([] : List (HintKey .apart)) < ctx.depth m.type :=
    room_lt_depth ctx m.type []
  have hunmet : ∀ u, ctx.graph.Reaches m.type u →
      [ctx.graph.identity c.hint].contains (ctx.graph.identity u) = false := fun u hu =>
    not_contains_of_below hnot (Relation.TransGen.head' hpart hu)
  calc (ctx.graph.resolvingOptional n m.type [ctx.graph.identity c.hint]).outcome
      = (ctx.graph.resolvingOptional (max n (ctx.depth m.type)) m.type
          [ctx.graph.identity c.hint]).outcome :=
        congrArg Resolution.outcome
          (resolvingOptional_of_room_lt hroom (Nat.le_max_left _ _)).symm
    _ = (ctx.graph.resolvingOptional (max n (ctx.depth m.type)) m.type []).outcome :=
        outcome_resolvingOptional_of_unmet (s := []) hunmet
    _ = ctx.resolveOptional m.type :=
        congrArg Resolution.outcome (resolvingOptional_of_room_lt halone (Nat.le_max_right _ _))

end Fields

section Objects

/-- The fields of a dictionary with what each resolves to by itself. -/
def resolvedFields (ctx : Context) (ms : List (Member Hint)) :
    Except Failure (List (Member Hint × Fragment × Bool)) :=
  ms.mapM fun m => (fun x => (m, x)) <$> (ctx.resolveOptional m.type).value

/-- A resolved field as a property of an object, and whether it must be given. -/
def asProperty (x : Member Hint × Fragment × Bool) : String × Fragment × Bool :=
  (x.1.name, describeMember x.1.description x.2.1, !(x.1.isOptional || x.2.2))

/-- A resolved field as a parameter. -/
def asParam (docs : List (String × String)) (x : Member Hint × Fragment × Bool) : Param :=
  { name := x.1.name, description := firstText [docs.lookup x.1.name, x.1.description],
    fragment := x.2.1, isOptional := x.1.isOptional || x.2.2 }

lemma outcome_fields (hc : ctx.info? c.ref = some c) (hnot : ¬ctx.ReachesItself .apart c)
    (hms : (ctx.members c).value = .ok ms) {n : Nat} (hn : ctx.depth c.hint = n + 1) :
    (mapInOrder (ctx.graph.resolveMemberWith (ctx.graph.resolving n)) ms
        [ctx.graph.identity c.hint]).outcome =
      mapInOrder (fun m => ctx.resolveOptional m.type >>= fun x => pure (asProperty (m, x)))
        ms := by
  have hkept := kept_outcome_eq [ctx.graph.identity c.hint]
    fun _ : Call Hint (HintKey .apart) => True
  refine (hkept.mapInOrder fun m hm => ⟨?_, fun _ => ?_⟩).related fun _ _ => trivial
  · exact Resolving.inProgress_bind inProgress_resolvingOptional fun _ _ => rfl
  · rw [resolveMemberWith, Resolving.outcome_bind]
    change (ctx.graph.resolvingOptional n m.type [ctx.graph.identity c.hint]).outcome >>= _ = _
    rw [outcome_resolvingOptional_field hc hnot hms hm hn]
    rfl

lemma value_map_fields {β : Type} (k : Member Hint × Fragment × Bool → β)
    (ms : List (Member Hint)) :
    (mapInOrder (fun m => ctx.resolveOptional m.type >>= fun x => pure (k (m, x))) ms).value =
      List.map k <$> ctx.resolvedFields ms := by
  rw [Outcome.value_mapInOrder, resolvedFields]
  refine mapM_of_forall₂ (List.forall₂_same.mpr fun m _ => ?_)
  rw [Outcome.value_bind]
  cases (ctx.resolveOptional m.type).value <;> rfl

lemma value_resolve (hc : ctx.info? c.ref = some c) (hdict : c.IsTypedDict)
    (hne : (ctx.members c).value ≠ .ok []) (hnot : ¬ctx.ReachesItself .apart c) :
    (ctx.resolve c.hint).value = (ctx.members c).value >>= fun ms =>
      (fun xs => objectOf (xs.map asProperty)) <$> ctx.resolvedFields ms := by
  obtain ⟨n, hn⟩ := Nat.exists_eq_add_of_le' (Nat.le_of_succ_le (two_le_depth ctx c.hint))
  have hbody : (ctx.resolve c.hint).value = (ctx.members c >>= fun ms => pure (.object ms) :
      Outcome (TypeShape Hint)).value >>= fun shape =>
        (ctx.graph.resolveShapeWith (ctx.graph.resolving n) c.hint shape
          [ctx.graph.identity c.hint]).outcome.value := by
    change (ctx.graph.resolving (ctx.depth c.hint) c.hint []).outcome.value = _
    rw [hn, resolving_of_not_inProgress rfl, ← shape_of_isTypedDict hc hdict hne,
      ← Outcome.value_bind]
    exact congrArg Outcome.value Resolving.outcome_bind
  rw [hbody, Outcome.value_bind]
  cases hms : (ctx.members c).value with
  | error e => rfl
  | ok ms =>
    have hfields := congrArg Outcome.value (outcome_fields hc hnot hms hn)
    rw [value_map_fields] at hfields
    change ((mapInOrder (ctx.graph.resolveMemberWith (ctx.graph.resolving n)) ms >>= fun fs =>
      pure (objectOf fs)) [ctx.graph.identity c.hint]).outcome.value =
        (fun xs => objectOf (xs.map asProperty)) <$> ctx.resolvedFields ms
    rw [Resolving.outcome_bind, Outcome.value_bind, hfields]
    cases ctx.resolvedFields ms <;> rfl

lemma value_fieldParams (docs : List (String × String)) :
    (ctx.fieldParams docs c).value = (ctx.members c).value >>= fun ms =>
      List.map (asParam docs) <$> ctx.resolvedFields ms := by
  rw [fieldParams, fieldParamsWith, Outcome.value_bind]
  exact congrArg _ (funext fun ms => value_map_fields (asParam docs) ms)

end Objects

section Functions

variable {f : Callable} {p : SignatureParam} {given : Option String} {ps : List Param}
  {docs : List (String × String)} {hints : List (String × Hint)}

/-- The only parameter of a function takes named arguments, for which the fields of a typed
dictionary stand. -/
structure TakesFields (ctx : Context) (f : Callable) (p : SignatureParam) (c : ClassInfo) :
    Prop where
  params : f.params = some [p]
  kind : p.kind = .keywords
  name : p.name ≠ "self" ∧ p.name ≠ "cls"
  hint : ∃ hints h, (f.hints ctx).value = .ok hints ∧ hints.lookup p.name = some h ∧
    ctx.unpackedFields? h = some c

lemma signatureParams_of_keywords (hkind : p.kind = .keywords)
    (hname : p.name ≠ "self" ∧ p.name ≠ "cls") {h : Hint} (hhint : hints.lookup p.name = some h)
    (hc : ctx.unpackedFields? h = some c) :
    ctx.signatureParams docs hints p = ctx.fieldParams docs c := by
  unfold signatureParams signatureParamsWith
  simp [fieldParams, hkind, hname.1, hname.2, hhint, hc]

lemma value_uniqueParams {function : String} {seen : List String} (h : (ps.map (·.name)).Nodup)
    (hseen : ∀ p ∈ ps, p.name ∉ seen) : (uniqueParams function seen ps).value = .ok ps := by
  induction ps generalizing seen with
  | nil => rfl
  | cons p ps ih =>
    obtain ⟨hp, hps⟩ := List.nodup_cons.mp h
    have hnot : seen.contains p.name = false := by
      simpa using hseen p List.mem_cons_self
    rw [uniqueParams, hnot, if_neg Bool.false_ne_true, Outcome.value_bind]
    rw [ih hps fun q hq => ?_]
    · rfl
    · rw [List.mem_cons, not_or]
      refine ⟨fun heq => hp ?_, hseen q (List.mem_cons_of_mem p hq)⟩
      exact List.mem_map.mpr ⟨q, hq, heq⟩

lemma nodup_names_fieldParams (h : (ctx.fieldParams docs c).value = .ok ps) :
    (ps.map (·.name)).Nodup := by
  obtain ⟨ms, hms, h⟩ := Outcome.value_bind_eq_ok.mp h
  have hnames : ps.map (·.name) = ms.map (·.name) := by
    refine map_eq_map_of_forall₂ (comes_outcome.mapInOrder h) fun m p hp => ?_
    obtain ⟨x, -, hp⟩ := Outcome.value_bind_eq_ok.mp hp
    obtain rfl := Outcome.value_pure_eq_ok.mp hp
    rfl
  exact hnames ▸ nodup_names_members hms

lemma value_document (h : ctx.TakesFields f p c) :
    (ctx.document f given).value =
      Docstring.parse (Text.clean (f.doc.getD "").toList) >>= fun doc =>
        (fun ps => { notice := collapsed (doc.description.getD ""),
                     functionName := f.registeredName given, params := ps }) <$>
          (ctx.fieldParams (paramTexts doc) c).value := by
  obtain ⟨hints, hint, hhints, hlookup, hc⟩ := h.hint
  rw [document, documentWith, Outcome.value_bind]
  refine congrArg (Bind.bind _) (funext fun doc => ?_)
  have hfound : (mapInOrder (ctx.signatureParams (paramTexts doc) hints) [p]).value =
      (fun ps => [ps]) <$> (ctx.fieldParams (paramTexts doc) c).value := by
    rw [Outcome.value_mapInOrder, List.mapM_cons, List.mapM_nil,
      signatureParams_of_keywords h.kind h.name hlookup hc]
    cases (ctx.fieldParams (paramTexts doc) c).value <;> rfl
  simp only [h.params]
  rw [Outcome.value_bind]
  change ((f.hints ctx).value >>= _) = _
  rw [hhints]
  refine (Outcome.value_bind _ _).trans ?_
  change ((mapInOrder (ctx.signatureParams (paramTexts doc) hints) [p]).value >>= _) = _
  rw [hfound]
  cases hps : (ctx.fieldParams (paramTexts doc) c).value with
  | error e => rfl
  | ok ps =>
    have hnodup := nodup_names_fieldParams hps
    have hunique : (uniqueParams (f.registeredName given) [] [ps].flatten).value = .ok ps := by
      rw [List.flatten_singleton]
      exact value_uniqueParams hnodup fun _ _ => List.not_mem_nil
    refine (Outcome.value_bind _ _).trans ?_
    change ((uniqueParams (f.registeredName given) [] [ps].flatten).value >>= _) = _
    rw [hunique]
    exact DocumentedFunction.make_of_nodup hnodup _ _

section Schemas

variable {x : Member Hint × Fragment × Bool} {xs : List (Member Hint × Fragment × Bool)}

lemma schemaFields_describe (f : Fragment) (d : Option String) :
    (f.describe d).schemaFields = f.schemaFields := by
  cases f <;> rfl

lemma undescribed_toSchema (f : Fragment) : f.toSchema.undescribed = .object f.schemaFields := by
  have hkeep : Keyed.erase f.schemaFields "description" = f.schemaFields := by
    cases f <;> simp [Keyed.erase, Fragment.schemaFields]
  rw [Fragment.toSchema_eq]
  refine congrArg Document.object ?_
  cases f.description with
  | none => exact hkeep
  | some d =>
    rw [Keyed.erase, List.filter_append]
    exact (congrArg (· ++ []) hkeep).trans (List.append_nil _)

lemma undescribed_asParam : (asParam docs x).toSchema.undescribed = .object x.2.1.schemaFields := by
  have hvalues : ∀ v vs, (asParam docs x).enumValues = some (v :: vs) → ∃ base,
      (asParam docs x).fragment = .enum (asParam docs x).fragment.description base (v :: vs) :=
    fun _ _ h => nomatch h
  rw [Param.toSchema_eq hvalues, undescribed_toSchema, schemaFields_describe]
  rfl

lemma undescribed_asProperty :
    (asProperty x).2.1.toSchema.undescribed = .object x.2.1.schemaFields := by
  rw [undescribed_toSchema]
  refine congrArg Document.object ?_
  change (describeMember x.1.description x.2.1).schemaFields = _
  unfold describeMember
  split
  · rfl
  · rfl
  · exact schemaFields_describe _ _

lemma nodup_names_fields (hms : (ctx.members c).value = .ok ms)
    (hxs : ctx.resolvedFields ms = .ok xs) : (xs.map (·.1.name)).Nodup := by
  have hnames : xs.map (·.1.name) = ms.map (·.name) := by
    refine map_eq_map_of_mapM hxs fun m _ x hx => ?_
    cases hm : (ctx.resolveOptional m.type).value with
    | error e =>
      rw [hm] at hx
      cases hx
    | ok r =>
      rw [hm] at hx
      obtain rfl := Except.ok.inj hx
      rfl
  exact hnames ▸ nodup_names_members hms

lemma parameters_eq_objectOf (hnames : (xs.map (·.1.name)).Nodup) :
    (DocumentedFunction.parameters (xs.map (asParam docs))).withBareProperties =
      (objectOf (xs.map asProperty)).toSchema.withBareProperties := by
  have hproperties : Keyed.ofPairs ((xs.map asProperty).map fun x => (x.1, x.2.1)) =
      xs.map fun x => (x.1.name, (asProperty x).2.1) := by
    rw [List.map_map]
    refine Keyed.ofPairs_of_nodup ?_
    rw [Keyed.keys, List.map_map]
    exact hnames
  have hrequired : (((xs.map (asParam docs)).filter (!·.isOptional)).map (·.name)) =
      ((xs.map asProperty).filter (·.2.2)).map (·.1) := by
    rw [List.filter_map, List.filter_map, List.map_map, List.map_map]
    rfl
  have hschemas : ((xs.map (asParam docs)).map fun p => (p.name, p.toSchema)).map
        (fun x => (x.1, x.2.undescribed)) =
      ((xs.map fun x => (x.1.name, (asProperty x).2.1)).map fun x => (x.1, x.2.toSchema)).map
        fun x => (x.1, x.2.undescribed) := by
    simp only [List.map_map]
    refine List.map_congr_left fun x _ => Prod.ext rfl ?_
    exact undescribed_asParam.trans undescribed_asProperty.symm
  rw [objectOf, hproperties, ← hrequired, Fragment.toSchema_eq, DocumentedFunction.parameters,
    Fragment.description, Fragment.withDescription, Fragment.schemaFields,
    Document.withBareProperties_object, Document.withBareProperties_object, hschemas]

end Schemas

/-- A typed dictionary gives a function the parameters that it has as an object: the same properties
in the same order, with the same schemas but for their descriptions, and the same required ones. No
documentation text changes that, unless it cannot be read. -/
theorem document_of_takesFields (ctx : Context) (f : Callable) (p : SignatureParam) (c : ClassInfo)
    (given : Option String) (hdict : c.IsTypedDict) (hne : (ctx.members c).value ≠ .ok [])
    (hnot : ¬ctx.ReachesItself .apart c) (h : ctx.TakesFields f p c) :
    (ctx.document f given).value.map
        (fun a => (DocumentedFunction.parameters a.params).withBareProperties) =
      Docstring.parse (Text.clean (f.doc.getD "").toList) >>= fun _ =>
        (ctx.resolve c.hint).value.map fun fragment => fragment.toSchema.withBareProperties := by
  obtain ⟨hints, hint, -, -, hc⟩ := h.hint
  rw [value_document h, value_resolve (info?_of_unpackedFields? hc) hdict hne hnot]
  cases Docstring.parse (Text.clean (f.doc.getD "").toList) with
  | error e => rfl
  | ok doc =>
    change ((fun ps => _) <$> (ctx.fieldParams (paramTexts doc) c).value).map _ = Except.map _ _
    rw [value_fieldParams]
    cases hms : (ctx.members c).value with
    | error e => rfl
    | ok ms =>
      change ((fun ps => _) <$> List.map (asParam (paramTexts doc)) <$>
          ctx.resolvedFields ms).map _ =
        Except.map _ ((fun xs => objectOf (xs.map asProperty)) <$> ctx.resolvedFields ms)
      cases hxs : ctx.resolvedFields ms with
      | error e => rfl
      | ok xs => exact congrArg Except.ok (parameters_eq_objectOf (nodup_names_fields hms hxs))

end Functions

section Examples

/-- What reaches a class holds one, at the place where the first class is entered. -/
lemma exists_holds_of_reaches (hreaches : ctx.graph.Reaches u (x : Hint)) (hc : c ∈ ctx.classes)
    (hx : x.strip = c.hint) : ∃ d ∈ ctx.classes, Holds d.ref u := by
  induction hreaches using Relation.ReflTransGen.head_induction_on with
  | refl => exact ⟨c, hc, .here hx⟩
  | head hpart _ ih =>
    rcases part_cases hpart with hin | ⟨d, hd, hstrip, -⟩
    · obtain ⟨d, hd, hholds⟩ := ih
      exact ⟨d, hd, .inside hin hholds⟩
    · exact ⟨d, hd, .here hstrip⟩

/-- A typed dictionary with a key that must be given and one that may be left out. -/
def measures : ClassInfo where
  identity := 0
  qualifiedName := "Measures"
  home := "shapes"
  metaclass := .typedDict "typing"
  ancestors := [.builtin "dict", .object]
  annotations :=
    .ofPairs [("width", cls (.builtin "int")), ("unit", notRequired (cls (.builtin "str")))]
  attributes := []
  keys := some { required := ["width"], optional := ["unit"] }

def shapes : Context := { classes := [measures] }

def namedArguments : SignatureParam := ⟨"kwargs", .keywords, false⟩

/-- A function that takes the fields of the dictionary. -/
def measure (doc : Option String) : Callable where
  name := some "measure"
  home := "shapes"
  doc := doc
  params := some [namedArguments]
  annotations := [("kwargs", starred measures.hint)]

lemma takesFields_measure (doc : Option String) :
    shapes.TakesFields (measure doc) namedArguments measures where
  params := rfl
  kind := rfl
  name := by decide
  hint := ⟨[("kwargs", starred measures.hint)], starred measures.hint, rfl, rfl, rfl⟩

lemma memberTypes_measures :
    shapes.memberTypes measures = [cls (.builtin "int"), notRequired (cls (.builtin "str"))] := rfl

lemma not_reachesItself_measures : ¬shapes.ReachesItself .apart measures := by
  rintro ⟨x, hbelow, hx⟩
  obtain ⟨u, hpart, hreaches⟩ := Relation.TransGen.head'_iff.mp hbelow
  obtain ⟨d, hd, hholds⟩ := exists_holds_of_reaches hreaches List.mem_cons_self hx
  obtain rfl := List.mem_singleton.mp hd
  rcases part_cases hpart with hin | ⟨d, hd, -, hu⟩
  · exact absurd (hin.weight_lt (.inl Nat.one_pos)) (Nat.not_lt_zero _)
  · obtain rfl := List.mem_singleton.mp hd
    have hnot : ∀ name, ¬Holds measures.ref (cls (.builtin name)) := fun _ =>
      not_holds rfl rfl rfl rfl nofun
    rw [memberTypes_measures, List.mem_pair] at hu
    rcases hu with rfl | rfl
    · exact hnot "int" hholds
    · exact hnot "str" (holds_notRequired_iff.mp hholds)

lemma members_measures_ne : (shapes.members measures).value ≠ .ok [] := nofun

theorem document_of_measure : measures.IsTypedDict ∧ (shapes.members measures).value ≠ .ok [] ∧
    ¬shapes.ReachesItself .apart measures ∧
    shapes.TakesFields (measure (some "Measures a shape.")) namedArguments measures ∧
    (shapes.document (measure (some "Measures a shape.")) none).value.map
        (fun a => (DocumentedFunction.parameters a.params).withBareProperties) =
      Docstring.parse (Text.clean "Measures a shape.".toList) >>= fun _ =>
        (shapes.resolve measures.hint).value.map fun fragment =>
          fragment.toSchema.withBareProperties := by
  have hdict : measures.IsTypedDict := ⟨rfl, rfl⟩
  exact ⟨hdict, members_measures_ne, not_reachesItself_measures, takesFields_measure _,
    document_of_takesFields shapes _ _ measures none hdict members_measures_ne
      not_reachesItself_measures (takesFields_measure _)⟩

/-- A documentation text that cannot be read lets no parameters be found. -/
theorem document_of_unreadable_text : measures.IsTypedDict ∧
    (shapes.members measures).value ≠ .ok [] ∧ ¬shapes.ReachesItself .apart measures ∧
    shapes.TakesFields (measure (some ": : x")) namedArguments measures ∧
    (shapes.document (measure (some ": : x")) none).value =
      .error (raised "IndexError" "list index out of range") ∧
    ∃ fragment, (shapes.resolve measures.hint).value = .ok fragment := by
  have hparse : Docstring.parse (Text.clean ": : x".toList) =
      .error (raised "IndexError" "list index out of range") := rfl
  refine ⟨⟨rfl, rfl⟩, members_measures_ne, not_reachesItself_measures, takesFields_measure _, ?_,
    ?_⟩
  · rw [value_document (takesFields_measure _)]
    change (Docstring.parse (Text.clean ": : x".toList) >>= _) = _
    rw [hparse]
    rfl
  · have hok : (shapes.resolve measures.hint).value.isOk = true := by decide +kernel
    cases hfragment : (shapes.resolve measures.hint).value with
    | ok fragment => exact ⟨fragment, rfl⟩
    | error e =>
      rw [hfragment] at hok
      cases hok

end Examples

end Context

end CallSchema

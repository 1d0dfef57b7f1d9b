import CallSchema.Proofs.DocumentedSchemas
import CallSchema.Proofs.HintResolution
import CallSchema.Proofs.ResolvedObjects

/-!
# Structured classes

Typed dictionaries, data classes, tuples with named fields and validated models are resolved as
objects of their fields. Whether a class is one of them is told by its fields alone, so one that has
no fields is not supported.
-/

namespace CallSchema.Context

open TypeGraph Hint

variable {ctx : Context} {objects : Objects} {c : ClassInfo} {ms : List (Member Hint)}

lemma describe_hint (c : ClassInfo) : c.hint.describe = c.name := by
  simp [ClassInfo.hint, Hint.describe, strip, bare, ClassInfo.name]

lemma shape_of_class (hc : ctx.info? c.ref = some c)
    (henum : (ctx.graphWith objects).enumeration? c.hint = none) :
    (ctx.graphWith objects).shape c.hint =
      ctx.members c >>= fun ms => pure (if ms.isEmpty then .unsupported else .object ms) := by
  have hconstrained :
      ((ctx.graphWith objects).isNone c.hint || (ctx.graphWith objects).isAny c.hint) = false := rfl
  have hprimitive : (ctx.graphWith objects).primitive? c.hint = none := rfl
  have harray : (ctx.graphWith objects).isArrayLike c.hint = false := rfl
  rw [TypeGraph.shape, TypeGraph.shapeWith, hconstrained, henum, hprimitive, harray,
    members_hint hc]
  refine Outcome.bind_congr fun ms _ => ?_
  cases ms <;> rfl

lemma shape_of_members (hc : ctx.info? c.ref = some c)
    (henum : (ctx.graphWith objects).enumeration? c.hint = none)
    (hms : (ctx.members c).value = .ok ms) (hne : ms ≠ []) :
    ((ctx.graphWith objects).shape c.hint).value = .ok (.object ms) := by
  rw [shape_of_class hc henum]
  refine Outcome.value_bind_eq_ok.mpr ⟨ms, hms, ?_⟩
  rw [if_neg (by simpa using hne)]
  rfl

/-- A class of one of the kinds that are resolved as objects. -/
inductive IsStructured (ctx : Context) (c : ClassInfo) : Prop
  | model (h : c.model.isSome = true)
  | typedDict (h : c.keys.isSome = true)
  | dataClass (h : (ctx.dataFields? c).isSome = true)
  | namedTuple (h : ctx.isNamedTuple c = true)

/-- The names of the fields of a structured class, in their order. -/
def fieldNames (ctx : Context) (c : ClassInfo) : List String :=
  match c.model, ctx.dataFields? c with
  | some m, _ => m.fields.keys
  | none, some fields => Keyed.keys (fields.pairs.filter (·.2.isMember))
  | none, none =>
    match ctx.evaluatedHints c with
    | .ok hints => hints.keys
    | .error _ => c.annotations.keys

lemma value_fieldHints (ctx : Context) (c : ClassInfo) : (ctx.fieldHints c).value =
    .ok (match ctx.evaluatedHints c with
      | .ok hints => hints
      | .error _ => c.annotations) := by
  unfold fieldHints
  cases ctx.evaluatedHints c <;> rfl

lemma exists_value_members (ctx : Context) (c : ClassInfo) :
    ∃ ms, (ctx.members c).value = .ok ms := by
  unfold members
  dsimp only
  split
  · exact ⟨_, rfl⟩
  · split
    · exact ⟨_, rfl⟩
    · exact ⟨_, Outcome.value_bind_eq_ok.mpr ⟨_, value_fieldHints ctx c, rfl⟩⟩
  · split
    · exact ⟨_, Outcome.value_bind_eq_ok.mpr ⟨_, value_fieldHints ctx c, rfl⟩⟩
    · exact ⟨_, rfl⟩

/-- The members of a structured class are its fields. That they can be told does not depend on
whether their hints can be evaluated. -/
lemma exists_members (h : ctx.IsStructured c) :
    ∃ ms, (ctx.members c).value = .ok ms ∧ ms.map (·.name) = ctx.fieldNames c := by
  unfold members fieldNames
  cases hmodel : c.model with
  | some m => exact ⟨_, rfl, by simp [Dict.keys, Keyed.keys]⟩
  | none =>
    cases hfields : ctx.dataFields? c with
    | some fields =>
      dsimp only
      split
      · rename_i hempty
        exact ⟨[], rfl, (List.isEmpty_iff.mp hempty).symm⟩
      · refine ⟨_, Outcome.value_bind_eq_ok.mpr ⟨_, value_fieldHints ctx c, rfl⟩, ?_⟩
        simp [Keyed.keys]
    | none =>
      have hhints : (c.keys.isSome || ctx.isNamedTuple c) = true := by
        cases h with
        | model h => simp [hmodel] at h
        | dataClass h => simp [hfields] at h
        | typedDict h => simp [h]
        | namedTuple h => simp [h]
      rw [hhints]
      refine ⟨_, Outcome.value_bind_eq_ok.mpr ⟨_, value_fieldHints ctx c, rfl⟩, ?_⟩
      split <;> simp [Dict.keys, Keyed.keys, *]

section Runs

variable {limit : Nat} {s : List (HintKey objects)}

lemma outcome_resolving_class (hc : ctx.info? c.ref = some c)
    (henum : (ctx.graphWith objects).enumeration? c.hint = none)
    (hs : s.contains ⟨c.hint⟩ = false) (hms : (ctx.members c).value = .ok ms) :
    let fields := (ctx.graphWith objects).resolveShapeWith
      (fun u => ((ctx.graphWith objects).resolving limit u (⟨c.hint⟩ :: s)).outcome) c.hint
      (if ms.isEmpty then .unsupported else .object ms)
    ((ctx.graphWith objects).resolving (limit + 1) c.hint s).outcome =
      ⟨(ctx.members c).warnings ++ fields.warnings, fields.value⟩ := by
  intro fields
  rw [outcome_resolving_succ hs, resolveByRules, shape_of_class hc henum]
  change Outcome.bind (Outcome.bind (ctx.members c) _) _ = _
  simp only [Outcome.bind, hms]
  rw [Outcome.warnings_pure, List.append_nil]
  rfl

lemma mem_warnings_class (hc : ctx.info? c.ref = some c)
    (henum : (ctx.graphWith objects).enumeration? c.hint = none)
    (hs : s.contains ⟨c.hint⟩ = false) (hms : (ctx.members c).value = .ok ms) (hne : ms ≠ [])
    {w : Warning}
    (hw : w ∈ ((ctx.graphWith objects).resolving (limit + 1) c.hint s).outcome.warnings) :
    w ∈ (ctx.members c).warnings ∨ ∃ m ∈ ms,
      w ∈ ((ctx.graphWith objects).resolvingOptional limit m.type
        (⟨c.hint⟩ :: s)).outcome.warnings := by
  rw [outcome_resolving_class hc henum hs hms] at hw
  rcases List.mem_append.mp hw with hw | hw
  · exact .inl hw
  · refine .inr ?_
    rw [if_neg (by simpa using hne), resolveShapeWith] at hw
    rcases Outcome.mem_warnings_bind.mp hw with hw | ⟨_, _, hw⟩
    · obtain ⟨m, hm, hw⟩ := mem_warnings_members_resolved hw
      rw [← outcome_resolvingOptional_eq] at hw
      exact ⟨m, hm, hw⟩
    · simp [Outcome.warnings_pure] at hw

/-- Resolving a hint gives a result if the limit leaves room for it, and all that it reaches can be
asked what it is. -/
lemma succeeds_resolving_hint {h : Hint} (hlimit : weight 1 h + ctx.room s < limit)
    (hanswers : ∀ u, (ctx.graphWith objects).Reaches h u → (ctx.graphWith objects).Answers u) :
    ((ctx.graphWith objects).resolving limit h s).outcome.Succeeds := by
  have hinherited : (ctx.graphWith objects).Inherited fun c =>
      ctx.Bounded objects (weight 1 h + ctx.room s) c ∧ (ctx.graphWith objects).Reaches h c.type :=
    fun c u hc hrecurs hu => ⟨inherited_bounded c u hc.1 hrecurs hu,
      hc.2.trans hu.below.to_reflTransGen⟩
  refine succeeds_resolving hinherited (fun c hc => hanswers c.type hc.2) (fun c hc => ?_)
    ⟨bounded_first (Nat.le_refl _), .refl⟩
  have hbounded := hc.1
  simp only [Bounded] at hbounded
  omega

/-- A structured class that is no enumeration of values is resolved as the object of its fields if
it has any. Then there is an answer, unless the limit is too low or something that the class reaches
cannot be told, and types are only called unsupported among its fields. A structured class without
fields is called unsupported itself and is unknown. -/
theorem resolving_of_isStructured (ctx : Context) (objects : Objects) {c : ClassInfo}
    (hc : ctx.info? c.ref = some c) (hstructured : ctx.IsStructured c) (limit : Nat)
    (s : List (HintKey objects)) (hs : s.contains ⟨c.hint⟩ = false) :
    let g := ctx.graphWith objects
    let run := g.resolving (limit + 1) c.hint s
    (∀ base values, g.enumeration? c.hint = some (base, values) →
      run.outcome = .ok (.enum none base values)) ∧
    (g.enumeration? c.hint = none → ctx.fieldNames c ≠ [] → g.FirstFits c.hint .object ∧
      (∀ f, run.outcome.value = .ok f → ∃ properties required,
        f = .object none properties required ∧ Keyed.keys properties = ctx.fieldNames c) ∧
      (weight 1 c.hint + ctx.room s ≤ limit → (∀ u, g.Reaches c.hint u → g.Answers u) →
        run.outcome.Succeeds) ∧
      ∀ d, .unsupportedType d ∈ run.outcome.warnings → ∃ m, g.Part c.hint m ∧
        .unsupportedType d ∈ (g.resolvingOptional limit m (⟨c.hint⟩ :: s)).outcome.warnings) ∧
    (g.enumeration? c.hint = none → ctx.fieldNames c = [] → run.outcome =
      ⟨(ctx.members c).warnings ++ [.unsupportedType c.name], .ok (.unknown none)⟩) := by
  intro g run
  obtain ⟨ms, hms, hnames⟩ := exists_members hstructured
  refine ⟨fun base values henum => ?_, fun henum hne => ?_, fun henum hnil => ?_⟩
  · have hshape := shape_of_enumeration? (g := g) (t := c.hint) rfl henum
    rw [outcome_resolving_of_shape hs hshape]
    rfl
  · have hne' : ms ≠ [] := fun h => hne (by rw [← hnames, h, List.map_nil])
    have hshape : (g.shape c.hint).value = .ok (.object ms) := shape_of_members hc henum hms hne'
    refine ⟨(isShape_of_shape hshape).1, fun f hf => ?_, fun hlimit => ?_, fun d hd => ?_⟩
    · obtain ⟨properties, required, rfl, h⟩ :=
        isObjectOf_of_resolving hs hshape (nodup_names_members hms) hf
      exact ⟨properties, required, rfl, h.names.trans hnames⟩
    · exact succeeds_resolving_hint (Nat.lt_succ_of_le hlimit)
    · rcases mem_warnings_class hc henum hs hms hne' hd with hd | ⟨m, hm, hd⟩
      · obtain ⟨message, hd⟩ := mem_warnings_members hd
        cases hd
      · exact ⟨m.type, .member ((members_hint hc).symm ▸ hms) hm, hd⟩
  · have hnil' : ms = [] := List.map_eq_nil_iff.mp (hnames.trans hnil)
    subst hnil'
    rw [← describe_hint]
    exact outcome_resolving_class hc henum hs hms

end Runs

section Examples

/-- A data class of stations, each with its name and the next one. -/
def station : ClassInfo where
  identity := 0
  qualifiedName := "Station"
  home := "lines"
  metaclass := .plain
  ancestors := [.object]
  annotations :=
    .ofPairs [("name", cls (.builtin "str")), ("next", cls (.described 0 .plain "lines" "Station"))]
  attributes := []
  dataFields := some (.ofPairs [("name", ⟨false, true⟩), ("next", ⟨false, true⟩)])

def lineMap : Context := { classes := [station] }

lemma memberTypes_station :
    lineMap.memberTypes station = [cls (.builtin "str"), station.hint] := rfl

lemma of_reaches_station {u : Hint} (h : (lineMap.graphWith objects).Reaches station.hint u) :
    u = station.hint ∨ u = cls (.builtin "str") := by
  have hclass : ∀ t : Hint, t = station.hint ∨ t = cls (.builtin "str") →
      ∀ u, ¬StandsIn t.strip u := by
    rintro t (rfl | rfl) u hin
    all_goals exact absurd (hin.weight_lt (.inl Nat.one_pos)) (Nat.not_lt_zero _)
  induction h with
  | refl => exact .inl rfl
  | tail _ hpart ih =>
    rcases part_cases hpart with hin | ⟨d, hd, -, hu⟩
    · exact absurd hin (hclass _ ih _)
    · obtain rfl := List.mem_singleton.mp hd
      rw [memberTypes_station, List.mem_pair] at hu
      exact hu.symm

lemma answers_of_reaches_station {u : Hint}
    (h : (lineMap.graphWith objects).Reaches station.hint u) :
    (lineMap.graphWith objects).Answers u := by
  rcases of_reaches_station h with rfl | rfl
  · exact ⟨fun _ => ⟨none, rfl⟩, ⟨_, rfl⟩, nofun⟩
  · exact ⟨fun _ => ⟨none, rfl⟩, ⟨[], rfl⟩, nofun⟩

/-- A station is the object of its fields, with the next station in progress already. -/
theorem resolving_of_isStructured_station : lineMap.IsStructured station ∧
    ∃ properties required, (lineMap.graph.resolving 3 station.hint []).outcome.value =
        .ok (.object none properties required) ∧
      Keyed.keys properties = ["name", "next"] := by
  have hstructured : lineMap.IsStructured station := .dataClass rfl
  obtain ⟨-, hobject, -⟩ := resolving_of_isStructured lineMap .apart rfl hstructured 2 [] rfl
  obtain ⟨-, hfields, hanswer, -⟩ := hobject rfl nofun
  obtain ⟨f, hf⟩ := hanswer (by decide) fun u => answers_of_reaches_station
  obtain ⟨properties, required, rfl, hnames⟩ := hfields f hf
  exact ⟨hstructured, properties, required, hf, hnames⟩

/-- A data class without fields. -/
def terminus : ClassInfo where
  identity := 0
  qualifiedName := "Terminus"
  home := "lines"
  metaclass := .plain
  ancestors := [.object]
  annotations := .empty
  attributes := []
  dataFields := some .empty

/-- Nothing tells a data class without fields from a class that is not structured. -/
theorem resolve_terminus : ({ terminus with dataFields := none }.asDataClass {}) = .ok terminus ∧
    ({ classes := [terminus] } : Context).IsStructured terminus ∧
    ({ classes := [terminus] } : Context).resolve terminus.hint =
      ⟨[.unsupportedType terminus.name], .ok (.unknown none)⟩ := by
  refine ⟨rfl, .dataClass rfl, ?_⟩
  rw [← describe_hint]
  rfl

end Examples

end CallSchema.Context

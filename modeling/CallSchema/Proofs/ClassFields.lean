import CallSchema.Proofs.MadeClasses
import CallSchema.Proofs.StructuredClasses

/-!
# The objects of classes with fields

A data class, a tuple with named fields and a validated model are resolved as the objects of the
fields that they declare, in the order in which they declare them. The hint of a model's field is
kept with the field. In the other classes it is looked up by the name of the field: it is that of
the nearest class that gives the name a hint, whether or not the field is that class's own.
-/

namespace CallSchema

open Hint TypeGraph

/-- A field of a class. -/
structure DeclaredField where
  name : String
  hint : Hint
  hasDefault : Bool

/-- The field as which a member is told. -/
def DeclaredField.ofMember (m : Member Hint) : DeclaredField := ⟨m.name, m.type, m.isOptional⟩

namespace Context

variable {ctx before : Context} {objects : Objects} {c body : ClassInfo}
  {fields : List DeclaredField}

/-- The evaluated hint that the nearest class gives a name. -/
def nearestHint (ctx : Context) (c : ClassInfo) (name : String) : Hint :=
  ((firstHint? (ctx.described c) name).bind (ctx.evaluateIn · |>.toOption)).getD anyHint

/-- The fields of a class in the order in which it declares them, by how it has been made: as a data
class or as one that inherits from it, as a tuple with named fields, or as a validated model. -/
inductive Declares (ctx : Context) (c : ClassInfo) : List DeclaredField → Prop
  | dataClass {before : Context} {body owner : ClassInfo}
      (hmade : body.asDataClass before = .ok owner)
      (howner : (ctx.described c).find? (·.dataFields.isSome) = some owner)
      (hmodel : c.model = none) (hkeys : c.keys = none) :
      Declares ctx c ((before.declaredNames body).filterMap fun n =>
        (before.declaredField? body n).bind fun f =>
          if f.isMember then some ⟨n, ctx.nearestHint c n, f.hasDefault⟩ else none)
  | namedTuple {body : ClassInfo} {bases : List ClassRef} (hmade : body.asNamedTuple bases = .ok c)
      (hmodel : body.model = none) (hkeys : body.keys = none) (hdata : body.dataFields = none) :
      Declares ctx c (body.annotations.keys.map fun n =>
        ⟨n, ctx.nearestHint c n, Keyed.has body.attributes n⟩)
  | model {before : Context} {body made : ClassInfo} {bases : List ClassRef} {m : ModelInfo}
      (hmade : (body.asModel before bases).value = .ok made) (hmodel : made.model = some m)
      (hsame : c.model = some m) :
      Declares ctx c ((hintedNames (before.described body)).filterMap fun n =>
        (m.fields.get? n).bind fun f => some ⟨n, f.type, f.hasDefault⟩)

section Members

variable {hints : Dict Hint}

lemma nearestHint_eq (h : ctx.evaluatedHints c = .ok hints) (name : String) :
    (hints.get? name).getD anyHint = ctx.nearestHint c name := by
  rw [(keys_evaluatedHints h).2, nearestHint]

lemma value_fieldHints_of_ok (h : ctx.evaluatedHints c = .ok hints) :
    (ctx.fieldHints c).value = .ok hints := by
  rw [value_fieldHints, h]

lemma dataFields?_of_find? {a : ClassInfo} {data : Dict DataField}
    (ha : (ctx.described c).find? (·.dataFields.isSome) = some a)
    (hdata : a.dataFields = some data) : ctx.dataFields? c = some data := by
  unfold dataFields?
  generalize ctx.described c = as at ha
  induction as with
  | nil => cases ha
  | cons b bs ih =>
    rw [List.find?_cons] at ha
    rw [List.findSome?_cons]
    cases hb : b.dataFields with
    | none => exact ih (by simpa [hb] using ha)
    | some _ =>
      obtain rfl : b = a := by simpa [hb] using ha
      exact hb.symm.trans hdata

lemma exists_members_of_dataFields? {data : Dict DataField}
    (hdata : ctx.dataFields? c = some data) (hmodel : c.model = none) (hkeys : c.keys = none)
    (hhints : ctx.evaluatedHints c = .ok hints) :
    ∃ ms, (ctx.members c).value = .ok ms ∧ ms.map DeclaredField.ofMember =
      data.keys.filterMap fun n => (data.get? n).bind fun f =>
        if f.isMember then some ⟨n, ctx.nearestHint c n, f.hasDefault⟩ else none := by
  refine ⟨((data.pairs.filter (·.2.isMember)).map (·.1)).map fun n =>
    let h := (hints.get? n).getD anyHint
    ⟨n, h, ctx.isOptionalMember c n h, noteOf h⟩, ?_, ?_⟩
  · unfold members
    rw [hmodel, hdata]
    dsimp only
    split
    · rename_i hempty
      rw [List.isEmpty_iff.mp hempty]
      rfl
    · exact Outcome.value_bind_eq_ok.mpr ⟨hints, value_fieldHints_of_ok hhints, rfl⟩
  · rw [Dict.filterMap_get? (.refl _) data.nodup, List.map_map, List.map_map,
      ← List.filterMap_eq_map, List.filterMap_filter]
    refine List.filterMap_congr fun x hx => ?_
    have hget : data.get? x.1 = some x.2 := (Keyed.get?_eq_some_iff_mem data.nodup).mpr hx
    split
    · rename_i hmember
      simp [DeclaredField.ofMember, nearestHint_eq hhints, isOptionalMember, hkeys, hdata, hget,
        hmember]
    · rfl

lemma info?_of_identity? {a : ClassRef} (h : a.identity? = none) : ctx.info? a = none := by
  refine List.find?_eq_none.mpr fun d _ hd => ?_
  rw [← eq_of_beq hd] at h
  cases h

lemma describedAncestors_eq_nil (h : ∀ a ∈ c.ancestors, a.identity? = none) :
    ctx.describedAncestors c = [] :=
  List.filterMap_eq_nil_iff.mpr fun a ha => info?_of_identity? (h a ha)

lemma described_of_isTupleOf (h : IsTupleOf body c) : ctx.described c = [c] := by
  rw [described, describedAncestors_eq_nil h.known]

lemma tupleDefaults?_of_isTupleOf (h : IsTupleOf body c) : ctx.tupleDefaults? c =
    some (body.annotations.keys.filter (Keyed.has body.attributes)) := by
  rw [tupleDefaults?, described_of_isTupleOf h, List.findSome?_singleton, h.isTuple, h.defaults]
  rfl

lemma isNamedTuple_of_isTupleOf (h : IsTupleOf body c) : ctx.isNamedTuple c = true := by
  simp [isNamedTuple, tupleDefaults?_of_isTupleOf h, ClassInfo.lineage, h.extendsTuple]

lemma exists_members_of_isTupleOf (h : IsTupleOf body c) (hmodel : c.model = none)
    (hkeys : c.keys = none) (hdata : c.dataFields = none)
    (hhints : ctx.evaluatedHints c = .ok hints) :
    ∃ ms, (ctx.members c).value = .ok ms ∧ ms.map DeclaredField.ofMember =
      body.annotations.keys.map fun n =>
        ⟨n, ctx.nearestHint c n, Keyed.has body.attributes n⟩ := by
  have hfields : ctx.dataFields? c = none := by
    rw [dataFields?, described_of_isTupleOf h, List.findSome?_singleton, hdata]
  have hnames : hints.keys = body.annotations.keys := by
    rw [(keys_evaluatedHints hhints).1, described_of_isTupleOf h, ← h.names, hintedNames,
      List.reverse_singleton, List.flatMap_singleton]
    exact Keyed.eraseDups_of_nodup c.annotations.nodup
  refine ⟨hints.pairs.map fun x =>
    ⟨x.1, x.2, ctx.isOptionalMember c x.1 x.2, noteOf x.2⟩, ?_, ?_⟩
  · unfold members
    rw [hmodel, hfields]
    dsimp only
    rw [isNamedTuple_of_isTupleOf h, Bool.or_true]
    exact Outcome.value_bind_eq_ok.mpr ⟨hints, value_fieldHints_of_ok hhints, rfl⟩
  · rw [← hnames, Dict.keys, Keyed.keys, List.map_map, List.map_map]
    refine List.map_congr_left fun x hx => ?_
    have hget : hints.get? x.1 = some x.2 := (Keyed.get?_eq_some_iff_mem hints.nodup).mpr hx
    have hmem : x.1 ∈ body.annotations.keys := hnames ▸ List.mem_map_of_mem hx
    have hdefault : ctx.isOptionalMember c x.1 x.2 = Keyed.has body.attributes x.1 := by
      simp [isOptionalMember, hkeys, hfields, tupleDefaults?_of_isTupleOf h, hmem]
    simp [DeclaredField.ofMember, ← nearestHint_eq hhints, hget, hdefault]

lemma exists_members_of_declares (h : ctx.Declares c fields)
    (hhints : c.model = none → ∃ hints, ctx.evaluatedHints c = .ok hints) :
    ∃ ms, (ctx.members c).value = .ok ms ∧ ms.map DeclaredField.ofMember = fields := by
  cases h with
  | dataClass hmade howner hmodel hkeys =>
    obtain ⟨hints, hhints⟩ := hhints hmodel
    obtain ⟨data, hdata, hnames, hfields⟩ := exists_fields_of_asDataClass hmade
    simp only [← hfields, ← hnames]
    exact exists_members_of_dataFields? (dataFields?_of_find? howner hdata) hmodel hkeys hhints
  | namedTuple hmade hmodel hkeys hdata =>
    have htuple := isTupleOf_of_asNamedTuple hmade
    obtain ⟨hmodel', hkeys', hdata'⟩ := htuple.others
    obtain ⟨hints, hhints⟩ := hhints (hmodel'.trans hmodel)
    exact exists_members_of_isTupleOf htuple (hmodel'.trans hmodel) (hkeys'.trans hkeys)
      (hdata'.trans hdata) hhints
  | model hmade hmodel hsame =>
    obtain ⟨m, hm, hsublist⟩ := exists_fields_of_asModel hmade
    obtain rfl := Option.some.inj (hmodel.symm.trans hm)
    unfold members
    rw [hsame]
    refine ⟨_, rfl, ?_⟩
    rw [Dict.filterMap_get? hsublist (Keyed.nodup_eraseDups _), List.map_map,
      ← List.filterMap_eq_map]
    rfl

end Members

section Examples

/-- A data class, by what its body gives and the fields that come of it. -/
def postClass (identity : Nat) (name : String) (ancestors : List ClassRef)
    (annotations : List (String × Hint)) (attributes : Names)
    (fields : List (String × DataField)) : ClassInfo where
  identity := identity
  qualifiedName := name
  home := "post"
  metaclass := .plain
  ancestors := ancestors ++ [.object]
  annotations := .ofPairs annotations
  attributes := attributes
  dataFields := some (.ofPairs fields)

/-- The code of a parcel is a number. -/
def parcel : ClassInfo :=
  postClass 0 "Parcel" [] [("code", cls (.builtin "int"))] [] [("code", ⟨false, true⟩)]

/-- The code of a labelled parcel is a text instead, and may be left out. -/
def labelled : ClassInfo :=
  postClass 1 "Labelled" [parcel.ref]
    [("code", cls (.builtin "str")), ("note", cls (.builtin "str"))]
    [("code", .hint (.constant (.text ""))), ("note", .hint (.constant (.text "")))]
    [("code", ⟨true, true⟩), ("note", ⟨true, true⟩)]

/-- An insured parcel has the code of a parcel. -/
def insured : ClassInfo :=
  postClass 2 "Insured" [parcel.ref] [("value", cls (.builtin "int"))]
    [("value", .hint (.constant (.number (.int 0))))]
    [("code", ⟨false, true⟩), ("value", ⟨true, true⟩)]

/-- A registered parcel is insured first, so it has the code of a parcel, too. -/
def registered : ClassInfo :=
  postClass 3 "Registered" [insured.ref, labelled.ref, parcel.ref] [] []
    [("code", ⟨false, true⟩), ("note", ⟨true, true⟩), ("value", ⟨true, true⟩)]

def post : Context := { classes := [parcel, labelled, insured, registered] }

lemma declares_registered : post.Declares registered [⟨"code", cls (.builtin "str"), false⟩,
    ⟨"note", cls (.builtin "str"), true⟩, ⟨"value", cls (.builtin "int"), true⟩] := by
  have hmade : { registered with dataFields := none }.asDataClass
      { classes := [parcel, labelled, insured] } = .ok registered := rfl
  exact .dataClass hmade rfl rfl rfl

end Examples

end Context

end CallSchema

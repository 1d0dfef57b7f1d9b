import CallSchema.Proofs.DocumentedSchemas
import CallSchema.Proofs.ListedValues
import CallSchema.Proofs.WrittenFiles
import CallSchema.Proofs.WrittenPieces

/-!
# Finite numbers

The numbers in the schema of a function that a comment documents are finite, since reading a listed
value gives a finite number or none. The numbers in the schema of an object with hints are values of
the literals and enumerations that its hints reach, and these may be any. Schemas with finite
numbers are written as a text of the data format.
-/

namespace CallSchema

lemma Number.isFinite_of_parse? {cs : List Char} {n : Number} (h : parse? cs = .ok (some n)) :
    n.isFinite = true := by
  unfold parse? at h
  generalize (if cs.getLast? = some '\n' then (cs.dropLast, true) else (cs, false)) = body at h
  obtain ⟨body, newline⟩ := body
  dsimp only at h
  split at h
  · cases h
  · split at h
    · split at h
      · cases h
      · obtain rfl := Option.some.inj (Except.ok.inj h)
        rfl
    · split at h
      · rename_i hfinite
        obtain rfl := Option.some.inj (Except.ok.inj h)
        exact hfinite
      · cases h

namespace Jsdoc

variable {nested ds : List Declaration} {d : Declaration} {f base : Fragment} {v : EnumValue}
  {line source : List Char} {params : List Param} {p : Param} {fs : List DocumentedFunction}
  {a : DocumentedFunction}

/-- A declaration lists a value. -/
def Declaration.Lists (d : Declaration) (v : EnumValue) : Prop :=
  ∃ values, d.enumValues = some values ∧ v ∈ values

lemma isFinite_of_classifyValues {values : List (List Char)} {type : String} {vs : List EnumValue}
    {n : Number} (h : classifyValues values = .ok (type, vs)) (hn : .number n ∈ vs) :
    n.isFinite = true := by
  rw [classifyValues_eq, bind_pure_eq_ok_iff] at h
  obtain ⟨numbers, hnumbers, hpair⟩ := h
  rw [classified] at hpair
  split at hpair
  · rename_i ns hns
    obtain ⟨-, rfl⟩ := Prod.mk.inj hpair
    obtain ⟨m, hm, hmn⟩ := List.mem_map.mp hn
    obtain rfl := EnumValue.number.inj hmn
    obtain ⟨found, hfound, hid⟩ := exists_of_forall₂ (mapM_eq_some_iff.mp hns).flip hm
    obtain rfl : found = some m := hid
    obtain ⟨cs, -, hcs⟩ := exists_of_mem_mapM hnumbers hfound
    exact Number.isFinite_of_parse? hcs
  · obtain ⟨-, rfl⟩ := Prod.mk.inj hpair
    obtain ⟨_, -, htext⟩ := List.mem_map.mp hn
    cases htext

lemma isFinite_of_parse {n : Number} (h : Declaration.parse line = .ok d)
    (hn : d.Lists (.number n)) : n.isFinite = true := by
  obtain ⟨vs, hvs, hn⟩ := hn
  rw [Declaration.parse] at h
  split at h
  · cases h
  · dsimp only at h
    split at h
    · obtain ⟨types, -, rfl⟩ := bind_pure_eq_ok_iff.mp h
      cases hvs
    · split at h
      · split at h
        · obtain rfl := Except.ok.inj h
          cases hvs
        · obtain ⟨⟨type, values⟩, hvalues, rfl⟩ := bind_pure_eq_ok_iff.mp h
          obtain rfl := Option.some.inj hvs
          exact isFinite_of_classifyValues hvalues hn
      · obtain ⟨type, -, rfl⟩ := bind_pure_eq_ok_iff.mp h
        cases hvs

lemma lists_of_base (h : d.base = .ok base) (hv : base.Lists v) : d.Lists v := by
  unfold Declaration.base at h
  split at h
  · obtain rfl := Except.ok.inj h
    cases hv with
    | oneOf hf hv =>
      obtain ⟨type, -, rfl⟩ := List.mem_map.mp hf
      cases hv
  · split at h
    · split at h
      · obtain rfl := Except.ok.inj h
        cases hv
      · rename_i values hvalues
        split at h
        · obtain rfl := Except.ok.inj h
          cases hv with
          | enum hv => exact ⟨values, hvalues, hv⟩
        · split at h
          · obtain rfl := Except.ok.inj h
            cases hv with
            | enum hv => exact ⟨values, hvalues, hv⟩
          · cases h
    · obtain rfl := Except.ok.inj h
      cases hv

/-- Folding makes no values: each one is listed by one of the declarations. -/
theorem lists_of_fold (d : Declaration) {f : Fragment} (h : fold d nested = .ok f)
    (hv : f.Lists v) : ∃ c, (c = d ∨ c ∈ nested) ∧ c.Lists v := by
  rcases fold_cases h with ⟨hbase, -⟩ | ⟨properties, -, -, hproperties, rfl⟩
  · exact ⟨d, .inl rfl, lists_of_base hbase hv⟩
  · cases hv with
    | property hx hv =>
      obtain ⟨⟨field, child⟩, hmem, hfield⟩ := exists_of_mem_mapM hproperties hx
      obtain ⟨g, hg, heq⟩ := foldField_eq_ok_iff.mp hfield
      obtain ⟨-, rfl⟩ := Prod.mk.inj heq
      have hlonger := longest_sub_lt_of_mem_fieldsBelow hmem
      obtain ⟨c, hc, hlists⟩ := lists_of_fold child hg hv.of_describe
      have hchild := (mem_fieldsBelow hmem).1
      exact ⟨c, .inr (hc.elim (fun heq => heq ▸ hchild) id), hlists⟩
termination_by longest nested - d.name.length

lemma lists_of_mem_buildParams (h : buildParams ds = .ok params) (hp : p ∈ params)
    (hv : p.fragment.Lists v) : ∃ d ∈ ds, d.Lists v := by
  rw [buildParams_eq_mapM] at h
  obtain ⟨y, hy, hyp⟩ := exists_of_mem_mapM h hp
  obtain ⟨f, hf, rfl⟩ := foldParam_eq_ok_iff.mp hyp
  obtain ⟨c, hc, hlists⟩ := lists_of_fold y.2 hf hv
  rcases hc with rfl | hc
  · exact ⟨_, mem_of_mem_byName hy, hlists⟩
  · exact ⟨c, (List.mem_filter.mp hc).1, hlists⟩

end Jsdoc

namespace DocumentedFunction

open Document

variable {a : DocumentedFunction} {n : Number}

lemma exists_lists_of_toSchema (hparams : ∀ p ∈ a.params,
      p.toSchema = (p.fragment.describe (some p.description)).toSchema)
    (h : a.toSchema.Holds n) : ∃ p ∈ a.params, p.fragment.Lists (.number n) := by
  obtain ⟨x, hx, h⟩ := exists_of_holds_object h
  rcases List.mem_pair.mp hx with rfl | rfl
  · exact absurd h (not_holds_text _ n)
  obtain ⟨x, hx, h⟩ := exists_of_holds_object h
  rcases List.mem_cons.mp hx with rfl | hx
  · exact absurd h (not_holds_text _ n)
  rcases List.mem_pair.mp hx with rfl | rfl
  · exact absurd h (not_holds_text _ n)
  obtain ⟨x, hx, h⟩ := exists_of_holds_object h
  rcases List.mem_cons.mp hx with rfl | hx
  · exact absurd h (not_holds_text _ n)
  rcases List.mem_pair.mp hx with rfl | rfl
  · obtain ⟨x, hx, h⟩ := exists_of_holds_object h
    obtain ⟨p, hp, rfl⟩ := List.mem_map.mp hx
    dsimp only at h
    rw [hparams p hp] at h
    exact ⟨p, hp, (Fragment.lists_of_toSchema _ h).of_describe⟩
  · exact absurd h (not_holds_texts _ n)

end DocumentedFunction

lemma Jsdoc.isFinite_functions {source : List Char} {fs : List DocumentedFunction}
    {a : DocumentedFunction} (h : functions source = .ok fs) (ha : a ∈ fs) :
    a.toSchema.IsFinite := by
  intro n hn
  obtain ⟨ds, hds, hparams⟩ := exists_declarations h ha
  obtain ⟨p, hp, hlists⟩ := DocumentedFunction.exists_lists_of_toSchema (fun p hp =>
    toSchema_of_mem_buildParams (fun d hd => (hds d hd).elim fun _ => wellFormed_of_parse)
      hparams hp) hn
  obtain ⟨d, hd, hlists⟩ := lists_of_mem_buildParams hparams hp hlists
  obtain ⟨line, hline⟩ := hds d hd
  exact isFinite_of_parse hline hlists

/-- A number is a value of a literal or an enumeration that the hints of a callable object's
parameters reach. -/
def Context.ListsNumber (ctx : Context) (f : Callable) (n : Number) : Prop :=
  ∃ h u, ctx.ParamHint f h ∧ ctx.graph.Reaches h u ∧ ctx.graph.Enumerates u (.number n)

lemma Context.listsNumber_of_document {ctx : Context} {f : Callable} {given : Option String}
    {a : DocumentedFunction} {n : Number} (h : (ctx.document f given).value = .ok a)
    (hn : a.toSchema.Holds n) : ctx.ListsNumber f n := by
  obtain ⟨-, hresolved⟩ := isResolved_document h
  obtain ⟨p, hp, hlists⟩ := DocumentedFunction.exists_lists_of_toSchema
    (fun p hp => (hresolved p hp).toSchema_eq) hn
  rcases (hresolved p hp).fragment with hnone | ⟨hint, x, hhint, hx, hfragment⟩
  · rw [hnone] at hlists
    cases hlists
  · rw [hfragment] at hlists
    obtain ⟨u, hreaches, henumerates⟩ := TypeGraph.enumerates_of_resolveOptional hx hlists
    exact ⟨hint, u, hhint, hreaches, henumerates⟩

lemma Sources.exists_element_of_writeSchemas {files written : Sources} {path : String}
    {schemas : List Document} {indent : Option Nat}
    (h : files.writeSchemas path schemas indent = (.ok (), written))
    (hschemas : ∀ d ∈ schemas, d.IsFinite) :
    ∃ text : String, written.read path.toList = .ok (.ofText text) ∧
      Json.IsElement text.toList := by
  have hlist : (Document.list schemas).IsFinite := by
    intro n hn
    obtain ⟨d, hd, hn⟩ := Document.exists_of_holds_list hn
    exact hschemas d hd n hn
  unfold Sources.writeSchemas at h
  cases hprint : (Document.list schemas).print indent with
  | mk text ending =>
    rw [hprint] at h
    dsimp only at h
    split at h
    · cases h
    · rename_i files' hwritten
      obtain ⟨rfl, rfl⟩ := Prod.mk.inj h
      have hwhole := (Document.print_eq_ok_iff _ _).mp (congrArg Prod.snd hprint)
      rw [Document.print_of_isWritable indent hwhole] at hprint
      obtain ⟨rfl, -⟩ := Prod.mk.inj hprint
      refine ⟨_, FileTree.read_of_writeWithin hwritten, ?_⟩
      rw [Except.isOk, Except.toBool, if_pos rfl, String.toList_append]
      simpa using Json.IsElement.mk Json.blank_nil (Json.isValue_write 0 _ hlist) Json.blank_break

namespace DocumentedFunction

/-- The numbers in the schema of a function that a comment documents are finite. Those in the schema
of an object with hints are values of the literals and enumerations that its hints reach, and so
finite if these are. Schemas with finite numbers are written as a text of the data format. -/
theorem numbers_finite (source : List Char) (ctx : Context) (f : Callable) (given : Option String)
    (files : Sources) (path : String) (schemas : List Document) (indent : Option Nat) :
    (∀ fs, Jsdoc.functions source = .ok fs → ∀ a ∈ fs, a.toSchema.IsFinite) ∧
      (∀ a, (ctx.document f given).value = .ok a →
        (∀ n, a.toSchema.Holds n → ctx.ListsNumber f n) ∧
          ((∀ n, ctx.ListsNumber f n → n.isFinite = true) → a.toSchema.IsFinite)) ∧
      ∀ written, files.writeSchemas path schemas indent = (.ok (), written) →
        (∀ d ∈ schemas, d.IsFinite) → ∃ text : String,
          written.read path.toList = .ok (.ofText text) ∧ Json.IsElement text.toList := by
  refine ⟨fun fs h a ha => Jsdoc.isFinite_functions h ha, fun a h => ?_,
    fun written h hschemas => Sources.exists_element_of_writeSchemas h hschemas⟩
  have hlists : ∀ n, a.toSchema.Holds n → ctx.ListsNumber f n :=
    fun n hn => Context.listsNumber_of_document h hn
  exact ⟨hlists, fun hfinite n hn => hfinite n (hlists n hn)⟩

section Examples

/-- An enumeration whose only member is infinite. -/
def limit : ClassInfo where
  identity := 0
  qualifiedName := "Limit"
  home := "limits"
  metaclass := .enumeration
  ancestors := [.known "enum" "Enum", .object]
  annotations := .empty
  attributes := [("NONE", .hint (.constant
    (.member 0 "Limit" "NONE" .plain (.number (.float (.infinite false))))))]
  enumeration := some { dataType := none, values := [.number (.float (.infinite false))] }

def limits : Context := { classes := [limit] }

/-- A function that takes a member of the enumeration. -/
def limited : Callable where
  name := some "limited"
  home := "limits"
  doc := none
  params := some [⟨"by", .positional, false⟩]
  annotations := [("by", limit.hint)]

def limitParam : Param where
  name := "by"
  fragment := .enum none .number [.number (.float (.infinite false))]

lemma document_limited : (limits.document limited none).value =
    .ok ⟨"", "limited", [limitParam]⟩ := rfl

lemma holds_limited :
    (toSchema ⟨"", "limited", [limitParam]⟩).Holds (.float (.infinite false)) := by
  have hparam : limitParam.toSchema.Holds (.float (.infinite false)) :=
    .field (List.mem_cons_of_mem _ List.mem_cons_self) (.item List.mem_cons_self (.number _))
  have hproperties : (Document.object [("by", limitParam.toSchema)]).Holds
      (.float (.infinite false)) := .field List.mem_cons_self hparam
  have hparameters : (parameters [limitParam]).Holds (.float (.infinite false)) :=
    .field (List.mem_cons_of_mem _ List.mem_cons_self) hproperties
  exact .field (List.mem_cons_of_mem _ List.mem_cons_self)
    (.field (List.mem_cons_of_mem _ (List.mem_cons_of_mem _ List.mem_cons_self)) hparameters)

def scaleParam : Param where
  name := "by"
  fragment := .enum none .number [.number (.int 1), .number (.int 2)]
  enumValues := some [.number (.int 1), .number (.int 2)]

/-- The listed numbers of a comment are finite, so that the schema is written as a text of the data
format. The infinite number in the schema of a function is one of an enumeration in its hints. -/
theorem numbers_finite_limited :
    (toSchema ⟨"", "scale", [scaleParam]⟩).IsFinite ∧
      limits.ListsNumber limited (.float (.infinite false)) ∧
      ∃ written, Sources.writeSchemas (.directory []) "schemas.json"
          [toSchema ⟨"", "scale", [scaleParam]⟩] (some 2) = (.ok (), written) ∧
        ∃ text : String, written.read "schemas.json".toList = .ok (.ofText text) ∧
          Json.IsElement text.toList := by
  have hscale : Jsdoc.functions
      "/** @param \x7benum\x7d by [1, 2] */\nfunction scale() \x7b\x7d\n".toList =
        .ok [⟨"", "scale", [scaleParam]⟩] := by with_unfolding_all rfl
  have hprint : ((Document.list [toSchema ⟨"", "scale", [scaleParam]⟩]).print (some 2)).2 =
      .ok () := rfl
  have hwritten : ∃ written, Sources.writeSchemas (.directory []) "schemas.json"
      [toSchema ⟨"", "scale", [scaleParam]⟩] (some 2) = (.ok (), written) := by
    unfold Sources.writeSchemas
    exact ⟨_, Prod.ext hprint rfl⟩
  obtain ⟨written, hwritten⟩ := hwritten
  obtain ⟨hfinite, hlists, htext⟩ := numbers_finite
    "/** @param \x7benum\x7d by [1, 2] */\nfunction scale() \x7b\x7d\n".toList limits limited none
    (.directory []) "schemas.json" [toSchema ⟨"", "scale", [scaleParam]⟩] (some 2)
  have hscaled := hfinite _ hscale _ List.mem_cons_self
  exact ⟨hscaled, (hlists _ document_limited).1 _ holds_limited, written, hwritten,
    htext _ hwritten fun _ h => List.mem_singleton.mp h ▸ hscaled⟩

/-- A function that takes a member with an infinite value has a schema that holds it, and it is
written with a text that no number has. -/
theorem not_isFinite_limited :
    ∃ a, (limits.document limited none).value = .ok a ∧ ¬a.toSchema.IsFinite ∧
      a.toSchema.Holds (.float (.infinite false)) ∧
      ¬Json.IsNumber (Document.writeNumber (.float (.infinite false))).toList := by
  refine ⟨_, document_limited, ?_, holds_limited, ?_⟩
  · intro hfinite
    have := hfinite _ holds_limited
    cases this
  · rw [Json.isNumber_writeNumber_iff]
    exact nofun

end Examples

end DocumentedFunction

end CallSchema

import CallSchema.Proofs.DeclaredParams

/-!
# Documented parameters

The parameters that declarations give have different names, so that they always make a documented
function. The schema of a parameter is the one of its fragment with the description of the
declaration: the values that are written over it are its own.
-/

namespace CallSchema

/-- The part of a document that a path of fields leads to. -/
def Document.at? (d : Document) (path : List String) : Option Document :=
  path.foldlM (fun d key => d.field? key) d

namespace DocumentedFunction

variable {names seen : List String} {params : List Param}

lemma repeated?_eq_none_iff :
    repeated? seen names = none ↔ names.Nodup ∧ ∀ name ∈ names, name ∉ seen := by
  induction names generalizing seen with
  | nil => simp [repeated?]
  | cons name names ih =>
    rw [repeated?, List.nodup_cons, List.forall_mem_cons]
    split
    · rename_i hseen
      exact iff_of_false nofun fun h => h.2.1 (by simpa using hseen)
    · rename_i hseen
      rw [ih]
      constructor
      · rintro ⟨hnodup, hnames⟩
        refine ⟨⟨fun hname => hnames name hname List.mem_cons_self, hnodup⟩, by simpa using hseen,
          fun n hn => ?_⟩
        exact fun hmem => hnames n hn (List.mem_cons_of_mem name hmem)
      · rintro ⟨⟨hname, hnodup⟩, -, hnames⟩
        refine ⟨hnodup, fun n hn hmem => ?_⟩
        rcases List.mem_cons.mp hmem with rfl | hmem
        · exact hname hn
        · exact hnames n hn hmem

lemma make_of_nodup (h : (params.map (·.name)).Nodup) (notice functionName : String) :
    make notice functionName params = .ok { notice, functionName, params } := by
  have hnone : repeated? [] (params.map (·.name)) = none :=
    repeated?_eq_none_iff.mpr ⟨h, fun _ _ => List.not_mem_nil⟩
  simp only [make, hnone]

lemma at?_properties_singleton (notice functionName : String) (p : Param) :
    (toSchema { notice, functionName, params := [p] }).at?
      ["function", "parameters", "properties", p.name] = some p.toSchema := by
  change (Document.object [(p.name, p.toSchema)]).field? p.name >>= pure = _
  simp [Document.field?]

end DocumentedFunction

lemma Fragment.toSchema_describe (f : Fragment) (d : String) :
    ∃ fields, f.toSchema = .object fields ∧
      (f.describe (some d)).toSchema = .object (Keyed.put fields "description" (.text d)) := by
  rcases f with ⟨_ | _, _⟩ | ⟨_ | _, _, _⟩ | ⟨_ | _, _, _⟩ | ⟨_ | _, _⟩ | ⟨_ | _, _⟩ |
    ⟨_ | _, _⟩ | ⟨_ | _⟩ <;> exact ⟨_, rfl, rfl⟩

lemma Param.toSchema_eq {p : Param} (hvalues : ∀ v vs, p.enumValues = some (v :: vs) →
      ∃ base, p.fragment = .enum p.fragment.description base (v :: vs)) :
    p.toSchema = (p.fragment.describe (some p.description)).toSchema := by
  obtain ⟨fields, hfields, hdescribe⟩ := p.fragment.toSchema_describe p.description
  rw [hdescribe, Param.toSchema, hfields]
  rcases hlist : p.enumValues with _ | _ | ⟨v, vs⟩
  · rfl
  · rfl
  · obtain ⟨base, hfragment⟩ := hvalues v vs hlist
    rw [hfragment] at hfields
    generalize p.fragment.description = old at hfields
    cases old <;> obtain rfl := Document.object.inj hfields <;> rfl

namespace Jsdoc

variable {ds nested : List Declaration} {d : Declaration} {f : Fragment} {p : Param}
  {params : List Param}

/-- What reading a declaration line gives: the values of an enumeration have a base, and no
enumeration is a union. -/
structure Declaration.WellFormed (d : Declaration) : Prop where
  enumBase : d.HasEnumBase
  oneKind : d.isEnum = true → d.unionTypes = none

instance : Decidable d.WellFormed :=
  decidable_of_iff (d.HasEnumBase ∧ (d.isEnum = true → d.unionTypes = none))
    ⟨fun h => ⟨h.1, h.2⟩, fun h => ⟨h.1, h.2⟩⟩

lemma mem_of_mem_byName {y : String × Declaration} (hy : y ∈ byName (ds.filter (!·.isNested))) :
    y.2 ∈ ds :=
  (List.mem_filter.mp (lastNamed?_mem (mem_byName.mp hy)).1).1

theorem exists_buildParams (h : ∀ d ∈ ds, d.HasEnumBase) :
    ∃ params, buildParams ds = .ok params := by
  rw [buildParams_eq_mapM]
  refine exists_mapM_eq_ok fun y hy => ?_
  obtain ⟨f, hf⟩ := exists_fold (fun c hc => h c (List.mem_filter.mp hc).1) y.2
    (h y.2 (mem_of_mem_byName hy))
  exact ⟨_, foldParam_eq_ok_iff.mpr ⟨f, hf, rfl⟩⟩

lemma nodup_names_buildParams (h : buildParams ds = .ok params) : (params.map (·.name)).Nodup := by
  rw [buildParams_eq_mapM] at h
  have hnames : params.map (·.name) = Keyed.keys (byName (ds.filter (!·.isNested))) := by
    refine map_eq_map_of_mapM h fun y hy p hp => ?_
    obtain ⟨f, -, rfl⟩ := foldParam_eq_ok_iff.mp hp
    exact (lastNamed?_mem (mem_byName.mp hy)).2
  rw [hnames]
  exact Keyed.nodup_keys_ofPairs _

def documented (notice functionName : String) (ds : List Declaration) :
    Except Failure DocumentedFunction := do
  DocumentedFunction.make notice functionName (← buildParams ds)

lemma documented_of_buildParams (h : buildParams ds = .ok params) (notice functionName : String) :
    documented notice functionName ds = .ok { notice, functionName, params } := by
  rw [documented, h]
  exact DocumentedFunction.make_of_nodup (nodup_names_buildParams h) notice functionName

lemma fold_of_isEnum (hd : d.WellFormed) (henum : d.isEnum = true) {values : List EnumValue}
    (hvalues : d.enumValues = some values) (h : fold d nested = .ok f) :
    ∃ base, f = .enum none base values := by
  rcases fold_cases h with ⟨hbase, -⟩ | ⟨_, hobject, -⟩
  · simp only [Declaration.base, hd.oneKind henum, henum, hvalues, if_true] at hbase
    split at hbase
    · exact ⟨.string, (Except.ok.inj hbase).symm⟩
    · split at hbase
      · exact ⟨.number, (Except.ok.inj hbase).symm⟩
      · cases hbase
  · rw [(isObject_iff.mp hobject).2.1] at henum
    cases henum

lemma toSchema_of_mem_buildParams (hds : ∀ d ∈ ds, d.WellFormed) (h : buildParams ds = .ok params)
    (hp : p ∈ params) : p.toSchema = (p.fragment.describe (some p.description)).toSchema := by
  rw [buildParams_eq_mapM] at h
  obtain ⟨y, hy, hyp⟩ := exists_of_mem_mapM h hp
  obtain ⟨f, hf, rfl⟩ := foldParam_eq_ok_iff.mp hyp
  refine Param.toSchema_eq fun v vs hvalues => ?_
  rw [description_fold hf]
  by_cases henum : y.2.isEnum = true
  · rw [if_pos henum] at hvalues
    exact fold_of_isEnum (hds y.2 (mem_of_mem_byName hy)) henum hvalues hf
  · rw [if_neg henum] at hvalues
    cases hvalues

end Jsdoc

end CallSchema

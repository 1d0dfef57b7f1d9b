import CallSchema.Proofs.AbsentMembers
import Mathlib.Tactic.Choose

/-!
# What is resolved without a warning

Where no type is unsupported the rules make a fragment of a type in a way that does not depend on a
run. What is unknown in it is so because a type says nothing of its values, and that is also why a
union leaves out a member.
-/

namespace CallSchema

namespace Outcome

variable {α β : Type}

/-- What holds of a sequence of steps holds of each of them. -/
structure Passes (P : (α : Type) → Outcome α → Prop) : Prop where
  of_bind {α β : Type} {x : Outcome α} {f : α → Outcome β} (h : P β (x >>= f)) :
    P α x ∧ ∀ a, x.value = .ok a → P β (f a)

lemma passes_silent : Passes fun _ o => o.warnings = [] := by
  refine ⟨fun {α β x f} h => ?_⟩
  constructor
  · refine List.eq_nil_iff_forall_not_mem.mpr fun w hw => ?_
    exact List.eq_nil_iff_forall_not_mem.mp h w (mem_warnings_bind.mpr (.inl hw))
  · intro a ha
    refine List.eq_nil_iff_forall_not_mem.mpr fun w hw => ?_
    exact List.eq_nil_iff_forall_not_mem.mp h w (mem_warnings_bind.mpr (.inr ⟨a, ha, hw⟩))

lemma passes_answered : Passes fun _ o => ∃ a, o.value = .ok a := by
  refine ⟨fun {α β x f} ⟨b, hb⟩ => ?_⟩
  obtain ⟨a, ha, hb⟩ := value_bind_eq_ok.mp hb
  refine ⟨⟨a, ha⟩, fun a' ha' => ⟨b, ?_⟩⟩
  obtain rfl := Except.ok.inj (ha.symm.trans ha')
  exact hb

lemma eq_ok_iff {x : Outcome α} {a : α} : x = ok a ↔ x.warnings = [] ∧ x.value = .ok a := by
  cases x
  simp [ok]

end Outcome

namespace Fragment

/-- A step from a fragment to one that stands directly in it. -/
inductive Step
  | items
  | property (name : String)
  | variant (place : Nat)
  deriving DecidableEq, Repr

/-- The fragment that a step leads to. -/
def step? : Fragment → Step → Option Fragment
  | array _ items, .items => some items
  | object _ properties _, .property name => Keyed.get? properties name
  | oneOf _ variants, .variant i | allOf _ variants, .variant i => variants[i]?
  | _, _ => none

/-- The fragment that steps lead to, one after another. -/
def follow? (f : Fragment) : List Step → Option Fragment
  | [] => some f
  | step :: steps => (f.step? step).bind (follow? · steps)

/-- An unknown fragment stands where steps lead to. -/
def UnknownAt (f : Fragment) (steps : List Step) : Prop := ∃ d, f.follow? steps = some (.unknown d)

lemma unknownAt_nil {f : Fragment} : f.UnknownAt [] ↔ f.isUnknown = true := by
  cases f <;> simp [UnknownAt, follow?, isUnknown]

lemma unknownAt_cons {f : Fragment} {step : Step} {steps : List Step} :
    f.UnknownAt (step :: steps) ↔ ∃ v, f.step? step = some v ∧ v.UnknownAt steps := by
  simp only [UnknownAt, follow?, Option.bind_eq_some_iff]
  constructor
  · rintro ⟨d, v, hv, hd⟩
    exact ⟨v, hv, d, hd⟩
  · rintro ⟨v, hv, d, hd⟩
    exact ⟨d, v, hv, hd⟩

lemma UnknownAt.exists_step {f : Fragment} {steps : List Step} (h : f.UnknownAt steps)
    (hf : f.isUnknown = false) :
    ∃ step rest v, steps = step :: rest ∧ f.step? step = some v ∧ v.UnknownAt rest := by
  cases steps with
  | nil => simp [unknownAt_nil.mp h] at hf
  | cons step rest =>
    obtain ⟨v, hv, h⟩ := unknownAt_cons.mp h
    exact ⟨step, rest, v, rfl, hv, h⟩

lemma step?_describe (d : Option String) (f : Fragment) (step : Step) :
    (f.describe d).step? step = f.step? step := by
  cases f <;> cases step <;> rfl

lemma unknownAt_describe {d : Option String} {f : Fragment} {steps : List Step} :
    (f.describe d).UnknownAt steps ↔ f.UnknownAt steps := by
  cases steps with
  | nil => cases f <;> simp [unknownAt_nil, describe, isUnknown]
  | cons step steps => simp only [unknownAt_cons, step?_describe]

end Fragment

namespace TypeGraph

variable {τ ι : Type} {g : TypeGraph τ ι} {t u : τ}

/-- A type that says nothing of its values: it is unconstrained on purpose, or it is a union that
has no members but absence and such types. -/
inductive Blank (g : TypeGraph τ ι) : τ → Prop
  | unconstrained {t : τ} (ht : (g.isNone t || g.isAny t) = true) : Blank g t
  | union {t : τ} (ht : g.isUnion t = true) (h : ∀ u ∈ g.presentMembers t, Blank g u) : Blank g t

/-- A type is resolved as a union: that is its shape, or it is asked whether it may be absent and
has absence among its members. -/
def Unites (g : TypeGraph τ ι) (t : τ) : Prop :=
  (g.shape t).value = .ok (.union (g.presentMembers t)) ∨ g.HasAbsentMember t

/-- What the rules make of a type where none of the types that they come to is unsupported. Where a
type stands twice it resolves alike, so the fragments of members are given by their types. -/
inductive Becomes (g : TypeGraph τ ι) : τ → Fragment → Prop
  | unconstrained {t : τ} (ht : (g.isNone t || g.isAny t) = true) : Becomes g t (.unknown none)
  | enumeration {t : τ} {base : EnumBase} {values : List EnumValue}
    (ht : (g.shape t).value = .ok (.enumeration base values)) : Becomes g t (.enum none base values)
  | primitive {t : τ} {type : String} (ht : (g.shape t).value = .ok (.primitive type)) :
    Becomes g t (.primitive none type)
  | bareArray {t : τ} (ht : (g.shape t).value = .ok (.array none)) :
    Becomes g t (.array none (.unknown none))
  | array {t u : τ} {items : Fragment} (ht : (g.shape t).value = .ok (.array (some u)))
    (h : Becomes g u items) : Becomes g t (.array none items)
  | object {t : τ} {ms : List (Member τ)} {required : List String} {k : Member τ → Fragment}
    (ht : (g.shape t).value = .ok (.object ms)) (h : ∀ m ∈ ms, Becomes g m.type (k m)) :
    Becomes g t (.object none
      (Keyed.ofPairs (ms.map fun m => (m.name, describeMember m.description (k m)))) required)
  | union {t : τ} {k : τ → Fragment} (ht : g.Unites t)
    (h : ∀ u ∈ g.presentMembers t, Becomes g u (k u)) :
    Becomes g t (.oneOfAll ((g.presentMembers t).map k))
  | intersection {t : τ} {ts : List τ} {k : τ → Fragment}
    (ht : (g.shape t).value = .ok (.intersection ts)) (h : ∀ u ∈ ts, Becomes g u (k u)) :
    Becomes g t (.allOf none (ts.map k))

lemma Unites.isUnion (h : g.Unites t) : g.isUnion t = true := by
  rcases h with hshape | ⟨u, hu, -⟩
  · exact (isShape_of_shape hshape).1.fits
  · exact hu.1

lemma oneOfAll_singleton {f : Fragment} (h : f.isUnknown = true → f = .unknown none) :
    Fragment.oneOfAll [f] = f := by
  cases hf : f.isUnknown with
  | true =>
    rw [h hf]
    rfl
  | false => simp [Fragment.oneOfAll, hf]

lemma filter_eq_nil_of_oneOfAll {fs : List Fragment}
    (h : (Fragment.oneOfAll fs).isUnknown = true) : fs.filter (!·.isUnknown) = [] := by
  have hknown : ∀ f ∈ fs.filter (!·.isUnknown), f.isUnknown = false := fun f hf => by
    simpa using (List.mem_filter.mp hf).2
  unfold Fragment.oneOfAll at h
  generalize fs.filter (!·.isUnknown) = known at hknown h
  split at h
  · rfl
  · rename_i f
    rw [hknown f List.mem_cons_self] at h
    cases h
  · split at h <;> cases h

lemma Becomes.blank {f : Fragment} (h : g.Becomes t f) (hf : f.isUnknown = true) :
    g.Blank t ∧ f = .unknown none := by
  induction h with
  | unconstrained ht => exact ⟨.unconstrained ht, rfl⟩
  | union ht _ ih =>
    have hnil := filter_eq_nil_of_oneOfAll hf
    refine ⟨.union ht.isUnion fun u hu => ?_, by rw [Fragment.oneOfAll, hnil]⟩
    have hu' := List.filter_eq_nil_iff.mp hnil _ (List.mem_map_of_mem hu)
    exact (ih u hu (by simpa using hu')).1
  | _ => cases hf

lemma comes_silent : Comes fun α (x : Outcome α) a => x = .ok a where
  pure h := (Outcome.value_pure_eq_ok.mp (congrArg Outcome.value h)).symm
  answer h := congrArg Outcome.value h
  bind := by
    intro α β x f b h
    obtain ⟨hsilent, hvalue⟩ := Outcome.eq_ok_iff.mp h
    obtain ⟨a, ha, hb⟩ := Outcome.value_bind_eq_ok.mp hvalue
    obtain ⟨hfirst, hnext⟩ := Outcome.passes_silent.of_bind hsilent
    exact ⟨a, Outcome.eq_ok_iff.mpr ⟨hfirst, ha⟩, Outcome.eq_ok_iff.mpr ⟨hnext a ha, hb⟩⟩

lemma exists_map_of_mapInOrder {α β : Type} [Inhabited β] {step : α → Outcome β} {as : List α}
    {bs : List β} (h : mapInOrder step as = .ok bs) :
    ∃ k : α → β, bs = as.map k ∧ ∀ a ∈ as, step a = .ok (k a) := by
  have hsteps := comes_silent.mapInOrder h
  let k (a : α) : β := (step a).value.toOption.getD default
  have hk : ∀ a b, step a = .ok b → b = k a := fun a b hb => by
    simp [k, hb, Outcome.ok, Except.toOption]
  refine ⟨k, ?_, fun a ha => ?_⟩
  · simpa using map_eq_map_of_forall₂ (g := id) hsteps hk
  · obtain ⟨b, -, hb⟩ := exists_of_forall₂ hsteps ha
    exact hk a b hb ▸ hb

section Steps

variable {resolve : τ → Outcome Fragment} (hresolve : ∀ u f, resolve u = .ok f → g.Becomes u f)

include hresolve

lemma exists_union_of_silent {ts : List τ} {f : Fragment}
    (h : resolveUnionWith resolve ts = .ok f) :
    ∃ k : τ → Fragment, f = .oneOfAll (ts.map k) ∧ ∀ u ∈ ts, g.Becomes u (k u) := by
  unfold resolveUnionWith at h
  split at h
  · rename_i u
    have hbecomes := hresolve u f h
    refine ⟨fun _ => f, ?_, by simpa using hbecomes⟩
    exact (oneOfAll_singleton fun hf => (hbecomes.blank hf).2).symm
  · obtain ⟨fs, hfs, h⟩ := comes_silent.bind h
    obtain rfl := comes_silent.pure h
    obtain ⟨k, rfl, hk⟩ := exists_map_of_mapInOrder hfs
    exact ⟨k, rfl, fun u hu => hresolve u (k u) (hk u hu)⟩

lemma becomes_of_resolveOptionalWith {x : Fragment × Bool}
    (h : g.resolveOptionalWith resolve t = .ok x) : g.Becomes t x.1 := by
  unfold resolveOptionalWith at h
  split at h
  · rename_i habsent
    obtain ⟨f, hf, h⟩ := comes_silent.bind h
    obtain rfl := comes_silent.pure h
    obtain ⟨k, rfl, hk⟩ := exists_union_of_silent hresolve hf
    exact .union (.inr (hasAbsentMember_iff.mpr habsent)) hk
  · obtain ⟨f, hf, h⟩ := comes_silent.bind h
    obtain rfl := comes_silent.pure h
    exact hresolve t f hf

lemma becomes_of_resolveShapeWith {shape : TypeShape τ} {f : Fragment}
    (hshape : (g.shape t).value = .ok shape)
    (h : g.resolveShapeWith resolve t shape = .ok f) : g.Becomes t f := by
  match shape, hshape with
  | .unconstrained, hshape =>
    obtain rfl := comes_silent.pure h
    exact .unconstrained (isShape_of_shape hshape)
  | .enumeration base values, hshape =>
    obtain rfl := comes_silent.pure h
    exact .enumeration hshape
  | .primitive type, hshape =>
    obtain rfl := comes_silent.pure h
    exact .primitive hshape
  | .array none, hshape =>
    obtain rfl := comes_silent.pure h
    exact .bareArray hshape
  | .array (some u), hshape =>
    obtain ⟨items, hitems, h⟩ := comes_silent.bind h
    obtain rfl := comes_silent.pure h
    exact .array hshape (hresolve u items hitems)
  | .object ms, hshape =>
    obtain ⟨members, hmembers, h⟩ := comes_silent.bind h
    obtain rfl := comes_silent.pure h
    obtain ⟨row, rfl, hrow⟩ := exists_map_of_mapInOrder hmembers
    have hmember : ∀ m ∈ ms, ∃ f, g.Becomes m.type f ∧
        ((row m).1, (row m).2.1) = (m.name, describeMember m.description f) := by
      intro m hm
      obtain ⟨x, hx, h⟩ := comes_silent.bind (hrow m hm)
      exact ⟨x.1, becomes_of_resolveOptionalWith hresolve hx, by rw [comes_silent.pure h]⟩
    choose! k hk using hmember
    have hproperties := List.map_congr_left fun m hm => (hk m hm).2
    rw [objectOf, List.map_map]
    change g.Becomes t (.object none (Keyed.ofPairs (ms.map fun m => ((row m).1, (row m).2.1))) _)
    rw [hproperties]
    exact .object hshape fun m hm => (hk m hm).1
  | .union ts, hshape =>
    obtain ⟨k, rfl, hk⟩ := exists_union_of_silent hresolve h
    obtain rfl := (isShape_of_shape hshape).2
    exact .union (.inl hshape) hk
  | .intersection ts, hshape =>
    obtain ⟨fs, hfs, h⟩ := comes_silent.bind h
    obtain ⟨k, rfl, hk⟩ := exists_map_of_mapInOrder hfs
    have hall : Fragment.allOfAll (ts.map k) = .ok f := comes_silent.answer h
    unfold Fragment.allOfAll at hall
    split at hall
    · cases hall
    · obtain rfl := Except.ok.inj hall
      exact .intersection hshape fun u hu => hresolve u (k u) (hk u hu)
  | .unsupported, _ =>
    obtain ⟨_, hwarn, -⟩ := comes_silent.bind h
    cases hwarn

end Steps

/-- A union keeps some of its members, and those that it leaves out say nothing of their values. -/
def Keeps (g : TypeGraph τ ι) (t : τ) (kept : List τ) : Prop :=
  ∃ keep : τ → Bool, kept = (g.presentMembers t).filter keep ∧
    ∀ u ∈ g.presentMembers t, keep u = false → g.Blank u

/-- Where the types in a type say nothing: there stands a type that is blank, or the elements of an
array whose type is not told. -/
inductive TellsNothingAt (g : TypeGraph τ ι) : τ → List Fragment.Step → Prop
  | blank {t : τ} (ht : g.Blank t) : TellsNothingAt g t []
  | bareArray {t : τ} (ht : (g.shape t).value = .ok (.array none)) : TellsNothingAt g t [.items]
  | element {t u : τ} {steps : List Fragment.Step} (ht : (g.shape t).value = .ok (.array (some u)))
    (h : TellsNothingAt g u steps) : TellsNothingAt g t (.items :: steps)
  | member {t : τ} {ms : List (Member τ)} {m : Member τ} {steps : List Fragment.Step}
    (ht : (g.shape t).value = .ok (.object ms)) (hm : m ∈ ms)
    (h : TellsNothingAt g m.type steps) : TellsNothingAt g t (.property m.name :: steps)
  | soleMember {t u : τ} {steps : List Fragment.Step} (ht : g.Unites t) (hkept : g.Keeps t [u])
    (h : TellsNothingAt g u steps) : TellsNothingAt g t steps
  | unionMember {t u : τ} {kept : List τ} {i : Nat} {steps : List Fragment.Step}
    (ht : g.Unites t) (hkept : g.Keeps t kept) (hu : kept[i]? = some u)
    (h : TellsNothingAt g u steps) : TellsNothingAt g t (.variant i :: steps)
  | intersectionMember {t u : τ} {ts : List τ} {i : Nat} {steps : List Fragment.Step}
    (ht : (g.shape t).value = .ok (.intersection ts)) (hu : ts[i]? = some u)
    (h : TellsNothingAt g u steps) : TellsNothingAt g t (.variant i :: steps)

lemma unknownAt_describeMember {d : Option String} {f : Fragment} {steps : List Fragment.Step} :
    (describeMember d f).UnknownAt steps ↔ f.UnknownAt steps := by
  unfold describeMember
  split
  · rfl
  · rfl
  · exact Fragment.unknownAt_describe

lemma exists_member_of_get? {ms : List (Member τ)} {k : Member τ → Fragment} {name : String}
    {f : Fragment} (h : Keyed.get? (Keyed.ofPairs (ms.map fun m => (m.name, k m))) name = some f) :
    ∃ m ∈ ms, m.name = name ∧ k m = f := by
  have hnodup := Keyed.nodup_keys_ofPairs (ms.map fun m => (m.name, k m))
  have hmem := Keyed.mem_of_mem_ofPairs ((Keyed.get?_eq_some_iff_mem hnodup).mp h)
  obtain ⟨m, hm, heq⟩ := List.mem_map.mp hmem
  exact ⟨m, hm, congrArg Prod.fst heq, congrArg Prod.snd heq⟩

lemma exists_of_step?_variants {f v : Fragment} {d : Option String} {ts : List τ}
    {k : τ → Fragment} {step : Fragment.Step}
    (hf : f = .oneOf d (ts.map k) ∨ f = .allOf d (ts.map k)) (h : f.step? step = some v) :
    ∃ i u, step = .variant i ∧ ts[i]? = some u ∧ k u = v := by
  rcases hf with rfl | rfl
  all_goals
    cases step with
    | variant i => simpa [Fragment.step?] using h
    | items | property => cases h

/-- What is unknown in the union of the fragments of members stands in that of a member that is
kept. -/
lemma tellsNothingAt_of_oneOfAll {k : τ → Fragment} {steps : List Fragment.Step} (ht : g.Unites t)
    (hk : ∀ u ∈ g.presentMembers t, g.Becomes u (k u))
    (h : (Fragment.oneOfAll ((g.presentMembers t).map k)).UnknownAt steps)
    (ih : ∀ u ∈ g.presentMembers t, ∀ steps, (k u).UnknownAt steps → g.TellsNothingAt u steps) :
    g.TellsNothingAt t steps := by
  have hblank := (Becomes.union ht hk).blank
  have hfilter : ((g.presentMembers t).map k).filter (!·.isUnknown) =
      ((g.presentMembers t).filter fun u => !(k u).isUnknown).map k := List.filter_map
  have hkeeps : g.Keeps t ((g.presentMembers t).filter fun u => !(k u).isUnknown) :=
    ⟨_, rfl, fun u hu hdropped => ((hk u hu).blank (by simpa using hdropped)).1⟩
  have hmem : ∀ u ∈ (g.presentMembers t).filter fun u => !(k u).isUnknown,
      u ∈ g.presentMembers t := fun u hu => (List.mem_filter.mp hu).1
  unfold Fragment.oneOfAll at h hblank
  rw [hfilter] at h hblank
  generalize (g.presentMembers t).filter (fun u => !(k u).isUnknown) = kept at h hblank hkeeps hmem
  match kept with
  | [] =>
    cases steps with
    | nil => exact .blank (hblank rfl).1
    | cons step steps =>
      obtain ⟨v, hv, -⟩ := Fragment.unknownAt_cons.mp h
      cases hv
  | [u] => exact .soleMember ht hkeeps (ih u (hmem u List.mem_cons_self) steps h)
  | u :: v :: rest =>
    rw [List.map_cons, List.map_cons] at h
    dsimp only at h
    split at h
    · obtain ⟨_, _, _, -, hw, -⟩ := h.exists_step rfl
      cases hw
    · obtain ⟨step, steps, w, rfl, hw, h⟩ := h.exists_step rfl
      rw [← List.map_cons, ← List.map_cons] at hw
      obtain ⟨i, x, rfl, hx, rfl⟩ := exists_of_step?_variants (.inl rfl) hw
      exact .unionMember ht hkeeps hx (ih x (hmem x (List.mem_of_getElem? hx)) steps h)

/-- What is unknown in what the rules make of a type is so because a type in it says nothing. -/
lemma Becomes.tellsNothingAt {f : Fragment} {steps : List Fragment.Step} (h : g.Becomes t f)
    (hf : f.UnknownAt steps) : g.TellsNothingAt t steps := by
  induction h generalizing steps with
  | unconstrained ht =>
    cases steps with
    | nil => exact .blank (.unconstrained ht)
    | cons step steps =>
      obtain ⟨v, hv, -⟩ := Fragment.unknownAt_cons.mp hf
      cases hv
  | enumeration | primitive =>
    obtain ⟨_, _, _, -, hv, -⟩ := hf.exists_step rfl
    cases hv
  | bareArray ht =>
    obtain ⟨step, steps, v, rfl, hv, hf⟩ := hf.exists_step rfl
    match step, hv with
    | .items, rfl =>
      cases steps with
      | nil => exact .bareArray ht
      | cons =>
        obtain ⟨_, hv, -⟩ := Fragment.unknownAt_cons.mp hf
        cases hv
  | array ht _ ih =>
    obtain ⟨step, steps, v, rfl, hv, hf⟩ := hf.exists_step rfl
    match step, hv with
    | .items, rfl => exact .element ht (ih hf)
  | object ht _ ih =>
    obtain ⟨step, steps, v, rfl, hv, hf⟩ := hf.exists_step rfl
    match step, hv with
    | .property name, hv =>
      obtain ⟨m, hm, rfl, rfl⟩ := exists_member_of_get? hv
      exact .member ht hm (ih m hm (unknownAt_describeMember.mp hf))
  | union ht hk ih => exact tellsNothingAt_of_oneOfAll ht hk hf fun u hu _ => ih u hu
  | @intersection t ts k ht _ ih =>
    obtain ⟨step, steps, v, rfl, hv, hf⟩ := hf.exists_step rfl
    obtain ⟨i, u, rfl, hu, rfl⟩ := exists_of_step?_variants (.inr rfl) hv
    exact .intersectionMember ht hu (ih u (List.mem_of_getElem? hu) hf)

end TypeGraph

end CallSchema

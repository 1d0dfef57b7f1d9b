import CallSchema.Hint.Shared
import CallSchema.Proofs.HintResolution

/-!
# Layers around hints

Notes around a hint, and words that say whether a member must be given, say nothing of the values
that the hint allows. All that a type graph tells of a hint it tells of the hint without its layers,
so a hint resolves with any layers around it as it does without them.
-/

namespace CallSchema

namespace TypeGraph

variable {τ ι : Type} {g : TypeGraph τ ι} {t u : τ}

/-- Two types of which a type system tells the same. -/
structure Alike (g : TypeGraph τ ι) (t u : τ) : Prop where
  identity : g.identity t = g.identity u
  describe : g.describe t = g.describe u
  isNone : g.isNone t = g.isNone u
  isAny : g.isAny t = g.isAny u
  literal? : g.literal? t = g.literal? u
  enumValues? : g.enumValues? t = g.enumValues? u
  primitive? : g.primitive? t = g.primitive? u
  isArrayLike : g.isArrayLike t = g.isArrayLike u
  elementType? : g.elementType? t = g.elementType? u
  members : g.members t = g.members u
  isUnion : g.isUnion t = g.isUnion u
  unionMembers : g.unionMembers t = g.unionMembers u
  isIntersection : g.isIntersection t = g.isIntersection u
  intersectionMembers : g.intersectionMembers t = g.intersectionMembers u
  isAbsent : g.isAbsent t = g.isAbsent u

namespace Alike

variable (h : g.Alike t u)

include h

lemma presentMembers : g.presentMembers t = g.presentMembers u := by
  rw [TypeGraph.presentMembers, h.unionMembers, ← TypeGraph.presentMembers]

section Rules

variable {m : Type → Type} [Monad m] [MonadLiftT Outcome m] {members : τ → m (List (Member τ))}
  {resolve : τ → m Fragment}

lemma shapeWith (hmembers : members t = members u) :
    g.shapeWith members t = g.shapeWith members u := by
  simp only [TypeGraph.shapeWith, enumeration?, h.isNone, h.isAny, h.literal?, h.enumValues?,
    h.primitive?, h.isArrayLike, h.elementType?, hmembers, h.isUnion, h.presentMembers,
    h.isIntersection, h.intersectionMembers]

lemma resolveShapeWith (shape : TypeShape τ) :
    g.resolveShapeWith resolve t shape = g.resolveShapeWith resolve u shape := by
  cases shape <;> simp only [TypeGraph.resolveShapeWith, h.describe]

lemma resolveByRules : g.resolveByRules resolve t = g.resolveByRules resolve u := by
  unfold TypeGraph.resolveByRules TypeGraph.shape
  rw [h.shapeWith h.members]
  exact congrArg _ (funext h.resolveShapeWith)

omit [MonadLiftT Outcome m] in
lemma resolveOptionalWith (hresolve : resolve t = resolve u) :
    g.resolveOptionalWith resolve t = g.resolveOptionalWith resolve u := by
  simp only [TypeGraph.resolveOptionalWith, h.isUnion, h.unionMembers, h.presentMembers, hresolve]

end Rules

variable [BEq ι]

lemma resolvingWith {m : Type → Type} [Monad m] [MonadLiftT Outcome m]
    {members : τ → m (List (Member τ))} (hmembers : members t = members u) (limit : Nat)
    (s : List ι) : g.resolvingWith members limit s t = g.resolvingWith members limit s u := by
  cases limit with
  | zero => rfl
  | succ limit =>
    simp only [TypeGraph.resolvingWith, h.identity, h.describe, h.shapeWith hmembers,
      h.resolveShapeWith]

lemma resolving (limit : Nat) (s : List ι) : g.resolving limit t s =
    { g.resolving limit u s with calls := ⟨0, s, t⟩ :: (g.resolving limit u s).calls.tail } := by
  cases limit with
  | zero => rfl
  | succ limit =>
    simp only [resolving_succ, Resolving.called, h.identity, h.describe, h.resolveByRules,
      List.tail_cons]

lemma outcome_resolvingOptional (limit : Nat) (s : List ι) :
    (g.resolvingOptional limit t s).outcome = (g.resolvingOptional limit u s).outcome := by
  simp only [resolvingOptional, TypeGraph.resolveOptionalWith, h.isUnion, h.unionMembers,
    h.presentMembers]
  split
  · rfl
  · simp only [Resolving.outcome_bind, h.resolving]

end Alike

end TypeGraph

namespace Hint

variable {t w : Hint}

/-- A layer around a hint: some notes, or a word that says whether a member must be given. -/
inductive Layer
  | notes (first : Hint) (more : List Hint)
  | required
  | notRequired

/-- Puts a layer around a hint, where the hint may stand in it. -/
def Layer.around : Layer → Hint → Except Failure Hint
  | notes first more, h => subscriptTypingClass "Annotated" (h :: first :: more)
  | required, h => subscriptForm "typing" "Required" [h]
  | notRequired, h => subscriptForm "typing" "NotRequired" [h]

/-- Puts layers around a hint, the first one first. -/
def layered (layers : List Layer) (h : Hint) : Except Failure Hint :=
  layers.foldlM (fun h layer => layer.around h) h

/-- A hint stands in another one as it is. Texts and the constant `None` do not. -/
structure StandsAsIs (h : Hint) : Prop where
  ne_null : h ≠ null
  ne_text : ∀ source, h ≠ text source

lemma eq_of_checkedAs {standing : Standing} (ht : t.StandsAsIs)
    (h : checkedAs standing none t = .ok w) : w = t := by
  rcases checkedAs_eq_ok h with rfl | ⟨rfl, -⟩ | ⟨source, rfl, -⟩
  · rfl
  · exact absurd rfl ht.ne_null
  · exact absurd rfl (ht.ne_text source)

lemma eq_of_checkedForNotes (ht : t.StandsAsIs) (h : checkedForNotes t = .ok w) : w = t := by
  unfold checkedForNotes at h
  split at h
  · split at h
    · exact (Except.ok.inj h).symm
    · exact eq_of_checkedAs ht h
  · obtain ⟨u, hu, hw⟩ := bind_eq_ok_iff.mp h
    rw [refuseTuple_eq_ok hw]
    exact eq_of_checkedAs ht hu

lemma eq_of_single {layer : Hint → Hint} {message : String} (ht : t.StandsAsIs)
    (h : layer <$> single message [t] = .ok w) : w = layer t := by
  change layer <$> checkedArg message t = .ok w at h
  cases hu : checkedArg message t with
  | error e =>
    rw [hu] at h
    cases h
  | ok u =>
    obtain rfl := eq_of_checkedAs ht (checkedArg_eq_ok hu)
    rw [hu] at h
    exact (Except.ok.inj h).symm

lemma strip_of_annotate {metadata : List Value} (h : annotate t metadata = .ok w) :
    w.StandsAsIs ∧ w.strip = t.strip := by
  unfold annotate at h
  split at h
  case h_1 | h_6 =>
    obtain rfl := Except.ok.inj h
    exact ⟨⟨nofun, nofun⟩, rfl⟩
  all_goals cases h

lemma strip_of_around {layer : Layer} (ht : t.StandsAsIs) (h : layer.around t = .ok w) :
    w.StandsAsIs ∧ w.strip = t.strip := by
  cases layer with
  | notes first more =>
    obtain ⟨u, hu, hnotes⟩ := bind_eq_ok_iff.mp h
    obtain rfl := eq_of_checkedForNotes ht hu
    exact strip_of_annotate hnotes
  | required | notRequired =>
    obtain rfl := eq_of_single ht h
    exact ⟨⟨nofun, nofun⟩, rfl⟩

lemma strip_of_layered {layers : List Layer} (ht : t.StandsAsIs) (h : layered layers t = .ok w) :
    w.StandsAsIs ∧ w.strip = t.strip := by
  induction layers generalizing t with
  | nil =>
    obtain rfl := Except.ok.inj h
    exact ⟨ht, rfl⟩
  | cons layer layers ih =>
    obtain ⟨u, hu, h⟩ := bind_eq_ok_iff.mp h
    obtain ⟨hstands, hstrip⟩ := strip_of_around ht hu
    obtain ⟨hw, hrest⟩ := ih hstands h
    exact ⟨hw, hrest.trans hstrip⟩

end Hint

namespace Context

open TypeGraph Hint

variable {objects : Objects} {t w : Hint}

lemma isNone_of_ne_null (ctx : Context) (ht : t ≠ null) :
    (ctx.graphWith objects).isNone t = false := by
  cases t with
  | null => exact absurd rfl ht
  | _ => rfl

lemma alike_of_strip_eq (ctx : Context) (hw : w ≠ null) (ht : t ≠ null) (h : w.strip = t.strip) :
    (ctx.graphWith objects).Alike w t where
  identity := congrArg HintKey.mk h
  describe := congrArg bare h
  isNone := (ctx.isNone_of_ne_null hw).trans (ctx.isNone_of_ne_null ht).symm
  isAny := congrArg isUnconstrained h
  literal? := congrArg (fun h => h.literalOf?.map Value.toConstant) h
  enumValues? := congrArg (fun h => (ctx.enumValues? h).map (List.map Value.toConstant)) h
  primitive? := congrArg primitiveOf? h
  isArrayLike := congrArg (standsFor arrayClasses) h
  elementType? := congrArg elementOf? h
  members := by simp only [members_graphWith, h]
  isUnion := congrArg isUnionHint h
  unionMembers := congrArg membersOfUnion h
  isIntersection := congrArg isIntersectionHint h
  intersectionMembers := congrArg membersOfIntersection h
  isAbsent := congrArg isAbsence h

lemma sharedMembersOf_eq (ctx : Context) (h : w.strip = t.strip) :
    ctx.sharedMembersOf w = ctx.sharedMembersOf t := by
  rw [sharedMembersOf, h, ← sharedMembersOf]

/-- A hint resolves with layers around it as it does without them, whichever hints are in progress:
the fragment, whether absence is allowed, the warnings and what is in progress afterwards are the
same. So it is with one graph that keeps the hints of classes, whichever are kept. -/
theorem resolving_of_layered (ctx : Context) (objects : Objects) {t w : Hint} {layers : List Layer}
    (hnull : t ≠ null) (htext : ∀ source, t ≠ text source) (h : layered layers t = .ok w)
    (limit : Nat) (s : List (HintKey objects)) :
    let g := ctx.graphWith objects
    (g.resolving limit w s).outcome = (g.resolving limit t s).outcome ∧
      (g.resolving limit w s).inProgress = (g.resolving limit t s).inProgress ∧
      (g.resolvingOptional limit w s).outcome = (g.resolvingOptional limit t s).outcome ∧
      (g.resolvingOptional limit w s).inProgress = (g.resolvingOptional limit t s).inProgress ∧
      (∀ known, g.resolvingWith ctx.sharedMembersOf limit s w known =
        g.resolvingWith ctx.sharedMembersOf limit s t known) ∧
      ∀ known, g.resolveOptionalWith (g.resolvingWith ctx.sharedMembersOf limit s) w known =
        g.resolveOptionalWith (g.resolvingWith ctx.sharedMembersOf limit s) t known := by
  intro g
  obtain ⟨hw, hstrip⟩ := strip_of_layered ⟨hnull, htext⟩ h
  have halike : g.Alike w t := ctx.alike_of_strip_eq hw.ne_null hnull hstrip
  have hshared := halike.resolvingWith (ctx.sharedMembersOf_eq hstrip) limit s
  refine ⟨?_, ?_, halike.outcome_resolvingOptional limit s, ?_, congrFun hshared,
    congrFun (halike.resolveOptionalWith hshared)⟩
  · rw [halike.resolving]
  · rw [halike.resolving]
  · rw [inProgress_resolvingOptional, inProgress_resolvingOptional]

/-- A list of pairs with two notes, one of them put behind the other, and more layers around
them. -/
def notedPairList : Hint :=
  notRequired (annotated (required (annotated pairList.hint [.text "Pairs", .text "in a list"]))
    [.text "May be left out"])

theorem resolving_of_layered_pairList :
    layered [.notes (text "Pairs") [], .notes (text "in a list") [], .required,
        .notes (text "May be left out") [], .notRequired] pairList.hint = .ok notedPairList ∧
      let g := ({ classes := [pairList] } : Context).graph
      (g.resolving 2 notedPairList [⟨pairList.hint⟩]).outcome =
          ⟨[.recursiveType pairList.hint.describe], .ok (.unknown none)⟩ ∧
        (g.resolvingOptional 5 notedPairList []).outcome =
          (g.resolvingOptional 5 pairList.hint []).outcome := by
  have hlayers : layered [.notes (text "Pairs") [], .notes (text "in a list") [], .required,
      .notes (text "May be left out") [], .notRequired] pairList.hint = .ok notedPairList := rfl
  have hlayered := resolving_of_layered { classes := [pairList] } .apart
    (by simp [ClassInfo.hint]) (by simp [ClassInfo.hint]) hlayers
  obtain ⟨hinside, -⟩ := hlayered 2 [⟨pairList.hint⟩]
  obtain ⟨-, -, hoptional, -⟩ := hlayered 5 []
  have hprogress : [(⟨pairList.hint⟩ : HintKey .apart)].contains ⟨pairList.hint⟩ = true := by
    decide +kernel
  refine ⟨hlayers, hinside.trans ?_, hoptional⟩
  rw [resolving_of_inProgress hprogress]
  rfl

end Context

end CallSchema

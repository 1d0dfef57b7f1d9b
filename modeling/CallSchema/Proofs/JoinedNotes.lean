import CallSchema.Hint.Evaluate
import CallSchema.Proofs.HintParts
import CallSchema.Proofs.MadeClasses

/-!
# Notes around notes

Notes that are added to a hint with notes join them. So no hint that a program builds has notes
around notes, if none of the names that it can use stands for such a hint.
-/

namespace CallSchema

namespace Hint

def isAnnotated : Hint → Bool
  | annotated _ _ => true
  | _ => false

/-- No notes stand around notes: those that are added to a hint with notes join them. -/
def notesOnce : Hint → Bool
  | annotated h _ => !h.isAnnotated
  | _ => true

/-- The hints that are taken out of a hint where others are built of it. -/
def parts : Hint → List Hint
  | union hs | alternatives hs | tuple hs => hs
  | _ => []

/-- No notes stand around notes, neither in a hint nor in what can be taken out of it. -/
inductive JoinsNotes : Hint → Prop
  | intro {h : Hint} (hnotes : h.notesOnce = true) (hparts : ∀ q ∈ h.parts, JoinsNotes q) :
    JoinsNotes h

variable {h p : Hint} {hs args : List Hint} {metadata : List Value} {name : String}

lemma JoinsNotes.notesOnce (h : JoinsNotes p) : p.notesOnce = true := by
  cases h with
  | intro hnotes _ => exact hnotes

lemma JoinsNotes.of_mem_parts (h : JoinsNotes p) {q : Hint} (hq : q ∈ p.parts) :
    JoinsNotes q := by
  cases h with
  | intro _ hparts => exact hparts q hq

lemma joinsNotes_of_parts_eq_nil (hnotes : h.notesOnce = true) (hparts : h.parts = []) :
    JoinsNotes h :=
  .intro hnotes fun _ hq => absurd (hparts ▸ hq) List.not_mem_nil

lemma yields_plain (hnotes : h.notesOnce = true) (hparts : h.parts = []) :
    Yields JoinsNotes (.ok h) :=
  yields_ok (joinsNotes_of_parts_eq_nil hnotes hparts)

lemma joinsNotes_cls (c : ClassRef) : JoinsNotes (cls c) := joinsNotes_of_parts_eq_nil rfl rfl

section Building

lemma joinsNotes_annotate (hh : JoinsNotes h) : Yields JoinsNotes (annotate h metadata) := by
  unfold annotate
  split
  · rename_i of earlier
    exact yields_ok (joinsNotes_of_parts_eq_nil hh.notesOnce rfl)
  · exact yields_error _
  · exact yields_error _
  · exact yields_error _
  · exact yields_error _
  · rename_i hne _ _ _ _
    have hbare : h.isAnnotated = false := by
      cases h with
      | annotated of earlier => exact absurd rfl (hne of earlier)
      | _ => rfl
    exact yields_ok (joinsNotes_of_parts_eq_nil (by rw [Hint.notesOnce, hbare]; rfl) rfl)

lemma joinsNotes_checkedAs (standing : Standing) (home : Option String) (hh : JoinsNotes h) :
    Yields JoinsNotes (checkedAs standing home h) := by
  intro c hc
  rcases checkedAs_eq_ok hc with rfl | ⟨-, rfl⟩ | ⟨s, -, rfl⟩
  · exact hh
  · exact joinsNotes_cls _
  · exact joinsNotes_of_parts_eq_nil rfl rfl

lemma joinsNotes_checkedArg (message : String) (hh : JoinsNotes h) :
    Yields JoinsNotes (checkedArg message h) :=
  fun c hc => joinsNotes_checkedAs _ _ hh c (checkedArg_eq_ok hc)

lemma joinsNotes_checkedForNotes (hh : JoinsNotes h) : Yields JoinsNotes (checkedForNotes h) := by
  unfold checkedForNotes
  split
  · split
    · exact yields_ok hh
    · exact joinsNotes_checkedAs _ _ hh
  · exact (joinsNotes_checkedAs _ _ hh).bind fun c hc d hd => refuseTuple_eq_ok hd ▸ hc

lemma joinsNotes_of_piece (hargs : ∀ a ∈ args, JoinsNotes a) (hp : Piece args p) :
    JoinsNotes p := by
  cases hp with
  | @flattened a _ ha hp =>
    unfold flattened at hp
    split at hp
    · exact (hargs _ ha).of_mem_parts hp
    · exact (hargs _ ha).of_mem_parts hp
    · exact List.mem_singleton.mp hp ▸ hargs _ ha
  | noneType => exact joinsNotes_cls _
  | forward s => exact joinsNotes_of_parts_eq_nil rfl rfl

lemma joinsNotes_unionOf (hargs : ∀ a ∈ args, JoinsNotes a) : Yields JoinsNotes (unionOf args) := by
  intro e he
  obtain ⟨cs, hcs, he⟩ := unionOf_eq_ok he
  have hmembers : ∀ p ∈ dedup (cs.flatMap flattened), JoinsNotes p :=
    fun p hp => joinsNotes_of_piece hargs (piece_of_checkedAll hcs (mem_of_mem_dedup hp))
  rcases he with hsingle | rfl
  · exact hmembers e (hsingle ▸ List.mem_singleton_self e)
  · exact .intro rfl hmembers

lemma joinsNotes_of_mem_asClass (hh : JoinsNotes h) (hp : p ∈ match h with
      | null => [noneType]
      | alternatives args => args
      | h => [h]) : JoinsNotes p := by
  split at hp
  · exact List.mem_singleton.mp hp ▸ joinsNotes_cls _
  · exact hh.of_mem_parts hp
  · exact List.mem_singleton.mp hp ▸ hh

lemma joinsNotes_either {a b : Hint} (ha : JoinsNotes a) (hb : JoinsNotes b) :
    Yields JoinsNotes (either a b) := by
  unfold either
  split
  · exact joinsNotes_unionOf (List.forall_mem_cons.mpr ⟨ha, List.forall_mem_singleton.mpr hb⟩)
  split
  · split
    · exact yields_error _
    · intro e he
      obtain ⟨members, hmembers, he⟩ := bind_eq_ok_iff.mp he
      have hjoined : ∀ p ∈ members, JoinsNotes p := by
        intro p hp
        rw [← dedupChecked_eq_ok hmembers] at hp
        rcases List.mem_append.mp (mem_of_mem_dedup hp) with hp | hp
        · exact joinsNotes_of_mem_asClass ha hp
        · exact joinsNotes_of_mem_asClass hb hp
      split at he
      · exact Except.ok.inj he ▸ hjoined _ List.mem_cons_self
      · exact Except.ok.inj he ▸ .intro rfl hjoined
  · split
    · exact yields_plain rfl rfl
    · exact yields_error _

end Building

section Subscripts

lemma yields_map {α β : Type} {P : β → Prop} {f : α → β} {x : Except Failure α}
    (h : ∀ a, P (f a)) : Yields P (f <$> x) := by
  intro b hb
  cases x with
  | error e => cases hb
  | ok a => exact Except.ok.inj hb ▸ h a

lemma joinsNotes_single (message : String) (hargs : ∀ a ∈ args, JoinsNotes a) :
    Yields JoinsNotes (single message args) := by
  unfold single
  split
  · exact joinsNotes_checkedArg message (hargs _ List.mem_cons_self)
  · exact yields_error _

lemma joinsNotes_callableOf (args : List Hint) : Yields JoinsNotes (callableOf args) := by
  unfold callableOf
  split
  · refine yields_bind fun result => ?_
    split
    · exact yields_plain rfl rfl
    · exact yields_plain rfl rfl
    · exact yields_bind fun _ => yields_plain rfl rfl
    · exact yields_bind fun _ => yields_plain rfl rfl
  · exact yields_error _

lemma joinsNotes_abstractCallableOf (origin : ClassRef) (args : List Hint) :
    Yields JoinsNotes (abstractCallableOf origin args) := by
  unfold abstractCallableOf
  split
  · split
    · exact yields_plain rfl rfl
    · exact yields_plain rfl rfl
    · exact yields_plain rfl rfl
    · exact yields_plain rfl rfl
    · exact yields_error _
  · exact yields_error _

lemma joinsNotes_concatenateOf (args : List Hint) : Yields JoinsNotes (concatenateOf args) := by
  unfold concatenateOf
  split
  · exact yields_error _
  · exact yields_bind fun _ => yields_plain rfl rfl
  · exact yields_error _

lemma joinsNotes_subscriptForm (home name : String) (hargs : ∀ a ∈ args, JoinsNotes a) :
    Yields JoinsNotes (subscriptForm home name args) := by
  have happlied : ∀ (n : String) (x : Except Failure (List Hint)),
      Yields JoinsNotes (x >>= fun args => .ok (applied n args)) :=
    fun n x => yields_bind fun _ => yields_plain rfl rfl
  unfold subscriptForm
  split
  · exact joinsNotes_unionOf hargs
  · refine (joinsNotes_single _ hargs).bind fun c hc => joinsNotes_unionOf ?_
    exact List.forall_mem_cons.mpr ⟨hc, List.forall_mem_singleton.mpr (joinsNotes_cls _)⟩
  · exact yields_plain rfl rfl
  · exact yields_map fun _ => joinsNotes_of_parts_eq_nil rfl rfl
  · exact yields_map fun _ => joinsNotes_of_parts_eq_nil rfl rfl
  · split
    · exact yields_map fun _ => joinsNotes_of_parts_eq_nil rfl rfl
    · exact yields_map fun _ => joinsNotes_of_parts_eq_nil rfl rfl
  · exact yields_bind fun _ => yields_plain rfl rfl
  · exact yields_bind fun _ => yields_plain rfl rfl
  · exact yields_bind fun _ => yields_plain rfl rfl
  · exact joinsNotes_concatenateOf args
  · split
    · exact yields_error _
    · exact yields_plain rfl rfl
  · dsimp only
    split
    · split
      · exact yields_bind fun _ => yields_plain rfl rfl
      · exact happlied _ _
    · exact happlied _ _
  · exact joinsNotes_callableOf args
  · split
    · exact happlied _ _
    · exact yields_error _

lemma joinsNotes_subscriptTypingClass (name : String) (hargs : ∀ a ∈ args, JoinsNotes a) :
    Yields JoinsNotes (subscriptTypingClass name args) := by
  have hgeneric : ∀ n, Yields JoinsNotes (genericBaseOf n args) := by
    intro n
    refine yields_bind fun args => ?_
    split
    · exact yields_error _
    split
    · exact yields_error _
    split
    · exact yields_error _
    · exact yields_plain rfl rfl
  unfold subscriptTypingClass
  split
  · split
    · exact (joinsNotes_checkedForNotes (hargs _ List.mem_cons_self)).bind fun c hc =>
        joinsNotes_annotate hc
    · exact yields_error _
  · exact hgeneric _
  · exact hgeneric _
  · split
    · exact yields_bind fun _ => yields_bind fun _ =>
        yields_plain rfl rfl
    · exact yields_error _

lemma joinsNotes_subscript (h : Hint) (hargs : ∀ a ∈ args, JoinsNotes a) :
    Yields JoinsNotes (subscript h args) := by
  unfold subscript
  extract_lets given
  have hgiven : ∀ a ∈ given, JoinsNotes a := by
    dsimp only [given]
    split
    · exact fun a ha => (hargs _ List.mem_cons_self).of_mem_parts ha
    · exact hargs
  clear_value given
  split
  · exact joinsNotes_subscriptTypingClass _ hgiven
  · exact joinsNotes_abstractCallableOf _ given
  · extract_lets takesArgs
    clear_value takesArgs
    split
    · exact yields_plain rfl rfl
    · exact yields_error _
  · exact joinsNotes_subscriptForm _ _ hgiven
  all_goals exact yields_error _

end Subscripts

section Names

lemma joinsNotes_typingName? {n : String} (h : typingName? n = some p) : JoinsNotes p := by
  unfold typingName? at h
  split at h
  case h_9 =>
    split at h
    · exact Option.some.inj h ▸ joinsNotes_cls _
    split at h
    · exact Option.some.inj h ▸ joinsNotes_of_parts_eq_nil rfl rfl
    split at h
    · exact Option.some.inj h ▸ joinsNotes_of_parts_eq_nil rfl rfl
    · cases h
  all_goals exact Option.some.inj h ▸ joinsNotes_of_parts_eq_nil rfl rfl

lemma joinsNotes_packageName? {path n : String} (h : packageName? path n = some p) :
    JoinsNotes p := by
  unfold packageName? at h
  split at h
  · exact joinsNotes_typingName? h
  · split at h
    · exact Option.some.inj h ▸ joinsNotes_of_parts_eq_nil rfl rfl
    split at h
    · exact Option.some.inj h ▸ joinsNotes_cls _
    · exact joinsNotes_typingName? h
  · split at h
    · exact Option.some.inj h ▸ joinsNotes_of_parts_eq_nil rfl rfl
    split at h
    · exact Option.some.inj h ▸ joinsNotes_cls _
    · cases h
  · split at h
    · exact Option.some.inj h ▸ joinsNotes_cls _
    · cases h
  · split at h
    · exact Option.some.inj h ▸ joinsNotes_cls _
    · cases h
  · split at h
    · exact Option.some.inj h ▸ joinsNotes_cls _
    · cases h
  · cases h

lemma joinsNotes_builtinName? {n : String} (h : builtinName? n = some p) : JoinsNotes p := by
  unfold builtinName? at h
  repeat' split at h
  all_goals first
    | exact Option.some.inj h ▸ joinsNotes_of_parts_eq_nil rfl rfl
    | cases h

end Names

end Hint

/-- The names of a scope, and what classes have under a name, are hints without notes around
notes. -/
structure Scope.JoinsNotes (scope : Scope) : Prop where
  names : ∀ x ∈ scope.names, x.2.JoinsNotes
  own : ∀ x ∈ scope.own, x.2.JoinsNotes
  attributes : ∀ c n h, scope.attribute? c n = some h → h.JoinsNotes

namespace Hint

variable {scope : Scope} {h : Hint} {args : List Hint}

lemma mem_of_lookup {xs : List (String × Hint)} {n : String} (h' : xs.lookup n = some h) :
    ∃ x ∈ xs, x.2 = h := by
  induction xs with
  | nil => cases h'
  | cons x xs ih =>
    rw [List.lookup_cons] at h'
    split at h'
    · exact ⟨x, List.mem_cons_self, Option.some.inj h'⟩
    · obtain ⟨y, hy, heq⟩ := ih h'
      exact ⟨y, List.mem_cons_of_mem x hy, heq⟩

lemma joinsNotes_lookupName (hscope : scope.JoinsNotes) (n : String) :
    Yields JoinsNotes (lookupName scope n) := by
  intro h hh
  unfold lookupName at hh
  split at hh
  · rename_i found hfound
    obtain rfl := Except.ok.inj hh
    rcases Option.or_eq_some_iff.mp hfound with hname | ⟨-, hbuiltin⟩
    · rcases Option.or_eq_some_iff.mp hname with hname | ⟨-, hown⟩
      · obtain ⟨x, hx, rfl⟩ := mem_of_lookup hname
        exact hscope.names x hx
      · obtain ⟨x, hx, rfl⟩ := mem_of_lookup hown
        exact hscope.own x hx
    · exact joinsNotes_builtinName? hbuiltin
  · cases hh

lemma joinsNotes_lookupAttribute (hscope : scope.JoinsNotes) (h : Hint) (n : String) :
    Yields JoinsNotes (lookupAttribute scope h n) := by
  unfold lookupAttribute
  split
  · split
    · rename_i hfound
      exact yields_ok (joinsNotes_packageName? hfound)
    · exact yields_error _
  · split
    · exact yields_ok (hscope.attributes _ _ _ ‹_›)
    all_goals exact yields_error _
  · exact yields_error _

lemma joinsNotes_calculate (operator : Char) (a b : Hint) :
    Yields JoinsNotes (calculate operator a b) := by
  unfold calculate
  split
  · extract_lets whole
    have hwhole : ∀ n, Yields JoinsNotes (whole n) := fun n => yields_plain rfl rfl
    split
    · exact hwhole _
    · exact hwhole _
    · exact hwhole _
    · exact hwhole _
    · exact hwhole _
    · split
      · exact yields_error _
      · exact hwhole _
    · split
      · exact yields_error _
      split
      · exact yields_error _
      · exact yields_plain rfl rfl
    · exact yields_error _
  · exact yields_error _

lemma joinsNotes_negate (h : Hint) : Yields JoinsNotes (negate h) := by
  unfold negate
  split
  · exact yields_plain rfl rfl
  · exact yields_plain rfl rfl
  · exact yields_error _

lemma joinsNotes_callOf (home : String) (identity : Nat) (h : Hint) (args : List Hint) :
    Yields JoinsNotes (callOf home identity h args) := by
  unfold callOf
  split
  · exact yields_plain rfl rfl
  · split
    · exact yields_plain rfl rfl
    · exact yields_error _
  · exact yields_plain rfl rfl
  · exact yields_plain rfl rfl
  · exact yields_error _
  · unfold quit
    split
    all_goals exact yields_error _
  · exact yields_error _

lemma joinsNotes_ofValue (v : Value) : JoinsNotes (ofValue v) := by
  unfold ofValue
  split
  all_goals exact joinsNotes_of_parts_eq_nil rfl rfl

mutual

/-- A program builds no hint with notes around notes of names that stand for none. -/
theorem joinsNotes_build (hscope : scope.JoinsNotes) :
    (e : HintExpr) → Yields JoinsNotes (build scope e)
  | .name n => by
    rw [build]
    exact joinsNotes_lookupName hscope n
  | .field e n => by
    rw [build]
    exact yields_bind fun h => joinsNotes_lookupAttribute hscope h n
  | .subscript e args => by
    rw [build]
    exact yields_bind fun h => (joinsNotes_buildAll hscope args).bind fun hs hargs =>
      joinsNotes_subscript h hargs
  | .either a b => by
    rw [build]
    exact (joinsNotes_build hscope a).bind fun _ ha => (joinsNotes_build hscope b).bind fun _ hb =>
      joinsNotes_either ha hb
  | .arithmetic op a b => by
    rw [build]
    exact yields_bind fun _ => yields_bind fun _ => joinsNotes_calculate _ _ _
  | .negative e => by
    rw [build]
    exact yields_bind fun _ => joinsNotes_negate _
  | .constant v => by
    rw [build]
    exact yields_ok (joinsNotes_ofValue v)
  | .ellipsis => by
    rw [build]
    exact yields_plain rfl rfl
  | .list items => by
    rw [build]
    exact yields_bind fun _ => yields_plain rfl rfl
  | .tuple items => by
    rw [build]
    exact (joinsNotes_buildAll hscope items).bind fun hs hitems => yields_ok (.intro rfl hitems)
  | .unpacked e => by
    rw [build]
    refine yields_bind fun h => ?_
    split
    · exact yields_plain rfl rfl
    · exact yields_error _
  | .call identity e args => by
    rw [build]
    exact yields_bind fun h => yields_bind fun _ => joinsNotes_callOf _ _ _ _

lemma joinsNotes_buildAll (hscope : scope.JoinsNotes) :
    (es : List HintExpr) → Yields (∀ h ∈ ·, JoinsNotes h) (buildAll scope es)
  | [] => yields_ok (List.forall_mem_nil _)
  | e :: es => by
    rw [buildAll]
    exact (joinsNotes_build hscope e).bind fun _ hh => (joinsNotes_buildAll hscope es).bind
      fun _ hhs => yields_ok (List.forall_mem_cons.mpr ⟨hh, hhs⟩)

end

end Hint

end CallSchema

import CallSchema.Proofs.ExtractionResults
import CallSchema.Proofs.HintParts
import CallSchema.Proofs.MadeClasses
import CallSchema.Proofs.SharedHints

/-!
# The numbers of classes

A class gets its number when it is made, and keeps it. So the classes of a program are numbered in
the order in which they were made, whatever the program does and whether it fails.
-/

namespace CallSchema

section Identity

variable {c : ClassInfo} {ctx : Context} {bases : List ClassRef} {n : Nat}

lemma identity_asTypedDict (rules : String) (total : Bool) :
    Yields (·.identity = c.identity) (c.asTypedDict ctx rules bases total) := by
  unfold ClassInfo.asTypedDict
  cases bases.any fun b => b.metaclass != .typedDict rules && b != .generic with
  | true => exact yields_bind fun _ => yields_bind fun _ => yields_ok rfl
  | false => exact yields_bind fun _ => yields_ok rfl

lemma identity_asBareTuple (fields : List String) :
    Yields (·.identity = c.identity) (c.asBareTuple fields) :=
  yields_bind fun _ => yields_ok rfl

lemma identity_asNamedTuple : Yields (·.identity = c.identity) (c.asNamedTuple bases) := by
  unfold ClassInfo.asNamedTuple
  refine yields_bind fun _ => yields_bind fun defaults => yields_bind fun annotations => ?_
  refine (identity_asBareTuple _).bind fun made hmade => yields_bind fun ancestors => ?_
  split
  · exact yields_error _
  · exact yields_ok hmade

lemma identity_asEnumeration (body : ClassBody) (names : MemberNames)
    (dataType : Option ClassRef) :
    Yields (·.identity = c.identity) (c.asEnumeration ctx body names dataType) :=
  yields_bind fun _ => yields_bind fun _ => yields_ok rfl

lemma identity_asDataClass : Yields (·.identity = c.identity) (c.asDataClass ctx) := by
  unfold ClassInfo.asDataClass
  refine yields_bind fun own => yields_bind fun attributes => ?_
  dsimp only
  split
  · exact yields_error _
  · exact yields_bind fun _ => yields_ok rfl

lemma identity_checkVariables (head : ClassHead) :
    Yields (·.identity = c.identity) (head.checkVariables c) :=
  yields_bind fun _ => yields_ok rfl

lemma Yields.checkVariables {x : Except Failure ClassInfo} (head : ClassHead)
    (hx : Yields (·.identity = n) x) : Yields (·.identity = n) (x >>= head.checkVariables) :=
  hx.bind fun _ hmade => yields_bind fun _ => yields_ok hmade

lemma identity_extending (d : ClassDef) (head : ClassHead) :
    Yields (·.identity = c.identity) (d.extending ctx head c) :=
  yields_bind fun _ => yields_bind fun _ => identity_checkVariables head

lemma identity_asModel : Yields (·.identity = c.identity) (c.asModel ctx bases).value := by
  unfold ClassInfo.asModel
  refine yields_value_bind fun hints => ?_
  refine yields_value_of_bind (P := fun x => x.1.made.identity = c.identity)
    (yields_foldlM hints rfl fun x y hx => ?_) fun x hx => yields_value_bind fun fields => ?_
  · intro z hz
    obtain ⟨⟨attributes, hmade⟩, -⟩ := ModelDraft.addHint_cases x.1 x.2 y.1 y.2.1 y.2.2 z hz
    rw [hmade]
    exact hx
  · dsimp only
    split
    · exact yields_value_bind fun _ => yields_ok hx
    · exact yields_ok hx

lemma identity_make (d : ClassDef) (ctx : Context) (home : String) (head : ClassHead)
    (body : ClassBody) :
    Yields (·.identity = ctx.classes.length) (d.make ctx home head body).value := by
  have hlast : ∀ made : ClassInfo, made.identity = ctx.classes.length →
      Yields (·.identity = ctx.classes.length)
        (if d.isDataClass then Outcome.ofExcept (made.asDataClass ctx) else pure made).value := by
    intro made hmade
    split
    · intro z hz
      exact (identity_asDataClass z hz).trans hmade
    · exact yields_ok hmade
  unfold ClassDef.make
  dsimp only
  split
  · exact yields_value_of_bind ((identity_asTypedDict _ _).checkVariables head) hlast
  · exact yields_value_of_bind (identity_asNamedTuple.checkVariables head) hlast
  · refine yields_value_of_bind (yields_bind fun _ => yields_bind fun ancestors => ?_) hlast
    refine (identity_asEnumeration _ _ _).bind fun made hmade => yields_bind fun _ => ?_
    exact yields_bind fun _ => yields_ok hmade
  · refine yields_value_bind fun attributes => ?_
    refine yields_value_of_bind (identity_extending _ _) fun made hmade => ?_
    refine yields_value_bind fun _ => yields_value_of_bind (fun z hz => ?_) hlast
    exact (identity_asModel z hz).trans hmade
  · exact yields_value_of_bind (identity_extending _ _) hlast

lemma identity_bareTuple (home name : String) (fields : List String) :
    Yields (·.identity = ctx.classes.length) (ClassInfo.bareTuple ctx home name fields) :=
  identity_asBareTuple fields

end Identity

lemma Context.IsNumbered.addClass {ctx : Context} {c : ClassInfo} (h : ctx.IsNumbered)
    (hc : c.identity = ctx.classes.length) : (ctx.addClass c).IsNumbered := by
  unfold IsNumbered Context.addClass at *
  rw [List.map_append, h, List.length_append, List.length_singleton, List.range_succ,
    List.map_singleton, hc]

namespace Run

lemma forM_warn_apply (ws : List Warning) (s : RunState) :
    (ws.forM warn : Run Unit) s = (.ok (), { s with warnings := s.warnings ++ ws }) := by
  induction ws generalizing s with
  | nil => rw [List.append_nil]; rfl
  | cons w ws ih =>
    refine (ih { s with warnings := s.warnings ++ [w] }).trans ?_
    simp only [List.append_assoc, List.singleton_append]

lemma ofOutcome_apply {α : Type} (o : Outcome α) (s : RunState) :
    ofOutcome o s = (o.value, { s with warnings := s.warnings ++ o.warnings }) := by
  unfold ofOutcome
  rw [bind_apply, forM_warn_apply]
  exact ofExcept_apply _ _

/-- A run leaves the classes numbered, also if it fails. -/
def KeepsNumbers {α : Type} (x : Run α) : Prop :=
  ∀ s, s.ctx.IsNumbered → (x s).2.ctx.IsNumbered

variable {α β : Type} {x : Run α} {f : α → Run β}

lemma keepsNumbers_pure (a : α) : KeepsNumbers (pure a) := fun _ h => h

lemma keepsNumbers_throw (e : Failure) : KeepsNumbers (throw e : Run α) := fun _ h => h

lemma keepsNumbers_get : KeepsNumbers (get : Run RunState) := fun _ h => h

lemma keepsNumbers_ofExcept (x : Except Failure α) : KeepsNumbers (ofExcept x) := by
  intro s h
  rwa [ofExcept_apply]

lemma keepsNumbers_modify {f : RunState → RunState} (hf : ∀ s, (f s).ctx.classes = s.ctx.classes) :
    KeepsNumbers (modify f) := by
  intro s h
  change (f s).ctx.IsNumbered
  unfold Context.IsNumbered at *
  rwa [hf]

lemma KeepsNumbers.bind (hx : KeepsNumbers x) (hf : ∀ a, KeepsNumbers (f a)) :
    KeepsNumbers (x >>= f) := by
  intro s h
  rw [bind_apply]
  have hfirst := hx s h
  cases hrun : x s with
  | mk r s' =>
    rw [hrun] at hfirst
    cases r with
    | error e => exact hfirst
    | ok a => exact hf a s' hfirst

lemma KeepsNumbers.attempt (hx : KeepsNumbers x) : KeepsNumbers (attempt x) := hx

lemma keepsNumbers_forM {as : List α} {f : α → Run Unit} (hf : ∀ a, KeepsNumbers (f a)) :
    KeepsNumbers (as.forM f) := by
  induction as with
  | nil => exact keepsNumbers_pure ()
  | cons a as ih => exact (hf a).bind fun _ => ih

lemma keepsNumbers_warn (w : Warning) : KeepsNumbers (warn w) := keepsNumbers_modify fun _ => rfl

lemma keepsNumbers_ofOutcome (o : Outcome α) : KeepsNumbers (ofOutcome o) :=
  (keepsNumbers_forM keepsNumbers_warn).bind fun _ => keepsNumbers_ofExcept _

lemma keepsNumbers_bind (home name : String) (b : Binding) : KeepsNumbers (bind home name b) :=
  keepsNumbers_modify fun _ => rfl

lemma keepsNumbers_body? : KeepsNumbers body? := keepsNumbers_get.bind fun _ => keepsNumbers_pure _

lemma keepsNumbers_setBody (b : ClassBody) : KeepsNumbers (setBody b) :=
  keepsNumbers_modify fun _ => rfl

lemma KeepsNumbers.withBodies {x : Run Unit} (hx : KeepsNumbers x) (bodies : List ClassBody) :
    KeepsNumbers (withBodies bodies x) := by
  refine keepsNumbers_get.bind fun before => ?_
  refine KeepsNumbers.bind (keepsNumbers_modify fun _ => rfl) fun _ => ?_
  refine hx.attempt.bind fun r => keepsNumbers_body?.bind fun left => ?_
  refine KeepsNumbers.bind (keepsNumbers_modify fun _ => rfl) fun _ => ?_
  exact (keepsNumbers_ofExcept r).bind fun _ => keepsNumbers_pure left

end Run

namespace Place

open Run

variable (place : Place)

lemma keepsNumbers_lookup (name : String) : KeepsNumbers (place.lookup name) := by
  unfold lookup
  refine keepsNumbers_body?.bind fun b => ?_
  cases b
  all_goals refine (keepsNumbers_pure _).bind fun x => keepsNumbers_get.bind fun s => ?_
  all_goals split
  any_goals exact keepsNumbers_pure _
  all_goals split
  any_goals exact keepsNumbers_pure _
  all_goals exact keepsNumbers_throw _

lemma keepsNumbers_scope : KeepsNumbers place.scope := by
  unfold scope
  refine keepsNumbers_get.bind fun s => keepsNumbers_body?.bind fun b => ?_
  cases b with
  | none => exact keepsNumbers_pure _
  | some b => exact keepsNumbers_pure _

lemma keepsNumbers_bind (name : String) (b : Binding) : KeepsNumbers (place.bind name b) := by
  unfold Place.bind
  refine keepsNumbers_body?.bind fun body => ?_
  cases body with
  | none => exact Run.keepsNumbers_bind _ _ _
  | some body => exact (keepsNumbers_ofOutcome _).bind fun b => keepsNumbers_setBody b

lemma keepsNumbers_delete (name : String) : KeepsNumbers (place.delete name) := by
  unfold delete
  refine keepsNumbers_body?.bind fun b => ?_
  cases b with
  | none =>
    refine keepsNumbers_get.bind fun s => ?_
    dsimp only
    split
    · exact (keepsNumbers_throw _).bind fun _ => keepsNumbers_modify fun _ => rfl
    · exact keepsNumbers_modify fun _ => rfl
  | some b =>
    dsimp only
    split
    · exact (keepsNumbers_throw _).bind fun _ => keepsNumbers_setBody _
    · exact keepsNumbers_setBody _

lemma keepsNumbers_hintOf (e : HintExpr) : KeepsNumbers (place.hintOf e) := by
  unfold hintOf
  split
  · exact keepsNumbers_pure _
  · exact place.keepsNumbers_scope.bind fun _ => keepsNumbers_ofExcept _

lemma keepsNumbers_defaultOf (d : FieldDefault) : KeepsNumbers (place.defaultOf d) := by
  cases d with
  | value e =>
    exact place.keepsNumbers_scope.bind fun _ => (keepsNumbers_ofExcept _).bind fun _ =>
      keepsNumbers_pure _
  | spec e isMade description =>
    exact place.keepsNumbers_scope.bind fun _ => (keepsNumbers_ofExcept _).bind fun _ =>
      keepsNumbers_pure _

lemma keepsNumbers_field (name : String) (hint : HintExpr) (default : Option FieldDefault) :
    KeepsNumbers (place.field name hint default) := by
  have hrest : KeepsNumbers (place.field name hint none) := by
    refine (place.keepsNumbers_hintOf hint).bind fun h => keepsNumbers_body?.bind fun b => ?_
    cases b with
    | none => exact keepsNumbers_pure ()
    | some b => exact keepsNumbers_setBody _
  cases default with
  | none => exact hrest
  | some d =>
    exact (place.keepsNumbers_defaultOf d).bind fun b => (place.keepsNumbers_bind name b).bind
      fun _ => hrest

section Definitions

/-- Making a class of what the context is and adding it keeps the classes numbered, if the class
gets the next number. -/
lemma keepsNumbers_adding (make : Context → Run ClassInfo) {next : ClassInfo → Run Unit}
    (hctx : ∀ ctx s, (make ctx s).2.ctx = s.ctx)
    (hmake : ∀ ctx s, Yields (·.identity = ctx.classes.length) (make ctx s).1)
    (hnext : ∀ c, KeepsNumbers (next c)) :
    KeepsNumbers (do
      let c ← make (← get).ctx
      modify fun s => { s with ctx := s.ctx.addClass c }
      next c) := by
  intro s h
  change ((make s.ctx >>= fun c => _ : Run Unit) s).2.ctx.IsNumbered
  rw [bind_apply]
  have hsame := hctx s.ctx s
  have hidentity := hmake s.ctx s
  cases hrun : make s.ctx s with
  | mk r s' =>
    rw [hrun] at hsame hidentity
    cases r with
    | error e => exact hsame ▸ h
    | ok c =>
      change (next c { s' with ctx := s'.ctx.addClass c }).2.ctx.IsNumbered
      refine hnext c _ (Context.IsNumbered.addClass (hsame ▸ h) ?_)
      exact hsame ▸ hidentity c rfl

lemma keepsNumbers_defineClass (c : ClassDef) {body : Run Unit} (hbody : KeepsNumbers body) :
    KeepsNumbers (place.defineClass c body) := by
  unfold defineClass
  refine keepsNumbers_body?.bind fun around => keepsNumbers_get.bind fun s => ?_
  refine place.keepsNumbers_scope.bind fun scope => (keepsNumbers_ofExcept _).bind fun head => ?_
  refine keepsNumbers_get.bind fun s => (hbody.withBodies _).bind fun left => ?_
  refine keepsNumbers_adding
    (fun ctx => Run.ofOutcome (c.make ctx place.home head (left.getD default))) (fun ctx s => ?_)
    (fun ctx s => ?_) fun made => place.keepsNumbers_bind _ _
  · rw [ofOutcome_apply]
  · rw [ofOutcome_apply]
    exact identity_make c ctx place.home head _

lemma keepsNumbers_defineTuple (name : String) (fields : List String) :
    KeepsNumbers (place.defineTuple name fields) := by
  unfold defineTuple
  refine keepsNumbers_adding
    (fun ctx => Run.ofExcept (ClassInfo.bareTuple ctx place.home name fields)) (fun ctx s => ?_)
    (fun ctx s => ?_) fun made => place.keepsNumbers_bind _ _
  · rw [ofExcept_apply]
  · rw [ofExcept_apply]
    exact identity_bareTuple place.home name fields

end Definitions

section Statements

variable {place}

lemma keepsNumbers_require (hload : ∀ name, KeepsNumbers (place.load name)) (path : String) :
    KeepsNumbers (place.require path) := by
  unfold require
  split
  · exact keepsNumbers_pure ()
  · exact hload path

lemma keepsNumbers_importNames (hload : ∀ name, KeepsNumbers (place.load name)) (path : String)
    (names : List String) : KeepsNumbers (place.importNames path names) := by
  unfold importNames
  refine (keepsNumbers_require hload path).bind fun _ => keepsNumbers_forM fun n => ?_
  refine keepsNumbers_get.bind fun s => ?_
  split
  · exact place.keepsNumbers_bind _ _
  · exact place.keepsNumbers_bind _ _
  · exact keepsNumbers_throw _

mutual

/-- Every statement leaves the classes numbered, if the loading of other modules does. -/
theorem keepsNumbers_step (hload : ∀ name, KeepsNumbers (place.load name)) :
    ∀ st : Statement, KeepsNumbers (place.step st)
  | .define _ f => by
    unfold step
    exact place.keepsNumbers_scope.bind fun _ => (keepsNumbers_ofExcept _).bind fun _ =>
      place.keepsNumbers_bind _ _
  | .classDef c body => by
    unfold step
    exact place.keepsNumbers_defineClass c (keepsNumbers_steps hload body)
  | .field name hint default => by
    unfold step
    exact place.keepsNumbers_field name hint default
  | .bareTuple name fields => by
    unfold step
    exact place.keepsNumbers_defineTuple name fields
  | .lambda _ names ps => by
    unfold step
    exact place.keepsNumbers_scope.bind fun _ => (keepsNumbers_ofExcept _).bind fun _ =>
      keepsNumbers_forM fun n => place.keepsNumbers_bind _ _
  | .assign name e => by
    unfold step
    exact place.keepsNumbers_scope.bind fun _ => (keepsNumbers_ofExcept _).bind fun _ =>
      place.keepsNumbers_bind _ _
  | .rebind name of => by
    unfold step
    exact (place.keepsNumbers_lookup of).bind fun _ => place.keepsNumbers_bind _ _
  | .delete name => by
    unfold step
    exact place.keepsNumbers_delete name
  | .raise kind text => by
    unfold step
    exact (place.keepsNumbers_lookup kind).bind fun _ => keepsNumbers_get.bind fun _ =>
      keepsNumbers_throw _
  | .warn text => by
    unfold step
    exact keepsNumbers_warn _
  | .importModule path => by
    unfold step
    exact (keepsNumbers_require hload path).bind fun _ => place.keepsNumbers_bind _ _
  | .importNames path names => by
    unfold step
    exact keepsNumbers_importNames hload path names
  | .branch test body orelse => by
    unfold step
    cases test with
    | true => exact keepsNumbers_steps hload body
    | false => exact keepsNumbers_steps hload orelse
  | .attempt body handler orelse final => by
    unfold step
    refine KeepsNumbers.bind (KeepsNumbers.attempt ?_) fun r =>
      (keepsNumbers_steps hload final).bind fun _ => keepsNumbers_ofExcept r
    match handler with
    | none => exact (keepsNumbers_steps hload body).bind fun _ => keepsNumbers_steps hload orelse
    | some handler =>
      refine (keepsNumbers_steps hload body).attempt.bind fun r => ?_
      cases r with
      | ok => exact keepsNumbers_steps hload orelse
      | error => exact keepsNumbers_steps hload handler
  | .within body => by
    unfold step
    exact keepsNumbers_steps hload body
  | .loop count body => by
    unfold step
    exact keepsNumbers_forM fun _ => keepsNumbers_steps hload body

theorem keepsNumbers_steps (hload : ∀ name, KeepsNumbers (place.load name)) :
    ∀ ss : List Statement, KeepsNumbers (place.steps ss)
  | [] => keepsNumbers_pure ()
  | st :: ss => by
    unfold steps
    exact (keepsNumbers_step hload st).bind fun _ => keepsNumbers_steps hload ss

end

end Statements

end Place

namespace Sources

open Run

variable (files : Sources)

lemma keepsNumbers_setNames (home : String) (names : Names) : KeepsNumbers (setNames home names) :=
  keepsNumbers_modify fun _ => rfl

lemma keepsNumbers_forget (home : String) : KeepsNumbers (forget home) :=
  keepsNumbers_modify fun _ => rfl

section Readers

variable [ProgramReader]

lemma keepsNumbers_load (directory : List Char) (fuel : Nat) (name : String) :
    KeepsNumbers (files.load directory fuel name) := by
  induction fuel generalizing name with
  | zero => exact keepsNumbers_throw _
  | succ fuel ih =>
    dsimp only [load]
    refine keepsNumbers_get.bind fun s => ?_
    split
    · exact keepsNumbers_pure ()
    split
    · refine (keepsNumbers_ofExcept _).bind fun m => ?_
      refine (keepsNumbers_setNames name []).bind fun _ => ?_
      refine KeepsNumbers.bind (KeepsNumbers.attempt ?_) fun r => ?_
      · exact (Place.keepsNumbers_steps ih m.statements).withBodies []
      · cases r with
        | ok => exact keepsNumbers_pure ()
        | error e => exact (keepsNumbers_forget name).bind fun _ => keepsNumbers_throw e
    · split
      · exact keepsNumbers_setNames name []
      · exact keepsNumbers_throw _

lemma keepsNumbers_statements (path : List Char) (m : Module) :
    KeepsNumbers (Place.steps
      { home := String.ofList path, lateHints := m.lateHints,
        load := files.load (Path.directory path) (files.fileCount + 1) } m.statements) :=
  Place.keepsNumbers_steps (files.keepsNumbers_load _ _) m.statements

lemma keepsNumbers_withModule {α : Type} (path : List Char) (m : Module) {use : Run α}
    (huse : KeepsNumbers use) : KeepsNumbers (files.withModule path m use) := by
  unfold withModule
  refine (keepsNumbers_setNames _ []).bind fun _ => ?_
  refine KeepsNumbers.bind (KeepsNumbers.attempt ?_) fun r =>
    (keepsNumbers_forget _).bind fun _ => keepsNumbers_ofExcept r
  refine (files.keepsNumbers_statements path m).attempt.bind fun r => ?_
  cases r with
  | ok => exact huse
  | error e => exact keepsNumbers_throw _

/-- The module at a path runs and is described, and all classes are numbered afterwards. -/
theorem keepsNumbers_describing {α : Type} (describe : Context → String → Module → Outcome α)
    (path : String) : KeepsNumbers (files.describing describe path) := by
  unfold describing
  refine (keepsNumbers_ofExcept _).bind fun m => (keepsNumbers_ofExcept _).bind fun _ => ?_
  exact files.keepsNumbers_withModule _ m
    (keepsNumbers_get.bind fun s => keepsNumbers_ofOutcome _)

end Readers

end Sources

end CallSchema

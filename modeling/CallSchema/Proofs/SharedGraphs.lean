import CallSchema.Module.Source
import CallSchema.Proofs.NumberedClasses
import CallSchema.Sample

/-!
# Functions that share a type graph

The functions of a module are documented one after another with one cache of hints. This file shows
that each is documented as it would be by itself, whichever others come before it and however they
end, and that only the warnings about hints that cannot be evaluated are given once and not again.
-/

namespace CallSchema

namespace Outcome

variable {α β : Type} {o : Outcome α} {os : List (Outcome α)} {seen other : List Nat}

/-- Outcomes one after another, without what was said before about the hints of a class. -/
def eachOnce : (seen : List Nat) → List (Outcome α) → List (Outcome α)
  | _, [] => []
  | seen, o :: os =>
    let (told, warnings) := Warning.dropRepeated seen o.warnings
    { o with warnings } :: eachOnce told os

lemma eachOnce_cons : eachOnce seen (o :: os) =
    ⟨(Warning.dropRepeated seen o.warnings).2, o.value⟩ ::
      eachOnce (Warning.dropRepeated seen o.warnings).1 os := rfl

lemma eachOnce_congr (h : ∀ i, i ∈ seen ↔ i ∈ other) : eachOnce seen os = eachOnce other os := by
  induction os generalizing seen other with
  | nil => rfl
  | cons o os ih =>
    have htold : ∀ i, i ∈ (Warning.dropRepeated seen o.warnings).1 ↔
        i ∈ (Warning.dropRepeated other o.warnings).1 := by
      intro i
      rw [Warning.mem_dropRepeated, Warning.mem_dropRepeated, h i]
    rw [eachOnce_cons, eachOnce_cons, Warning.dropRepeated_congr h, ih htold]

lemma flatMap_warnings_eachOnce :
    (eachOnce seen os).flatMap (·.warnings) =
      (Warning.dropRepeated seen (os.flatMap (·.warnings))).2 := by
  induction os generalizing seen with
  | nil => rfl
  | cons o os ih =>
    rw [eachOnce_cons, List.flatMap_cons, List.flatMap_cons, Warning.dropRepeated_append, ih]

/-- Outcomes of one value that warn of the same, where each class is told of once. -/
structure SameOnce (o p : Outcome α) : Prop where
  value : o.value = p.value
  warnings : Warning.SameOnce o.warnings p.warnings

lemma SameOnce.refl (o : Outcome α) : SameOnce o o := ⟨rfl, .refl _⟩

lemma sameOnce_oncePerClass (o : Outcome α) :
    SameOnce ⟨Warning.oncePerClass o.warnings, o.value⟩ o :=
  ⟨rfl, Warning.sameOnce_oncePerClass _⟩

lemma SameOnce.bind {p : Outcome α} {f k : α → Outcome β} (ho : SameOnce o p)
    (h : ∀ a, SameOnce (f a) (k a)) : SameOnce (o >>= f) (p >>= k) := by
  change SameOnce (Outcome.bind o f) (Outcome.bind p k)
  unfold Outcome.bind
  rw [ho.value]
  cases p.value with
  | error e => exact ⟨rfl, ho.warnings⟩
  | ok a => exact ⟨(h a).value, ho.warnings.append (h a).warnings⟩

lemma SameOnce.mapInOrder {f k : β → Outcome α} (h : ∀ b, SameOnce (f b) (k b)) (bs : List β) :
    SameOnce (mapInOrder f bs) (CallSchema.mapInOrder k bs) := by
  induction bs with
  | nil => exact .refl _
  | cons b bs ih => exact (h b).bind fun a => ih.bind fun as => .refl _

end Outcome

namespace Context

variable {ctx : Context}

lemma alone_documentShared (h : ctx.IsNumbered) (f : Callable) (given : Option String) :
    (ctx.documentShared f given).alone =
      ⟨Warning.oncePerClass (ctx.document f given).warnings, (ctx.document f given).value⟩ :=
  (shares_document f given).alone_eq h

lemma sameOnce_alone (h : ctx.IsNumbered) (f : Callable) (given : Option String) :
    Outcome.SameOnce (ctx.documentShared f given).alone (ctx.document f given) := by
  rw [alone_documentShared h]
  exact Outcome.sameOnce_oncePerClass _

lemma session_eq (h : ctx.IsNumbered) {known : HintCache} (hknown : ctx.Knows known)
    (calls : List (Callable × Option String)) :
    ctx.session calls known =
      Outcome.eachOnce (ctx.told known)
        (calls.map fun x => (ctx.documentShared x.1 x.2).alone) := by
  induction calls generalizing known with
  | nil => rfl
  | cons x calls ih =>
    obtain ⟨f, given⟩ := x
    have hshares : Shares ctx (ctx.documentShared f given) (ctx.document f given) :=
      shares_document f given
    have halone := sameOnce_alone h f given
    have hvalue : (ctx.documentShared f given known).1.value =
        (ctx.documentShared f given).alone.value :=
      (hshares.value known hknown).trans halone.value.symm
    have hwarnings : (ctx.documentShared f given known).1.warnings =
        (Warning.dropRepeated (ctx.told known) (ctx.documentShared f given).alone.warnings).2 :=
      (hshares.warnings h known hknown).trans (halone.warnings.left _).symm
    have htold : ∀ i, i ∈ ctx.told (ctx.documentShared f given known).2 ↔
        i ∈ (Warning.dropRepeated (ctx.told known)
          (ctx.documentShared f given).alone.warnings).1 := by
      intro i
      rw [hshares.told known hknown, Warning.mem_dropRepeated, halone.warnings.classes]
    rw [session, List.map_cons, Outcome.eachOnce_cons, ih (hshares.knows known hknown),
      Outcome.eachOnce_congr htold, ← hvalue, ← hwarnings]

end Context

namespace Run

variable {α β : Type} {s : RunState}

lemma KeepsNumbers.bind_congr {x : Run α} {f k : α → Run β} (hx : KeepsNumbers x)
    (hs : s.ctx.IsNumbered) (h : ∀ a s, s.ctx.IsNumbered → f a s = k a s) :
    (x >>= f) s = (x >>= k) s := by
  rw [bind_apply, bind_apply]
  have hfirst := hx s hs
  cases hrun : x s with
  | mk r s' =>
    rw [hrun] at hfirst
    cases r with
    | error e => rfl
    | ok a => exact h a s' hfirst

lemma attempt_bind_congr {x y : Run α} {f : Except Failure α → Run β} (h : x s = y s) :
    (attempt x >>= f) s = (attempt y >>= f) s := by
  rw [bind_apply, bind_apply]
  unfold attempt
  rw [h]

end Run

namespace Sources

open Run

variable {files : Sources} {s : RunState}

/-- The documented functions of a module, each by itself. What they warn of the hints of a class is
said once. -/
def documentApart (ctx : Context) (home : String) (m : Module) :
    Outcome (List DocumentedFunction) :=
  let documented :=
    mapInOrder (fun (name, f) => (ctx.documentShared f (some name)).alone) (callables ctx home m)
  { documented with warnings := Warning.oncePerClass documented.warnings }

lemma documentAll_eq_documentApart {ctx : Context} (h : ctx.IsNumbered) (home : String)
    (m : Module) : documentAll ctx home m = documentApart ctx home m := by
  have hapart := Outcome.SameOnce.mapInOrder (fun x : String × Callable =>
    Context.sameOnce_alone h x.2 (some x.1)) (callables ctx home m)
  have hleft := hapart.warnings.left []
  refine ((shares_documentAll ctx home m).alone_eq h).trans ?_
  unfold documentApart Warning.oncePerClass
  dsimp only
  rw [hleft, hapart.value]

lemma describing_congr [ProgramReader] {α : Type}
    {describe describe' : Context → String → Module → Outcome α} (hs : s.ctx.IsNumbered)
    (h : ∀ ctx : Context, ctx.IsNumbered → ∀ home m, describe ctx home m = describe' ctx home m)
    (path : String) : files.describing describe path s = files.describing describe' path s := by
  unfold describing
  refine (keepsNumbers_ofExcept _).bind_congr hs fun m s hs => ?_
  refine (keepsNumbers_ofExcept _).bind_congr hs fun _ s hs => ?_
  unfold withModule
  refine (keepsNumbers_setNames _ []).bind_congr hs fun _ s hs => attempt_bind_congr ?_
  refine (files.keepsNumbers_statements _ m).attempt.bind_congr hs fun r s hs => ?_
  cases r with
  | error e => rfl
  | ok =>
    change ofOutcome (describe s.ctx _ m) s = ofOutcome (describe' s.ctx _ m) s
    rw [h s.ctx hs]

section Examples

open PlainProgram Sample

/-- A dictionary with a hint that names nothing. -/
def order : Statement :=
  dictionary "Order" [("total", .name "int"), ("shop", text "Shop")]

/-- Two functions that take it. -/
def orders : Module :=
  { statements :=
      [order,
        .define false
          { name := "place", params := [{ name := "order", hint := some (.name "Order") }] },
        .define false
          { name := "cancel", params := [{ name := "order", hint := some (.name "Order") }] }] }

def orderFiles : Sources := .directory [("orders.py", .file (.program orders))]

end Examples

end Sources

end CallSchema

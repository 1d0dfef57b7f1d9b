import CallSchema.Warning
import Mathlib.Data.List.Basic
import Mathlib.Tactic.Tauto

/-!
# Warnings that are given once

That the hints of a class cannot be evaluated is said once, however often it comes up: what is left
of a list of warnings depends on which classes were told of before, and on nothing else.
-/

namespace CallSchema.Warning

variable {seen other : List Nat} {ws vs : List Warning} {w : Warning} {i : Nat}

/-- The class whose hints a warning is about. -/
def class? : Warning → Option Nat
  | .classHints identity _ _ => some identity
  | _ => none

/-- The classes whose hints are warned of. -/
def classes (ws : List Warning) : List Nat := ws.filterMap class?

section Steps

lemma classes_other (h : w.class? = none) : classes (w :: ws) = classes ws :=
  List.filterMap_cons_none h

lemma classes_cons (h : w.class? = some i) : classes (w :: ws) = i :: classes ws :=
  List.filterMap_cons_some h

lemma classes_append : classes (ws ++ vs) = classes ws ++ classes vs := List.filterMap_append

lemma dropRepeated_other (h : w.class? = none) :
    dropRepeated seen (w :: ws) = ((dropRepeated seen ws).1, w :: (dropRepeated seen ws).2) := by
  cases w with
  | classHints => cases h
  | _ => rfl

lemma dropRepeated_told (h : w.class? = some i) (hi : i ∈ seen) :
    dropRepeated seen (w :: ws) = dropRepeated seen ws := by
  cases w with
  | classHints identity name reason =>
    obtain rfl := Option.some.inj h
    rw [dropRepeated, if_pos (List.contains_iff_mem.mpr hi)]
  | _ => cases h

lemma dropRepeated_new (h : w.class? = some i) (hi : i ∉ seen) :
    dropRepeated seen (w :: ws) =
      ((dropRepeated (i :: seen) ws).1, w :: (dropRepeated (i :: seen) ws).2) := by
  cases w with
  | classHints identity name reason =>
    obtain rfl := Option.some.inj h
    rw [dropRepeated, if_neg fun hmem => hi (List.contains_iff_mem.mp hmem)]
  | _ => cases h

end Steps

lemma dropRepeated_of_forall (h : ∀ w ∈ ws, w.class? = none) :
    dropRepeated seen ws = (seen, ws) := by
  induction ws with
  | nil => rfl
  | cons w ws ih =>
    rw [dropRepeated_other (h w List.mem_cons_self), ih fun v hv => h v (List.mem_cons_of_mem w hv)]

lemma dropRepeated_append :
    dropRepeated seen (ws ++ vs) =
      ((dropRepeated (dropRepeated seen ws).1 vs).1,
        (dropRepeated seen ws).2 ++ (dropRepeated (dropRepeated seen ws).1 vs).2) := by
  induction ws generalizing seen with
  | nil => rfl
  | cons w ws ih =>
    rw [List.cons_append]
    cases hw : w.class? with
    | none => rw [dropRepeated_other hw, dropRepeated_other hw, ih, List.cons_append]
    | some i =>
      by_cases hi : i ∈ seen
      · rw [dropRepeated_told hw hi, dropRepeated_told hw hi, ih]
      · rw [dropRepeated_new hw hi, dropRepeated_new hw hi, ih, List.cons_append]

lemma mem_dropRepeated : i ∈ (dropRepeated seen ws).1 ↔ i ∈ seen ∨ i ∈ classes ws := by
  induction ws generalizing seen with
  | nil => simp [dropRepeated, classes]
  | cons w ws ih =>
    cases hw : w.class? with
    | none => rw [dropRepeated_other hw, classes_other hw, ih]
    | some j =>
      rw [classes_cons hw, List.mem_cons]
      by_cases hj : j ∈ seen
      · have hij : i = j → i ∈ seen := fun h => h ▸ hj
        rw [dropRepeated_told hw hj, ih]
        tauto
      · rw [dropRepeated_new hw hj, ih, List.mem_cons]
        tauto

lemma mem_classes_dropRepeated :
    i ∈ classes (dropRepeated seen ws).2 ↔ i ∈ classes ws ∧ i ∉ seen := by
  induction ws generalizing seen with
  | nil => simp [dropRepeated, classes]
  | cons w ws ih =>
    cases hw : w.class? with
    | none => rw [dropRepeated_other hw, classes_other hw, classes_other hw, ih]
    | some j =>
      rw [classes_cons hw, List.mem_cons]
      by_cases hj : j ∈ seen
      · have hij : i = j → i ∈ seen := fun h => h ▸ hj
        rw [dropRepeated_told hw hj, ih]
        tauto
      · have hij : i = j → i ∉ seen := fun h => h ▸ hj
        rw [dropRepeated_new hw hj, classes_cons hw, List.mem_cons, ih, List.mem_cons]
        tauto

lemma nodup_classes_dropRepeated (seen : List Nat) (ws : List Warning) :
    (classes (dropRepeated seen ws).2).Nodup := by
  induction ws generalizing seen with
  | nil => exact List.nodup_nil
  | cons w ws ih =>
    cases hw : w.class? with
    | none =>
      rw [dropRepeated_other hw, classes_other hw]
      exact ih seen
    | some i =>
      by_cases hi : i ∈ seen
      · rw [dropRepeated_told hw hi]
        exact ih seen
      · rw [dropRepeated_new hw hi, classes_cons hw]
        refine List.nodup_cons.mpr ⟨fun hmem => ?_, ih (i :: seen)⟩
        exact (mem_classes_dropRepeated.mp hmem).2 List.mem_cons_self

lemma dropRepeated_congr (h : ∀ i, i ∈ seen ↔ i ∈ other) :
    (dropRepeated seen ws).2 = (dropRepeated other ws).2 := by
  induction ws generalizing seen other with
  | nil => rfl
  | cons w ws ih =>
    cases hw : w.class? with
    | none => rw [dropRepeated_other hw, dropRepeated_other hw, ih h]
    | some i =>
      by_cases hi : i ∈ seen
      · rw [dropRepeated_told hw hi, dropRepeated_told hw ((h i).mp hi), ih h]
      · have hcons : ∀ j, j ∈ i :: seen ↔ j ∈ i :: other := by
          intro j
          rw [List.mem_cons, List.mem_cons, h j]
        rw [dropRepeated_new hw hi, dropRepeated_new hw (mt (h i).mpr hi), ih hcons]

lemma dropRepeated_dropRepeated (h : other ⊆ seen) :
    (dropRepeated seen (dropRepeated other ws).2).2 = (dropRepeated seen ws).2 := by
  induction ws generalizing seen other with
  | nil => rfl
  | cons w ws ih =>
    cases hw : w.class? with
    | none =>
      rw [dropRepeated_other hw, dropRepeated_other hw, dropRepeated_other hw, ih h]
    | some i =>
      by_cases hother : i ∈ other
      · rw [dropRepeated_told hw hother, dropRepeated_told hw (h hother), ih h]
      · rw [dropRepeated_new hw hother]
        by_cases hi : i ∈ seen
        · rw [dropRepeated_told hw hi, dropRepeated_told hw hi,
            ih (List.cons_subset.mpr ⟨hi, h⟩)]
        · rw [dropRepeated_new hw hi, dropRepeated_new hw hi, ih (List.cons_subset_cons i h)]

/-- Lists of warnings of which the same is left, whichever classes were told of before. -/
structure SameOnce (ws vs : List Warning) : Prop where
  left : ∀ seen, (dropRepeated seen ws).2 = (dropRepeated seen vs).2
  classes : ∀ i, i ∈ classes ws ↔ i ∈ classes vs

lemma SameOnce.refl (ws : List Warning) : SameOnce ws ws := ⟨fun _ => rfl, fun _ => Iff.rfl⟩

lemma SameOnce.append {ws' vs' : List Warning} (h : SameOnce ws ws') (hv : SameOnce vs vs') :
    SameOnce (ws ++ vs) (ws' ++ vs') := by
  constructor
  · intro seen
    have htold : ∀ i, i ∈ (dropRepeated seen ws).1 ↔ i ∈ (dropRepeated seen ws').1 := by
      intro i
      rw [mem_dropRepeated, mem_dropRepeated, h.classes]
    rw [dropRepeated_append, dropRepeated_append, h.left, dropRepeated_congr htold, hv.left]
  · intro i
    rw [classes_append, classes_append, List.mem_append, List.mem_append, h.classes, hv.classes]

lemma sameOnce_oncePerClass (ws : List Warning) : SameOnce (oncePerClass ws) ws where
  left seen := dropRepeated_dropRepeated (List.nil_subset seen)
  classes i := by
    rw [oncePerClass, mem_classes_dropRepeated]
    simp

end CallSchema.Warning

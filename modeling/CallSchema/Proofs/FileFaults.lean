import CallSchema.Sources
import Mathlib.Data.List.Basic
import Mathlib.Tactic.Lemma
import Mathlib.Tactic.Tauto

/-!
# Paths that are none

A file is not looked for at a path with a null character, wherever that stands in the path. This is
the only failure to read a file that is not one of the file system.
-/

namespace CallSchema

namespace Text

variable {cs : List Char} {c : Char} {p : Char → Bool}

lemma exists_mem_splitWhere (hc : p c = false) :
    (∃ piece ∈ splitWhere p cs, c ∈ piece) ↔ c ∈ cs := by
  induction cs with
  | nil => simp [splitWhere]
  | cons d cs ih =>
    rw [splitWhere]
    split
    · rename_i hd
      have hne : c ≠ d := by rintro rfl; rw [hc] at hd; cases hd
      simp [ih, hne]
    · split
      · rename_i hnil
        rw [hnil] at ih
        simp_all
      · rename_i piece pieces hpieces
        rw [hpieces] at ih
        simp only [List.mem_cons, exists_eq_or_imp] at ih ⊢
        rw [← ih]
        tauto

end Text

namespace Path

open Text

variable {path : List Char}

lemma null_mem_joinWith {pieces : List (List Char)} :
    '\x00' ∈ joinWith ['/'] pieces ↔ ∃ piece ∈ pieces, '\x00' ∈ piece := by
  induction pieces with
  | nil => simp [joinWith]
  | cons x xs ih =>
    cases xs with
    | nil => simp [joinWith]
    | cons y ys =>
      have hjoin : joinWith ['/'] (x :: y :: ys) = x ++ '/' :: joinWith ['/'] (y :: ys) := by
        simp [joinWith, List.intercalate]
      rw [hjoin, List.mem_append, List.mem_cons, ih]
      simp

lemma null_mem_parts : (∃ part ∈ parts path, '\x00' ∈ part) ↔ '\x00' ∈ path := by
  rw [← exists_mem_splitWhere (p := (· == '/')) (by decide)]
  constructor
  · rintro ⟨part, hpart, hnull⟩
    exact ⟨part, (List.mem_filter.mp hpart).1, hnull⟩
  · rintro ⟨part, hpart, hnull⟩
    refine ⟨part, List.mem_filter.mpr ⟨hpart, ?_⟩, hnull⟩
    have hempty : part ≠ [] := List.ne_nil_of_mem hnull
    have hdot : part ≠ ['.'] := by
      rintro rfl
      cases List.mem_singleton.mp hnull
    simp [hempty, hdot]

lemma hasNull_clean (path : List Char) : hasNull (clean path) = hasNull path := by
  have hroot : '\x00' ∉ root path := by
    fun_cases root path <;> decide
  have hclean : '\x00' ∈ clean path ↔ '\x00' ∈ root path ++ joinWith ['/'] (parts path) := by
    rw [clean]
    split
    · rename_i hnil
      rw [hnil]
      decide
    · rfl
  rw [Bool.eq_iff_iff, hasNull, hasNull, List.contains_iff_mem, List.contains_iff_mem, hclean,
    List.mem_append, null_mem_joinWith, null_mem_parts, or_iff_right hroot]

end Path

namespace FileTree

variable {α : Type} {root : FileTree α}

lemma walk_ne_nullCharacter {done : List String} {parts : List (List Char)} :
    root.walk done parts ≠ .error .nullCharacter := by
  induction parts generalizing done with
  | nil => nofun
  | cons part parts ih =>
    rw [walk]
    split
    · nofun
    · nofun
    · split
      · split
        · nofun
        · exact ih
      · split
        · exact ih
        · nofun

lemma locate_eq_nullCharacter_iff (root : FileTree α) (path : List Char) :
    root.locate path = .error .nullCharacter ↔ Path.hasNull path = true := by
  cases hnull : Path.hasNull path with
  | true => simp [locate, hnull, bind, Except.bind]
  | false =>
    refine iff_of_false (fun h => ?_) nofun
    rw [locate, hnull] at h
    simp only [Bool.false_eq_true, if_false] at h
    split at h
    · cases h
    · cases hwalk : root.walk [] (Path.parts path) with
      | error f =>
        rw [hwalk] at h
        obtain rfl : f = .nullCharacter := Except.error.inj h
        exact walk_ne_nullCharacter hwalk
      | ok names =>
        rw [hwalk] at h
        simp only [bind, Except.bind] at h
        split at h
        · split at h <;> cases h
        · cases h

lemma read_eq_nullInPath_iff (root : FileTree α) (path : List Char) :
    root.read path = .error .nullInPath ↔ Path.hasNull path = true := by
  rw [← locate_eq_nullCharacter_iff root, read]
  cases root.locate path with
  | error f => cases f <;> simp [PathFault.failure, PathFault.report, raised]
  | ok names =>
    refine iff_of_false (fun h => ?_) nofun
    dsimp only at h
    split at h <;> cases h

end FileTree

namespace Sources

variable {files : Sources} {path : String}

lemma textOf_ne_nullInPath {bytes : List UInt8} : textOf bytes ≠ .error .nullInPath := by
  rw [textOf]
  split <;> nofun

lemma readText_eq_nullInPath_iff :
    files.readText path = .error .nullInPath ↔ Path.hasNull path.toList = true := by
  rw [← Path.hasNull_clean, ← FileTree.read_eq_nullInPath_iff files, readText]
  cases files.read (Path.clean path.toList) with
  | error e => simp [bind, Except.bind]
  | ok content => exact iff_of_false textOf_ne_nullInPath nofun

end Sources

end CallSchema

import CallSchema.Proofs.FileFaults
import CallSchema.Proofs.WrittenFiles
import Mathlib.Data.List.TakeWhile

/-!
# The components of a path

A path that is put together from components has these components, and so has its normal form, in
which steps up are taken. The last component stays the last one if it is a name.
-/

namespace CallSchema

namespace Text

lemma not_mem_of_mem_splitWhere {p : Char → Bool} {cs piece : List Char} {c : Char}
    (h : piece ∈ splitWhere p cs) (hc : p c = true) : c ∉ piece := by
  induction cs generalizing piece with
  | nil =>
    obtain rfl := List.mem_singleton.mp h
    exact List.not_mem_nil
  | cons d cs ih =>
    rw [splitWhere] at h
    split at h
    · rcases List.mem_cons.mp h with rfl | h
      · exact List.not_mem_nil
      · exact ih h
    · rename_i hd
      have hne : c ≠ d := by
        rintro rfl
        exact hd hc
      cases hpieces : splitWhere p cs with
      | nil => exact absurd hpieces (splitWhere_ne_nil p cs)
      | cons first pieces =>
        rw [hpieces] at h ih
        rcases List.mem_cons.mp h with rfl | h
        · exact List.not_mem_cons_of_ne_of_not_mem hne (ih List.mem_cons_self)
        · exact ih (List.mem_cons_of_mem first h)

end Text

namespace Path

open Text

variable {path part dir file tail : List Char} {xs : List (List Char)}

/-- What can be a component of a path: it is not empty, moves to another place, and has no slash. -/
structure IsPart (part : List Char) : Prop where
  nonempty : part ≠ []
  moves : part ≠ ['.']
  noSlash : '/' ∉ part

lemma isPart_of_mem_parts (h : part ∈ parts path) : IsPart part := by
  obtain ⟨hpiece, hkept⟩ := List.mem_filter.mp h
  have hnot : part ≠ [] ∧ part ≠ ['.'] := by simpa using hkept
  exact ⟨hnot.1, hnot.2, not_mem_of_mem_splitWhere hpiece (by decide)⟩

lemma parts_append_slash (cs ds : List Char) : parts (cs ++ '/' :: ds) = parts cs ++ parts ds := by
  rw [parts, splitOn, splitWhere_append (by decide), List.filter_append]
  rfl

lemma IsPart.parts_eq (h : IsPart part) : parts part = [part] := by
  have hsplit : splitOn '/' part = [part] :=
    splitWhere_of_forall fun c hc => beq_eq_false_iff_ne.mpr fun heq => h.noSlash (heq ▸ hc)
  rw [parts, hsplit]
  simp [h.nonempty, h.moves]

lemma parts_joinWith (h : ∀ x ∈ xs, IsPart x) : parts (joinWith ['/'] xs) = xs := by
  induction xs with
  | nil => rfl
  | cons x xs ih =>
    have hx := h x List.mem_cons_self
    have hxs := ih fun y hy => h y (List.mem_cons_of_mem x hy)
    cases xs with
    | nil =>
      rw [joinWith, List.intercalate_singleton]
      exact hx.parts_eq
    | cons y ys =>
      rw [joinWith, List.intercalate_cons_cons, List.append_assoc]
      change parts (x ++ '/' :: joinWith ['/'] (y :: ys)) = _
      rw [parts_append_slash, hx.parts_eq, hxs]
      rfl

lemma joinWith_eq_nil_iff (h : ∀ x ∈ xs, IsPart x) : joinWith ['/'] xs = [] ↔ xs = [] := by
  refine ⟨fun hnil => ?_, fun hnil => hnil ▸ rfl⟩
  rw [← parts_joinWith h, hnil]
  rfl

lemma parts_root_append (path cs : List Char) : parts (root path ++ cs) = parts cs := by
  have hslash : ∀ ds, parts ('/' :: ds) = parts ds := fun ds => parts_append_slash [] ds
  fun_cases root path
  all_goals simp only [List.cons_append, List.nil_append, hslash]

lemma root_eq_nil_iff : root path = [] ↔ path.head? ≠ some '/' := by
  fun_cases root path
  case case4 hslash =>
    refine iff_of_true rfl fun hhead => ?_
    obtain ⟨tail, htail⟩ := List.head?_eq_some_iff.mp hhead
    exact hslash tail htail
  all_goals simp

lemma exists_join (hdir : dir ≠ []) (hfile : file.head? ≠ some '/') :
    ∃ front, join dir file = front ++ '/' :: file ∧ (dir = front ∨ dir = front ++ ['/']) := by
  have hempty : dir.isEmpty = false := by
    cases dir with
    | nil => exact absurd rfl hdir
    | cons c dir => rfl
  rw [join, hempty]
  by_cases hlast : dir.getLast? = some '/'
  · obtain ⟨front, rfl⟩ := List.getLast?_eq_some_iff.mp hlast
    exact ⟨front, by simp [hfile, hlast], .inr rfl⟩
  · exact ⟨dir, by simp [hfile, hlast], .inl rfl⟩

lemma parts_join (hdir : dir ≠ []) (hfile : file.head? ≠ some '/') :
    parts (join dir file) = parts dir ++ parts file := by
  obtain ⟨front, hjoin, rfl | rfl⟩ := exists_join hdir hfile
  · rw [hjoin, parts_append_slash]
  · rw [hjoin, parts_append_slash, parts_append_slash, List.append_assoc]
    rfl

lemma root_join (hdir : dir ≠ []) (hroot : root dir = []) (hfile : file.head? ≠ some '/') :
    root (join dir file) = [] := by
  rw [root_eq_nil_iff] at hroot ⊢
  obtain ⟨front, hjoin, hfront⟩ := exists_join hdir hfile
  rw [hjoin]
  cases front with
  | nil => rcases hfront with rfl | rfl <;> simp at hdir hroot
  | cons c front => rcases hfront with rfl | rfl <;> simpa using hroot

lemma base_of_noSlash (h : '/' ∉ path) : base path = path := by
  have hall : ∀ c ∈ path.reverse, (c != '/') = true := fun c hc =>
    bne_iff_ne.mpr fun heq => h (heq ▸ List.mem_reverse.mp hc)
  rw [base, List.takeWhile_eq_self_iff.mpr hall, List.reverse_reverse]

lemma base_append_slash (cs ds : List Char) : base (cs ++ '/' :: ds) = base ds := by
  rw [base, base, List.reverse_append, List.reverse_cons, List.append_assoc, List.takeWhile_append]
  split
  · rename_i hlength
    have hall := (List.takeWhile_prefix (· != '/')).eq_of_length hlength
    rw [hall]
    simp
  · rfl

lemma base_joinWith (h : '/' ∉ tail) :
    base (joinWith ['/'] (xs ++ [tail])) = tail := by
  induction xs with
  | nil =>
    rw [List.nil_append, joinWith, List.intercalate_singleton]
    exact base_of_noSlash h
  | cons x xs ih =>
    have hjoin : joinWith ['/'] (x :: xs ++ [tail]) =
        x ++ '/' :: joinWith ['/'] (xs ++ [tail]) := by
      rw [joinWith, joinWith, List.cons_append, List.intercalate_cons_of_ne_nil (by simp)]
      simp
    rw [hjoin, base_append_slash, ih]

lemma root_joinWith (h : ∀ x ∈ xs, IsPart x) :
    root (joinWith ['/'] xs) = [] := by
  rw [root_eq_nil_iff]
  cases xs with
  | nil => exact nofun
  | cons x xs =>
    have hx := h x List.mem_cons_self
    obtain ⟨c, cs, rfl⟩ := List.exists_cons_of_ne_nil hx.nonempty
    have hc : c ≠ '/' := fun heq => hx.noSlash (heq ▸ List.mem_cons_self)
    cases xs with
    | nil => simpa [joinWith] using hc
    | cons y ys => simpa [joinWith, List.intercalate_cons_cons] using hc

lemma stepInto_of_ne (h : part ≠ ['.', '.']) (rooted : Bool) (done : List (List Char)) :
    stepInto rooted done part = part :: done :=
  if_neg fun heq => h (beq_iff_eq.mp heq)

lemma mem_of_mem_stepInto {rooted : Bool} {done : List (List Char)} {p : List Char}
    (h : part ∈ stepInto rooted done p) : part = p ∨ part ∈ done := by
  by_cases hup : p = ['.', '.']
  · subst hup
    cases done with
    | nil =>
      cases rooted
      · exact .inl (List.mem_singleton.mp h)
      · cases h
    | cons last before =>
      simp only [stepInto, beq_self_eq_true, if_true] at h
      split at h
      · exact List.mem_cons.mp h
      · exact .inr (List.mem_cons_of_mem last h)
  · rw [stepInto_of_ne hup] at h
    exact List.mem_cons.mp h

lemma mem_of_mem_steps {rooted : Bool} {ps done : List (List Char)}
    (h : part ∈ ps.foldl (stepInto rooted) done) : part ∈ done ∨ part ∈ ps := by
  induction ps generalizing done with
  | nil => exact .inl h
  | cons p ps ih =>
    rcases ih h with hpart | hpart
    · rcases mem_of_mem_stepInto hpart with rfl | hpart
      · exact .inr List.mem_cons_self
      · exact .inl hpart
    · exact .inr (List.mem_cons_of_mem p hpart)

/-- The components that are left once steps up are taken, the last one first. -/
def normalParts (path : List Char) : List (List Char) :=
  (parts path).foldl (stepInto (!(root path).isEmpty)) []

lemma normalize_eq (path : List Char) :
    normalize path =
      if root path ++ joinWith ['/'] (normalParts path).reverse = [] then ['.']
      else root path ++ joinWith ['/'] (normalParts path).reverse := by
  unfold normalize
  dsimp only
  split
  · rename_i hnil
    exact (if_pos hnil).symm
  · rename_i hne
    exact (if_neg hne).symm

lemma isPart_of_mem_normalParts (h : part ∈ normalParts path) : IsPart part :=
  isPart_of_mem_parts ((mem_of_mem_steps h).resolve_left List.not_mem_nil)

theorem parts_normalize (path : List Char) :
    parts (normalize path) = (normalParts path).reverse := by
  have hparts : ∀ x ∈ (normalParts path).reverse, IsPart x := fun x hx =>
    isPart_of_mem_normalParts (List.mem_reverse.mp hx)
  have hshown : parts (root path ++ joinWith ['/'] (normalParts path).reverse) =
      (normalParts path).reverse := by
    rw [parts_root_append, parts_joinWith hparts]
  rw [normalize_eq]
  split
  · rename_i hnil
    rw [← hshown, hnil]
    rfl
  · exact hshown

/-- The name at the end of a path that can be one of a file stays there in the normal path. -/
theorem name_normalize (h : namesDirectory path = false) : name (normalize path) = base path := by
  have hup : base path ≠ ['.', '.'] := by
    intro heq
    rw [namesDirectory, heq] at h
    cases h
  have hlast : normalParts path =
      base path :: (parts path).dropLast.foldl (stepInto (!(root path).isEmpty)) [] := by
    rw [normalParts, parts_eq_concat h, List.foldl_concat, List.dropLast_concat, stepInto_of_ne hup]
  rw [name, parts_normalize, hlast, List.reverse_cons, List.getLast?_concat, Option.getD_some]

end Path

end CallSchema

import CallSchema.Proofs.TypeTokens

/-!
# Tokens of unions

A union is accepted if and only if each piece between its bars is accepted as a type of its own, and
then it names their types in order. Of a union that is not accepted all the pieces are reported that
are no types. So the answer for a union in two parts is put together from those for the parts, and a
token without bars is accepted as a union exactly as it is as a type.
-/

namespace CallSchema.Jsdoc

open Text

variable {piece token : List Char} {type : String} {types : List String}

/-- The pieces of a union that are no types of their own, as they are reported. -/
def rejectedPieces (token : List Char) : List String :=
  ((splitOn '|' token).filter fun piece => !(checkType piece).isOk).map normalToken

lemma isOk_checkType (piece : List Char) :
    (checkType piece).isOk = typeNames.contains (normalToken piece) := by
  rw [checkType]
  split
  · rename_i hknown
    exact hknown.symm
  · rename_i hunknown
    exact (Bool.eq_false_iff.mpr hunknown).symm

lemma rejectedPieces_eq (token : List Char) :
    rejectedPieces token = (memberTokens token).filter (!typeNames.contains ·) := by
  rw [memberTokens, List.filter_map, rejectedPieces]
  simp only [isOk_checkType]
  rfl

lemma checkUnion_eq_ok_iff :
    checkUnion token = .ok types ↔ rejectedPieces token = [] ∧ types = memberTokens token := by
  rw [checkUnion_eq, ← rejectedPieces_eq]
  split <;> rename_i hpieces <;> simp [hpieces, eq_comm]

lemma checkUnion_eq_error_iff {e : Failure} : checkUnion token = .error e ↔
    rejectedPieces token ≠ [] ∧ e = .invalidUnion (rejectedPieces token) := by
  rw [checkUnion_eq, ← rejectedPieces_eq]
  split <;> rename_i hpieces <;> simp [hpieces, eq_comm]

lemma rejectedPieces_eq_nil_iff :
    rejectedPieces token = [] ↔ ∀ piece ∈ splitOn '|' token, normalToken piece ∈ typeNames := by
  rw [rejectedPieces_eq, unknown_eq_nil_iff, memberTokens, List.forall_mem_map]

lemma forall₂_checkType_iff {pieces : List (List Char)} :
    List.Forall₂ (fun piece type => checkType piece = .ok type) pieces types ↔
      (∀ piece ∈ pieces, normalToken piece ∈ typeNames) ∧ types = pieces.map normalToken := by
  have hpiece : ∀ piece type, checkType piece = .ok type ↔
      normalToken piece ∈ typeNames ∧ normalToken piece = type := by
    intro piece type
    rw [checkType_eq_ok_iff]
    constructor
    · rintro ⟨rfl, htype⟩
      exact ⟨htype, rfl⟩
    · rintro ⟨htype, rfl⟩
      exact ⟨rfl, htype⟩
  simp only [hpiece]
  rw [List.forall₂_and_left, ← List.forall₂_map_left_iff (R := (· = ·)), List.forall₂_eq_eq_eq,
    eq_comm (a := types)]

lemma memberTokens_append (first second : List Char) :
    memberTokens (first ++ '|' :: second) = memberTokens first ++ memberTokens second := by
  rw [memberTokens, splitOn_append_mark, List.map_append]
  rfl

lemma rejectedPieces_append (first second : List Char) :
    rejectedPieces (first ++ '|' :: second) = rejectedPieces first ++ rejectedPieces second := by
  rw [rejectedPieces, splitOn_append_mark, List.filter_append, List.map_append]
  rfl

/-- The answer for a union is that for its pieces: two parts that are accepted have the types of
both, and otherwise the pieces of both that are no types are reported together. A token without bars
is one piece. -/
theorem checkUnion_pieces (first second token : List Char) :
    (∀ types types', checkUnion first = .ok types → checkUnion second = .ok types' →
        checkUnion (first ++ '|' :: second) = .ok (types ++ types')) ∧
      ((¬∃ types, checkUnion first = .ok types) ∨ (¬∃ types, checkUnion second = .ok types) →
        checkUnion (first ++ '|' :: second) =
          .error (.invalidUnion (rejectedPieces first ++ rejectedPieces second))) ∧
      ('|' ∉ token → ∀ types,
        checkUnion token = .ok types ↔ ∃ type, checkType token = .ok type ∧ types = [type]) ∧
      (∀ types, checkUnion token = .ok types ↔
        List.Forall₂ (fun piece type => checkType piece = .ok type) (splitOn '|' token) types) ∧
      ∀ e, checkUnion token = .error e ↔
        rejectedPieces token ≠ [] ∧ e = .invalidUnion (rejectedPieces token) := by
  have hpieces : ∀ types, checkUnion token = .ok types ↔
      List.Forall₂ (fun piece type => checkType piece = .ok type) (splitOn '|' token) types := by
    intro types
    rw [checkUnion_eq_ok_iff, forall₂_checkType_iff, rejectedPieces_eq_nil_iff]
    rfl
  refine ⟨fun types types' hfirst hsecond => ?_, fun hreject => ?_, fun hbar types => ?_, hpieces,
    fun e => checkUnion_eq_error_iff⟩
  · rw [checkUnion_eq_ok_iff] at hfirst hsecond ⊢
    obtain ⟨hfirst, rfl⟩ := hfirst
    obtain ⟨hsecond, rfl⟩ := hsecond
    rw [rejectedPieces_append, memberTokens_append, hfirst, hsecond]
    exact ⟨rfl, rfl⟩
  · simp only [checkUnion_eq_ok_iff, exists_and_left, exists_eq, and_true] at hreject
    rw [checkUnion_eq_error_iff, rejectedPieces_append, ne_eq, List.append_eq_nil_iff, not_and_or]
    exact ⟨hreject, rfl⟩
  · rw [hpieces, splitOn_of_not_mem hbar, List.forall₂_cons_left_iff]
    simp

/-- Members are named in lower case without blanks, and those that are no types are all reported:
also what is empty, and what stands twice. -/
theorem checkUnion_pieces_spellings :
    checkUnion "number | String|NULL ".toList = .ok ["number", "string", "null"] ∧
      checkUnion "str|number|int||Str".toList = .error (.invalidUnion ["str", "int", "", "str"]) ∧
      '|' ∉ " İNTEGER".toList ∧ (∃ e, checkType " İNTEGER".toList = .error e) ∧
      ¬∃ types, checkUnion " İNTEGER".toList = .ok types := by
  have hnumber : checkUnion "number ".toList = .ok ["number"] := rfl
  have hothers : checkUnion " String|NULL ".toList = .ok ["string", "null"] := rfl
  have hleft : checkUnion "str|number".toList = .error (.invalidUnion ["str"]) := rfl
  have hright : checkUnion "int||Str".toList = .error (.invalidUnion ["int", "", "str"]) := rfl
  have hbar : '|' ∉ " İNTEGER".toList := by decide
  have herror : checkType " İNTEGER".toList = .error (.invalidType "İNTEGER") := rfl
  refine ⟨?_, ?_, hbar, ⟨_, herror⟩, ?_⟩
  · exact (checkUnion_pieces "number ".toList " String|NULL ".toList []).1 _ _ hnumber hothers
  · have hreject := (checkUnion_pieces "str|number".toList "int||Str".toList []).2.1
      (.inl (by rw [hleft]; rintro ⟨_, ⟨⟩⟩))
    have hpieces : rejectedPieces "str|number".toList ++ rejectedPieces "int||Str".toList =
        ["str", "int", "", "str"] := rfl
    rw [hpieces] at hreject
    exact hreject
  · rintro ⟨types, htypes⟩
    obtain ⟨type, htype, -⟩ :=
      ((checkUnion_pieces [] [] " İNTEGER".toList).2.2.1 hbar types).mp htypes
    rw [herror] at htype
    cases htype

end CallSchema.Jsdoc

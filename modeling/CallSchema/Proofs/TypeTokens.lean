import CallSchema.Proofs.DeclaredSchemas
import CallSchema.Proofs.TrimmedTexts

/-!
# Tokens of declared types

A token with a bar in it is the token of a union, whatever the case of its letters. A token is
accepted if and only if it stands for listed values, or all the types between its bars are known.
-/

namespace CallSchema

namespace Text

variable {cs before : List Char} {c : Char}

lemma bar_mem_lowerFrom (h : '|' ∈ cs) : '|' ∈ lowerFrom before cs := by
  induction cs generalizing before with
  | nil => cases h
  | cons c cs ih =>
    rw [lowerFrom, List.mem_append]
    rcases List.mem_cons.mp h with rfl | h
    · left
      rw [if_neg (by decide)]
      decide
    · exact .inr (ih h)

lemma lowerFrom_of_ascii (h : ∀ c ∈ cs, c.toNat < 128) :
    lowerFrom before cs = cs.map Char.toLower := by
  induction cs generalizing before with
  | nil => rfl
  | cons c cs ih =>
    have hc : c.toNat < 128 := h c List.mem_cons_self
    have hsigma : c ≠ 'Σ' := by
      rintro rfl
      exact absurd hc (by decide)
    rw [lowerFrom, if_neg hsigma, lowerChar, if_pos hc,
      ih fun d hd => h d (List.mem_cons_of_mem c hd)]
    rfl

lemma splitOn_of_not_mem (h : c ∉ cs) : splitOn c cs = [cs] := by
  apply splitWhere_of_forall
  intro d hd
  simpa using fun hdc : d = c => h (hdc ▸ hd)

lemma splitOn_append_mark (c : Char) (cs tail : List Char) :
    splitOn c (cs ++ c :: tail) = splitOn c cs ++ splitOn c tail :=
  splitWhere_append (p := (· == c)) (beq_self_eq_true c) cs tail

lemma splitOn_append_cons (h : c ∉ cs) (tail : List Char) :
    splitOn c (cs ++ c :: tail) = cs :: splitOn c tail := by
  rw [splitOn_append_mark, splitOn_of_not_mem h]
  rfl

end Text

namespace Jsdoc

open Text

variable {type : List Char} {types : List String} {e : Failure}

/-- The tokens between the bars of a type: the type itself, if it has none. -/
def memberTokens (type : List Char) : List String := (splitOn '|' type).map normalToken

/-- A type that declarations accept. -/
def IsKnownType (type : List Char) : Prop :=
  normalToken type = enumToken ∨ ∀ t ∈ memberTokens type, t ∈ typeNames

/-- How a type that is not accepted is reported. A union names all members that are not known. -/
def typeFailure (type : List Char) : Failure :=
  if '|' ∈ type then .invalidUnion ((memberTokens type).filter (!typeNames.contains ·))
  else .invalidType (String.ofList (trim type))

/-- Trimming and lower case keep the bars of a type, and make none. -/
lemma isUnionToken_normalToken_iff :
    isUnionToken (normalToken type).toList = true ↔ '|' ∈ type := by
  constructor
  · intro h
    exact List.count_pos_iff.mp (count_bar_pos h)
  · intro h
    rw [isUnionToken, normalToken, String.toList_ofList, List.contains_iff_mem]
    exact bar_mem_lowerFrom (mem_trim h (by decide))

lemma memberTokens_of_bar_not_mem (h : '|' ∉ type) : memberTokens type = [normalToken type] := by
  rw [memberTokens, splitOn_of_not_mem h]
  rfl

lemma enumToken_not_mem_typeNames : enumToken ∉ typeNames := by decide

lemma unknown_eq_nil_iff : (memberTokens type).filter (!typeNames.contains ·) = [] ↔
    ∀ t ∈ memberTokens type, t ∈ typeNames := by
  simp [List.filter_eq_nil_iff]

lemma checkUnion_eq (type : List Char) : checkUnion type =
    if (memberTokens type).filter (!typeNames.contains ·) = [] then .ok (memberTokens type)
    else .error (.invalidUnion ((memberTokens type).filter (!typeNames.contains ·))) := by
  rw [checkUnion, memberTokens]
  split
  · rename_i hnone
    rw [if_pos hnone]
  · rename_i hsome
    rw [if_neg (by simpa using hsome)]

lemma checkUnion_of_known (h : ∀ t ∈ memberTokens type, t ∈ typeNames) :
    checkUnion type = .ok (memberTokens type) := by
  rw [checkUnion_eq, if_pos (unknown_eq_nil_iff.mpr h)]

lemma checkUnion_of_unknown (hbar : '|' ∈ type) (h : ¬ ∀ t ∈ memberTokens type, t ∈ typeNames) :
    checkUnion type = .error (typeFailure type) := by
  rw [checkUnion_eq, if_neg (unknown_eq_nil_iff.not.mpr h), typeFailure, if_pos hbar]

lemma checkType_of_known (h : normalToken type ∈ typeNames) :
    checkType type = .ok (normalToken type) :=
  checkType_eq_ok_iff.mpr ⟨rfl, h⟩

lemma checkType_of_unknown (hbar : '|' ∉ type) (h : normalToken type ∉ typeNames) :
    checkType type = .error (typeFailure type) := by
  rw [checkType, if_neg (by simpa using h), typeFailure, if_neg hbar]

end Jsdoc

end CallSchema

import CallSchema.Proofs.DeclarationShapes
import CallSchema.Proofs.TypeTokens

/-!
# Accepted declaration lines

What a line without newlines gives is decided by how it is spelled. A line that has the shape of a
declaration is accepted if and only if its type is known and none of its listed numbers is too long,
and every other line fails for its shape. The name of an accepted line is trimmed. It ends where a
blank follows it, but for the two borders at which the shape does not ask for a blank: a bracket
right behind a plain name, and anything right behind a name in brackets.
-/

namespace CallSchema.Jsdoc

open Text

variable {line name after : List Char} {values : List (List Char)} {p : Parts} {d : Declaration}

section Values

lemma exists_classifyValues (h : ∀ v ∈ values, ¬Number.IsTooLong v) :
    ∃ x, classifyValues values = .ok x := by
  cases hvalues : classifyValues values with
  | ok x => exact ⟨x, rfl⟩
  | error e =>
    obtain ⟨v, hv, hlong, -⟩ := exists_isTooLong hvalues
    exact absurd hlong (h v hv)

lemma exists_error_classifyValues {v : List Char} (hv : v ∈ values) (hlong : Number.IsTooLong v) :
    ∃ e, classifyValues values = .error e := by
  cases hvalues : classifyValues values with
  | error e => exact ⟨e, rfl⟩
  | ok x =>
    rw [classifyValues_eq, bind_pure_eq_ok_iff] at hvalues
    obtain ⟨numbers, hnumbers, -⟩ := hvalues
    obtain ⟨n, -, hn⟩ := exists_of_forall₂ (mapM_eq_ok_iff.mp hnumbers) hv
    rw [Number.parse?_of_isTooLong hlong] at hn
    cases hn

end Values

section Names

/-- The brackets of a name hold blanks up to an equals sign, or up to their end. -/
def IsNameless (name : List Char) : Prop :=
  ∃ blanks default, name = '[' :: (blanks ++ (default ++ [']'])) ∧
    (∀ c ∈ blanks, isBlank c = true) ∧ ∀ c ∈ default.head?, c = '='

lemma ne_equals_of_isBlank {c : Char} (h : isBlank c = true) : (c != '=') = true := by
  have hc : c ≠ '=' := by
    rintro rfl
    exact absurd h (by decide)
  simpa using hc

lemma isTrimmed_optionalName (h : IsName name after) : IsTrimmed (optionalName name).2.toList := by
  rcases h with ⟨inner, rfl, -⟩ | ⟨hplain, -⟩
  · rw [optionalName_of_bracketed, String.toList_ofList]
    exact isTrimmed_trim _
  · rw [optionalName_of_plain hplain, String.toList_ofList, ← trim_of_isPlain hplain]
    exact isTrimmed_trim name

lemma optionalName_eq_empty_iff (h : IsName name after) :
    (optionalName name).2 = "" ↔ IsNameless name := by
  rw [← String.toList_eq_nil_iff]
  rcases h with ⟨inner, rfl, -⟩ | ⟨hplain, -⟩
  · rw [optionalName_of_bracketed, String.toList_ofList, trim_eq_nil_iff]
    constructor
    · intro hblanks
      refine ⟨_, inner.dropWhile (· != '='), ?_, hblanks, fun c hc => ?_⟩
      · rw [← List.append_assoc, List.takeWhile_append_dropWhile]
      · simpa using head?_dropWhile hc
    · rintro ⟨blanks, default, hname, hblanks, hdefault⟩
      rw [← List.append_assoc] at hname
      obtain rfl := List.append_cancel_right (List.cons.inj hname).2
      have hstop : ∀ c ∈ default.head?, (c != '=') = false := by
        intro c hc
        simpa using hdefault c hc
      rw [(takeWhile_append_of_head (fun c hc => ne_equals_of_isBlank (hblanks c hc)) hstop).1]
      exact hblanks
  · rw [optionalName_of_plain hplain, String.toList_ofList]
    refine iff_of_false hplain.1 ?_
    rintro ⟨blanks, default, rfl, -⟩
    exact absurd (hplain.2 _ List.mem_cons_self) (by decide)

end Names

namespace Spelling

variable {s : Spelling}

/-- The name is followed by a blank, or by nothing. -/
def EndsName (s : Spelling) : Prop := ∀ c ∈ s.after.head?, isBlank c = true

/-- More text follows without a blank: a bracket behind a plain name, or any text behind
brackets. -/
def RunsOn (s : Spelling) : Prop :=
  ∃ c ∈ s.after.head?, isBlank c = false ∧ (c = '[' ∨ c = ']' ∨ IsBracketed s.name)

lemma endsName_iff (h : s.Proper) : s.EndsName ↔ ¬s.RunsOn := by
  constructor
  · rintro hends ⟨c, hc, hblank, -⟩
    rw [hends c hc] at hblank
    cases hblank
  · intro hruns c hc
    by_contra hblank
    rw [Bool.not_eq_true] at hblank
    apply hruns
    refine ⟨c, hc, hblank, ?_⟩
    rcases h.name with hbracketed | ⟨-, hafter⟩
    · exact .inr (.inr hbracketed)
    · have hchar := hafter c hc
      simp only [isNameChar, hblank, Bool.not_false, Bool.true_and, Bool.and_eq_false_iff,
        bne_eq_false_iff_eq] at hchar
      exact hchar.imp_right .inl

/-- What a declaration has to do with the line that it was read of. -/
structure Declares (s : Spelling) (d : Declaration) : Prop where
  isProperty : d.isProperty = s.isProperty
  isTrimmed : IsTrimmed d.name.toList
  empty_iff : d.name = "" ↔ IsNameless s.name
  /-- Nothing before the end of the name is taken into the description. -/
  description : d.description.toList <:+ trim s.after

lemma declares_plain (h : s.Proper) : s.Declares s.parts.plain where
  isProperty := rfl
  isTrimmed := isTrimmed_optionalName h.name
  empty_iff := optionalName_eq_empty_iff h.name
  description := by
    rw [Parts.plain, String.toList_ofList, parts, trim_trimLeft]
    exact List.dropWhile_suffix _

end Spelling

section Outcomes

variable {s : Spelling}

lemma suffix_of_enumList? {cs rest : List Char} (h : enumList? cs = some (values, rest)) :
    rest <:+ cs := by
  unfold enumList? at h
  split at h
  · rename_i inner
    obtain ⟨⟨listed, after⟩, hcut, hpair⟩ := Option.map_eq_some_iff.mp h
    obtain ⟨-, rfl⟩ := Prod.mk.inj hpair
    rw [cutAt?_eq_some hcut]
    exact (List.dropWhile_suffix _).trans ⟨'[' :: (listed ++ [']']), by simp⟩
  · cases h

lemma listedValues_of_enumList? {rest : List Char} (hp : parts? line = some p)
    (henum : normalToken p.type = enumToken)
    (hlist : enumList? (trim p.rest) = some (values, rest)) : listedValues line = values := by
  simp only [listedValues, hp, if_pos henum, hlist, Option.map_some, Option.getD_some]

lemma enumList?_of_mem_listedValues {v : List Char} (hp : parts? line = some p)
    (hv : v ∈ listedValues line) : normalToken p.type = enumToken ∧
      ∃ rest, enumList? (trim p.rest) = some (listedValues line, rest) := by
  by_cases henum : normalToken p.type = enumToken
  · cases hlist : enumList? (trim p.rest) with
    | none =>
      simp only [listedValues, hp, if_pos henum, hlist] at hv
      cases hv
    | some found => exact ⟨henum, found.2, by rw [listedValues_of_enumList? hp henum hlist]⟩
  · simp only [listedValues, hp, if_neg henum] at hv
    cases hv

lemma parse_of_unknown (hp : parts? line = some p) (h : ¬IsKnownType p.type) :
    Declaration.parse line = .error (typeFailure p.type) := by
  rw [IsKnownType, not_or] at h
  obtain ⟨henum, hmembers⟩ := h
  by_cases hbar : '|' ∈ p.type
  · rw [parse_of_union hp (isUnionToken_normalToken_iff.mpr hbar),
      checkUnion_of_unknown hbar hmembers]
    rfl
  · have hunion : ¬isUnionToken (normalToken p.type).toList = true :=
      fun hunion => hbar (isUnionToken_normalToken_iff.mp hunion)
    rw [memberTokens_of_bar_not_mem hbar, List.forall_mem_singleton] at hmembers
    rw [parse_of_single hp hunion henum, checkType_of_unknown hbar hmembers]
    rfl

/-- A line that is spelled properly and whose type is known is accepted, unless it lists a number
that is too long. -/
lemma exists_declares (h : s.Proper) (hp : parts? line = some s.parts) (hknown : IsKnownType s.type)
    (hshort : ∀ v ∈ listedValues line, ¬Number.IsTooLong v) :
    ∃ d, Declaration.parse line = .ok d ∧ s.Declares d := by
  have hplain := s.declares_plain h
  by_cases henum : normalToken s.type = enumToken
  · rw [parse_of_enum hp henum]
    cases hlist : enumList? (trim s.parts.rest) with
    | none => exact ⟨_, rfl, hplain.1, hplain.2, hplain.3, hplain.4⟩
    | some found =>
      obtain ⟨values, rest⟩ := found
      rw [listedValues_of_enumList? hp henum hlist] at hshort
      obtain ⟨⟨base, listed⟩, hlisted⟩ := exists_classifyValues hshort
      have hrest : trimDashes rest <:+ trim s.after := by
        rw [Spelling.parts, trim_trimLeft] at hlist
        exact (List.dropWhile_suffix _).trans (suffix_of_enumList? hlist)
      simp only [hlisted]
      refine ⟨_, rfl, hplain.1, hplain.2, hplain.3, ?_⟩
      rwa [String.toList_ofList]
  · have hmembers := hknown.resolve_left henum
    by_cases hbar : '|' ∈ s.type
    · rw [parse_of_union hp (isUnionToken_normalToken_iff.mpr hbar)]
      have hunion : checkUnion s.parts.type = .ok _ := checkUnion_of_known hmembers
      rw [hunion]
      exact ⟨_, rfl, hplain.1, hplain.2, hplain.3, hplain.4⟩
    · have hunion : ¬isUnionToken (normalToken s.parts.type).toList = true :=
        fun hunion => hbar (isUnionToken_normalToken_iff.mp hunion)
      rw [memberTokens_of_bar_not_mem hbar, List.forall_mem_singleton] at hmembers
      have hsingle : checkType s.parts.type = .ok _ := checkType_of_known hmembers
      rw [parse_of_single hp hunion henum, hsingle]
      exact ⟨_, rfl, hplain.1, hplain.2, hplain.3, hplain.4⟩

lemma parse_of_isTooLong (hp : parts? line = some p)
    (hlong : ∃ v ∈ listedValues line, Number.IsTooLong v) :
    ∃ v ∈ listedValues line, Number.IsTooLong v ∧
      Declaration.parse line = .error (.tooManyDigits (Number.takeSign v).2.length) := by
  obtain ⟨v, hv, hv'⟩ := hlong
  obtain ⟨henum, rest, hlist⟩ := enumList?_of_mem_listedValues hp hv
  obtain ⟨e, he⟩ := exists_error_classifyValues hv hv'
  obtain ⟨w, hw, hwlong, rfl⟩ := exists_isTooLong he
  refine ⟨w, hw, hwlong, ?_⟩
  rw [parse_of_enum hp henum]
  simp only [hlist, he]
  rfl

/-- What a line without newlines gives. One that is not spelled as a declaration is malformed. One
that is fails for its type, or for a listed number that is too long, or is accepted: then its name
is trimmed, it is empty only if the brackets name nothing, and it ends where a blank follows, unless
the text runs on behind it. -/
theorem outcome_of_line (hline : '\n' ∉ line) :
    ((∀ s : Spelling, s.Proper → s.text ≠ line) →
      Declaration.parse line = .error (.malformedDeclaration (String.ofList line))) ∧
    ∀ s : Spelling, s.Proper → s.text = line →
      (¬IsKnownType s.type → Declaration.parse line = .error (typeFailure s.type)) ∧
      (IsKnownType s.type → (∃ v ∈ listedValues line, Number.IsTooLong v) →
        ∃ v ∈ listedValues line, Number.IsTooLong v ∧
          Declaration.parse line = .error (.tooManyDigits (Number.takeSign v).2.length)) ∧
      (IsKnownType s.type → (∀ v ∈ listedValues line, ¬Number.IsTooLong v) →
        ∃ d, Declaration.parse line = .ok d ∧ s.Declares d) ∧
      (s.EndsName ↔ ¬s.RunsOn) := by
  constructor
  · intro hnone
    apply parse_of_parts?_eq_none
    cases hp : parts? line with
    | none => rfl
    | some p =>
      obtain ⟨s, hs, htext, -⟩ := Spelling.exists_of_parts? hline hp
      exact absurd htext (hnone s hs)
  · rintro s hs rfl
    have hp : parts? s.text = some s.parts := Spelling.parts?_text hs hline
    exact ⟨parse_of_unknown hp, fun _ => parse_of_isTooLong hp, exists_declares hs hp,
      Spelling.endsName_iff hs⟩

/-- A line of an accepted shape, with a blank behind its name. -/
def userLine : Spelling :=
  { isProperty := false, tagGap := [' '], isBraced := true, type := "string".toList
    typeGap := [' '], name := "[user=root]".toList, after := " - The user.".toList }

theorem outcome_of_userLine :
    userLine.text = "@param \x7bstring\x7d [user=root] - The user.".toList ∧
    ∃ d, Declaration.parse userLine.text = .ok d ∧ userLine.Declares d ∧ userLine.EndsName := by
  refine ⟨by decide, ?_⟩
  have hproper : userLine.Proper :=
    ⟨List.forall_mem_singleton.mpr (by decide), by unfold IsType userLine; decide,
      List.forall_mem_singleton.mpr (by decide),
      .inl ⟨"user=root".toList, by decide, by decide, by decide⟩⟩
  obtain ⟨-, -, haccepted, hends⟩ := (outcome_of_line (by decide)).2 userLine hproper rfl
  have hnone : listedValues userLine.text = [] := rfl
  obtain ⟨d, hd, hdeclares⟩ := haccepted (.inr (by decide)) (by simp [hnone])
  refine ⟨d, hd, hdeclares, hends.mpr ?_⟩
  rintro ⟨c, hc, hblank, -⟩
  obtain rfl : ' ' = c := Option.some.inj hc
  cases hblank

/-- Lines are accepted whose name goes on behind a bracket, and lines whose brackets name
nothing. -/
theorem accepted_running_on :
    Declaration.parse "@param \x7barray\x7d employees[].name - The names".toList =
      .ok { isProperty := false, typeToken := "array", name := "employees"
            description := "[].name - The names" } ∧
    Declaration.parse "@param \x7barray\x7d [sizes=[1, 2]] - The sizes".toList =
      .ok { isProperty := false, typeToken := "array", name := "sizes"
            description := "] - The sizes", isOptional := true } ∧
    Declaration.parse "@param \x7bnumber\x7d [ =5] - The limit".toList =
      .ok { isProperty := false, typeToken := "number", name := ""
            description := "The limit", isOptional := true } :=
  ⟨rfl, rfl, rfl⟩

end Outcomes

end CallSchema.Jsdoc

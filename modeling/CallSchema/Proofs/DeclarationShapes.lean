import CallSchema.Jsdoc.Declaration
import CallSchema.Proofs.RejectedDeclarations
import CallSchema.Proofs.TrimmedTexts

/-!
# Shapes of declaration lines

A declaration line is taken apart if and only if it is spelled as a tag, a type in braces or with a
blank after it, a name in brackets or without any, and more text behind the name. Blanks between the
parts are left out, and nothing has to stand between the name and the text behind it.
-/

namespace CallSchema.Jsdoc

open Text

variable {cs type name rest : List Char}

section Types

/-- A character of a type without braces. -/
def isTypeChar (c : Char) : Bool := !isBlank c && c != '[' && c != '\x7b'

lemma isBlank_of_isTypeChar {c : Char} (h : isTypeChar c = true) : isBlank c = false := by
  simp only [isTypeChar, Bool.and_eq_true, Bool.not_eq_true'] at h
  exact h.1.1

/-- A type as it is spelled: in braces, or without them. -/
def spelledType (isBraced : Bool) (type : List Char) : List Char :=
  if isBraced then '\x7b' :: (type ++ ['\x7d']) else type

/-- A type that ends where it is meant to, if `gap` stands behind it. -/
def IsType (isBraced : Bool) (type gap : List Char) : Prop :=
  if isBraced then '\x7d' ∉ type else type ≠ [] ∧ (∀ c ∈ type, isTypeChar c = true) ∧ gap ≠ []

lemma takeType?_bare (h : cs.head? ≠ some '\x7b') : takeType? cs =
    match cs.takeWhile isTypeChar, cs.dropWhile isTypeChar with
    | [], _ => none
    | _, [] => none
    | type, c :: rest => if isBlank c then some (type, trimLeft rest) else none := by
  unfold takeType?
  split
  · exact absurd rfl h
  · rfl

lemma takeType?_spelledType {isBraced : Bool} {gap : List Char} (h : IsType isBraced type gap)
    (hgap : ∀ c ∈ gap, isBlank c = true) (hrest : ∀ c ∈ rest.head?, isBlank c = false) :
    takeType? (spelledType isBraced type ++ (gap ++ rest)) = some (type, rest) := by
  have hblanks : trimLeft (gap ++ rest) = rest := by
    rw [trimLeft_append hgap, trimLeft_of_head? hrest]
  cases isBraced with
  | true =>
    have hcut : cutAt? ['\x7d'] (type ++ '\x7d' :: (gap ++ rest)) = some (type, gap ++ rest) :=
      cutAt?_singleton h (gap ++ rest)
    have htext : spelledType true type ++ (gap ++ rest) =
        '\x7b' :: (type ++ '\x7d' :: (gap ++ rest)) := by
      simp [spelledType]
    rw [htext, takeType?, hcut]
    exact congrArg (fun ds => some (type, ds)) hblanks
  | false =>
    obtain ⟨htype, hchars, hne⟩ := h
    obtain ⟨b, gap, rfl⟩ := List.exists_cons_of_ne_nil hne
    obtain ⟨t, ts, rfl⟩ := List.exists_cons_of_ne_nil htype
    have hb : isBlank b = true := hgap b List.mem_cons_self
    have hopen : (t :: ts ++ (b :: gap ++ rest)).head? ≠ some '\x7b' := by
      intro hbrace
      obtain rfl : t = '\x7b' := Option.some.inj hbrace
      exact absurd (hchars _ List.mem_cons_self) (by decide)
    have hstop : ∀ c ∈ (b :: gap ++ rest).head?, isTypeChar c = false := by
      intro c hc
      obtain rfl : b = c := Option.some.inj hc
      simp [isTypeChar, hb]
    obtain ⟨htake, hdrop⟩ := takeWhile_append_of_head hchars hstop
    have hrest' : trimLeft (gap ++ rest) = rest := by
      rw [trimLeft_append fun c hc => hgap c (List.mem_cons_of_mem b hc), trimLeft_of_head? hrest]
    rw [spelledType, if_neg Bool.false_ne_true, takeType?_bare hopen, htake, hdrop]
    simp only [List.cons_append, if_pos hb, hrest']

lemma takeType?_eq_some (h : takeType? cs = some (type, rest)) :
    ∃ isBraced gap, IsType isBraced type gap ∧ (∀ c ∈ gap, isBlank c = true) ∧
      cs = spelledType isBraced type ++ (gap ++ rest) := by
  by_cases hopen : cs.head? = some '\x7b'
  · obtain ⟨inner, rfl⟩ := List.head?_eq_some_iff.mp hopen
    rw [takeType?] at h
    obtain ⟨⟨before, after⟩, hcut, hpair⟩ := Option.map_eq_some_iff.mp h
    obtain ⟨rfl, rfl⟩ := Prod.mk.inj hpair
    obtain ⟨rfl, hbefore⟩ := cutAt?_singleton_eq_some_iff.mp hcut
    obtain ⟨gap, hafter, hgap⟩ := exists_eq_blanks_trimLeft after
    refine ⟨true, gap, hbefore, hgap, ?_⟩
    rw [← hafter]
    simp [spelledType]
  · rw [takeType?_bare hopen] at h
    have hcs : cs.takeWhile isTypeChar ++ cs.dropWhile isTypeChar = cs :=
      List.takeWhile_append_dropWhile
    cases htake : cs.takeWhile isTypeChar with
    | nil =>
      rw [htake] at h
      cases h
    | cons t ts =>
      cases hdrop : cs.dropWhile isTypeChar with
      | nil =>
        rw [htake, hdrop] at h
        cases h
      | cons b after =>
        rw [htake, hdrop] at h hcs
        by_cases hblank : isBlank b = true
        · simp only [if_pos hblank, Option.some.injEq, Prod.mk.injEq] at h
          obtain ⟨rfl, rfl⟩ := h
          obtain ⟨gap, hafter, hgap⟩ := exists_eq_blanks_trimLeft after
          have hchars : ∀ c ∈ t :: ts, isTypeChar c = true := fun c hc =>
            mem_takeWhile (htake ▸ hc)
          refine ⟨false, b :: gap, ⟨List.cons_ne_nil t ts, hchars, List.cons_ne_nil b gap⟩,
            List.forall_mem_cons.mpr ⟨hblank, hgap⟩, ?_⟩
          rw [List.cons_append, ← hafter]
          exact hcs.symm
        · simp only [if_neg hblank] at h
          cases h

end Types

section Names

/-- A character of a name without brackets. -/
def isNameChar (c : Char) : Bool := !isBlank c && c != '[' && c != ']'

lemma isBlank_of_isNameChar {c : Char} (h : isNameChar c = true) : isBlank c = false := by
  simp only [isNameChar, Bool.and_eq_true, Bool.not_eq_true'] at h
  exact h.1.1

/-- A name in brackets, with a default or none: the brackets hold something. -/
def IsBracketed (name : List Char) : Prop :=
  ∃ inner, name = '[' :: (inner ++ [']']) ∧ inner ≠ [] ∧ ']' ∉ inner

/-- A name without brackets. -/
def IsPlain (name : List Char) : Prop := name ≠ [] ∧ ∀ c ∈ name, isNameChar c = true

/-- A name that ends where it is meant to, if `after` stands behind it. -/
def IsName (name after : List Char) : Prop :=
  IsBracketed name ∨ IsPlain name ∧ ∀ c ∈ after.head?, isNameChar c = false

lemma takeName?_bare (h : cs.head? ≠ some '[') : takeName? cs =
    match cs.takeWhile isNameChar with
    | [] => none
    | name => some (name, cs.dropWhile isNameChar) := by
  unfold takeName?
  split
  · exact absurd rfl h
  · rfl

lemma takeName?_bracketed {inner : List Char} (hne : inner ≠ []) (h : ']' ∉ inner)
    (after : List Char) :
    takeName? ('[' :: (inner ++ [']']) ++ after) = some ('[' :: (inner ++ [']']), after) := by
  have htext : '[' :: (inner ++ [']']) ++ after = '[' :: (inner ++ ']' :: after) := by simp
  rw [htext, takeName?, cutAt?_singleton h]
  cases inner with
  | nil => exact absurd rfl hne
  | cons c inner => rfl

lemma takeName?_append {after : List Char} (h : IsName name after) :
    takeName? (name ++ after) = some (name, after) := by
  rcases h with ⟨inner, rfl, hne, hinner⟩ | ⟨⟨hne, hchars⟩, hafter⟩
  · exact takeName?_bracketed hne hinner after
  · obtain ⟨c, cs, rfl⟩ := List.exists_cons_of_ne_nil hne
    have hopen : (c :: cs ++ after).head? ≠ some '[' := by
      intro hbracket
      obtain rfl : c = '[' := Option.some.inj hbracket
      exact absurd (hchars _ List.mem_cons_self) (by decide)
    obtain ⟨htake, hdrop⟩ := takeWhile_append_of_head hchars hafter
    rw [takeName?_bare hopen, htake, hdrop]

lemma takeName?_eq_some {after : List Char} (h : takeName? cs = some (name, after)) :
    cs = name ++ after ∧ IsName name after := by
  by_cases hopen : cs.head? = some '['
  · obtain ⟨cs, rfl⟩ := List.head?_eq_some_iff.mp hopen
    rw [takeName?] at h
    cases hcut : cutAt? [']'] cs with
    | none =>
      rw [hcut] at h
      cases h
    | some found =>
      obtain ⟨inner, rest⟩ := found
      obtain ⟨rfl, hinner⟩ := cutAt?_singleton_eq_some_iff.mp hcut
      rw [hcut] at h
      cases inner with
      | nil => cases h
      | cons c inner =>
        obtain ⟨rfl, rfl⟩ := Prod.mk.inj (Option.some.inj h)
        exact ⟨by simp, .inl ⟨c :: inner, rfl, List.cons_ne_nil c inner, hinner⟩⟩
  · rw [takeName?_bare hopen] at h
    cases htake : cs.takeWhile isNameChar with
    | nil =>
      rw [htake] at h
      cases h
    | cons c ds =>
      rw [htake] at h
      obtain ⟨rfl, rfl⟩ := Prod.mk.inj (Option.some.inj h)
      have hchars : ∀ d ∈ c :: ds, isNameChar d = true := fun d hd => mem_takeWhile (htake ▸ hd)
      refine ⟨?_, .inr ⟨⟨List.cons_ne_nil c ds, hchars⟩, fun d hd => head?_dropWhile hd⟩⟩
      rw [← htake]
      exact List.takeWhile_append_dropWhile.symm

lemma IsName.isBlank_head? {after : List Char} (h : IsName name after) :
    ∀ c ∈ (name ++ after).head?, isBlank c = false := by
  intro c hc
  rcases h with ⟨inner, rfl, -⟩ | ⟨⟨hne, hchars⟩, -⟩
  · obtain rfl : '[' = c := Option.some.inj hc
    decide
  · obtain ⟨d, ds, rfl⟩ := List.exists_cons_of_ne_nil hne
    obtain rfl : d = c := Option.some.inj hc
    exact isBlank_of_isNameChar (hchars d List.mem_cons_self)

lemma trim_of_isPlain (h : IsPlain name) : trim name = name :=
  trim_of_forall fun c hc => isBlank_of_isNameChar (h.2 c hc)

end Names

/-- The parts of a declaration line with the blanks between them. -/
structure Spelling where
  isProperty : Bool
  tagGap : List Char
  isBraced : Bool
  type : List Char
  typeGap : List Char
  name : List Char
  /-- All that stands behind the name. -/
  after : List Char
  deriving DecidableEq, Repr

/-- The tag of a declaration. -/
def tagText (isProperty : Bool) : List Char :=
  if isProperty then "@property".toList else "@param".toList

lemma takeTag?_eq_some_iff {line : List Char} {isProperty : Bool} :
    takeTag? line = some (isProperty, rest) ↔ line = tagText isProperty ++ rest := by
  have hparam : ∀ rest, dropStart? "@param".toList ("@property".toList ++ rest) = none :=
    fun _ => rfl
  unfold takeTag?
  constructor
  · intro h
    split at h
    · rename_i found hfound
      obtain ⟨rfl, rfl⟩ := Prod.mk.inj (Option.some.inj h)
      exact dropStart?_eq_some hfound
    · obtain ⟨found, hfound, hpair⟩ := Option.map_eq_some_iff.mp h
      obtain ⟨rfl, rfl⟩ := Prod.mk.inj hpair
      exact dropStart?_eq_some hfound
  · rintro rfl
    cases isProperty with
    | true =>
      have hproperty : tagText true = "@property".toList := rfl
      rw [hproperty, hparam, dropStart?_append]
      rfl
    | false =>
      have hfalse : tagText false = "@param".toList := rfl
      rw [hfalse, dropStart?_append]

namespace Spelling

variable {s : Spelling}

/-- The line. -/
def text (s : Spelling) : List Char :=
  tagText s.isProperty ++ (s.tagGap ++
    (spelledType s.isBraced s.type ++ (s.typeGap ++ (s.name ++ s.after))))

/-- The parts are meant to be blanks, a type and a name, and are not mixed up with each other. -/
structure Proper (s : Spelling) : Prop where
  tagGap : ∀ c ∈ s.tagGap, isBlank c = true
  type : IsType s.isBraced s.type s.typeGap
  typeGap : ∀ c ∈ s.typeGap, isBlank c = true
  name : IsName s.name s.after

/-- What the line says. -/
def parts (s : Spelling) : Parts :=
  { isProperty := s.isProperty, type := s.type, name := s.name, rest := trimLeft s.after }

lemma isBlank_head?_spelledType {isBraced : Bool} {type gap : List Char}
    (h : IsType isBraced type gap) (tail : List Char) :
    ∀ c ∈ (spelledType isBraced type ++ tail).head?, isBlank c = false := by
  intro c hc
  cases isBraced with
  | true =>
    obtain rfl : '\x7b' = c := Option.some.inj hc
    decide
  | false =>
    obtain ⟨hne, hchars, -⟩ := h
    obtain ⟨d, ds, rfl⟩ := List.exists_cons_of_ne_nil hne
    obtain rfl : d = c := Option.some.inj hc
    exact isBlank_of_isTypeChar (hchars d List.mem_cons_self)

lemma takeRest?_eq (h : '\n' ∉ cs) : takeRest? cs = some (trimLeft cs) := by
  have htrim : ∀ c ∈ trimLeft cs, (c != '\n') = true := by
    intro c hc
    have hcs : c ≠ '\n' := fun hnewline => h (hnewline ▸ (List.dropWhile_suffix _).subset hc)
    simpa using hcs
  have hdrop : (trimLeft cs).dropWhile (· != '\n') = [] := List.dropWhile_eq_nil_iff.mpr htrim
  simp only [takeRest?, hdrop]

/-- A line that is spelled properly is taken apart as it is spelled. -/
theorem parts?_text (h : s.Proper) (hline : '\n' ∉ s.text) : parts? s.text = some s.parts := by
  have htag : takeTag? s.text = some (s.isProperty, s.tagGap ++
      (spelledType s.isBraced s.type ++ (s.typeGap ++ (s.name ++ s.after)))) :=
    takeTag?_eq_some_iff.mpr rfl
  have hgap : trimLeft (s.tagGap ++
      (spelledType s.isBraced s.type ++ (s.typeGap ++ (s.name ++ s.after)))) =
      spelledType s.isBraced s.type ++ (s.typeGap ++ (s.name ++ s.after)) := by
    rw [trimLeft_append h.tagGap, trimLeft_of_head? (isBlank_head?_spelledType h.type _)]
  have htype := takeType?_spelledType h.type h.typeGap h.name.isBlank_head?
  have hafter : '\n' ∉ s.after := by
    intro hnewline
    apply hline
    simp [text, hnewline]
  simp only [parts?, htag, Option.bind_eq_bind, Option.bind_some, hgap, htype,
    takeName?_append h.name, takeRest?_eq hafter]
  rfl

/-- A line that is taken apart is spelled properly. -/
theorem exists_of_parts? {line : List Char} {p : Parts} (hline : '\n' ∉ line)
    (h : parts? line = some p) : ∃ s : Spelling, s.Proper ∧ s.text = line ∧ s.parts = p := by
  simp only [parts?, Option.bind_eq_bind, Option.bind_eq_some_iff] at h
  obtain ⟨⟨isProperty, afterTag⟩, htag, ⟨type, afterType⟩, htype, ⟨name, after⟩, hname, rest, hrest,
    hparts⟩ := h
  obtain rfl := Option.some.inj hparts
  obtain rfl := takeTag?_eq_some_iff.mp htag
  obtain ⟨tagGap, hafterTag, htagGap⟩ := exists_eq_blanks_trimLeft afterTag
  obtain ⟨isBraced, typeGap, hisType, htypeGap, hspelled⟩ := takeType?_eq_some htype
  obtain ⟨rfl, hisName⟩ := takeName?_eq_some hname
  have htext : afterTag = tagGap ++ (spelledType isBraced type ++ (typeGap ++ (name ++ after))) := by
    rw [← hspelled, ← hafterTag]
  have hafter : '\n' ∉ after := by
    intro hnewline
    apply hline
    simp [htext, hnewline]
  rw [takeRest?_eq hafter] at hrest
  obtain rfl := Option.some.inj hrest
  exact ⟨⟨isProperty, tagGap, isBraced, type, typeGap, name, after⟩,
    ⟨htagGap, hisType, htypeGap, hisName⟩, by rw [text, htext], rfl⟩

end Spelling

section Reading

variable {line : List Char} {p : Parts} {d : Declaration}

lemma optionalName_of_plain (h : IsPlain name) :
    optionalName name = (false, String.ofList name) := by
  obtain ⟨hne, hchars⟩ := h
  obtain ⟨c, cs, rfl⟩ := List.exists_cons_of_ne_nil hne
  have hc : c ≠ '[' := by
    rintro rfl
    exact absurd (hchars _ List.mem_cons_self) (by decide)
  unfold optionalName
  split
  · rename_i inner heq
    exact absurd (List.cons.inj heq).1 hc
  · rfl

lemma optionalName_of_bracketed (inner : List Char) : optionalName ('[' :: (inner ++ [']'])) =
    (true, String.ofList (trim (inner.takeWhile (· != '=')))) := by
  rw [optionalName, if_pos (by simp), List.dropLast_concat]

/-- What a line says apart from its type and the values that it lists. -/
def Parts.plain (p : Parts) : Declaration :=
  { isProperty := p.isProperty
    typeToken := normalToken p.type
    name := (optionalName p.name).2
    description := String.ofList (trimDashes (trim p.rest))
    isOptional := (optionalName p.name).1 }

lemma parse_of_parts?_eq_none (h : parts? line = none) :
    Declaration.parse line = .error (.malformedDeclaration (String.ofList line)) := by
  rw [Declaration.parse, h]

lemma parse_of_union (hp : parts? line = some p)
    (hunion : isUnionToken (normalToken p.type).toList = true) : Declaration.parse line =
      (checkUnion p.type).map fun types => { p.plain with unionTypes := some types } := by
  rw [Declaration.parse, hp]
  simp only [if_pos hunion]
  cases checkUnion p.type <;> rfl

lemma parse_of_enum (hp : parts? line = some p) (henum : normalToken p.type = enumToken) :
    Declaration.parse line = match enumList? (trim p.rest) with
      | none => .ok { p.plain with isEnum := true }
      | some (values, rest) => (classifyValues values).map fun (base, values) =>
        { p.plain with
          typeToken := base, isEnum := true, enumValues := some values
          description := String.ofList (trimDashes rest) } := by
  have hunion : ¬ isUnionToken (normalToken p.type).toList = true := by
    rw [henum]
    decide
  rw [Declaration.parse, hp]
  simp only [if_neg hunion, if_pos henum]
  cases enumList? (trim p.rest) with
  | none => rfl
  | some found => cases hvalues : classifyValues found.1 <;> simp only [hvalues] <;> rfl

lemma parse_of_single (hp : parts? line = some p)
    (hunion : ¬ isUnionToken (normalToken p.type).toList = true)
    (henum : normalToken p.type ≠ enumToken) : Declaration.parse line =
      (checkType p.type).map fun type => { p.plain with typeToken := type } := by
  rw [Declaration.parse, hp]
  simp only [if_neg hunion, if_neg henum]
  cases checkType p.type <;> rfl

end Reading

end CallSchema.Jsdoc

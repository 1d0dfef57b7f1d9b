import CallSchema.Jsdoc.FunctionName
import CallSchema.Proofs.TrimmedTexts

/-!
# Texts of the shapes of functions

A shape takes exactly the texts that are spelled as it says: the front of a binding is a keyword
with blanks behind it, and that of a named function is its words and the word `function`. No more of
an identifier follows the name.
-/

namespace CallSchema.Jsdoc

open Text

variable {cs name rest behind : List Char} {c : Char} {word : String} {form : ArrowForm}

section Identifiers

/-- The name of a function. -/
def IsIdentifier (name : List Char) : Prop :=
  (∃ c ∈ name.head?, isIdentStart c = true) ∧ ∀ c ∈ name, isIdentChar c = true

instance : Decidable (IsIdentifier name) :=
  decidable_of_iff (name.head?.any isIdentStart = true ∧ name.all isIdentChar = true)
    (and_congr (Option.any_eq_true _ _) List.all_eq_true)

lemma isBlank_of_isIdentChar (h : isIdentChar c = true) : isBlank c = false :=
  isBlank_of_codes (by decide +kernel) h

lemma isIdentChar_of_isBlank (h : isBlank c = true) : isIdentChar c = false := by
  refine Bool.eq_false_iff.mpr fun hident => ?_
  rw [isBlank_of_isIdentChar hident] at h
  cases h

lemma isIdentChar_of_isIdentStart (h : isIdentStart c = true) : isIdentChar c = true := by
  simp only [isIdentStart, Bool.or_eq_true, beq_iff_eq] at h
  rcases h with (halpha | rfl) | rfl
  · have hcode := code_of_isAlpha halpha
    have hword : isWord c = true := by
      rw [isWord, if_pos (by omega), isAsciiWord, Char.isAlphanum, halpha]
      rfl
    rw [isIdentChar, hword, Bool.true_or]
  · decide
  · decide

lemma takeIdent?_eq_some_iff : takeIdent? cs = some (name, rest) ↔
    cs = name ++ rest ∧ IsIdentifier name ∧ ∀ c ∈ rest.head?, isIdentChar c = false := by
  constructor
  · intro h
    cases cs with
    | nil => cases h
    | cons c cs =>
      rw [takeIdent?] at h
      split at h
      · rename_i hstart
        obtain ⟨rfl, rfl⟩ := Prod.mk.inj (Option.some.inj h)
        refine ⟨?_, ⟨⟨c, rfl, hstart⟩, List.forall_mem_cons.mpr
          ⟨isIdentChar_of_isIdentStart hstart, fun d hd => mem_takeWhile hd⟩⟩,
          fun d hd => head?_dropWhile hd⟩
        rw [List.cons_append, List.takeWhile_append_dropWhile]
      · cases h
  · rintro ⟨rfl, ⟨⟨c, hc, hstart⟩, hchars⟩, hrest⟩
    obtain ⟨cs, rfl⟩ := List.head?_eq_some_iff.mp hc
    obtain ⟨htake, hdrop⟩ :=
      takeWhile_append_of_head (fun d hd => hchars d (List.mem_cons_of_mem c hd)) hrest
    rw [List.cons_append, takeIdent?, if_pos hstart, htake, hdrop]

lemma isBlank_head?_of_identStart (h : ∃ c ∈ cs.head?, isIdentStart c = true) :
    ∀ c ∈ cs.head?, isBlank c = false := by
  obtain ⟨d, hd, hstart⟩ := h
  intro c hc
  obtain rfl := Option.some.inj (hd.symm.trans hc)
  exact isBlank_of_isIdentChar (isIdentChar_of_isIdentStart hstart)

namespace IsIdentifier

lemma identStart_append (h : IsIdentifier name) (rest : List Char) :
    ∃ c ∈ (name ++ rest).head?, isIdentStart c = true := by
  obtain ⟨⟨c, hc, hstart⟩, -⟩ := h
  obtain ⟨cs, rfl⟩ := List.head?_eq_some_iff.mp hc
  exact ⟨c, rfl, hstart⟩

lemma isBlank_head? (h : IsIdentifier name) (rest : List Char) :
    ∀ c ∈ (name ++ rest).head?, isBlank c = false :=
  isBlank_head?_of_identStart (h.identStart_append rest)

lemma isIdentChar_getLast? (h : IsIdentifier name) (front : List Char) :
    ∀ c ∈ (front ++ name).getLast?, isIdentChar c = true := by
  intro c hc
  have hne : name ≠ [] := by
    rintro rfl
    exact absurd h (by decide)
  rw [List.getLast?_append_of_ne_nil _ hne] at hc
  exact h.2 c (List.mem_of_mem_getLast? hc)

lemma isBlank_getLast? (h : IsIdentifier name) (front : List Char) :
    ∀ c ∈ (front ++ name).getLast?, isBlank c = false := fun c hc =>
  isBlank_of_isIdentChar (h.isIdentChar_getLast? front c hc)

lemma append (h : IsIdentifier name) (h' : IsIdentifier rest) : IsIdentifier (name ++ rest) :=
  ⟨h.identStart_append rest, List.forall_mem_append.mpr ⟨h.2, h'.2⟩⟩

end IsIdentifier

end Identifiers

section Spacing

/-- Blanks, such as spaces and tabs. -/
def IsSpacing (cs : List Char) : Prop := ∀ c ∈ cs, isBlank c = true

/-- Blanks that keep two words apart. -/
def IsGap (cs : List Char) : Prop := cs ≠ [] ∧ IsSpacing cs

instance : Decidable (IsSpacing cs) :=
  decidable_of_iff (cs.all isBlank = true) List.all_eq_true

instance : Decidable (IsGap cs) := inferInstanceAs (Decidable (_ ∧ _))

lemma IsSpacing.trimLeft_append {spacing : List Char} (h : IsSpacing spacing)
    (hcs : ∀ c ∈ cs.head?, isBlank c = false) : trimLeft (spacing ++ cs) = cs := by
  rw [Text.trimLeft_append h, trimLeft_of_head? hcs]

lemma IsSpacing.isIdentChar_head? {spacing : List Char} (h : IsSpacing spacing)
    (hc : isIdentChar c = false) : ∀ d ∈ (spacing ++ c :: rest).head?, isIdentChar d = false := by
  cases spacing with
  | nil =>
    rintro _ ⟨⟩
    exact hc
  | cons d spacing =>
    rintro _ ⟨⟩
    exact isIdentChar_of_isBlank (h d List.mem_cons_self)

lemma IsGap.isIdentChar_getLast? {gap : List Char} (h : IsGap gap) (front : List Char) :
    ∀ c ∈ (front ++ gap).getLast?, isIdentChar c = false := by
  intro c hc
  rw [List.getLast?_append_of_ne_nil _ h.1] at hc
  exact isIdentChar_of_isBlank (h.2 c (List.mem_of_mem_getLast? hc))

lemma dropWord?_eq_some_iff : dropWord? word cs = some rest ↔
    ∃ gap, IsGap gap ∧ cs = word.toList ++ (gap ++ rest) ∧
      ∀ c ∈ rest.head?, isBlank c = false := by
  constructor
  · intro h
    rw [dropWord?] at h
    split at h
    · rename_i c after hdrop
      split at h
      · rename_i hblank
        obtain rfl := Option.some.inj h
        obtain ⟨blanks, hafter, hblanks⟩ := exists_eq_blanks_trimLeft after
        refine ⟨c :: blanks, ⟨List.cons_ne_nil c blanks,
          List.forall_mem_cons.mpr ⟨hblank, hblanks⟩⟩, ?_, fun d hd => head?_dropWhile hd⟩
        rw [dropStart?_eq_some hdrop, List.cons_append, ← hafter]
      · cases h
    · cases h
  · rintro ⟨gap, ⟨hne, hgap⟩, rfl, hrest⟩
    obtain ⟨c, blanks, rfl⟩ := List.exists_cons_of_ne_nil hne
    obtain ⟨hc, hblanks⟩ := List.forall_mem_cons.mp hgap
    rw [dropWord?, dropStart?_append, List.cons_append]
    simp only [hc, if_true, IsSpacing.trimLeft_append hblanks hrest]

lemma dropChar?_eq_some_iff : dropChar? c cs = some rest ↔ cs = c :: rest := by
  cases cs with
  | nil => simp [dropChar?]
  | cons d cs =>
    rw [dropChar?]
    split
    · rename_i hd
      simp [hd]
    · rename_i hd
      simp [hd]

lemma dropChar?_trimLeft_eq_some_iff (hc : isBlank c = false) :
    dropChar? c (trimLeft cs) = some rest ↔
      ∃ spacing, IsSpacing spacing ∧ cs = spacing ++ c :: rest := by
  rw [dropChar?_eq_some_iff]
  constructor
  · intro h
    obtain ⟨spacing, hcs, hspacing⟩ := exists_eq_blanks_trimLeft cs
    exact ⟨spacing, hspacing, by rw [hcs, h]⟩
  · rintro ⟨spacing, hspacing, rfl⟩
    exact hspacing.trimLeft_append (by rintro _ ⟨⟩; exact hc)

/-- The words that tell a declaration. -/
def declaringWords : List String :=
  ["export", "default", "async", "function", "const", "let", "var"]

lemma isIdentifier_word (h : word ∈ declaringWords) : IsIdentifier word.toList := by
  have hwords : ∀ w ∈ declaringWords, IsIdentifier w.toList := by decide
  exact hwords word h

lemma word_inj {xs ys : List Char} {word' : String} (hword : word ∈ declaringWords)
    (hword' : word' ∈ declaringWords) (h : xs ++ word.toList = ys ++ word'.toList) :
    word = word' := by
  have hsuffix : ∀ w ∈ declaringWords, ∀ w' ∈ declaringWords, w.toList <:+ w'.toList → w = w' := by
    decide
  rcases List.suffix_or_suffix_of_suffix ⟨xs, rfl⟩ ⟨ys, h.symm⟩ with hends | hends
  · exact hsuffix word hword word' hword' hends
  · exact (hsuffix word' hword' word hword hends).symm

lemma head?_of_dropWord? (hne : word.toList ≠ []) (h : dropWord? word cs = some rest) :
    cs.head? = word.toList.head? := by
  obtain ⟨gap, -, rfl, -⟩ := dropWord?_eq_some_iff.mp h
  exact List.head?_append_of_ne_nil _ hne

lemma dropWord?_of_head? (hne : word.toList ≠ []) (h : cs.head? ≠ word.toList.head?) :
    dropWord? word cs = none :=
  Option.eq_none_iff_forall_ne_some.mpr fun _ hdrop => h (head?_of_dropWord? hne hdrop)

end Spacing

section Bindings

/-- A word with the blanks behind it, if it stands. -/
def optionalWord (word : String) : Option (List Char) → List Char
  | some gap => word.toList ++ gap
  | none => []

@[simp]
lemma optionalWord_some (word : String) (gap : List Char) :
    optionalWord word (some gap) = word.toList ++ gap := rfl

@[simp]
lemma optionalWord_none (word : String) : optionalWord word none = [] := rfl

/-- The words that tell a binding. -/
def bindingWords : List String := ["const", "let", "var"]

/-- A binding as it is spelled. -/
structure Binding where
  /-- The blanks behind the word `export`, if that stands first. -/
  exported : Option (List Char)
  keyword : String
  gap : List Char
  name : List Char
  beforeEquals : List Char
  /-- The text behind the equals sign. -/
  value : List Char

namespace Binding

variable {b : Binding}

def lead (b : Binding) : List Char := optionalWord "export" b.exported

def before (b : Binding) : List Char := b.lead ++ (b.keyword.toList ++ b.gap)

def after (b : Binding) : List Char := b.beforeEquals ++ '=' :: b.value

def text (b : Binding) : List Char := b.before ++ (b.name ++ b.after)

structure Proper (b : Binding) : Prop where
  exported : ∀ gap ∈ b.exported, IsGap gap
  keyword : b.keyword ∈ bindingWords
  gap : IsGap b.gap
  name : IsIdentifier b.name
  beforeEquals : IsSpacing b.beforeEquals

lemma Proper.isIdentChar_before (hb : b.Proper) (front : List Char) :
    ∀ c ∈ (front ++ b.before).getLast?, isIdentChar c = false := by
  rw [before, ← List.append_assoc, ← List.append_assoc]
  exact hb.gap.isIdentChar_getLast? _

lemma Proper.isIdentChar_after (hb : b.Proper) : ∀ c ∈ b.after.head?, isIdentChar c = false :=
  hb.beforeEquals.isIdentChar_head? (by decide)

end Binding

lemma Binding.Proper.getD_dropWord? {b : Binding} (hb : b.Proper) :
    (dropWord? "export" b.text).getD b.text =
      b.keyword.toList ++ (b.gap ++ (b.name ++ b.after)) := by
  have hkeywords : ∀ w ∈ bindingWords, w ∈ declaringWords ∧ w.toList ≠ [] ∧
      w.toList.head? ≠ "export".toList.head? := by decide
  obtain ⟨hmem, hne, hother⟩ := hkeywords b.keyword hb.keyword
  cases hexported : b.exported with
  | none =>
    have htext : b.text = b.keyword.toList ++ (b.gap ++ (b.name ++ b.after)) := by
      simp [text, before, lead, hexported]
    have hhead : b.text.head? ≠ "export".toList.head? := by
      rw [htext, List.head?_append_of_ne_nil _ hne]
      exact hother
    rw [dropWord?_of_head? (by decide) hhead, Option.getD_none, htext]
  | some gap =>
    have htext : b.text =
        "export".toList ++ (gap ++ (b.keyword.toList ++ (b.gap ++ (b.name ++ b.after)))) := by
      simp [text, before, lead, hexported]
    have hdrop : dropWord? "export" b.text =
        some (b.keyword.toList ++ (b.gap ++ (b.name ++ b.after))) :=
      dropWord?_eq_some_iff.mpr ⟨gap, hb.exported gap hexported, htext,
        (isIdentifier_word hmem).isBlank_head? _⟩
    rw [hdrop, Option.getD_some]

lemma Binding.Proper.identStart_text {b : Binding} (hb : b.Proper) :
    ∃ c ∈ b.text.head?, isIdentStart c = true := by
  have hkeywords : ∀ w ∈ bindingWords, w ∈ declaringWords := by decide
  cases hexported : b.exported with
  | none =>
    have htext : b.text = b.keyword.toList ++ (b.gap ++ (b.name ++ b.after)) := by
      simp [text, before, lead, hexported]
    rw [htext]
    exact (isIdentifier_word (hkeywords b.keyword hb.keyword)).identStart_append _
  | some gap =>
    have htext : b.text =
        "export".toList ++ (gap ++ (b.keyword.toList ++ (b.gap ++ (b.name ++ b.after)))) := by
      simp [text, before, lead, hexported]
    rw [htext]
    exact (isIdentifier_word (by decide)).identStart_append _

lemma dropKeyword_append {gap : List Char} (hword : word ∈ bindingWords) (hgap : IsGap gap)
    (hrest : ∀ c ∈ rest.head?, isBlank c = false) :
    (dropWord? "const" (word.toList ++ (gap ++ rest))).or
      ((dropWord? "let" (word.toList ++ (gap ++ rest))).or
        (dropWord? "var" (word.toList ++ (gap ++ rest)))) = some rest := by
  have hheads : ∀ w ∈ bindingWords, ∀ w' ∈ bindingWords, w ≠ w' →
      w.toList ≠ [] ∧ w.toList.head? ≠ w'.toList.head? := by decide
  have hother : ∀ w ∈ bindingWords, w ≠ word →
      dropWord? w (word.toList ++ (gap ++ rest)) = none := by
    intro w hw hne
    obtain ⟨hnil, hhead⟩ := hheads w hw word hword hne
    refine dropWord?_of_head? hnil ?_
    rw [List.head?_append_of_ne_nil _ (hheads word hword w hw hne.symm).1]
    exact hhead.symm
  have hhere : dropWord? word (word.toList ++ (gap ++ rest)) = some rest :=
    dropWord?_eq_some_iff.mpr ⟨gap, hgap, rfl, hrest⟩
  simp only [bindingWords, List.mem_cons, List.not_mem_nil, or_false] at hword
  rcases hword with rfl | rfl | rfl
  · rw [hhere, Option.some_or]
  · rw [hother "const" (by decide) (by decide), hhere, Option.none_or, Option.some_or]
  · rw [hother "const" (by decide) (by decide), hother "let" (by decide) (by decide), hhere,
      Option.none_or, Option.none_or]

lemma takeBinding?_text {b : Binding} (hb : b.Proper) (form : ArrowForm) :
    takeBinding? form b.text =
      if form.accepts (trimLeft b.value) then some (b.name, b.after) else none := by
  have hident : takeIdent? (b.name ++ b.after) = some (b.name, b.after) :=
    takeIdent?_eq_some_iff.mpr ⟨rfl, hb.name, hb.isIdentChar_after⟩
  have hvalue : dropChar? '=' (trimLeft b.after) = some b.value :=
    (dropChar?_trimLeft_eq_some_iff (by decide)).mpr ⟨b.beforeEquals, hb.beforeEquals, rfl⟩
  simp only [takeBinding?, hb.getD_dropWord?,
    dropKeyword_append hb.keyword hb.gap (hb.name.isBlank_head? b.after), hident, hvalue,
    Option.bind_eq_bind, Option.bind_some]

lemma exists_of_takeBinding? (h : takeBinding? form cs = some (name, behind)) :
    ∃ b : Binding, b.Proper ∧ form.accepts (trimLeft b.value) = true ∧ b.text = cs ∧
      b.name = name ∧ b.after = behind := by
  simp only [takeBinding?, Option.bind_eq_bind, Option.bind_eq_some_iff] at h
  obtain ⟨afterWord, hword, ⟨ident, rest⟩, hident, value, hvalue, hfound⟩ := h
  split at hfound
  · rename_i haccepts
    obtain ⟨rfl, rfl⟩ := Prod.mk.inj (Option.some.inj hfound)
    obtain ⟨rfl, hname, -⟩ := takeIdent?_eq_some_iff.mp hident
    obtain ⟨spacing, hspacing, rfl⟩ := (dropChar?_trimLeft_eq_some_iff (by decide)).mp hvalue
    obtain ⟨keyword, hkeyword, hdrop⟩ : ∃ keyword ∈ bindingWords,
        dropWord? keyword ((dropWord? "export" cs).getD cs) =
          some (ident ++ (spacing ++ '=' :: value)) := by
      rw [Option.or_eq_some_iff, Option.or_eq_some_iff] at hword
      rcases hword with hconst | ⟨-, hlet | ⟨-, hvar⟩⟩
      · exact ⟨"const", by decide, hconst⟩
      · exact ⟨"let", by decide, hlet⟩
      · exact ⟨"var", by decide, hvar⟩
    obtain ⟨gap, hgap, hcs, -⟩ := dropWord?_eq_some_iff.mp hdrop
    cases hexport : dropWord? "export" cs with
    | none =>
      rw [hexport, Option.getD_none] at hcs
      refine ⟨⟨none, keyword, gap, ident, spacing, value⟩,
        ⟨nofun, hkeyword, hgap, hname, hspacing⟩, haccepts, ?_, rfl, rfl⟩
      simp [hcs, Binding.text, Binding.before, Binding.lead, Binding.after]
    | some inner =>
      rw [hexport, Option.getD_some] at hcs
      obtain ⟨leadGap, hleadGap, rfl, -⟩ := dropWord?_eq_some_iff.mp hexport
      refine ⟨⟨some leadGap, keyword, gap, ident, spacing, value⟩,
        ⟨by rintro _ ⟨⟩; exact hleadGap, hkeyword, hgap, hname, hspacing⟩, haccepts, ?_, rfl, rfl⟩
      simp [hcs, Binding.text, Binding.before, Binding.lead, Binding.after]
  · cases hfound

end Bindings

section NamedFunctions

/-- The words that stand before the word `function`. -/
def leadingWords : List String := ["export", "default", "async"]

/-- What may stand between the word `function` and a name: blanks, and a star between them. -/
def IsSeparator (cs : List Char) : Prop :=
  ∃ left right, IsSpacing left ∧ IsSpacing right ∧ (cs = left ∨ cs = left ++ '*' :: right)

/-- A character that can stand there. -/
def isSeparatorChar (c : Char) : Bool := isBlank c || c == '*'

lemma IsSpacing.isSeparatorChar (h : IsSpacing cs) : ∀ c ∈ cs, isSeparatorChar c = true := by
  intro c hc
  rw [Jsdoc.isSeparatorChar, h c hc, Bool.true_or]

lemma IsSeparator.isSeparatorChar {separator : List Char} (h : IsSeparator separator) :
    ∀ c ∈ separator, isSeparatorChar c = true := by
  obtain ⟨left, right, hleft, hright, rfl | rfl⟩ := h
  · exact hleft.isSeparatorChar
  · exact List.forall_mem_append.mpr ⟨hleft.isSeparatorChar,
      List.forall_mem_cons.mpr ⟨by decide, hright.isSeparatorChar⟩⟩

lemma isIdentChar_of_isSeparatorChar (h : isSeparatorChar c = true) : isIdentChar c = false := by
  rcases Bool.or_eq_true_iff.mp h with hblank | hstar
  · exact isIdentChar_of_isBlank hblank
  · rw [beq_iff_eq.mp hstar]
    decide

lemma IsIdentifier.isSeparatorChar_getLast? (h : IsIdentifier name) (front : List Char) :
    ∀ c ∈ (front ++ name).getLast?, Jsdoc.isSeparatorChar c = false := by
  intro c hc
  refine Bool.eq_false_iff.mpr fun hchar => ?_
  have hident := h.isIdentChar_getLast? front c hc
  rw [isIdentChar_of_isSeparatorChar hchar] at hident
  cases hident

lemma IsSeparator.isIdentChar_getLast? {separator : List Char} (h : IsSeparator separator)
    (hne : separator ≠ []) (front : List Char) :
    ∀ c ∈ (front ++ separator).getLast?, isIdentChar c = false := by
  intro c hc
  rw [List.getLast?_append_of_ne_nil _ hne] at hc
  exact isIdentChar_of_isSeparatorChar (h.isSeparatorChar c (List.mem_of_mem_getLast? hc))

/-- A named function as it is spelled. -/
structure NamedFunction where
  /-- The words before the word `function`, with the blanks behind each. -/
  words : List (String × List Char)
  separator : List Char
  name : List Char
  beforeParameters : List Char
  /-- The text behind the parenthesis that opens the parameters. -/
  parameters : List Char

/-- Words with the blanks behind each. -/
def spacedWords (words : List (String × List Char)) : List Char :=
  words.flatMap fun (word, gap) => word.toList ++ gap

@[simp]
lemma spacedWords_nil : spacedWords [] = [] := rfl

lemma spacedWords_cons (w : String × List Char) (words : List (String × List Char)) :
    spacedWords (w :: words) = w.1.toList ++ (w.2 ++ spacedWords words) := by
  simp [spacedWords]

lemma spacedWords_concat (words : List (String × List Char)) (w : String × List Char) :
    spacedWords (words ++ [w]) = spacedWords words ++ (w.1.toList ++ w.2) := by
  simp [spacedWords]

namespace NamedFunction

def lead (f : NamedFunction) : List Char := spacedWords f.words

def before (f : NamedFunction) : List Char := f.lead ++ ("function".toList ++ f.separator)

def after (f : NamedFunction) : List Char := f.beforeParameters ++ '(' :: f.parameters

def text (f : NamedFunction) : List Char := f.before ++ (f.name ++ f.after)

structure Proper (f : NamedFunction) : Prop where
  words : ∀ w ∈ f.words, IsGap w.2
  separator : IsSeparator f.separator
  name : IsIdentifier f.name
  beforeParameters : IsSpacing f.beforeParameters

lemma Proper.isIdentChar_after {f : NamedFunction} (hf : f.Proper) :
    ∀ c ∈ f.after.head?, isIdentChar c = false :=
  hf.beforeParameters.isIdentChar_head? (by decide)

lemma text_cons {f : NamedFunction} {gap : List Char} {words : List (String × List Char)}
    (h : f.words = (word, gap) :: words) :
    f.text = word.toList ++ (gap ++ { f with words := words }.text) := by
  simp [text, before, lead, after, h, spacedWords_cons]

lemma identStart_text {f : NamedFunction} (hleading : ∀ w ∈ f.words, w.1 ∈ leadingWords) :
    ∃ c ∈ f.text.head?, isIdentStart c = true := by
  cases hwords : f.words with
  | nil =>
    have htext : f.text = "function".toList ++ (f.separator ++ (f.name ++ f.after)) := by
      simp [text, before, lead, hwords]
    rw [htext]
    exact (isIdentifier_word (by decide)).identStart_append _
  | cons w words =>
    have hleads : ∀ w ∈ leadingWords, w ∈ declaringWords := by decide
    rw [text_cons hwords]
    exact (isIdentifier_word
      (hleads w.1 (hleading w (hwords ▸ List.mem_cons_self)))).identStart_append _

end NamedFunction

lemma takeIdent?_separator {separator : List Char} (h : IsSeparator separator)
    (hname : IsIdentifier name) (hbehind : ∀ c ∈ behind.head?, isIdentChar c = false) :
    takeIdent? (trimLeft ((dropChar? '*' (trimLeft (separator ++ (name ++ behind)))).getD
      (trimLeft (separator ++ (name ++ behind))))) = some (name, behind) := by
  have hident : takeIdent? (name ++ behind) = some (name, behind) :=
    takeIdent?_eq_some_iff.mpr ⟨rfl, hname, hbehind⟩
  have hblank := hname.isBlank_head? behind
  obtain ⟨left, right, hleft, hright, rfl | rfl⟩ := h
  · have hstar : dropChar? '*' (name ++ behind) = none := by
      refine Option.eq_none_iff_forall_ne_some.mpr fun rest hdrop => ?_
      obtain ⟨⟨c, hc, hstart⟩, -⟩ := hname
      obtain ⟨cs, rfl⟩ := List.head?_eq_some_iff.mp hc
      obtain ⟨rfl, -⟩ := List.cons.inj (dropChar?_eq_some_iff.mp hdrop)
      exact absurd hstart (by decide)
    rw [hleft.trimLeft_append hblank, hstar, Option.getD_none, trimLeft_of_head? hblank, hident]
  · have hstar : dropChar? '*' (trimLeft (left ++ '*' :: right ++ (name ++ behind))) =
        some (right ++ (name ++ behind)) := by
      rw [dropChar?_trimLeft_eq_some_iff (by decide)]
      exact ⟨left, hleft, by simp⟩
    rw [hstar, Option.getD_some, hright.trimLeft_append hblank, hident]

lemma exists_separator (h : takeIdent? (trimLeft ((dropChar? '*' (trimLeft cs)).getD
    (trimLeft cs))) = some (name, behind)) :
    ∃ separator, IsSeparator separator ∧ cs = separator ++ (name ++ behind) := by
  obtain ⟨left, hcs, hleft⟩ := exists_eq_blanks_trimLeft cs
  obtain ⟨right, hright, hblanks⟩ :=
    exists_eq_blanks_trimLeft ((dropChar? '*' (trimLeft cs)).getD (trimLeft cs))
  obtain ⟨htrim, -⟩ := takeIdent?_eq_some_iff.mp h
  rw [htrim] at hright
  cases hstar : dropChar? '*' (trimLeft cs) with
  | none =>
    rw [hstar, Option.getD_none] at hright
    refine ⟨left ++ right, ⟨left ++ right, [], ?_, nofun, .inl rfl⟩, ?_⟩
    · exact fun c hc => (List.mem_append.mp hc).elim (hleft c) (hblanks c)
    · rw [List.append_assoc, ← hright, ← hcs]
  | some rest =>
    rw [hstar, Option.getD_some] at hright
    refine ⟨left ++ '*' :: right, ⟨left, right, hleft, hblanks, .inr rfl⟩, ?_⟩
    rw [List.append_assoc, List.cons_append, ← hright, ← dropChar?_eq_some_iff.mp hstar, ← hcs]

lemma takeNamed?_text {f : NamedFunction} (hf : f.Proper)
    (hleading : ∀ w ∈ f.words, w.1 ∈ leadingWords) :
    takeNamed? (f.words.map (·.1)) f.text = some (f.name, f.after) := by
  obtain ⟨words, separator, name, beforeParameters, parameters⟩ := f
  induction words with
  | nil =>
    have hparameters : dropChar? '(' (trimLeft (beforeParameters ++ '(' :: parameters)) =
        some parameters :=
      (dropChar?_trimLeft_eq_some_iff (by decide)).mpr ⟨_, hf.beforeParameters, rfl⟩
    have hident := takeIdent?_separator hf.separator hf.name hf.isIdentChar_after
    simp only [NamedFunction.text, NamedFunction.before, NamedFunction.lead, spacedWords_nil,
      List.nil_append, List.append_assoc, List.map_nil, takeNamed?, dropStart?_append,
      Option.bind_eq_bind, Option.bind_some, hident]
    rw [NamedFunction.after, hparameters]
    rfl
  | cons w words ih =>
    obtain ⟨hgap, hgaps⟩ := List.forall_mem_cons.mp hf.words
    obtain ⟨-, hothers⟩ := List.forall_mem_cons.mp hleading
    have hrest := ih ⟨hgaps, hf.separator, hf.name, hf.beforeParameters⟩ hothers
    have hdrop : dropWord? w.1
        (⟨w :: words, separator, name, beforeParameters, parameters⟩ : NamedFunction).text =
          some (⟨words, separator, name, beforeParameters, parameters⟩ : NamedFunction).text :=
      dropWord?_eq_some_iff.mpr ⟨w.2, hgap, NamedFunction.text_cons rfl,
        isBlank_head?_of_identStart (NamedFunction.identStart_text hothers)⟩
    rw [List.map_cons, takeNamed?, hdrop]
    exact hrest

lemma exists_of_takeNamed? {words : List String} (h : takeNamed? words cs = some (name, behind)) :
    ∃ f : NamedFunction, f.Proper ∧ f.words.map (·.1) = words ∧ f.text = cs ∧ f.name = name ∧
      f.after = behind := by
  induction words generalizing cs with
  | nil =>
    simp only [takeNamed?, Option.bind_eq_bind, Option.bind_eq_some_iff] at h
    obtain ⟨inner, hfunction, ⟨ident, rest⟩, hident, parameters, hparameters, hfound⟩ := h
    obtain ⟨rfl, rfl⟩ := Prod.mk.inj (Option.some.inj hfound)
    obtain ⟨spacing, hspacing, rfl⟩ := (dropChar?_trimLeft_eq_some_iff (by decide)).mp hparameters
    obtain ⟨separator, hseparator, rfl⟩ := exists_separator hident
    obtain ⟨-, hname, -⟩ := takeIdent?_eq_some_iff.mp hident
    refine ⟨⟨[], separator, ident, spacing, parameters⟩, ⟨nofun, hseparator, hname, hspacing⟩,
      rfl, ?_, rfl, rfl⟩
    rw [dropStart?_eq_some hfunction]
    simp [NamedFunction.text, NamedFunction.before, NamedFunction.lead, NamedFunction.after]
  | cons word words ih =>
    simp only [takeNamed?, Option.bind_eq_bind, Option.bind_eq_some_iff] at h
    obtain ⟨rest, hword, hnamed⟩ := h
    obtain ⟨gap, hgap, rfl, -⟩ := dropWord?_eq_some_iff.mp hword
    obtain ⟨f, hf, rfl, rfl, rfl, rfl⟩ := ih hnamed
    exact ⟨{ f with words := (word, gap) :: f.words },
      ⟨List.forall_mem_cons.mpr ⟨hgap, hf.words⟩, hf.separator, hf.name, hf.beforeParameters⟩,
      rfl, NamedFunction.text_cons rfl, rfl, rfl⟩

end NamedFunctions

section Search

variable {shape : Shape} {front : List Char}

/-- The last character of a text is one of a word. -/
def endsInWord (cs : List Char) : Bool := (cs.getLast?.map isWord).getD false

lemma endsInWord_concat (cs : List Char) (c : Char) : endsInWord (cs ++ [c]) = isWord c := by
  rw [endsInWord, List.getLast?_concat]
  rfl

lemma IsGap.endsInWord_append {gap : List Char} (h : IsGap gap) (front : List Char) :
    endsInWord (front ++ gap) = false := by
  rw [endsInWord]
  cases hlast : (front ++ gap).getLast? with
  | none => rfl
  | some c =>
    have hident := h.isIdentChar_getLast? front c hlast
    rw [isIdentChar, Bool.or_eq_false_iff] at hident
    exact hident.1

lemma take?_suffix (h : shape.take? cs = some (name, behind)) : name ++ behind <:+ cs := by
  cases shape with
  | binding form =>
    obtain ⟨b, -, -, rfl, rfl, rfl⟩ := exists_of_takeBinding? h
    exact ⟨b.before, rfl⟩
  | named words =>
    obtain ⟨f, -, -, rfl, rfl, rfl⟩ := exists_of_takeNamed? h
    exact ⟨f.before, rfl⟩

/-- What a search finds is taken from a place on where no word runs into it. -/
lemma exists_of_search? (h : shape.search? (endsInWord front) cs = some (name, behind)) :
    ∃ skipped rest, cs = skipped ++ rest ∧ endsInWord (front ++ skipped) = false ∧
      shape.take? rest = some (name, behind) := by
  induction cs generalizing front with
  | nil => cases h
  | cons c cs ih =>
    rw [Shape.search?] at h
    split at h
    · rename_i found hhere
      obtain rfl := Option.some.inj h
      split at hhere
      · cases hhere
      · rename_i hword
        exact ⟨[], c :: cs, rfl, by simpa using hword, hhere⟩
    · rw [← endsInWord_concat front c] at h
      obtain ⟨skipped, rest, rfl, hword, htake⟩ := ih h
      exact ⟨c :: skipped, rest, rfl, by simpa using hword, htake⟩

def Shape.wordsBefore : Shape → List String
  | binding _ => []
  | named words => words

lemma mem_leadingWords (hshape : shape ∈ shapes) : ∀ w ∈ shape.wordsBefore, w ∈ leadingWords := by
  have hshapes : ∀ s ∈ shapes, ∀ w ∈ s.wordsBefore, w ∈ leadingWords := by decide
  exact hshapes shape hshape

lemma identStart_of_take? {found : List Char × List Char} (hshape : shape ∈ shapes)
    (h : shape.take? cs = some found) : ∃ c ∈ cs.head?, isIdentStart c = true := by
  cases shape with
  | binding form =>
    obtain ⟨b, hb, -, rfl, -, -⟩ := exists_of_takeBinding? h
    exact hb.identStart_text
  | named words =>
    obtain ⟨f, -, rfl, rfl, -, -⟩ := exists_of_takeNamed? h
    exact NamedFunction.identStart_text fun w hw =>
      mem_leadingWords hshape w.1 (List.mem_map_of_mem hw)

lemma search?_indent {indent : List Char} {found : List Char × List Char} (hshape : shape ∈ shapes)
    (hindent : IsSpacing indent) (h : shape.take? cs = some found) :
    shape.search? false (indent ++ cs) = some found := by
  induction indent with
  | nil =>
    obtain ⟨c, hc, -⟩ := identStart_of_take? hshape h
    obtain ⟨cs, rfl⟩ := List.head?_eq_some_iff.mp hc
    rw [List.nil_append, Shape.search?, if_neg Bool.false_ne_true, h]
  | cons c indent ih =>
    obtain ⟨hc, hindent⟩ := List.forall_mem_cons.mp hindent
    have hident := isIdentChar_of_isBlank hc
    have hnone : shape.take? (c :: (indent ++ cs)) = none := by
      refine Option.eq_none_iff_forall_ne_some.mpr fun found htake => ?_
      have hstart := isBlank_head?_of_identStart (identStart_of_take? hshape htake) c rfl
      rw [hc] at hstart
      cases hstart
    rw [isIdentChar, Bool.or_eq_false_iff] at hident
    rw [List.cons_append, Shape.search?, if_neg Bool.false_ne_true, hnone, hident.1]
    exact ih hindent

end Search

end CallSchema.Jsdoc

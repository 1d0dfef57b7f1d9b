import CallSchema.Proofs.ShapeTexts

/-!
# Written shapes of functions

A line declares a function as the shapes list it: a binding whose value is an arrow function, with
its parameters in the line or going on in the next one, or a named function behind its words. Blanks
stand between the words, and may stand around the parameters and the marks.
-/

namespace CallSchema.Jsdoc

open Text

variable {cs tail indent name line : List Char} {c : Char} {shape : Shape}

section Marks

/-- The marks that the shapes look for behind a name. -/
def marks : List Char := ['=', '(', ')']

def Unmarked (cs : List Char) : Prop := ∀ c ∈ cs, c ∉ marks

instance : Decidable (Unmarked cs) :=
  decidable_of_iff (cs.any (marks.contains ·) = false) (by simp [Unmarked])

lemma Unmarked.append {xs ys : List Char} (hxs : Unmarked xs) (hys : Unmarked ys) :
    Unmarked (xs ++ ys) := List.forall_mem_append.mpr ⟨hxs, hys⟩

lemma Unmarked.not_mem (h : Unmarked cs) (hc : c ∈ marks) : c ∉ cs := fun hmem => h c hmem hc

lemma unmarked_of_forall {p : Char → Bool} (h : ∀ c ∈ cs, p c = true)
    (hmarks : marks.any p = false) : Unmarked cs :=
  fun c hc hmark => List.any_eq_false.mp hmarks c hmark (h c hc)

lemma IsSpacing.unmarked (h : IsSpacing cs) : Unmarked cs := unmarked_of_forall h (by decide)

lemma IsIdentifier.unmarked (h : IsIdentifier cs) : Unmarked cs :=
  unmarked_of_forall h.2 (by decide)

lemma IsSeparator.unmarked (h : IsSeparator cs) : Unmarked cs := by
  obtain ⟨left, right, hleft, hright, rfl | rfl⟩ := h
  · exact hleft.unmarked
  · exact hleft.unmarked.append (List.forall_mem_cons.mpr ⟨by decide, hright.unmarked⟩)

lemma unmarked_word {word : String} (h : word ∈ declaringWords) : Unmarked word.toList :=
  (isIdentifier_word h).unmarked

lemma unmarked_optionalWord {word : String} {gap? : Option (List Char)}
    (h : word ∈ declaringWords) (hgap : ∀ gap ∈ gap?, IsSpacing gap) :
    Unmarked (optionalWord word gap?) := by
  cases gap? with
  | none => exact nofun
  | some gap => exact (unmarked_word h).append (hgap gap rfl).unmarked

lemma Binding.Proper.unmarked_before {b : Binding} (hb : b.Proper) : Unmarked b.before := by
  have hkeywords : ∀ w ∈ bindingWords, w ∈ declaringWords := by decide
  have hlead : Unmarked b.lead :=
    unmarked_optionalWord (by decide) fun gap hgap => (hb.exported gap hgap).2
  exact hlead.append ((unmarked_word (hkeywords b.keyword hb.keyword)).append hb.gap.2.unmarked)

lemma unmarked_spacedWords {words : List (String × List Char)} (hgaps : ∀ w ∈ words, IsGap w.2)
    (hwords : ∀ w ∈ words, w.1 ∈ declaringWords) : Unmarked (spacedWords words) := by
  intro c hc
  obtain ⟨w, hw, hc⟩ := List.mem_flatMap.mp hc
  exact ((unmarked_word (hwords w hw)).append (hgaps w hw).2.unmarked) c hc

lemma NamedFunction.Proper.unmarked_before {f : NamedFunction} (hf : f.Proper)
    (hwords : ∀ w ∈ f.words, w.1 ∈ declaringWords) : Unmarked f.before :=
  (unmarked_spacedWords hf.words hwords).append
    ((unmarked_word (by decide)).append hf.separator.unmarked)

lemma Binding.Proper.unmarked_front {b : Binding} (hb : b.Proper) {indent : List Char}
    (hindent : IsSpacing indent) :
    Unmarked ((indent ++ b.before) ++ (b.name ++ b.beforeEquals)) :=
  (hindent.unmarked.append hb.unmarked_before).append
    (hb.name.unmarked.append hb.beforeEquals.unmarked)

lemma NamedFunction.Proper.unmarked_front {f : NamedFunction} (hf : f.Proper)
    (hleading : ∀ w ∈ f.words, w.1 ∈ leadingWords) {indent : List Char}
    (hindent : IsSpacing indent) :
    Unmarked ((indent ++ f.before) ++ (f.name ++ f.beforeParameters)) := by
  have hleads : ∀ w ∈ leadingWords, w ∈ declaringWords := by decide
  exact (hindent.unmarked.append (hf.unmarked_before fun w hw => hleads _ (hleading w hw))).append
    (hf.name.unmarked.append hf.beforeParameters.unmarked)

end Marks

section Parameters

/-- A parameter with blanks around it. -/
structure Parameter where
  before : List Char
  name : List Char
  behind : List Char

def Parameter.text (p : Parameter) : List Char := p.before ++ (p.name ++ p.behind)

structure Parameter.Proper (p : Parameter) : Prop where
  before : IsSpacing p.before
  name : IsIdentifier p.name
  behind : IsSpacing p.behind

/-- Parameters with commas between them. -/
def listText (ps : List Parameter) : List Char := joinWith [','] (ps.map Parameter.text)

/-- The parameters of a function, as they stand in its parentheses. -/
inductive Parameters
  | list (ps : List Parameter)
  /-- The fields of one parameter, in braces. -/
  | braces (before : List Char) (ps : List Parameter) (behind : List Char)

namespace Parameters

/-- The text between the parentheses. -/
def inner : Parameters → List Char
  | list ps => listText ps
  | braces before ps behind => before ++ '\x7b' :: (listText ps ++ '\x7d' :: behind)

def Proper : Parameters → Prop
  | list ps => ∀ p ∈ ps, p.Proper
  | braces before ps behind => IsSpacing before ∧ (∀ p ∈ ps, p.Proper) ∧ IsSpacing behind

end Parameters

lemma unmarked_listText {ps : List Parameter} (h : ∀ p ∈ ps, p.Proper) :
    Unmarked (listText ps) := by
  intro c hc
  rcases mem_joinWith hc with hcomma | ⟨piece, hpiece, hc⟩
  · rw [List.mem_singleton.mp hcomma]
    decide
  · obtain ⟨p, hp, rfl⟩ := List.mem_map.mp hpiece
    exact ((h p hp).before.unmarked.append
      ((h p hp).name.unmarked.append (h p hp).behind.unmarked)) c hc

lemma Parameters.Proper.unmarked_inner {ps : Parameters} (h : ps.Proper) : Unmarked ps.inner := by
  cases ps with
  | list ps => exact unmarked_listText h
  | braces before ps behind =>
    obtain ⟨hbefore, hps, hbehind⟩ := h
    have hclose : Unmarked ('\x7d' :: behind) :=
      List.forall_mem_cons.mpr ⟨by decide, hbehind.unmarked⟩
    exact hbefore.unmarked.append
      (List.forall_mem_cons.mpr ⟨by decide, (unmarked_listText hps).append hclose⟩)

end Parameters

section ArrowFunctions

/-- The parameters of an arrow function: in parentheses, or one without them. -/
inductive ArrowParameters
  | inParentheses (ps : Parameters)
  | bare (name : List Char)

namespace ArrowParameters

def text : ArrowParameters → List Char
  | inParentheses ps => '(' :: (ps.inner ++ [')'])
  | bare name => name

def Proper : ArrowParameters → Prop
  | inParentheses ps => ps.Proper
  | bare name => IsIdentifier name

end ArrowParameters

/-- An arrow function as it is spelled behind an equals sign, up to its arrow. -/
structure ArrowFunction where
  spacing : List Char
  /-- The blanks behind the word `async`, if that stands first. -/
  async : Option (List Char)
  parameters : ArrowParameters
  beforeArrow : List Char

namespace ArrowFunction

variable {v : ArrowFunction}

/-- The text before the arrow, without the blanks behind the equals sign. -/
def front (v : ArrowFunction) : List Char :=
  optionalWord "async" v.async ++ (v.parameters.text ++ v.beforeArrow)

def text (v : ArrowFunction) : List Char := v.spacing ++ (v.front ++ ['=', '>'])

structure Proper (v : ArrowFunction) : Prop where
  spacing : IsSpacing v.spacing
  async : ∀ gap ∈ v.async, IsSpacing gap ∧ (gap = [] → ∃ ps, v.parameters = .inParentheses ps)
  parameters : v.parameters.Proper
  beforeArrow : IsSpacing v.beforeArrow

end ArrowFunction

lemma ArrowFunction.Proper.equals_not_mem {v : ArrowFunction} (hv : v.Proper) :
    '=' ∉ v.spacing ++ v.front := by
  have hlead : '=' ∉ optionalWord "async" v.async :=
    (unmarked_optionalWord (by decide) fun gap hgap => (hv.async gap hgap).1).not_mem (by decide)
  have hparameters : '=' ∉ v.parameters.text := by
    have hproper := hv.parameters
    cases hform : v.parameters with
    | inParentheses ps =>
      rw [hform] at hproper
      have hinner := hproper.unmarked_inner.not_mem (c := '=') (by decide)
      simp [ArrowParameters.text, hinner]
    | bare name =>
      rw [hform] at hproper
      exact (IsIdentifier.unmarked hproper).not_mem (by decide)
  simp only [front, List.mem_append, not_or]
  exact ⟨hv.spacing.unmarked.not_mem (by decide), hlead, hparameters,
    hv.beforeArrow.unmarked.not_mem (by decide)⟩

variable {spacing : List Char}

lemma isArrow_arrow (h : IsSpacing spacing) (tail : List Char) :
    isArrow (spacing ++ '=' :: '>' :: tail) = true := by
  rw [isArrow, h.trimLeft_append (by rintro _ ⟨⟩; decide)]
  rfl

lemma isList_arrow {ps : Parameters} (hps : ps.Proper) (h : IsSpacing spacing) (tail : List Char) :
    isList ('(' :: (ps.inner ++ ')' :: (spacing ++ '=' :: '>' :: tail))) = true := by
  have hcut := cutAt?_singleton (hps.unmarked_inner.not_mem (c := ')') (by decide))
    (spacing ++ '=' :: '>' :: tail)
  have hopen : dropChar? '(' ('(' :: (ps.inner ++ ')' :: (spacing ++ '=' :: '>' :: tail))) =
      some (ps.inner ++ ')' :: (spacing ++ '=' :: '>' :: tail)) := dropChar?_eq_some_iff.mpr rfl
  simp only [isList, hopen, hcut, isArrow_arrow h, Option.bind_eq_bind, Option.bind_some,
    Option.getD_some]

lemma isSingle_arrow (hname : IsIdentifier name) (h : IsSpacing spacing) (tail : List Char) :
    isSingle (name ++ (spacing ++ '=' :: '>' :: tail)) = true := by
  have hident : takeIdent? (name ++ (spacing ++ '=' :: '>' :: tail)) =
      some (name, spacing ++ '=' :: '>' :: tail) :=
    takeIdent?_eq_some_iff.mpr ⟨rfl, hname, h.isIdentChar_head? (by decide)⟩
  simp only [isSingle, hident, isArrow_arrow h]

lemma ArrowParameters.Proper.isBlank_head? {parameters : ArrowParameters} (h : parameters.Proper)
    (rest : List Char) : ∀ c ∈ (parameters.text ++ rest).head?, isBlank c = false := by
  cases parameters with
  | inParentheses ps =>
    rintro _ ⟨⟩
    decide
  | bare name => exact IsIdentifier.isBlank_head? h rest

lemma ArrowFunction.Proper.exists_accepts {v : ArrowFunction} (hv : v.Proper) (tail : List Char) :
    ∃ form : ArrowForm, form.accepts (trimLeft (v.text ++ tail)) = true := by
  obtain ⟨spacing, async, parameters, beforeArrow⟩ := v
  obtain ⟨arrow, harrow⟩ :
      ∃ arrow, arrow = parameters.text ++ (beforeArrow ++ '=' :: '>' :: tail) := ⟨_, rfl⟩
  have htext : text ⟨spacing, async, parameters, beforeArrow⟩ ++ tail =
      spacing ++ (optionalWord "async" async ++ arrow) := by
    simp [text, front, harrow]
  have hhead : ∀ c ∈ arrow.head?, isBlank c = false := harrow ▸ hv.parameters.isBlank_head? _
  have hform : isList arrow = true ∨
      isSingle arrow = true ∧ ∀ ps, parameters ≠ .inParentheses ps := by
    cases parameters with
    | inParentheses ps =>
      have hparentheses :
          arrow = '(' :: (ps.inner ++ ')' :: (beforeArrow ++ '=' :: '>' :: tail)) := by
        simp [harrow, ArrowParameters.text]
      exact .inl (hparentheses ▸ isList_arrow hv.parameters hv.beforeArrow tail)
    | bare name =>
      exact .inr ⟨harrow ▸ isSingle_arrow hv.parameters hv.beforeArrow tail, nofun⟩
  rw [htext]
  cases async with
  | none =>
    rw [optionalWord_none, List.nil_append, hv.spacing.trimLeft_append hhead]
    rcases hform with hlist | ⟨hsingle, -⟩
    · exact ⟨.list, hlist⟩
    · exact ⟨.single, hsingle⟩
  | some gap =>
    obtain ⟨hgap, hempty⟩ := hv.async gap rfl
    have hasync : ∀ c ∈ ("async".toList ++ gap ++ arrow).head?, isBlank c = false := by
      rw [List.append_assoc]
      exact (isIdentifier_word (by decide)).isBlank_head? (gap ++ arrow)
    rw [optionalWord_some, hv.spacing.trimLeft_append hasync, List.append_assoc]
    rcases hform with hlist | ⟨hsingle, hbare⟩
    · refine ⟨.asyncList, ?_⟩
      rw [ArrowForm.accepts, dropStart?_append, Option.map_some, Option.getD_some,
        hgap.trimLeft_append hhead, hlist]
    · have hne : gap ≠ [] := fun hnil => (hempty hnil).elim hbare
      have hdrop : dropWord? "async" ("async".toList ++ (gap ++ arrow)) = some arrow :=
        dropWord?_eq_some_iff.mpr ⟨gap, ⟨hne, hgap⟩, rfl, hhead⟩
      refine ⟨.asyncSingle, ?_⟩
      rw [ArrowForm.accepts, hdrop, Option.map_some, Option.getD_some, hsingle]

/-- Behind the equals sign of a binding stands no other one that has the value of a function behind
it. -/
def Binding.BindsOnce (b : Binding) : Prop :=
  ∀ inner value, b.value = inner ++ '=' :: value →
    ∀ form : ArrowForm, form.accepts (trimLeft value) = false

lemma ArrowFunction.Proper.bindsOnce {b : Binding} {v : ArrowFunction} (hv : v.Proper)
    (hvalue : b.value = v.text ++ tail) (htail : '=' ∉ tail) : b.BindsOnce := by
  intro inner value hinner form
  have harrow : (v.spacing ++ v.front) ++ '=' :: '>' :: tail = inner ++ '=' :: value := by
    simpa [text, hvalue] using hinner
  rcases append_cons_cases hv.equals_not_mem harrow with ⟨-, rfl⟩ | ⟨inner', htail'⟩
  · rw [trimLeft_cons (by decide)]
    cases form <;> rfl
  · have hmem : '=' ∈ '>' :: tail := by simp [htail']
    exact absurd ((List.mem_cons.mp hmem).resolve_left (by decide)) htail

/-- An arrow function whose parameters go on in the next line, as it is spelled behind an equals
sign. -/
structure OpenArrow where
  spacing : List Char
  /-- The blanks behind the word `async`, if that stands first. -/
  async : Option (List Char)
  inside : List Char
  /-- The fields that stand in the line behind an opening brace, if there is one. -/
  fields : Option (List Char)

namespace OpenArrow

variable {v : OpenArrow}

/-- The parameters up to the end of the line. -/
def parameters (v : OpenArrow) : List Char :=
  '(' :: (v.inside ++ (v.fields.map ('\x7b' :: ·)).getD [])

def text (v : OpenArrow) : List Char := v.spacing ++ (optionalWord "async" v.async ++ v.parameters)

structure Proper (v : OpenArrow) : Prop where
  spacing : IsSpacing v.spacing
  async : ∀ gap ∈ v.async, IsSpacing gap
  inside : IsSpacing v.inside
  fields : ∀ fields ∈ v.fields, '\x7d' ∉ fields ∧ '=' ∉ fields

lemma Proper.isUnfinished_parameters (hv : v.Proper) : isUnfinished v.parameters = true := by
  rw [isUnfinished, parameters, dropChar?_eq_some_iff.mpr rfl]
  cases hfields : v.fields with
  | none =>
    have hinside : trimLeft (v.inside ++ []) = [] := hv.inside.trimLeft_append nofun
    simp only [Option.map_none, Option.getD_none, hinside]
  | some fields =>
    have hinside : trimLeft (v.inside ++ '\x7b' :: fields) = '\x7b' :: fields :=
      hv.inside.trimLeft_append (by rintro _ ⟨⟩; decide)
    simp [hinside, (hv.fields fields hfields).1]

lemma Proper.accepts (hv : v.Proper) : ArrowForm.unfinished.accepts (trimLeft v.text) = true := by
  have hhead : ∀ c ∈ v.parameters.head?, isBlank c = false := by
    rintro _ ⟨⟩
    decide
  rw [text]
  cases hasync : v.async with
  | none =>
    rw [optionalWord_none, List.nil_append, hv.spacing.trimLeft_append hhead]
    exact hv.isUnfinished_parameters
  | some gap =>
    have hword : ∀ c ∈ ("async".toList ++ (gap ++ v.parameters)).head?, isBlank c = false :=
      (isIdentifier_word (by decide)).isBlank_head? _
    rw [optionalWord_some, List.append_assoc, hv.spacing.trimLeft_append hword, ArrowForm.accepts,
      dropStart?_append]
    simp only [(hv.async gap hasync).trimLeft_append hhead, hv.isUnfinished_parameters]

lemma Proper.bindsOnce {b : Binding} (hv : v.Proper) (hvalue : b.value = v.text) :
    b.BindsOnce := by
  intro inner value hinner
  have hparameters : '=' ∉ v.parameters := by
    cases hfields : v.fields with
    | none => simp [parameters, hfields, hv.inside.unmarked.not_mem (c := '=') (by decide)]
    | some fields =>
      simp [parameters, hfields, hv.inside.unmarked.not_mem (c := '=') (by decide),
        (hv.fields fields hfields).2]
  have htext : '=' ∉ v.text := by
    simp only [text, List.mem_append, not_or]
    exact ⟨hv.spacing.unmarked.not_mem (by decide),
      (unmarked_optionalWord (by decide) hv.async).not_mem (by decide), hparameters⟩
  exact absurd (by simp [← hvalue, hinner]) htext

end OpenArrow

end ArrowFunctions

/-- A line declares a function of a name as the shapes list it, with more text behind the arrow or
the parameters if they end in the line. -/
inductive Declares (tail : List Char) : (name line : List Char) → Prop
  | arrow {b : Binding} {v : ArrowFunction} (binding : b.Proper) (arrow : v.Proper)
      (value : b.value = v.text ++ tail) : Declares tail b.name b.text
  | openArrow {b : Binding} {v : OpenArrow} (binding : b.Proper) (arrow : v.Proper)
      (value : b.value = v.text) : Declares tail b.name b.text
  | named {f : NamedFunction} {ps : Parameters} (function : f.Proper)
      (shape : .named (f.words.map (·.1)) ∈ shapes) (apart : f.separator ≠ [])
      (parameters : ps.Proper) (behind : f.parameters = ps.inner ++ ')' :: tail) :
      Declares tail f.name f.text

end CallSchema.Jsdoc

import CallSchema.Proofs.LineStarts
import CallSchema.Proofs.SourceParts
import CallSchema.Proofs.WrittenShapes

/-!
# Recognised shapes of functions

Every declaration of a function that the shapes list gives the name of that function, however it is
spaced. The first equals sign of a line tells where the name of a binding is, whichever shape takes
it. In a line without one the words before `function` tell the shape: those of an earlier shape are
not the last words of a later one.
-/

namespace CallSchema.Jsdoc

open Text

variable {cs tail indent name line : List Char} {shape : Shape}

section Names

variable {xs ys left right name' : List Char}

lemma name_inj (hname : IsIdentifier name) (hname' : IsIdentifier name')
    (hleft : IsSpacing left) (hright : IsSpacing right)
    (hxs : ∀ c ∈ xs.getLast?, isIdentChar c = false)
    (hys : ∀ c ∈ ys.getLast?, isIdentChar c = false)
    (h : xs ++ (name ++ left) = ys ++ (name' ++ right)) : xs = ys ∧ name = name' := by
  rw [← List.append_assoc, ← List.append_assoc] at h
  have hnames := (append_inj_of_getLast? hleft hright (hname.isBlank_getLast? xs)
    (hname'.isBlank_getLast? ys) h).1
  exact append_inj_of_getLast? hname.2 hname'.2 hxs hys hnames

/-- Every binding in a line has the same name, if only the first equals sign of the line has the
value of a function behind it. -/
lemma name_of_takeBinding? {b : Binding} {form : ArrowForm} {found behind : List Char}
    (hb : b.Proper) (honly : b.BindsOnce) (hindent : IsSpacing indent)
    (hcs : cs <:+ indent ++ b.text) (h : takeBinding? form cs = some (found, behind)) :
    found = b.name := by
  obtain ⟨b', hb', haccepts, rfl, rfl, rfl⟩ := exists_of_takeBinding? h
  obtain ⟨skipped, hline⟩ := hcs
  have hfront := (hb.unmarked_front hindent).not_mem (c := '=') (by decide)
  have hcut : (indent ++ b.before) ++ (b.name ++ b.beforeEquals) ++ '=' :: b.value =
      (skipped ++ b'.before) ++ (b'.name ++ b'.beforeEquals) ++ '=' :: b'.value := by
    simpa only [Binding.text, Binding.after, List.append_assoc] using hline.symm
  rcases append_cons_cases hfront hcut with ⟨hfronts, -⟩ | ⟨inner, hinner⟩
  · exact (name_inj hb'.name hb.name hb'.beforeEquals hb.beforeEquals
      (hb'.isIdentChar_before skipped) (hb.isIdentChar_before indent) hfronts).2
  · rw [honly inner b'.value hinner form] at haccepts
    cases haccepts

lemma suffix_of_spacedWords {skipped : List Char} {words words' : List (String × List Char)}
    (hgaps : ∀ w ∈ words, IsGap w.2) (hgaps' : ∀ w ∈ words', IsGap w.2)
    (hleading : ∀ w ∈ words, w.1 ∈ leadingWords) (hleading' : ∀ w ∈ words', w.1 ∈ leadingWords)
    (hindent : IsSpacing indent)
    (h : skipped ++ spacedWords words' = indent ++ spacedWords words) :
    words'.map (·.1) <:+ words.map (·.1) := by
  have hleads : ∀ w ∈ leadingWords, w ∈ declaringWords := by decide
  induction words' using List.reverseRecOn generalizing words with
  | nil => exact List.nil_suffix
  | append_singleton words' w' ih =>
    have hword' := hleads w'.1 (hleading' w' (by simp))
    rw [spacedWords_concat, ← List.append_assoc] at h
    rcases List.eq_nil_or_concat words with rfl | ⟨words, w, hwords⟩
    · -- a word does not stand among blanks
      obtain ⟨⟨c, hc, -⟩, hchars⟩ := isIdentifier_word hword'
      have hword := List.mem_of_mem_head? hc
      have hmem : c ∈ indent := by
        rw [spacedWords_nil, List.append_nil] at h
        simp [← h, hword]
      have hblank := isBlank_of_isIdentChar (hchars c hword)
      rw [hindent c hmem] at hblank
      cases hblank
    · rw [List.concat_eq_append] at hwords
      subst hwords
      have hword := hleads w.1 (hleading w (by simp))
      rw [spacedWords_concat, ← List.append_assoc indent, ← List.append_assoc,
        ← List.append_assoc (indent ++ _)] at h
      have hends := (append_inj_of_getLast? (hgaps' w' (by simp)).2 (hgaps w (by simp)).2
        ((isIdentifier_word hword').isBlank_getLast? _)
        ((isIdentifier_word hword).isBlank_getLast? _) h).1
      have hsame := word_inj hword' hword hends
      rw [hsame] at hends
      obtain ⟨earlier, hearlier⟩ := ih (fun x hx => hgaps x (by simp [hx]))
        (fun x hx => hgaps' x (by simp [hx])) (fun x hx => hleading x (by simp [hx]))
        (fun x hx => hleading' x (by simp [hx])) (List.append_cancel_right hends)
      exact ⟨earlier, by simp [← hearlier, hsame]⟩

section NamedFunctions

variable {f f' : NamedFunction} {skipped : List Char}

lemma front_eq_of_text (hf : f.Proper) (hleading : ∀ w ∈ f.words, w.1 ∈ leadingWords)
    (hparameters : '(' ∉ f.parameters) (hindent : IsSpacing indent)
    (h : skipped ++ f'.text = indent ++ f.text) :
    (skipped ++ f'.before) ++ (f'.name ++ f'.beforeParameters) =
      (indent ++ f.before) ++ (f.name ++ f.beforeParameters) := by
  have hfront := (hf.unmarked_front hleading hindent).not_mem (c := '(') (by decide)
  have hcut : (indent ++ f.before) ++ (f.name ++ f.beforeParameters) ++ '(' :: f.parameters =
      (skipped ++ f'.before) ++ (f'.name ++ f'.beforeParameters) ++ '(' :: f'.parameters := by
    simpa only [NamedFunction.text, NamedFunction.after, List.append_assoc] using h.symm
  rcases append_cons_cases hfront hcut with ⟨hfronts, -⟩ | ⟨inner, hinner⟩
  · exact hfronts
  · exact absurd (by simp [hinner]) hparameters

lemma append_before (front : List Char) (f : NamedFunction) :
    front ++ f.before = (front ++ f.lead ++ "function".toList) ++ f.separator := by
  simp only [NamedFunction.before, List.append_assoc]

lemma lead_eq_of_front (hf : f.Proper) (hf' : f'.Proper) (hapart : f.separator ≠ [])
    (hapart' : f'.separator ≠ [])
    (h : (skipped ++ f'.before) ++ (f'.name ++ f'.beforeParameters) =
      (indent ++ f.before) ++ (f.name ++ f.beforeParameters)) :
    skipped ++ f'.lead = indent ++ f.lead := by
  rw [append_before, append_before] at h
  have hplace := (name_inj hf'.name hf.name hf'.beforeParameters hf.beforeParameters
    (hf'.separator.isIdentChar_getLast? hapart' _) (hf.separator.isIdentChar_getLast? hapart _) h).1
  have hword : "function" ∈ declaringWords := by decide
  have hfunction := (isIdentifier_word hword).isSeparatorChar_getLast?
  have hends := (append_inj_of_getLast? hf'.separator.isSeparatorChar hf.separator.isSeparatorChar
    (hfunction _) (hfunction _) hplace).1
  exact List.append_cancel_right hends

/-- If the word `function` runs into the name that is read, no word stands before it: the last one
would stand where the word `function` does. -/
lemma words_eq_nil_of_front (hf : f.Proper) (hf' : f'.Proper) (hapart : f.separator ≠ [])
    (hrunsOn : f'.separator = []) (hleading' : ∀ w ∈ f'.words, w.1 ∈ leadingWords)
    (h : (skipped ++ f'.before) ++ (f'.name ++ f'.beforeParameters) =
      (indent ++ f.before) ++ (f.name ++ f.beforeParameters)) : f'.words = [] := by
  have hleads : ∀ w ∈ leadingWords, w ∈ declaringWords ∧ w ≠ "function" := by decide
  have hkeyword : "function" ∈ declaringWords := by decide
  have hfunction := isIdentifier_word hkeyword
  rcases List.eq_nil_or_concat f'.words with hnil | ⟨words, w, hconcat⟩
  · exact hnil
  · rw [List.concat_eq_append] at hconcat
    exfalso
    have hgap := hf'.words w (by simp [hconcat])
    obtain ⟨hword, hother⟩ := hleads w.1 (hleading' w (by simp [hconcat]))
    have hlead : skipped ++ f'.lead = (skipped ++ spacedWords words ++ w.1.toList) ++ w.2 := by
      simp only [NamedFunction.lead, hconcat, spacedWords_concat, List.append_assoc]
    have hrun : (skipped ++ spacedWords words ++ w.1.toList) ++ w.2 ++
          (("function".toList ++ f'.name) ++ f'.beforeParameters) =
        (indent ++ f.lead ++ "function".toList) ++ f.separator ++
          (f.name ++ f.beforeParameters) := by
      rw [← hlead, ← append_before, ← h, NamedFunction.before, hrunsOn, List.append_nil]
      simp only [List.append_assoc]
    have hplace := (name_inj (hfunction.append hf'.name) hf.name hf'.beforeParameters
      hf.beforeParameters (hgap.isIdentChar_getLast? _)
      (hf.separator.isIdentChar_getLast? hapart _) hrun).1
    have hends := (append_inj_of_getLast? hgap.2.isSeparatorChar hf.separator.isSeparatorChar
      ((isIdentifier_word hword).isSeparatorChar_getLast? _)
      (hfunction.isSeparatorChar_getLast? _) hplace).1
    exact hother (word_inj hword (by decide) hends)

lemma words_suffix_of_takeNamed? {words : List String} {found : List Char × List Char}
    (hf : f.Proper) (hleading : ∀ w ∈ f.words, w.1 ∈ leadingWords) (hapart : f.separator ≠ [])
    (hparameters : '(' ∉ f.parameters) (hindent : IsSpacing indent)
    (hwords : ∀ w ∈ words, w ∈ leadingWords) (hcs : cs <:+ indent ++ f.text)
    (h : takeNamed? words cs = some found) : words <:+ f.words.map (·.1) := by
  obtain ⟨f', hf', rfl, rfl, -, -⟩ := exists_of_takeNamed? h
  obtain ⟨skipped, hline⟩ := hcs
  have hleading' : ∀ w ∈ f'.words, w.1 ∈ leadingWords := fun w hw =>
    hwords w.1 (List.mem_map_of_mem hw)
  have hfronts := front_eq_of_text hf hleading hparameters hindent hline
  by_cases hrunsOn : f'.separator = []
  · rw [words_eq_nil_of_front hf hf' hapart hrunsOn hleading' hfronts]
    exact List.nil_suffix
  · exact suffix_of_spacedWords hf.words hf'.words hleading hleading' hindent
      (lead_eq_of_front hf hf' hapart hrunsOn hfronts)

end NamedFunctions

end Names

section Order

/-- The forms of values, in the order of the shapes of bindings. -/
def arrowForms : List ArrowForm :=
  [.asyncBraces, .asyncList, .asyncSingle, .braces, .list, .single, .unfinished]

/-- The words before the word `function`, in the order of the shapes with that word. -/
def wordLists : List (List String) :=
  [["export", "default", "async"], ["export", "default"], ["export", "async"], ["export"],
    ["async"], []]

lemma shapes_eq : shapes = arrowForms.map .binding ++ wordLists.map .named := rfl

lemma mem_arrowForms (form : ArrowForm) : form ∈ arrowForms := by
  cases form <;> decide

lemma mem_wordLists {words : List String} (h : .named words ∈ shapes) : words ∈ wordLists := by
  rw [shapes_eq, List.mem_append] at h
  rcases h with hbinding | hnamed
  · obtain ⟨form, -, hform⟩ := List.mem_map.mp hbinding
    cases hform
  · obtain ⟨words', hwords', hsame⟩ := List.mem_map.mp hnamed
    obtain rfl := Shape.named.inj hsame
    exact hwords'

lemma wordLists_pairwise : wordLists.Pairwise fun words words' => ¬words <:+ words' := by decide

lemma nameInLine?_eq_or (line : List Char) : nameInLine? line =
    (arrowForms.findSome? fun form => ((Shape.binding form).search? false line).map (·.1)).or
      (wordLists.findSome? fun words => ((Shape.named words).search? false line).map (·.1)) := by
  rw [nameInLine?, shapes_eq, List.findSome?_append, List.findSome?_map, List.findSome?_map]
  rfl

lemma exists_suffix_of_search? {found : List Char × List Char}
    (h : shape.search? false line = some found) :
    ∃ rest, rest <:+ line ∧ shape.take? rest = some found := by
  have hfront : shape.search? (endsInWord []) line = some found := h
  obtain ⟨skipped, rest, hline, -, htake⟩ := exists_of_search? hfront
  exact ⟨rest, ⟨skipped, hline.symm⟩, htake⟩

lemma findSome?_binding_of_not_mem (h : '=' ∉ line) : (arrowForms.findSome?
    fun form => ((Shape.binding form).search? false line).map (·.1)) = none := by
  refine List.findSome?_eq_none_iff.mpr fun form _ => Option.map_eq_none_iff.mpr ?_
  refine Option.eq_none_iff_forall_ne_some.mpr fun found hsearch => h ?_
  obtain ⟨rest, hrest, htake⟩ := exists_suffix_of_search? hsearch
  obtain ⟨b, -, -, rfl, -, -⟩ := exists_of_takeBinding? htake
  exact hrest.subset (by simp [Binding.text, Binding.after])

end Order

namespace Declares

lemma identStart (h : Declares tail name line) : ∃ c ∈ line.head?, isIdentStart c = true := by
  cases h with
  | arrow hb => exact hb.identStart_text
  | openArrow hb => exact hb.identStart_text
  | named hf hshape =>
    exact NamedFunction.identStart_text fun w hw =>
      mem_leadingWords hshape w.1 (List.mem_map_of_mem hw)

lemma nameInLine?_binding {b : Binding} {form : ArrowForm} (hb : b.Proper)
    (haccepts : form.accepts (trimLeft b.value) = true) (honly : b.BindsOnce)
    (hindent : IsSpacing indent) : Jsdoc.nameInLine? (indent ++ b.text) = some b.name := by
  have htake : takeBinding? form b.text = some (b.name, b.after) := by
    rw [takeBinding?_text hb, if_pos haccepts]
  have hshape : .binding form ∈ shapes := by
    rw [shapes_eq]
    exact List.mem_append_left _ (List.mem_map_of_mem (mem_arrowForms form))
  have hsearch := search?_indent hshape hindent htake
  rw [nameInLine?_eq_or]
  cases hfirst : arrowForms.findSome?
      fun form => ((Shape.binding form).search? false (indent ++ b.text)).map (·.1) with
  | none =>
    have hnone := List.findSome?_eq_none_iff.mp hfirst form (mem_arrowForms form)
    rw [hsearch] at hnone
    cases hnone
  | some x =>
    obtain ⟨form', -, hx⟩ := List.exists_of_findSome?_eq_some hfirst
    obtain ⟨⟨found, behind⟩, hfound, rfl⟩ := Option.map_eq_some_iff.mp hx
    obtain ⟨rest, hrest, htake'⟩ := exists_suffix_of_search? hfound
    rw [name_of_takeBinding? hb honly hindent hrest htake', Option.some_or]

/-- A named function in a line without other marks gives its name: an earlier shape has words that
it does not end with. -/
lemma nameInLine?_named {f : NamedFunction} (hf : f.Proper)
    (hshape : .named (f.words.map (·.1)) ∈ shapes) (hapart : f.separator ≠ [])
    (hequals : '=' ∉ f.parameters) (hparameters : '(' ∉ f.parameters)
    (hindent : IsSpacing indent) : Jsdoc.nameInLine? (indent ++ f.text) = some f.name := by
  have hleading : ∀ w ∈ f.words, w.1 ∈ leadingWords := fun w hw =>
    mem_leadingWords hshape w.1 (List.mem_map_of_mem hw)
  have hline : '=' ∉ indent ++ f.text := by
    have hfront := (hf.unmarked_front hleading hindent).not_mem (c := '=') (by decide)
    have htext : indent ++ f.text =
        (indent ++ f.before) ++ (f.name ++ f.beforeParameters) ++ '(' :: f.parameters := by
      simp only [NamedFunction.text, NamedFunction.after, List.append_assoc]
    rw [htext, List.mem_append, List.mem_cons]
    rintro (hmem | hmem | hmem)
    · exact hfront hmem
    · exact absurd hmem (by decide)
    · exact hequals hmem
  have hnamed := search?_indent hshape hindent (takeNamed?_text hf hleading)
  obtain ⟨earlier, later, horder⟩ := List.append_of_mem (mem_wordLists hshape)
  have hpairwise := wordLists_pairwise
  rw [horder, List.pairwise_append] at hpairwise
  have hearlier : (earlier.findSome?
      fun words => ((Shape.named words).search? false (indent ++ f.text)).map (·.1)) = none := by
    refine List.findSome?_eq_none_iff.mpr fun words hwords => Option.map_eq_none_iff.mpr ?_
    refine Option.eq_none_iff_forall_ne_some.mpr fun found hsearch => ?_
    obtain ⟨rest, hrest, htake⟩ := exists_suffix_of_search? hsearch
    have hmem : .named words ∈ shapes := by
      rw [shapes_eq, horder]
      simp [hwords]
    have hsuffix := words_suffix_of_takeNamed? hf hleading hapart hparameters hindent
      (mem_leadingWords hmem) hrest htake
    exact hpairwise.2.2 words hwords _ List.mem_cons_self hsuffix
  rw [nameInLine?_eq_or, findSome?_binding_of_not_mem hline, Option.none_or, horder,
    List.findSome?_append, hearlier, Option.none_or, List.findSome?_cons, hnamed]
  rfl

lemma nameInLine? (h : Declares tail name line) (htail : '=' ∉ tail ∧ '(' ∉ tail)
    (hindent : IsSpacing indent) : Jsdoc.nameInLine? (indent ++ line) = some name := by
  cases h with
  | arrow hb hv hvalue =>
    obtain ⟨form, haccepts⟩ := hv.exists_accepts tail
    exact nameInLine?_binding hb (hvalue ▸ haccepts) (hv.bindsOnce hvalue htail.1) hindent
  | openArrow hb hv hvalue =>
    exact nameInLine?_binding hb (hvalue ▸ hv.accepts) (hv.bindsOnce hvalue) hindent
  | @named f ps hf hshape hapart hps hbehind =>
    have hmarks : ∀ c ∈ marks, c ≠ ')' → c ∉ tail → c ∉ f.parameters := by
      intro c hc hne hmem
      simp only [hbehind, List.mem_append, List.mem_cons, not_or]
      exact ⟨hps.unmarked_inner.not_mem hc, hne, hmem⟩
    exact nameInLine?_named hf hshape hapart (hmarks '=' (by decide) (by decide) htail.1)
      (hmarks '(' (by decide) (by decide) htail.2) hindent

end Declares

section Lines

variable {passed behind : List (List Char)}

/-- A blank line, or one with nothing but a line comment. -/
def IsSkipped (line : List Char) : Prop :=
  IsSpacing line ∨ ∃ blanks text, IsSpacing blanks ∧ line = blanks ++ '/' :: '/' :: text

lemma IsSkipped.isPassedOver (h : IsSkipped line) : isPassedOver line = true := by
  rw [Jsdoc.isPassedOver, Bool.or_eq_true]
  rcases h with hblank | ⟨blanks, text, hblanks, rfl⟩
  · exact .inl (List.isEmpty_iff.mpr (trim_eq_nil_iff.mpr hblank))
  · exact .inr (startsWith_trim hblanks (by decide) (forall_of_any (by decide)) text)

lemma shown_of_identStart (hindent : IsSpacing indent)
    (h : ∃ c ∈ line.head?, isIdentStart c = true) :
    isPassedOver (indent ++ line) = false ∧ opensComment (indent ++ line) = false := by
  have hblank := isBlank_head?_of_identStart h
  obtain ⟨c, hc, hstart⟩ := h
  obtain ⟨rest, rfl⟩ := List.head?_eq_some_iff.mp hc
  have hslash : c ≠ '/' := by
    rintro rfl
    exact absurd hstart (by decide)
  have hprefix : startsWith [c] (trim (indent ++ ([c] ++ rest))) = true :=
    startsWith_trim hindent (List.cons_ne_nil c []) (List.forall_mem_singleton.mpr (hblank c rfl))
      rest
  obtain ⟨shown, hshown⟩ := startsWith_iff.mp hprefix
  have htrim : trim (indent ++ c :: rest) = c :: shown := hshown.symm
  have hmark : ∀ mark, startsWith ('/' :: mark) (c :: shown) = false := fun mark => by
    rw [startsWith, dropStart?, if_neg hslash.symm]
    rfl
  rw [isPassedOver, opensComment, htrim, hmark, Block.opening, hmark]
  exact ⟨rfl, rfl⟩

lemma Declares.nameInLines? (h : Declares tail name line) (htail : '=' ∉ tail ∧ '(' ∉ tail)
    (hindent : IsSpacing indent) (hpassed : ∀ l ∈ passed, IsSkipped l) :
    nameInLines? (passed ++ (indent ++ line) :: behind) = some name := by
  obtain ⟨hshown, hopens⟩ := shown_of_identStart hindent h.identStart
  exact nameInLines?_eq_some_iff.mpr ⟨passed, indent ++ line, behind, rfl,
    fun l hl => .inl (hpassed l hl).isPassedOver, hshown, hopens, h.nameInLine? htail hindent⟩

end Lines

/-- Every declaration that the shapes list is recognised: if blank lines and line comments alone
stand before the line of a declaration, its name is found, whatever the name, the parameters and the
blanks between the words are. Behind the arrow or the parameters follows any text without another
equals sign or opening parenthesis. -/
theorem functionName?_of_declares {tail name line indent cs : List Char}
    {passed behind : List (List Char)} (h : Declares tail name line)
    (htail : '=' ∉ tail ∧ '(' ∉ tail) (hindent : IsSpacing indent)
    (hpassed : ∀ l ∈ passed, IsSkipped l)
    (hlines : lines cs = passed ++ (indent ++ line) :: behind) :
    functionName? cs = some (String.ofList name) := by
  rw [functionName?, hlines, h.nameInLines? htail hindent hpassed]
  rfl

/-- An asynchronous arrow function with two parameters. -/
def loadBinding : Binding where
  exported := some [' ']
  keyword := "const"
  gap := [' ', '\t']
  name := "load".toList
  beforeEquals := [' ']
  value := " async (id, limit) => \x7b\x7d".toList

/-- A generator that has the name of a word that can stand before `function`. -/
def asyncGenerator : NamedFunction where
  words := [("export", [' ']), ("default", ['\t']), ("async", [' '])]
  separator := ['*', ' ']
  name := "async".toList
  beforeParameters := []
  parameters := "\x7b id, limit \x7d) \x7b\x7d".toList

lemma declares_loadBinding : Declares " \x7b\x7d".toList "load".toList loadBinding.text := by
  have hid : Parameter.Proper ⟨[], "id".toList, []⟩ := ⟨by decide, by decide, by decide⟩
  have hlimit : Parameter.Proper ⟨[' '], "limit".toList, []⟩ := ⟨by decide, by decide, by decide⟩
  have hbinding : loadBinding.Proper :=
    ⟨by rintro _ ⟨⟩; decide, by decide, by decide, by decide, by decide⟩
  have harrow : ArrowFunction.Proper ⟨[' '], some [' '],
      .inParentheses (.list [⟨[], "id".toList, []⟩, ⟨[' '], "limit".toList, []⟩]), [' ']⟩ :=
    ⟨by decide, by rintro _ ⟨⟩; exact ⟨by decide, nofun⟩,
      List.forall_mem_cons.mpr ⟨hid, List.forall_mem_singleton.mpr hlimit⟩, by decide⟩
  exact .arrow hbinding harrow (by decide)

lemma declares_asyncGenerator :
    Declares " \x7b\x7d".toList "async".toList asyncGenerator.text := by
  have hid : Parameter.Proper ⟨[' '], "id".toList, []⟩ := ⟨by decide, by decide, by decide⟩
  have hlimit : Parameter.Proper ⟨[' '], "limit".toList, [' ']⟩ := ⟨by decide, by decide, by decide⟩
  have hfunction : asyncGenerator.Proper :=
    ⟨by decide, ⟨[], [' '], by decide, by decide, .inr rfl⟩, by decide, by decide⟩
  have hparameters : Parameters.Proper
      (.braces [] [⟨[' '], "id".toList, []⟩, ⟨[' '], "limit".toList, [' ']⟩] []) :=
    ⟨by decide, List.forall_mem_cons.mpr ⟨hid, List.forall_mem_singleton.mpr hlimit⟩, by decide⟩
  exact .named hfunction (by decide) (by decide) hparameters (by decide)

theorem functionName?_of_declares_written :
    functionName? ("\n  // loads\n".toList ++ (loadBinding.text ++ ['\n'])) = some "load" ∧
      functionName? ("\t".toList ++ asyncGenerator.text) = some "async" := by
  have hblanks : IsSkipped [] := .inl nofun
  have hcomment : IsSkipped "  // loads".toList :=
    .inr ⟨[' ', ' '], " loads".toList, by decide, by decide⟩
  have hlines : lines ("\n  // loads\n".toList ++ (loadBinding.text ++ ['\n'])) =
      [[], "  // loads".toList] ++ ([] ++ loadBinding.text) :: [] := by
    decide +kernel
  have hlines' : lines ("\t".toList ++ asyncGenerator.text) =
      [] ++ (['\t'] ++ asyncGenerator.text) :: [] := by
    decide +kernel
  exact ⟨functionName?_of_declares declares_loadBinding (by decide) (by decide)
      (List.forall_mem_cons.mpr ⟨hblanks, List.forall_mem_singleton.mpr hcomment⟩) hlines,
    functionName?_of_declares declares_asyncGenerator (by decide) (by decide)
      (List.forall_mem_nil _) hlines'⟩

end CallSchema.Jsdoc

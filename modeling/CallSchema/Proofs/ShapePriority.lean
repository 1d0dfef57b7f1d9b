import CallSchema.Proofs.NamePlaces

/-!
# The order of the shapes of functions

The name that is found after a comment is that of the first shape, in their order, that stands on
the first line on which any does, at its leftmost place. Shapes that stand at one place take one
name there. So a function further left on the line is passed over if and only if all shapes that it
has come later in the order.
-/

namespace CallSchema.Jsdoc

open Text

variable {cs front line name name' after after' : List Char} {shape shape' : Shape}

section Places

/-- A shape stands in a line from a place on, where no word runs into it, and takes a name there. -/
def Shape.Stands (shape : Shape) (line : List Char) (start : Nat) (name : List Char) : Prop :=
  endsInWord (line.take start) = false ∧ ∃ after, shape.take? (line.drop start) = some (name, after)

lemma stands_length_iff : shape.Stands (front ++ cs) front.length name ↔
    endsInWord front = false ∧ ∃ after, shape.take? cs = some (name, after) := by
  rw [Shape.Stands, List.take_left, List.drop_left]

lemma take?_nil (shape : Shape) : shape.take? [] = none := by
  cases shape with
  | binding form => rfl
  | named words =>
    cases words with
    | nil => rfl
    | cons word words =>
      have hword : dropWord? word [] = none := by
        rw [dropWord?]
        split
        · rename_i c rest hdrop
          have hlength := congrArg List.length (dropStart?_eq_some hdrop)
          simp at hlength
        · rfl
      rw [Shape.take?, takeNamed?, hword]
      rfl

lemma stands_of_search? (h : shape.search? (endsInWord front) cs = some (name, after)) :
    ∃ start, front.length ≤ start ∧ shape.Stands (front ++ cs) start name ∧
      ∀ i x, front.length ≤ i → shape.Stands (front ++ cs) i x → start ≤ i := by
  induction cs generalizing front with
  | nil => cases h
  | cons c cs ih =>
    by_cases hhere : ∃ x, shape.Stands (front ++ c :: cs) front.length x
    · obtain ⟨x, hx⟩ := hhere
      obtain ⟨hword, after', htake⟩ := stands_length_iff.mp hx
      rw [Shape.search?, hword, if_neg Bool.false_ne_true, htake] at h
      obtain ⟨rfl, rfl⟩ := Prod.mk.inj (Option.some.inj h)
      exact ⟨front.length, le_refl _, hx, fun i _ hi _ => hi⟩
    · have hnone : (if endsInWord front then none else shape.take? (c :: cs)) = none := by
        by_cases hword : endsInWord front = true
        · rw [if_pos hword]
        · rw [if_neg hword, Option.eq_none_iff_forall_ne_some]
          intro found htake
          exact hhere ⟨found.1, stands_length_iff.mpr ⟨by simpa using hword, found.2, htake⟩⟩
      rw [Shape.search?, hnone, ← endsInWord_concat front c] at h
      obtain ⟨start, hstart, hstands, hleast⟩ := ih h
      rw [List.append_assoc, List.singleton_append] at hstands hleast
      rw [List.length_append, List.length_singleton] at hstart hleast
      refine ⟨start, by omega, hstands, fun i x hi hx => ?_⟩
      by_cases hfront : i = front.length
      · exact absurd ⟨x, hfront ▸ hx⟩ hhere
      · exact hleast i x (by omega) hx

lemma not_stands_of_search? (h : shape.search? (endsInWord front) cs = none) (i : Nat)
    (hi : front.length ≤ i) (x : List Char) : ¬shape.Stands (front ++ cs) i x := by
  induction cs generalizing front with
  | nil =>
    rintro ⟨-, after, htake⟩
    rw [List.append_nil, List.drop_eq_nil_of_le hi, take?_nil] at htake
    cases htake
  | cons c cs ih =>
    rw [Shape.search?] at h
    by_cases hfront : i = front.length
    · subst hfront
      intro hx
      obtain ⟨hword, after, htake⟩ := stands_length_iff.mp hx
      rw [hword, if_neg Bool.false_ne_true, htake] at h
      cases h
    · split at h
      · cases h
      · rw [← endsInWord_concat front c] at h
        have hlonger : (front ++ [c]).length ≤ i := by
          rw [List.length_append, List.length_singleton]
          omega
        have hrest := ih h hlonger
        rwa [List.append_assoc, List.singleton_append] at hrest

end Places

section Names

variable {words words' : List String} {found found' : List Char × List Char}
  {form form' : ArrowForm}

lemma head?_of_dropStart? {start : List Char} (hne : start ≠ [])
    (h : dropStart? start cs = some after) : cs.head? = start.head? := by
  rw [dropStart?_eq_some h, List.head?_append_of_ne_nil _ hne]

lemma toList_ne_nil_of_leading : ∀ word ∈ leadingWords, word.toList ≠ [] := by decide

lemma eq_of_dropWord? {word word' : String} (hword : word ∈ leadingWords)
    (hword' : word' ∈ leadingWords) (h : dropWord? word cs = some after)
    (h' : dropWord? word' cs = some after') : word = word' := by
  have hheads : ∀ w ∈ leadingWords, ∀ w' ∈ leadingWords,
      w.toList.head? = w'.toList.head? → w = w' := by decide
  apply hheads word hword word' hword'
  rw [← head?_of_dropWord? (toList_ne_nil_of_leading word hword) h,
    ← head?_of_dropWord? (toList_ne_nil_of_leading word' hword') h']

lemma takeNamed?_cons_eq_some {word : String} (h : takeNamed? (word :: words) cs = some found) :
    ∃ rest, dropWord? word cs = some rest ∧ takeNamed? words rest = some found := by
  simpa only [takeNamed?, Option.bind_eq_bind, Option.bind_eq_some_iff] using h

lemma head?_of_takeNamed? (hwords : ∀ w ∈ words, w ∈ leadingWords)
    (h : takeNamed? words cs = some found) :
    cs.head? = ((words.head?.getD "function").toList).head? := by
  cases words with
  | nil =>
    simp only [takeNamed?, Option.bind_eq_bind, Option.bind_eq_some_iff] at h
    obtain ⟨inner, hfunction, -⟩ := h
    exact head?_of_dropStart? (by decide) hfunction
  | cons word words =>
    obtain ⟨rest, hword, -⟩ := takeNamed?_cons_eq_some h
    exact head?_of_dropWord? (toList_ne_nil_of_leading word (hwords word List.mem_cons_self)) hword

lemma head?_ne_of_leading : ∀ word ∈ leadingWords,
    word.toList.head? ≠ "function".toList.head? := by decide

lemma eq_of_takeNamed? (hwords : ∀ w ∈ words, w ∈ leadingWords)
    (hwords' : ∀ w ∈ words', w ∈ leadingWords) (h : takeNamed? words cs = some found)
    (h' : takeNamed? words' cs = some found') : words = words' := by
  induction words generalizing words' cs with
  | nil =>
    cases words' with
    | nil => rfl
    | cons word' words' =>
      have hhead := (head?_of_takeNamed? hwords' h').symm.trans (head?_of_takeNamed? hwords h)
      exact absurd hhead (head?_ne_of_leading word' (hwords' word' List.mem_cons_self))
  | cons word words ih =>
    cases words' with
    | nil =>
      have hhead := (head?_of_takeNamed? hwords h).symm.trans (head?_of_takeNamed? hwords' h')
      exact absurd hhead (head?_ne_of_leading word (hwords word List.mem_cons_self))
    | cons word' words' =>
      obtain ⟨rest, hdrop, htake⟩ := takeNamed?_cons_eq_some h
      obtain ⟨rest', hdrop', htake'⟩ := takeNamed?_cons_eq_some h'
      obtain rfl := eq_of_dropWord? (hwords word List.mem_cons_self)
        (hwords' word' List.mem_cons_self) hdrop hdrop'
      obtain rfl := Option.some.inj (hdrop.symm.trans hdrop')
      rw [ih (fun w hw => hwords w (List.mem_cons_of_mem word hw))
        (fun w hw => hwords' w (List.mem_cons_of_mem word hw)) htake htake']

lemma eq_of_takeBinding? (h : takeBinding? form cs = some found)
    (h' : takeBinding? form' cs = some found') : found = found' := by
  simp only [takeBinding?, Option.bind_eq_bind, Option.bind_eq_some_iff] at h h'
  obtain ⟨afterWord, hword, ⟨ident, rest⟩, hident, value, hvalue, hfound⟩ := h
  obtain ⟨afterWord', hword', ⟨ident', rest'⟩, hident', value', hvalue', hfound'⟩ := h'
  obtain rfl := Option.some.inj (hword.symm.trans hword')
  obtain ⟨rfl, rfl⟩ := Prod.mk.inj (Option.some.inj (hident.symm.trans hident'))
  split at hfound
  · split at hfound'
    · exact Option.some.inj (hfound.symm.trans hfound')
    · cases hfound'
  · cases hfound

lemma head?_of_takeBinding? (h : takeBinding? form cs = some found) :
    ((dropWord? "export" cs).getD cs).head? ∈ [some 'c', some 'l', some 'v'] := by
  simp only [takeBinding?, Option.bind_eq_bind, Option.bind_eq_some_iff] at h
  obtain ⟨afterWord, hword, -⟩ := h
  rw [Option.or_eq_some_iff, Option.or_eq_some_iff] at hword
  rcases hword with hconst | ⟨-, hlet | ⟨-, hvar⟩⟩
  · rw [head?_of_dropWord? (by decide) hconst]
    decide
  · rw [head?_of_dropWord? (by decide) hlet]
    decide
  · rw [head?_of_dropWord? (by decide) hvar]
    decide

lemma head?_not_mem_of_takeNamed? (hwords : ∀ w ∈ words, w ∈ leadingWords)
    (h : takeNamed? words cs = some found) : cs.head? ∉ [some 'c', some 'l', some 'v'] := by
  rw [head?_of_takeNamed? hwords h]
  cases words with
  | nil => decide
  | cons word words =>
    have hleading : ∀ w ∈ leadingWords, w.toList.head? ∉ [some 'c', some 'l', some 'v'] := by decide
    exact hleading word (hwords word List.mem_cons_self)

lemma not_takeBinding?_of_takeNamed? (hwords : ∀ w ∈ words, w ∈ leadingWords)
    (h : takeNamed? words cs = some found) : takeBinding? form cs ≠ some found' := by
  intro hbinding
  have hhead := head?_of_takeBinding? hbinding
  cases hexport : dropWord? "export" cs with
  | none =>
    rw [hexport] at hhead
    exact head?_not_mem_of_takeNamed? hwords h hhead
  | some rest =>
    rw [hexport] at hhead
    cases words with
    | nil =>
      have hhere :=
        (head?_of_takeNamed? hwords h).symm.trans (head?_of_dropWord? (by decide) hexport)
      exact absurd hhere (by decide)
    | cons word words =>
      obtain ⟨rest', hdrop, htake⟩ := takeNamed?_cons_eq_some h
      obtain rfl := eq_of_dropWord? (hwords word List.mem_cons_self) (by decide) hdrop hexport
      obtain rfl := Option.some.inj (hdrop.symm.trans hexport)
      exact head?_not_mem_of_takeNamed?
        (fun w hw => hwords w (List.mem_cons_of_mem _ hw)) htake hhead

/-- Shapes that stand at one place take one name there. -/
theorem name_eq_of_take? (hshape : shape ∈ shapes) (hshape' : shape' ∈ shapes)
    (h : shape.take? cs = some (name, after)) (h' : shape'.take? cs = some (name', after')) :
    name = name' := by
  match shape, shape' with
  | .binding form, .binding form' => exact congrArg Prod.fst (eq_of_takeBinding? h h')
  | .binding form, .named words' =>
    exact absurd h (not_takeBinding?_of_takeNamed? (mem_leadingWords hshape') h')
  | .named words, .binding form' =>
    exact absurd h' (not_takeBinding?_of_takeNamed? (mem_leadingWords hshape) h)
  | .named words, .named words' =>
    obtain rfl := eq_of_takeNamed? (mem_leadingWords hshape) (mem_leadingWords hshape') h h'
    exact congrArg Prod.fst (Option.some.inj (h.symm.trans h'))

end Names

section Lines

variable {ls : List (List Char)}

/-- No function is declared in a line. -/
def DeclaresNone (line : List Char) : Prop :=
  ∀ shape ∈ shapes, ∀ i x, ¬shape.Stands line i x

/-- The first shape in the order that stands in a line takes a name at its leftmost place. -/
structure TakesFirst (line : List Char) (earlier : List Shape) (shape : Shape)
    (later : List Shape) (start : Nat) (name : List Char) : Prop where
  order : shapes = earlier ++ shape :: later
  none_earlier : ∀ s ∈ earlier, ∀ i x, ¬s.Stands line i x
  stands : shape.Stands line start name
  leftmost : ∀ i x, shape.Stands line i x → start ≤ i

lemma declaresNone_of_nameInLine? (h : nameInLine? line = none) : DeclaresNone line := by
  rw [nameInLine?, List.findSome?_eq_none_iff] at h
  intro shape hshape i x
  have hsearch : shape.search? (endsInWord []) line = none :=
    Option.map_eq_none_iff.mp (h shape hshape)
  exact not_stands_of_search? hsearch i (Nat.zero_le i) x

lemma takesFirst_of_nameInLine? (h : nameInLine? line = some name) :
    ∃ earlier shape later start, TakesFirst line earlier shape later start name := by
  rw [nameInLine?, List.findSome?_eq_some_iff] at h
  obtain ⟨earlier, shape, later, horder, hfound, hnone⟩ := h
  obtain ⟨⟨name', after⟩, hsearch, rfl⟩ := Option.map_eq_some_iff.mp hfound
  have hfirst : shape.search? (endsInWord []) line = some (name', after) := hsearch
  obtain ⟨start, -, hstands, hleast⟩ := stands_of_search? hfirst
  refine ⟨earlier, shape, later, start, horder, fun s hs i x => ?_, hstands, fun i x => ?_⟩
  · have hnowhere : s.search? (endsInWord []) line = none := Option.map_eq_none_iff.mp (hnone s hs)
    exact not_stands_of_search? hnowhere i (Nat.zero_le i) x
  · exact hleast i x (Nat.zero_le i)

/-- A place further left than that of the name is one of a shape that comes later in the order, and
a shape that stands at the same place takes the same name. -/
lemma TakesFirst.compare {earlier later : List Shape} {start i : Nat} {x : List Char}
    (h : TakesFirst line earlier shape later start name) (hshape' : shape' ∈ shapes)
    (hx : shape'.Stands line i x) : (i < start → shape' ∈ later) ∧ (i = start → x = name) := by
  constructor
  · intro hi
    rw [h.order, List.mem_append, List.mem_cons] at hshape'
    rcases hshape' with hearlier | rfl | hlater
    · exact absurd hx (h.none_earlier shape' hearlier i x)
    · have := h.leftmost i x hx
      omega
    · exact hlater
  · rintro rfl
    have hshape : shape ∈ shapes := by
      rw [h.order]
      exact List.mem_append_right earlier List.mem_cons_self
    obtain ⟨-, after, htake⟩ := h.stands
    obtain ⟨-, after', htake'⟩ := hx
    exact name_eq_of_take? hshape' hshape htake' htake

lemma takesFirst_of_nameInLines? (h : nameInLines? ls = some name) :
    ∃ before line behind, ls = before ++ line :: behind ∧
      (∀ l ∈ before, isPassedOver l = true ∨ opensComment l = false ∧ DeclaresNone l) ∧
      isPassedOver line = false ∧ opensComment line = false ∧
      ∃ earlier shape later start, TakesFirst line earlier shape later start name := by
  obtain ⟨before, line, behind, hls, hbefore, hpassed, hopens, hname⟩ :=
    nameInLines?_eq_some_iff.mp h
  refine ⟨before, line, behind, hls, fun l hl => ?_, hpassed, hopens,
    takesFirst_of_nameInLine? hname⟩
  exact (hbefore l hl).imp_right fun ⟨hlopens, hnone⟩ =>
    ⟨hlopens, declaresNone_of_nameInLine? hnone⟩

/-- The name that is found in a text is taken on the first line that is not passed over and in which
a function is declared, if no comment opens before, by the first shape in their order that stands in
it. A shape that stands further left comes later in the order. -/
theorem functionName?_eq_some {cs : List Char} {name : String} (h : functionName? cs = some name) :
    ∃ before line behind, lines cs = before ++ line :: behind ∧
      (∀ l ∈ before, isPassedOver l = true ∨ opensComment l = false ∧ DeclaresNone l) ∧
      isPassedOver line = false ∧ opensComment line = false ∧
      ∃ earlier shape later start, TakesFirst line earlier shape later start name.toList ∧
        ∀ shape' ∈ shapes, ∀ i x, shape'.Stands line i x →
          (i < start → shape' ∈ later) ∧ (i = start → x = name.toList) := by
  obtain ⟨found, hfound, rfl⟩ := Option.map_eq_some_iff.mp h
  obtain ⟨before, line, behind, hlines, hbefore, hpassed, hopens,
    earlier, shape, later, start, hfirst⟩ := takesFirst_of_nameInLines? hfound
  rw [String.toList_ofList]
  exact ⟨before, line, behind, hlines, hbefore, hpassed, hopens,
    earlier, shape, later, start, hfirst, fun shape' hshape' i x hx => hfirst.compare hshape' hx⟩

theorem functionName?_eq_some_load :
    functionName? "\n// loads\nexport async function load() \x7b\x7d\n".toList = some "load" ∧
    ∃ line ∈ lines "\n// loads\nexport async function load() \x7b\x7d\n".toList,
      isPassedOver line = false ∧
      ∃ earlier shape later start, TakesFirst line earlier shape later start "load".toList := by
  have hname : functionName? "\n// loads\nexport async function load() \x7b\x7d\n".toList =
      some "load" := by decide +kernel
  obtain ⟨before, line, behind, hlines, -, hpassed, -, earlier, shape, later, start, hfirst, -⟩ :=
    functionName?_eq_some hname
  refine ⟨hname, line, ?_, hpassed, earlier, shape, later, start, hfirst⟩
  rw [hlines]
  exact List.mem_append_right before List.mem_cons_self

/-- A binding in the body of a function is found in its place, since the shapes of bindings come
first. -/
theorem functionName?_of_inner_binding :
    functionName? "function outer() \x7b const inner = () => 1; \x7d".toList = some "inner" ∧
    (Shape.named []).Stands "function outer() \x7b const inner = () => 1; \x7d".toList 0
      "outer".toList := by
  refine ⟨?_, rfl, _, rfl⟩
  rw [functionName?, lines_last (forall_of_any (by decide)) (by decide)]
  rfl

end Lines

end CallSchema.Jsdoc

import CallSchema.Proofs.NumberTexts

/-!
# Texts of documents

The grammar of the data format, in which a text holds no number that is not finite, and that the
text of every document with finite numbers is one of it, on one line or with any indentation.
-/

namespace CallSchema

namespace Document

/-- A number stands in a document, at any depth. -/
inductive Holds : Document → Number → Prop
  | number (n : Number) : Holds (.number n) n
  | item {items : List Document} {d : Document} {n : Number} (hd : d ∈ items) (h : Holds d n) :
    Holds (.list items) n
  | field {fields : List (String × Document)} {key : String} {d : Document} {n : Number}
    (hd : (key, d) ∈ fields) (h : Holds d n) : Holds (.object fields) n

variable {ds : List Document} {fields : List (String × Document)} {n : Number}

lemma exists_of_holds_list (h : (list ds).Holds n) : ∃ d ∈ ds, d.Holds n := by
  cases h with
  | item hd h => exact ⟨_, hd, h⟩

lemma exists_of_holds_object (h : (object fields).Holds n) : ∃ x ∈ fields, x.2.Holds n := by
  cases h with
  | field hd h => exact ⟨_, hd, h⟩

@[simp] lemma not_holds_text (s : String) (n : Number) : ¬(text s).Holds n := nofun

@[simp] lemma not_holds_texts (values : List String) (n : Number) : ¬(texts values).Holds n := by
  intro h
  obtain ⟨d, hd, h⟩ := exists_of_holds_list h
  obtain ⟨s, -, rfl⟩ := List.mem_map.mp hd
  cases h

/-- All numbers in a document are finite. -/
def IsFinite (d : Document) : Prop := ∀ n, d.Holds n → n.isFinite = true

end Document

namespace Json

/-- Blanks between the parts of a text. -/
def Blank (cs : List Char) : Prop := ∀ c ∈ cs, c ∈ [' ', '\t', '\n', '\r']

def isHex (c : Char) : Bool := c.isDigit || ('a' ≤ c && c ≤ 'f') || ('A' ≤ c && c ≤ 'F')

/-- What stands between the quotes of a text. -/
inductive Quotable : List Char → Prop
  | nil : Quotable []
  | plain {c : Char} {cs : List Char} (hcontrol : 32 ≤ c.toNat) (hc : c ∉ ['"', '\\'])
    (h : Quotable cs) : Quotable (c :: cs)
  | escape {c : Char} {cs : List Char} (hc : c ∈ ['"', '\\', '/', 'b', 'f', 'n', 'r', 't'])
    (h : Quotable cs) : Quotable ('\\' :: c :: cs)
  | code {ds cs : List Char} (hlength : ds.length = 4) (hds : ∀ d ∈ ds, isHex d = true)
    (h : Quotable cs) : Quotable ('\\' :: 'u' :: (ds ++ cs))

inductive IsText : List Char → Prop
  | quoted {cs : List Char} (h : Quotable cs) : IsText ('"' :: (cs ++ ['"']))

mutual

inductive IsValue : List Char → Prop
  | null : IsValue ['n', 'u', 'l', 'l']
  | true : IsValue ['t', 'r', 'u', 'e']
  | false : IsValue ['f', 'a', 'l', 's', 'e']
  | number {cs : List Char} (h : IsNumber cs) : IsValue cs
  | text {cs : List Char} (h : IsText cs) : IsValue cs
  | emptyList {cs : List Char} (h : Blank cs) : IsValue ('[' :: (cs ++ [']']))
  | list {items : List (List Char)} (h : ∀ cs ∈ items, IsElement cs) :
    IsValue ('[' :: ([','].intercalate items ++ [']']))
  | emptyObject {cs : List Char} (h : Blank cs) : IsValue ('\x7b' :: (cs ++ ['\x7d']))
  | object {fields : List (List Char)} (h : ∀ cs ∈ fields, IsField cs) :
    IsValue ('\x7b' :: ([','].intercalate fields ++ ['\x7d']))

/-- A value with blanks around it. -/
inductive IsElement : List Char → Prop
  | mk {before cs after : List Char} (hbefore : Blank before) (h : IsValue cs)
    (hafter : Blank after) : IsElement (before ++ (cs ++ after))

/-- A name and a value with a colon between them. -/
inductive IsField : List Char → Prop
  | mk {before key after cs : List Char} (hbefore : Blank before) (hkey : IsText key)
    (hafter : Blank after) (h : IsElement cs) : IsField (before ++ (key ++ (after ++ ':' :: cs)))

end

variable {P : List Char → Prop} {cs before after separator : List Char} {c : Char}
  {items : List (List Char)}

section Texts

lemma quotable_escapedChar (c : Char) (h : Quotable cs) :
    Quotable (Document.escapedChar c ++ cs) := by
  unfold Document.escapedChar
  split
  · exact .escape (by decide) h
  split
  · exact .escape (by decide) h
  split
  · exact .escape (by decide) h
  split
  · exact .escape (by decide) h
  split
  · exact .escape (by decide) h
  split
  · exact .escape (by decide) h
  split
  · exact .escape (by decide) h
  split
  · rename_i hcontrol
    have hhex : ∀ n < 32, (Text.hex 4 n).length = 4 ∧ (Text.hex 4 n).all isHex = true := by
      decide
    obtain ⟨hlength, hds⟩ := hhex c.toNat hcontrol
    exact .code hlength (List.all_eq_true.mp hds) h
  · rename_i hquote hslash _ _ _ _ _ hcontrol
    exact .plain (Nat.le_of_not_lt hcontrol) (by simp [hquote, hslash]) h

lemma quotable_flatMap (cs : List Char) : Quotable (cs.flatMap Document.escapedChar) := by
  induction cs with
  | nil => exact .nil
  | cons c cs ih =>
    rw [List.flatMap_cons]
    exact quotable_escapedChar c ih

lemma isText_writeText (s : String) : IsText (Document.writeText s).toList := by
  rw [Document.writeText, String.toList_ofList]
  exact .quoted (quotable_flatMap s.toList)

end Texts

section Blanks

lemma blank_nil : Blank [] := nofun

lemma blank_space : Blank [' '] := List.forall_mem_singleton.mpr List.mem_cons_self

lemma blank_break : Blank "\n".toList := by
  change Blank ['\n']
  exact List.forall_mem_singleton.mpr (by decide)

lemma Blank.append (h : Blank before) (hafter : Blank after) : Blank (before ++ after) := by
  intro c hc
  exact (List.mem_append.mp hc).elim (h c) (hafter c)

lemma IsValue.element (h : IsValue cs) : IsElement cs := by
  simpa using IsElement.mk blank_nil h blank_nil

lemma IsElement.pad (hbefore : Blank before) (h : IsElement cs) (hafter : Blank after) :
    IsElement (before ++ (cs ++ after)) := by
  cases h with
  | mk hb hvalue ha =>
    simpa using IsElement.mk (hbefore.append hb) hvalue (ha.append hafter)

lemma IsField.pad (hbefore : Blank before) (h : IsField cs) (hafter : Blank after) :
    IsField (before ++ (cs ++ after)) := by
  cases h with
  | mk hb hkey ha hvalue =>
    simpa using IsField.mk (hbefore.append hb) hkey ha (hvalue.pad blank_nil hafter)

lemma blank_newline (indent : Option Nat) (depth : Nat) :
    Blank (Document.newline indent depth).toList := by
  cases indent with
  | none => exact nofun
  | some n =>
    rw [Document.newline, String.toList_append]
    refine blank_break.append ?_
    rw [String.toList_ofList]
    intro c hc
    rw [List.eq_of_mem_replicate hc]
    decide

lemma exists_separator (indent : Option Nat) (depth : Nat) : ∃ separator, Blank separator ∧
    (Document.itemMark indent ++ Document.newline indent depth).toList = ',' :: separator := by
  cases indent with
  | none =>
    have hmark : (Document.itemMark none ++ Document.newline none depth).toList = [',', ' '] := by
      change (", " ++ "").toList = _
      rfl
    exact ⟨[' '], blank_space, hmark⟩
  | some n =>
    refine ⟨(Document.newline (some n) depth).toList, blank_newline _ _, ?_⟩
    have hmark : (Document.itemMark (some n)).toList = [','] := by
      change ",".toList = _
      rfl
    rw [String.toList_append, hmark]
    rfl

/-- Blanks after the separators, before the first item and after the last one belong to items. -/
lemma exists_padded (hpad : ∀ {before cs after : List Char}, Blank before → P cs → Blank after →
      P (before ++ (cs ++ after)))
    (hseparator : Blank separator) (hne : items ≠ []) (h : ∀ cs ∈ items, P cs)
    (hbefore : Blank before) (hafter : Blank after) :
    ∃ padded, padded ≠ [] ∧ (∀ cs ∈ padded, P cs) ∧
      before ++ ((',' :: separator).intercalate items ++ after) = [','].intercalate padded := by
  induction items generalizing before with
  | nil => exact absurd rfl hne
  | cons cs items ih =>
    obtain ⟨hcs, hitems⟩ := List.forall_mem_cons.mp h
    cases items with
    | nil =>
      refine ⟨[before ++ (cs ++ after)], nofun, ?_, ?_⟩
      · exact List.forall_mem_singleton.mpr (hpad hbefore hcs hafter)
      · rw [List.intercalate_singleton, List.intercalate_singleton]
    | cons next rest =>
      obtain ⟨padded, hpadded, hall, heq⟩ := ih nofun hitems hseparator
      refine ⟨(before ++ (cs ++ [])) :: padded, nofun, ?_, ?_⟩
      · exact List.forall_mem_cons.mpr ⟨hpad hbefore hcs blank_nil, hall⟩
      · rw [List.intercalate_cons_of_ne_nil hpadded, List.intercalate_cons_cons, ← heq]
        simp

lemma exists_bracketed (hpad : ∀ {before cs after : List Char}, Blank before → P cs →
      Blank after → P (before ++ (cs ++ after)))
    (indent : Option Nat) (depth : Nat) (opening closing : String) {items : List String}
    (h : ∀ s ∈ items, P s.toList) : ∃ padded, (∀ cs ∈ padded, P cs) ∧
      (Document.bracketed indent depth opening closing items).toList =
        opening.toList ++ ([','].intercalate padded ++ closing.toList) := by
  cases hitems : items with
  | nil => exact ⟨[], nofun, String.toList_append⟩
  | cons item rest =>
    rw [← hitems]
    have hne : items.map String.toList ≠ [] := by simp [hitems]
    have hempty : items.isEmpty = false := by simp [hitems]
    obtain ⟨separator, hseparator, hmark⟩ := exists_separator indent (depth + 1)
    obtain ⟨padded, -, hall, heq⟩ := exists_padded hpad hseparator hne (List.forall_mem_map.mpr h)
      (blank_newline indent (depth + 1)) (blank_newline indent depth)
    refine ⟨padded, hall, ?_⟩
    rw [← heq, Document.bracketed, hempty]
    simp [String.toList_intercalate, hmark]

end Blanks

section Writing

open Document

variable {indent : Option Nat} {depth : Nat}

lemma isFinite_of_mem_list {ds : List Document} (h : (Document.list ds).IsFinite) :
    ∀ d ∈ ds, d.IsFinite :=
  fun _ hd n hn => h n (.item hd hn)

lemma isFinite_of_mem_object {fields : List (String × Document)}
    (h : (Document.object fields).IsFinite) : ∀ x ∈ fields, x.2.IsFinite :=
  fun _ hx n hn => h n (.field hx hn)

mutual

/-- The text of a document with finite numbers is one of a value. -/
theorem isValue_write (depth : Nat) : (d : Document) → d.IsFinite →
    IsValue (d.write indent depth).toList
  | .null, _ => by
    rw [write]
    exact .null
  | .bool b, _ => by
    rw [write]
    cases b
    · exact .false
    · exact .true
  | .number n, h => by
    rw [write]
    exact .number (isNumber_writeNumber_iff.mpr (h n (.number n)))
  | .text s, _ => by
    rw [write]
    exact .text (isText_writeText s)
  | .list ds, h => by
    obtain ⟨padded, hpadded, heq⟩ := exists_bracketed IsElement.pad indent depth "[" "]"
      (isElement_writeItems (depth + 1) ds (isFinite_of_mem_list h))
    rw [write, heq]
    exact .list hpadded
  | .object fields, h => by
    obtain ⟨padded, hpadded, heq⟩ := exists_bracketed IsField.pad indent depth "\x7b" "\x7d"
      (isField_writeFields (depth + 1) fields (isFinite_of_mem_object h))
    rw [write, heq]
    exact .object hpadded

lemma isElement_writeItems (depth : Nat) : (ds : List Document) → (∀ d ∈ ds, d.IsFinite) →
    ∀ s ∈ writeItems indent depth ds, IsElement s.toList
  | [], _ => by
    rw [writeItems]
    exact nofun
  | d :: ds, h => by
    obtain ⟨hd, hds⟩ := List.forall_mem_cons.mp h
    rw [writeItems]
    exact List.forall_mem_cons.mpr
      ⟨(isValue_write depth d hd).element, isElement_writeItems depth ds hds⟩

lemma isField_writeFields (depth : Nat) : (fields : List (String × Document)) →
    (∀ x ∈ fields, x.2.IsFinite) → ∀ s ∈ writeFields indent depth fields, IsField s.toList
  | [], _ => by
    rw [writeFields]
    exact nofun
  | (key, d) :: fields, h => by
    obtain ⟨hd, hfields⟩ := List.forall_mem_cons.mp h
    rw [writeFields]
    refine List.forall_mem_cons.mpr ⟨?_, isField_writeFields depth fields hfields⟩
    have hcolon : ": ".toList = [':', ' '] := rfl
    have hvalue : IsElement ([' '] ++ ((d.write indent depth).toList ++ [])) :=
      .mk blank_space (isValue_write depth d hd) blank_nil
    rw [String.toList_append, String.toList_append, hcolon]
    simpa using IsField.mk blank_nil (isText_writeText key) blank_nil hvalue

end

end Writing

end Json

end CallSchema

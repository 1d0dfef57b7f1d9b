import Mathlib.Algebra.Group.Nat.Defs
import CallSchema.Proofs.DocumentTexts

/-!
# Documents written piece by piece

A document is written whole, unless it holds a whole number with too many digits. Then the writing
ends at such a number, and what was written is the text before it.
-/

namespace CallSchema.Document

variable {held : Number → Prop} {indent : Option Nat} {depth : Nat} {text before t u : String}
  {ps qs : List Piece} {d : Document} {n : Number}

/-- The whole numbers in a document have no more digits than are allowed. -/
def IsWritable (d : Document) : Prop := ∀ n : Int, d.Holds (.int n) → n.natAbs < 10 ^ maxDigits

lemma hasText_int_iff {n : Int} : hasText (.int n) = true ↔ n.natAbs < 10 ^ maxDigits := by
  rw [hasText, decide_eq_true_iff]
  exact Nat.length_toDigits_le_iff (by decide) (by decide)

/-- What is written together with a number after it: nothing, or what comes before an item. -/
inductive IsLead (indent : Option Nat) : String → Prop
  | nothing : IsLead indent ""
  | first (depth : Nat) : IsLead indent ("[" ++ newline indent depth)
  | next (depth : Nat) : IsLead indent (itemMark indent ++ newline indent depth)

/-- Pieces spell a text, in which whole numbers that are too long stand for missing pieces. -/
inductive Spells (indent : Option Nat) (held : Number → Prop) : List Piece → String → Prop
  | nil : Spells indent held [] ""
  | piece (s : String) {ps : List Piece} {t : String} (h : Spells indent held ps t) :
    Spells indent held (.ok s :: ps) (s ++ t)
  | missing {n : Int} {lead : String} {ps : List Piece} {t : String} (hheld : held (.int n))
    (hn : 10 ^ maxDigits ≤ n.natAbs) (hlead : IsLead indent lead) (h : Spells indent held ps t) :
    Spells indent held (.error overlong :: ps) (lead ++ toString n ++ t)

lemma spells_singleton (s : String) : Spells indent held [.ok s] s := by
  simpa using Spells.piece s .nil

lemma Spells.append (h : Spells indent held ps t) (hqs : Spells indent held qs u) :
    Spells indent held (ps ++ qs) (t ++ u) := by
  induction h with
  | nil => rwa [String.empty_append]
  | piece s h ih =>
    rw [String.append_assoc]
    exact .piece s ih
  | missing hheld hn hlead h ih =>
    rw [String.append_assoc]
    exact .missing hheld hn hlead ih

lemma spells_bracketedPieces {opening closing : String} {items : List String}
    {inner : String → List Piece} {isEmpty : Bool} (hitems : isEmpty = items.isEmpty)
    (hinner : items ≠ [] → Spells indent held (inner (opening ++ newline indent (depth + 1)))
      (opening ++ newline indent (depth + 1)
        ++ (itemMark indent ++ newline indent (depth + 1)).intercalate items)) :
    Spells indent held (bracketedPieces indent depth before opening closing isEmpty inner)
      (before ++ bracketed indent depth opening closing items) := by
  subst hitems
  unfold bracketedPieces bracketed
  cases items with
  | nil =>
    rw [List.isEmpty_nil, if_pos rfl, if_pos rfl, ← String.append_assoc]
    exact spells_singleton _
  | cons s items =>
    have hitems := (hinner (List.cons_ne_nil _ _)).append
      (spells_singleton (newline indent depth ++ closing))
    rw [List.isEmpty_cons, if_neg Bool.false_ne_true, if_neg Bool.false_ne_true]
    simpa only [String.append_assoc] using Spells.piece before hitems

mutual

/-- The pieces of a document spell its text. -/
theorem spells_pieces (depth : Nat) (before : String) (hbefore : IsLead indent before) :
    (d : Document) → (∀ n, d.Holds n → held n) →
      Spells indent held (pieces indent depth before d) (before ++ write indent depth d)
  | .null, _ => spells_singleton _
  | .bool _, _ => spells_singleton _
  | .text _, _ => spells_singleton _
  | .number (.float _), _ => spells_singleton _
  | .number (.int n), h => by
    rw [pieces, write]
    by_cases hn : hasText (.int n) = true
    · rw [if_pos hn]
      exact spells_singleton _
    · rw [if_neg hn]
      rw [hasText_int_iff, Nat.not_lt] at hn
      have hmissing := Spells.missing (h (.int n) (.number (.int n))) hn hbefore .nil
      rwa [String.append_empty] at hmissing
  | .list ds, h => by
    rw [pieces, write]
    refine spells_bracketedPieces (by cases ds <;> rfl) fun hne => ?_
    exact spells_itemPieces (depth + 1) _ (.first _) ds (by rintro rfl; exact hne rfl)
      fun d hd n hn => h n (.item hd hn)
  | .object fields, h => by
    rw [pieces, write]
    refine spells_bracketedPieces (by cases fields <;> rfl) fun hne => ?_
    exact spells_fieldPieces (depth + 1) _ fields (by rintro rfl; exact hne rfl)
      fun x hx n hn => h n (.field hx hn)

lemma spells_itemPieces (depth : Nat) (before : String) (hbefore : IsLead indent before) :
    (ds : List Document) → ds ≠ [] → (∀ d ∈ ds, ∀ n, d.Holds n → held n) →
      Spells indent held (itemPieces indent depth before ds) (before ++
        (itemMark indent ++ newline indent depth).intercalate (writeItems indent depth ds))
  | [d], _, h => by
    rw [itemPieces, itemPieces, List.append_nil, writeItems, writeItems,
      String.intercalate_singleton]
    exact spells_pieces depth before hbefore d (h d List.mem_cons_self)
  | d :: d' :: ds, _, h => by
    obtain ⟨hd, hds⟩ := List.forall_mem_cons.mp h
    have hrest := spells_itemPieces depth _ (.next depth) (d' :: ds) (List.cons_ne_nil _ _) hds
    rw [itemPieces, writeItems, writeItems, String.intercalate_cons_cons, ← writeItems,
      String.append_assoc, ← String.append_assoc]
    exact (spells_pieces depth before hbefore d hd).append hrest

lemma spells_fieldPieces (depth : Nat) (before : String) :
    (fields : List (String × Document)) → fields ≠ [] →
      (∀ x ∈ fields, ∀ n, x.2.Holds n → held n) →
      Spells indent held (fieldPieces indent depth before fields) (before ++
        (itemMark indent ++ newline indent depth).intercalate (writeFields indent depth fields))
  | [(key, d)], _, h => by
    have hd := spells_pieces depth "" .nothing d (h (key, d) List.mem_cons_self)
    rw [String.empty_append] at hd
    rw [fieldPieces, fieldPieces, List.append_nil, writeFields, writeFields,
      String.intercalate_singleton, ← String.append_assoc, ← String.append_assoc]
    exact .piece _ hd
  | (key, d) :: x :: fields, _, h => by
    obtain ⟨hd, hfields⟩ := List.forall_mem_cons.mp h
    have hd := spells_pieces depth "" .nothing d hd
    have hrest := spells_fieldPieces depth (itemMark indent ++ newline indent depth)
      (x :: fields) (List.cons_ne_nil _ _) hfields
    rw [String.empty_append] at hd
    rw [fieldPieces, writeFields, writeFields, String.intercalate_cons_cons, ← writeFields]
    simpa only [String.append_assoc] using
      Spells.piece (before ++ writeText key ++ ": ") (hd.append hrest)

end

lemma mem_bracketedPieces {opening closing : String} {isEmpty : Bool}
    {inner : String → List Piece} {p : Piece} (hne : isEmpty = false)
    (h : ∀ before, p ∈ inner before) :
    p ∈ bracketedPieces indent depth before opening closing isEmpty inner := by
  subst hne
  exact List.mem_cons_of_mem _ (List.mem_append_left _ (h _))

lemma mem_itemPieces {ds : List Document} {p : Piece} (hd : d ∈ ds)
    (h : ∀ before, p ∈ pieces indent depth before d) (before : String) :
    p ∈ itemPieces indent depth before ds := by
  induction ds generalizing before with
  | nil => cases hd
  | cons c ds ih =>
    rw [itemPieces, List.mem_append]
    cases hd with
    | head => exact .inl (h before)
    | tail _ hd => exact .inr (ih hd _)

lemma mem_fieldPieces {fields : List (String × Document)} {key : String} {p : Piece}
    (hd : (key, d) ∈ fields) (h : ∀ before, p ∈ pieces indent depth before d) (before : String) :
    p ∈ fieldPieces indent depth before fields := by
  induction fields generalizing before with
  | nil => cases hd
  | cons x fields ih =>
    rw [fieldPieces, List.mem_cons, List.mem_append]
    cases hd with
    | head => exact .inr (.inl (h _))
    | tail _ hd => exact .inr (.inr (ih hd _))

lemma overlong_mem_pieces (h : d.Holds n) (hn : hasText n = false) (depth : Nat)
    (before : String) : .error overlong ∈ pieces indent depth before d := by
  induction h generalizing depth before with
  | number n =>
    rw [pieces, hn]
    exact List.mem_cons_self
  | item hd h ih =>
    rw [pieces]
    exact mem_bracketedPieces (List.isEmpty_eq_false_iff.mpr (List.ne_nil_of_mem hd))
      (mem_itemPieces hd fun before => ih hn _ before)
  | field hd h ih =>
    rw [pieces]
    exact mem_bracketedPieces (List.isEmpty_eq_false_iff.mpr (List.ne_nil_of_mem hd))
      (mem_fieldPieces hd fun before => ih hn _ before)

/-- A text is what stands in another one before a whole number that is too long, and before what
would be written together with the number. -/
def IsCutOff (indent : Option Nat) (held : Number → Prop) (t before : String) : Prop :=
  ∃ (n : Int) (lead after : String), held (.int n) ∧ 10 ^ maxDigits ≤ n.natAbs ∧
    IsLead indent lead ∧ t = before ++ (lead ++ toString n ++ after)

/-- Writing goes on to the first piece that is missing, or to the end if none is. -/
lemma writePieces_of_spells (h : Spells indent held ps t) (text : String) :
    (.error overlong ∉ ps ∧ writePieces text ps = (text ++ t, .ok ())) ∨
      ∃ before, IsCutOff indent held t before ∧
        writePieces text ps = (text ++ before, .error overlong) := by
  induction h generalizing text with
  | nil => exact .inl ⟨List.not_mem_nil, by rw [writePieces, String.append_empty]⟩
  | piece s h ih =>
    rw [writePieces]
    rcases ih (text ++ s) with ⟨hps, heq⟩ | ⟨before, ⟨n, lead, after, hheld, hn, hlead, ht⟩, heq⟩
    · refine .inl ⟨?_, heq.trans (by rw [String.append_assoc])⟩
      simpa using hps
    · refine .inr ⟨s ++ before, ⟨n, lead, after, hheld, hn, hlead, ?_⟩,
        heq.trans (by rw [String.append_assoc])⟩
      rw [ht, ← String.append_assoc]
  | missing hheld hn hlead h ih =>
    refine .inr ⟨"", ⟨_, _, _, hheld, hn, hlead, String.empty_append.symm⟩, ?_⟩
    rw [writePieces, String.append_empty]

lemma spells_print (indent : Option Nat) (d : Document) :
    Spells indent d.Holds (pieces indent 0 "" d) (write indent 0 d) := by
  have hspells : Spells indent d.Holds (pieces indent 0 "" d) ("" ++ write indent 0 d) :=
    spells_pieces 0 "" .nothing d fun _ hn => hn
  rwa [String.empty_append] at hspells

/-- A document without whole numbers that are too long is written whole. -/
theorem print_of_isWritable (indent : Option Nat) (h : d.IsWritable) :
    d.print indent = (d.write indent 0, .ok ()) := by
  rcases writePieces_of_spells (spells_print indent d) "" with ⟨-, heq⟩ | ⟨_, hcut, -⟩
  · rwa [String.empty_append] at heq
  · obtain ⟨n, _, _, hheld, hn, -⟩ := hcut
    exact absurd (h n hheld) (Nat.not_lt.mpr hn)

/-- Any other one is written up to such a number. -/
theorem exists_print_of_not_isWritable (indent : Option Nat) (h : ¬d.IsWritable) :
    ∃ text, IsCutOff indent d.Holds (d.write indent 0) text ∧
      d.print indent = (text, .error overlong) := by
  rcases writePieces_of_spells (spells_print indent d) "" with ⟨hps, -⟩ | ⟨before, hbefore, heq⟩
  · refine absurd (fun n hn => ?_) h
    rw [← hasText_int_iff]
    by_contra hfalse
    exact hps (overlong_mem_pieces hn (Bool.eq_false_iff.mpr hfalse) 0 "")
  · rw [String.empty_append] at heq
    exact ⟨before, hbefore, heq⟩

/-- So a document is written whole if and only if none of its whole numbers is too long. -/
theorem print_eq_ok_iff (indent : Option Nat) (d : Document) :
    (d.print indent).2 = .ok () ↔ d.IsWritable := by
  refine ⟨fun h => ?_, fun h => by rw [print_of_isWritable indent h]⟩
  by_contra hfalse
  obtain ⟨text, -, heq⟩ := exists_print_of_not_isWritable indent hfalse
  rw [heq] at h
  cases h

end CallSchema.Document

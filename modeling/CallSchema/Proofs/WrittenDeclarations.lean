import CallSchema.Proofs.AcceptedDeclarations

/-!
# Written declarations

A declaration is written as a tag, a type, a name and the rest, with spaces between them. Reading
the line gives back what was written: the types in lower case, the listed values with the type that
they have together, the name, whether it is optional, and the description.
-/

namespace CallSchema

namespace Text

variable {c : Char} {cs xs : List Char} {pieces : List (List Char)}

section Letters

lemma isAlpha_of_toLower (h : c.toLower.isAlpha = true) : c.isAlpha = true := by
  unfold Char.toLower at h
  split at h
  · rename_i hupper
    exact Bool.or_eq_true_iff.mpr (.inl (decide_eq_true hupper))
  · exact h

end Letters

section Pieces

lemma exists_joinWith_cons (mark piece : List Char) (pieces : List (List Char)) :
    ∃ tail, joinWith mark (piece :: pieces) = piece ++ tail := by
  cases pieces with
  | nil => exact ⟨[], by rw [joinWith, List.intercalate_singleton, List.append_nil]⟩
  | cons next pieces =>
    rw [joinWith, List.intercalate_cons_cons, List.append_assoc]
    exact ⟨_, rfl⟩

lemma splitOn_append (h : c ∉ xs) (cs : List Char) : ∃ piece pieces,
    splitOn c cs = piece :: pieces ∧ splitOn c (xs ++ cs) = (xs ++ piece) :: pieces := by
  induction xs with
  | nil =>
    obtain ⟨piece, pieces, hcs⟩ := List.exists_cons_of_ne_nil (splitWhere_ne_nil (· == c) cs)
    exact ⟨piece, pieces, hcs, hcs⟩
  | cons x xs ih =>
    obtain ⟨piece, pieces, hcs, happend⟩ := ih fun hc => h (List.mem_cons_of_mem x hc)
    refine ⟨piece, pieces, hcs, ?_⟩
    have hx : ¬(x == c) = true := by
      intro hxc
      rw [beq_iff_eq] at hxc
      exact h (hxc ▸ List.mem_cons_self)
    rw [splitOn] at happend
    rw [splitOn, List.cons_append, splitWhere, if_neg hx, happend]
    rfl

lemma map_trim_splitOn_joinWith {blanks : List Char} (hblanks : ∀ b ∈ blanks, isBlank b = true)
    (hmark : isBlank c = false) (hne : pieces ≠ []) (h : ∀ piece ∈ pieces, c ∉ piece) :
    (splitOn c (joinWith (c :: blanks) pieces)).map trim = pieces.map trim := by
  induction pieces with
  | nil => exact absurd rfl hne
  | cons piece pieces ih =>
    have hpiece : c ∉ piece := h piece List.mem_cons_self
    cases pieces with
    | nil => rw [joinWith, List.intercalate_singleton, splitOn_of_not_mem hpiece]
    | cons next pieces =>
      have hrest := ih (List.cons_ne_nil next pieces) fun p hp =>
        h p (List.mem_cons_of_mem piece hp)
      have hc : c ∉ blanks := by
        intro hc
        rw [hblanks c hc] at hmark
        cases hmark
      have hjoin : joinWith (c :: blanks) (piece :: next :: pieces) =
          piece ++ c :: (blanks ++ joinWith (c :: blanks) (next :: pieces)) := by
        rw [joinWith, List.intercalate_cons_cons, List.append_assoc]
        rfl
      obtain ⟨first, others, hsplit, happend⟩ :=
        splitOn_append hc (joinWith (c :: blanks) (next :: pieces))
      have hfirst : trim (blanks ++ first) = trim first := by
        rw [trim, trimLeft_append hblanks, ← trim]
      rw [hsplit, List.map_cons] at hrest
      rw [hjoin, splitOn_append_cons hpiece, happend, List.map_cons, List.map_cons, List.map_cons,
        ← hrest, hfirst]

end Pieces

lemma trimRight_append_of_mem (h : c ∈ cs) (hc : isBlank c = false) (xs : List Char) :
    trimRight (xs ++ cs) = xs ++ trimRight cs := by
  have hne : cs.reverse.dropWhile isBlank ≠ [] := by
    intro hnil
    have hblank := List.dropWhile_eq_nil_iff.mp hnil c (List.mem_reverse.mpr h)
    rw [hc] at hblank
    cases hblank
  rw [trimRight, dropTailWhile, List.reverse_append, List.dropWhile_append,
    if_neg (by simpa using hne), List.reverse_append, List.reverse_reverse]
  rfl

end Text

namespace Jsdoc

open Text

/-- A word with spaces around it. -/
structure Word where
  before : Nat
  letters : List Char
  after : Nat
  deriving DecidableEq, Repr

namespace Word

variable {w : Word} {t : String}

def text (w : Word) : List Char :=
  List.replicate w.before ' ' ++ (w.letters ++ List.replicate w.after ' ')

def token (w : Word) : String := String.ofList (w.letters.map Char.toLower)

/-- The word is the token, in any letter case. -/
def Spells (w : Word) (t : String) : Prop := w.letters.map Char.toLower = t.toList

instance (w : Word) (t : String) : Decidable (w.Spells t) :=
  inferInstanceAs (Decidable (_ = _))

lemma token_of_spells (h : w.Spells t) : w.token = t := by
  rw [token, h, String.ofList_toList]

lemma isAlpha_of_mem (h : w.Spells t) (ht : ∀ c ∈ t.toList, c.isAlpha = true) :
    ∀ c ∈ w.letters, c.isAlpha = true := by
  intro c hc
  apply isAlpha_of_toLower
  apply ht
  rw [← h]
  exact List.mem_map_of_mem hc

lemma mem_text {c : Char} (h : c ∈ w.text) : c ∈ w.letters ∨ c = ' ' := by
  rw [text, List.mem_append, List.mem_append] at h
  rcases h with hbefore | hletters | hafter
  · exact .inr (List.eq_of_mem_replicate hbefore)
  · exact .inl hletters
  · exact .inr (List.eq_of_mem_replicate hafter)

lemma trim_text (h : ∀ c ∈ w.letters, c.isAlpha = true) : trim w.text = w.letters := by
  have hspaces : ∀ n, ∀ c ∈ List.replicate n ' ', isBlank c = true := by
    intro n c hc
    rw [List.eq_of_mem_replicate hc]
    decide
  rw [text, trim_blanks (hspaces w.before) (hspaces w.after)]
  exact trim_of_forall fun c hc => isBlank_of_isAlpha (h c hc)

end Word

/-- The type of a declaration. -/
inductive WrittenType
  /-- One type, or several with bars between them. -/
  | types (first : Word) (others : List Word)
  /-- A type that lists its values, or does not list them. -/
  | enum (word : Word) (values : Option (List (List Char)))
  deriving DecidableEq, Repr

namespace WrittenType

variable {t : WrittenType}

def words : WrittenType → List Word
  | types first others => first :: others
  | enum word _ => [word]

def text (t : WrittenType) : List Char := joinWith ['|'] (t.words.map Word.text)

/-- The type in lower case. -/
def token (t : WrittenType) : String := String.ofList ((trim t.text).map Char.toLower)

def values? : WrittenType → Option (List (List Char))
  | types .. => none
  | enum _ values => values

/-- The words name types, or the type of listed values. -/
def IsNamed : WrittenType → Prop
  | types first others => ∀ w ∈ first :: others, ∃ t ∈ typeNames, w.Spells t
  | enum word _ => word.Spells enumToken

end WrittenType

/-- A listed value: a text that is not empty and can be told from the values beside it. -/
structure IsListable (v : List Char) : Prop where
  ne_nil : v ≠ []
  isTrimmed : IsTrimmed v
  comma : ',' ∉ v
  bracket : ']' ∉ v
  digits : v.countP isDigit ≤ maxDigits

instance (v : List Char) : Decidable (IsListable v) :=
  decidable_of_iff
    (v ≠ [] ∧ IsTrimmed v ∧ ',' ∉ v ∧ ']' ∉ v ∧ v.countP isDigit ≤ maxDigits)
    ⟨fun ⟨hne, htrimmed, hcomma, hbracket, hdigits⟩ => ⟨hne, htrimmed, hcomma, hbracket, hdigits⟩,
      fun h => ⟨h.ne_nil, h.isTrimmed, h.comma, h.bracket, h.digits⟩⟩

/-- How a name is written: alone, or in brackets and perhaps with a default. -/
inductive NameForm
  | plain
  | bracketed
  | withDefault (default : List Char)
  deriving DecidableEq, Repr

namespace NameForm

def write (name : List Char) : NameForm → List Char
  | plain => name
  | bracketed => '[' :: (name ++ [']'])
  | withDefault default => '[' :: (name ++ '=' :: (default ++ [']']))

def isOptional : NameForm → Bool
  | plain => false
  | _ => true

/-- The name can be told from what its form puts around it. -/
def Fits (name : List Char) : NameForm → Prop
  | plain => True
  | bracketed => '=' ∉ name
  | withDefault default => '=' ∉ name ∧ ']' ∉ default

end NameForm

/-- A declaration as it is meant. -/
structure WrittenDeclaration where
  isProperty : Bool
  isBraced : Bool
  type : WrittenType
  name : List Char
  form : NameForm
  /-- The blanks before the listed values and the description. -/
  gap : List Char
  description : Option (List Char)
  deriving DecidableEq, Repr

namespace WrittenDeclaration

variable {d : WrittenDeclaration}

/-- The description behind a dash. -/
def described (description : List Char) : List Char := '-' :: ' ' :: description

def listed (values : List (List Char)) : List Char :=
  '[' :: (joinWith [',', ' '] values ++ [']'])

/-- The listed values and the description. -/
def rest (d : WrittenDeclaration) : List Char :=
  match d.type.values?, d.description with
  | none, none => []
  | none, some description => described description
  | some values, none => listed values
  | some values, some description => listed values ++ ' ' :: described description

def spelling (d : WrittenDeclaration) : Spelling :=
  { isProperty := d.isProperty
    tagGap := [' ']
    isBraced := d.isBraced
    type := d.type.text
    typeGap := [' ']
    name := d.form.write d.name
    after := d.gap ++ d.rest }

/-- The line. -/
def text (d : WrittenDeclaration) : List Char := d.spelling.text

/-- The parts are what they are meant to be. -/
structure Proper (d : WrittenDeclaration) : Prop where
  type : d.type.IsNamed
  /-- Spaces around words stand in braces only. -/
  spaces : d.isBraced = false → ∀ w ∈ d.type.words, w.before = 0 ∧ w.after = 0
  values : ∀ values ∈ d.type.values?, values ≠ [] ∧ ∀ v ∈ values, IsListable v
  name : IsPlain d.name
  form : d.form.Fits d.name
  gap : ∀ c ∈ d.gap, isBlank c = true
  gap_ne_nil : d.rest ≠ [] → d.gap ≠ []
  isTrimmed : ∀ description ∈ d.description, IsTrimmed description
  dash : ∀ description ∈ d.description, description.head? ≠ some '-'
  newline : '\n' ∉ d.text

/-- What the line says, whatever its type is. -/
def declared (d : WrittenDeclaration) : Declaration :=
  { isProperty := d.isProperty
    typeToken := d.type.token
    name := String.ofList d.name
    description := String.ofList (d.description.getD [])
    isOptional := d.form.isOptional }

/-- What the line says. -/
def meaning (d : WrittenDeclaration) : Except Failure Declaration :=
  match d.type with
  | .types _ [] => .ok d.declared
  | .types first (second :: others) =>
    .ok { d.declared with unionTypes := some ((first :: second :: others).map Word.token) }
  | .enum _ none => .ok { d.declared with isEnum := true }
  | .enum _ (some values) => (classifyValues values).map fun (base, vs) =>
    { d.declared with typeToken := base, isEnum := true, enumValues := some vs }

end WrittenDeclaration

section Types

variable {t : WrittenType}

lemma isTypeChar_of_isAlpha {c : Char} (h : c.isAlpha = true) : isTypeChar c = true := by
  have hbracket : c ≠ '[' := by
    rintro rfl
    exact absurd h (by decide)
  have hbrace : c ≠ '\x7b' := by
    rintro rfl
    exact absurd h (by decide)
  simp [isTypeChar, isBlank_of_isAlpha h, hbracket, hbrace]

namespace WrittenType

lemma exists_token (h : t.IsNamed) : ∀ w ∈ t.words, ∃ s ∈ enumToken :: typeNames, w.Spells s := by
  intro w hw
  cases t with
  | types first others =>
    obtain ⟨s, hs, hspells⟩ := h w hw
    exact ⟨s, List.mem_cons_of_mem enumToken hs, hspells⟩
  | enum word values =>
    obtain rfl := List.mem_singleton.mp hw
    exact ⟨enumToken, List.mem_cons_self, h⟩

lemma isAlpha_of_mem (h : t.IsNamed) : ∀ w ∈ t.words, ∀ c ∈ w.letters, c.isAlpha = true := by
  have hall : ∀ s ∈ enumToken :: typeNames, s.toList.all Char.isAlpha = true := by decide
  have hletters : ∀ s ∈ enumToken :: typeNames, ∀ c ∈ s.toList, c.isAlpha = true := fun s hs =>
    List.all_eq_true.mp (hall s hs)
  intro w hw
  obtain ⟨s, hs, hspells⟩ := exists_token h w hw
  exact Word.isAlpha_of_mem hspells (hletters s hs)

lemma words_ne_nil (t : WrittenType) : t.words ≠ [] := by
  cases t <;> exact List.cons_ne_nil _ _

lemma mem_text {c : Char} (h : t.IsNamed) (hc : c ∈ t.text) :
    c.isAlpha = true ∨ c = '|' ∨ c = ' ' := by
  rcases mem_joinWith hc with hmark | ⟨piece, hpiece, hc⟩
  · exact .inr (.inl (List.mem_singleton.mp hmark))
  · obtain ⟨w, hw, rfl⟩ := List.mem_map.mp hpiece
    rcases Word.mem_text hc with hletter | hspace
    · exact .inl (isAlpha_of_mem h w hw c hletter)
    · exact .inr (.inr hspace)

lemma toNat_lt_of_mem {c : Char} (h : t.IsNamed) (hc : c ∈ t.text) : c.toNat < 128 := by
  rcases mem_text h hc with hletter | rfl | rfl
  · have := code_of_isAlpha hletter
    omega
  · decide
  · decide

lemma normalToken_text (h : t.IsNamed) : normalToken t.text = t.token := by
  have hascii : ∀ c ∈ trim t.text, c.toNat < 128 := fun c hc =>
    toNat_lt_of_mem h (mem_of_mem_trim hc)
  rw [normalToken, lower, lowerFrom_of_ascii hascii, token]

lemma memberTokens_text (h : t.IsNamed) : memberTokens t.text = t.words.map Word.token := by
  have hbar : ∀ piece ∈ t.words.map Word.text, '|' ∉ piece := by
    intro piece hpiece hc
    obtain ⟨w, hw, rfl⟩ := List.mem_map.mp hpiece
    rcases Word.mem_text hc with hletter | hspace
    · exact absurd (isAlpha_of_mem h w hw _ hletter) (by decide)
    · exact absurd hspace (by decide)
  have hne : t.words.map Word.text ≠ [] := by
    rw [Ne, List.map_eq_nil_iff]
    exact t.words_ne_nil
  have hsplit : (splitOn '|' t.text).map trim = (t.words.map Word.text).map trim :=
    map_trim_splitOn_joinWith (fun _ hb => absurd hb List.not_mem_nil) (by decide) hne hbar
  have htokens : memberTokens t.text =
      ((splitOn '|' t.text).map trim).map fun cs => String.ofList (lower cs) := by
    rw [List.map_map]
    rfl
  rw [htokens, hsplit, List.map_map, List.map_map]
  apply List.map_congr_left
  intro w hw
  have hletters := isAlpha_of_mem h w hw
  have hascii : ∀ c ∈ w.letters, c.toNat < 128 := by
    intro c hc
    have := code_of_isAlpha (hletters c hc)
    omega
  rw [Function.comp_apply, Function.comp_apply, Word.trim_text hletters, lower,
    lowerFrom_of_ascii hascii, Word.token]

lemma bar_mem_text_iff (h : t.IsNamed) : '|' ∈ t.text ↔ 2 ≤ t.words.length := by
  have htokens := congrArg List.length (memberTokens_text h)
  rw [memberTokens, List.length_map, List.length_map, splitOn, length_splitWhere] at htokens
  rw [← List.count_pos_iff, List.count]
  omega

lemma isType_text {isBraced : Bool} (h : t.IsNamed)
    (hspaces : isBraced = false → ∀ w ∈ t.words, w.before = 0 ∧ w.after = 0) :
    IsType isBraced t.text [' '] := by
  cases isBraced with
  | true =>
    intro hbrace
    rcases mem_text h hbrace with hletter | hbar | hspace
    · exact absurd hletter (by decide)
    · exact absurd hbar (by decide)
    · exact absurd hspace (by decide)
  | false =>
    refine ⟨?_, fun c hc => ?_, List.cons_ne_nil ' ' []⟩
    · intro hnil
      have hnames : ∀ s ∈ enumToken :: typeNames, s ≠ "" := by decide
      obtain ⟨w, ws, hws⟩ := List.exists_cons_of_ne_nil t.words_ne_nil
      obtain ⟨s, hs, hspells⟩ := exists_token h w (hws ▸ List.mem_cons_self)
      have htokens := memberTokens_text h
      have hempty : memberTokens [] = [""] := rfl
      rw [hnil, hempty, hws, List.map_cons, Word.token_of_spells hspells] at htokens
      exact hnames s hs (List.cons.inj htokens).1.symm
    · rcases mem_joinWith hc with hmark | ⟨piece, hpiece, hc⟩
      · obtain rfl := List.mem_singleton.mp hmark
        decide
      · obtain ⟨w, hw, rfl⟩ := List.mem_map.mp hpiece
        obtain ⟨hbefore, hafter⟩ := hspaces rfl w hw
        have htext : w.text = w.letters := by simp [Word.text, hbefore, hafter]
        exact isTypeChar_of_isAlpha (isAlpha_of_mem h w hw c (htext ▸ hc))

end WrittenType

end Types

section Rest

variable {values : List (List Char)} {v name description : List Char} {form : NameForm}

lemma isName_write {after : List Char} (hname : IsPlain name) (hform : form.Fits name)
    (hafter : ∀ c ∈ after.head?, isBlank c = true) : IsName (form.write name) after := by
  have hbracket : ']' ∉ name := fun hc => absurd (hname.2 _ hc) (by decide)
  cases form with
  | plain =>
    refine .inr ⟨hname, fun c hc => ?_⟩
    simp [isNameChar, hafter c hc]
  | bracketed => exact .inl ⟨name, rfl, hname.1, hbracket⟩
  | withDefault default =>
    refine .inl ⟨name ++ '=' :: default, by simp [NameForm.write], by simp, ?_⟩
    rw [List.mem_append, List.mem_cons]
    rintro (hc | hc | hc)
    · exact hbracket hc
    · exact absurd hc (by decide)
    · exact hform.2 hc

lemma optionalName_write (hname : IsPlain name) (hform : form.Fits name) :
    optionalName (form.write name) = (form.isOptional, String.ofList name) := by
  have hchars (h : '=' ∉ name) : ∀ c ∈ name, (c != '=') = true := by
    intro c hc
    simpa using fun heq : c = '=' => h (heq ▸ hc)
  cases form with
  | plain => exact optionalName_of_plain hname
  | bracketed =>
    rw [NameForm.write, optionalName_of_bracketed, List.takeWhile_eq_self_iff.mpr (hchars hform),
      trim_of_isPlain hname]
    rfl
  | withDefault default =>
    have hinner : '[' :: (name ++ '=' :: (default ++ [']'])) =
        '[' :: ((name ++ '=' :: default) ++ [']']) := by simp
    rw [NameForm.write, hinner, optionalName_of_bracketed,
      (takeWhile_append_of_head (hchars hform.1) (by simp)).1, trim_of_isPlain hname]
    rfl

open WrittenDeclaration (described listed)

lemma trim_described (h : IsTrimmed description) :
    trim (described description) = if description = [] then ['-'] else described description := by
  by_cases hnil : description = []
  · rw [if_pos hnil, hnil]
    rfl
  · have htrimmed : IsTrimmed (described description) := by
      refine ⟨fun c hc => ?_, fun c hc => h.2 c ?_⟩
      · obtain rfl : '-' = c := Option.some.inj hc
        decide
      · rw [described, List.getLast?_cons, List.getLast?_cons] at hc
        rw [List.getLast?_eq_getLast_of_ne_nil hnil] at hc ⊢
        exact hc
    rw [if_neg hnil, htrimmed.trim_eq]

lemma trimDashes_described (h : IsTrimmed description) (hdash : description.head? ≠ some '-') :
    trimDashes (trim (described description)) = description := by
  rw [trim_described h]
  cases description with
  | nil => rfl
  | cons c description =>
    have hc : ¬(c == '-' || isBlank c) = true := by
      have hne : c ≠ '-' := fun heq => hdash (congrArg some heq)
      simp [hne, h.1 c rfl]
    have hdrop : trimDashes (described (c :: description)) = trimDashes (c :: description) := rfl
    rw [if_neg (List.cons_ne_nil c description), hdrop]
    exact List.dropWhile_cons_of_neg hc

lemma enumList?_described (h : IsTrimmed description) :
    enumList? (trim (described description)) = none := by
  rw [trim_described h]
  split <;> rfl

lemma map_trim_listed (hne : values ≠ []) (h : ∀ v ∈ values, IsListable v) :
    (splitOn ',' (trimLeft (joinWith [',', ' '] values))).map trim = values := by
  have hhead : trimLeft (joinWith [',', ' '] values) = joinWith [',', ' '] values := by
    obtain ⟨v, vs, rfl⟩ := List.exists_cons_of_ne_nil hne
    have hv := h v List.mem_cons_self
    obtain ⟨tail, htail⟩ := exists_joinWith_cons [',', ' '] v vs
    apply trimLeft_of_head?
    rw [htail, List.head?_append_of_ne_nil v hv.ne_nil]
    exact hv.isTrimmed.1
  have hblanks : ∀ b ∈ [' '], isBlank b = true := List.forall_mem_singleton.mpr (by decide)
  rw [hhead, map_trim_splitOn_joinWith hblanks (by decide) hne fun v hv => (h v hv).comma]
  exact List.map_congr_left (fun v hv => (h v hv).isTrimmed.trim_eq) |>.trans (List.map_id values)

lemma enumList?_listed (hne : values ≠ []) (h : ∀ v ∈ values, IsListable v) (after : List Char) :
    enumList? (listed values ++ after) = some (values, trimLeft after) := by
  have hbracket : ']' ∉ joinWith [',', ' '] values := by
    intro hc
    rcases mem_joinWith hc with hmark | ⟨v, hv, hc⟩
    · exact absurd hmark (by decide)
    · exact (h v hv).bracket hc
  have htext : listed values ++ after = '[' :: (joinWith [',', ' '] values ++ ']' :: after) := by
    simp [listed]
  rw [htext, enumList?, cutAt?_singleton hbracket]
  simp only [Option.map_some, map_trim_listed hne h]

end Rest

namespace WrittenDeclaration

variable {d : WrittenDeclaration}

lemma isBlank_head?_after (h : d.Proper) : ∀ c ∈ (d.gap ++ d.rest).head?, isBlank c = true := by
  intro c hc
  by_cases hgap : d.gap = []
  · -- without a gap nothing stands behind the name
    have hrest : d.rest = [] := by
      by_contra hne
      exact h.gap_ne_nil hne hgap
    rw [hgap, hrest] at hc
    cases hc
  · rw [List.head?_append_of_ne_nil _ hgap] at hc
    exact h.gap c (List.mem_of_mem_head? hc)

lemma proper_spelling (h : d.Proper) : d.spelling.Proper where
  tagGap := by
    rw [spelling, List.forall_mem_singleton]
    decide
  type := WrittenType.isType_text h.type h.spaces
  typeGap := by
    rw [spelling, List.forall_mem_singleton]
    decide
  name := isName_write h.name h.form (isBlank_head?_after h)

lemma parts?_text (h : d.Proper) : parts? d.text = some d.spelling.parts :=
  Spelling.parts?_text (proper_spelling h) h.newline

lemma trim_parts_rest (h : d.Proper) : trim d.spelling.parts.rest = trim d.rest := by
  have hblanks := trim_blanks h.gap (fun c hc => absurd hc List.not_mem_nil) d.rest
  rw [List.append_nil] at hblanks
  rw [Spelling.parts, trim_trimLeft]
  exact hblanks

lemma plain_parts (h : d.Proper) : d.spelling.parts.plain =
    { d.declared with description := String.ofList (trimDashes (trim d.rest)) } := by
  have htype : normalToken d.spelling.parts.type = d.type.token :=
    WrittenType.normalToken_text h.type
  have hname : optionalName d.spelling.parts.name = (d.form.isOptional, String.ofList d.name) :=
    optionalName_write h.name h.form
  rw [Parts.plain, htype, hname, trim_parts_rest h]
  rfl

lemma rest_of_values?_eq_none (h : d.Proper) (hvalues : d.type.values? = none) :
    trimDashes (trim d.rest) = d.description.getD [] ∧ enumList? (trim d.rest) = none := by
  rw [rest, hvalues]
  cases hdescription : d.description with
  | none => exact ⟨rfl, rfl⟩
  | some description =>
    have htrimmed := h.isTrimmed description hdescription
    exact ⟨trimDashes_described htrimmed (h.dash description hdescription),
      enumList?_described htrimmed⟩

lemma enumList?_of_values? {values : List (List Char)} (h : d.Proper)
    (hvalues : d.type.values? = some values) :
    ∃ rest, enumList? (trim d.rest) = some (values, rest) ∧
      trimDashes rest = d.description.getD [] := by
  obtain ⟨hne, hlistable⟩ := h.values values hvalues
  have hopen : ∀ after, trim (listed values ++ after) = trimRight (listed values ++ after) := by
    intro after
    rw [trim, listed, List.cons_append, trimLeft_cons (by decide)]
  rw [rest, hvalues]
  cases hdescription : d.description with
  | none =>
    have htrim : trim (listed values) = listed values ++ [] := by
      have hlast := hopen []
      rw [List.append_nil] at hlast ⊢
      rw [hlast, listed, ← List.cons_append, trimRight_concat (by decide)]
    refine ⟨[], ?_, rfl⟩
    simp only [htrim]
    exact enumList?_listed hne hlistable []
  | some description =>
    have htrimmed := h.isTrimmed description hdescription
    have hdash : '-' ∈ described description := List.mem_cons_self
    have hright : trimRight (described description) = trim (described description) := by
      rw [trim, described, trimLeft_cons (by decide)]
    have htrim : trim (listed values ++ ' ' :: described description) =
        listed values ++ ([' '] ++ trim (described description)) := by
      rw [hopen, trimRight_append_of_mem (List.mem_cons_of_mem ' ' hdash) (by decide),
        ← List.singleton_append, trimRight_append_of_mem hdash (by decide), hright]
    refine ⟨trim (described description), ?_, ?_⟩
    · have hblank : ∀ c ∈ [' '], isBlank c = true := List.forall_mem_singleton.mpr (by decide)
      simp only [htrim]
      rw [enumList?_listed hne hlistable, trimLeft_append hblank,
        trimLeft_of_head? (isTrimmed_trim _).1]
    · exact trimDashes_described htrimmed (h.dash description hdescription)

lemma plain_of_values?_eq_none (h : d.Proper) (hvalues : d.type.values? = none) :
    d.spelling.parts.plain = d.declared := by
  rw [plain_parts h, (rest_of_values?_eq_none h hvalues).1]
  rfl

lemma parse_of_types {first : Word} {others : List Word} (h : d.Proper)
    (ht : d.type = .types first others) :
    ∃ x, Declaration.parse d.text = .ok x ∧ d.meaning = .ok x := by
  have hp := parts?_text h
  have hplain := plain_of_values?_eq_none h (by rw [ht]; rfl)
  have htype : d.spelling.parts.type = d.type.text := rfl
  have htokens := WrittenType.memberTokens_text h.type
  have hwords : d.type.words = first :: others := by rw [ht]; rfl
  have hknown : ∀ t ∈ memberTokens d.type.text, t ∈ typeNames := by
    intro t hmem
    have hnamed := h.type
    rw [ht] at hnamed
    rw [htokens, hwords] at hmem
    obtain ⟨w, hw, rfl⟩ := List.mem_map.mp hmem
    obtain ⟨s, hs, hspells⟩ := hnamed w hw
    rwa [Word.token_of_spells hspells]
  have hbar := WrittenType.bar_mem_text_iff h.type
  rw [hwords] at htokens hbar
  cases others with
  | nil =>
    have hsingle : '|' ∉ d.type.text := by simp [hbar]
    rw [memberTokens_of_bar_not_mem hsingle, List.forall_mem_singleton] at hknown
    have hunion : ¬isUnionToken (normalToken d.spelling.parts.type).toList = true :=
      fun hunion => hsingle (isUnionToken_normalToken_iff.mp hunion)
    have henum : normalToken d.spelling.parts.type ≠ enumToken := by
      intro henum
      rw [htype] at henum
      rw [henum] at hknown
      exact enumToken_not_mem_typeNames hknown
    have hparse : Declaration.parse d.text = .ok d.spelling.parts.plain := by
      rw [parse_of_single hp hunion henum, htype, checkType_of_known hknown]
      rfl
    refine ⟨d.declared, ?_, ?_⟩
    · rw [hparse, hplain]
    · rw [meaning, ht]
  | cons second others =>
    have hunion : isUnionToken (normalToken d.spelling.parts.type).toList = true :=
      isUnionToken_normalToken_iff.mpr (hbar.mpr (by simp))
    refine ⟨{ d.declared with unionTypes := some ((first :: second :: others).map Word.token) },
      ?_, ?_⟩
    · rw [parse_of_union hp hunion, htype, checkUnion_of_known hknown, hplain, htokens]
      rfl
    · rw [meaning, ht]

lemma parse_of_enum {word : Word} {values : Option (List (List Char))} (h : d.Proper)
    (ht : d.type = .enum word values) :
    ∃ x, Declaration.parse d.text = .ok x ∧ d.meaning = .ok x := by
  have hp := parts?_text h
  have henum : normalToken d.spelling.parts.type = enumToken := by
    have hnamed := h.type
    have htokens := WrittenType.memberTokens_text h.type
    have hbar := WrittenType.bar_mem_text_iff h.type
    have hwords : d.type.words = [word] := by rw [ht]; rfl
    have hsingle : '|' ∉ d.type.text := by simp [hbar, hwords]
    rw [ht] at hnamed
    rw [memberTokens_of_bar_not_mem hsingle, hwords, List.map_singleton,
      Word.token_of_spells hnamed] at htokens
    exact (List.cons.inj htokens).1
  have hvalues : d.type.values? = values := by rw [ht]; rfl
  rw [Jsdoc.parse_of_enum hp henum, trim_parts_rest h, meaning, ht]
  cases values with
  | none =>
    rw [(rest_of_values?_eq_none h hvalues).2, plain_of_values?_eq_none h hvalues]
    exact ⟨_, rfl, rfl⟩
  | some values =>
    obtain ⟨rest, hlist, hrest⟩ := enumList?_of_values? h hvalues
    obtain ⟨-, hlistable⟩ := h.values values hvalues
    obtain ⟨⟨base, vs⟩, hclassify⟩ :=
      exists_classifyValues fun v hv => Number.not_isTooLong (hlistable v hv).digits
    rw [hlist, plain_parts h]
    simp only [hclassify, hrest]
    exact ⟨_, rfl, rfl⟩

/-- Reading a written declaration gives back what it was written for. -/
theorem parse_text (h : d.Proper) :
    ∃ x, Declaration.parse d.text = .ok x ∧ d.meaning = .ok x := by
  cases ht : d.type with
  | types first others => exact parse_of_types h ht
  | enum word values => exact parse_of_enum h ht

/-- A declaration whose parts hold marks of the parts beside them. -/
def modeDeclaration : WrittenDeclaration :=
  { isProperty := true
    isBraced := true
    type := .enum ⟨0, "Enum".toList, 1⟩ (some ["on".toList, "[off".toList, "2".toList])
    name := "mode".toList
    form := .withDefault "a = [b".toList
    gap := [' ']
    description := some "On, [off] - or 2.".toList }

theorem parse_text_modeDeclaration :
    modeDeclaration.text =
      "@property \x7bEnum \x7d [mode=a = [b] [on, [off, 2] - On, [off] - or 2.".toList ∧
    ∃ x, Declaration.parse modeDeclaration.text = .ok x ∧ modeDeclaration.meaning = .ok x := by
  have htext : modeDeclaration.text =
      "@property \x7bEnum \x7d [mode=a = [b] [on, [off, 2] - On, [off] - or 2.".toList := by
    decide
  have hproper : modeDeclaration.Proper :=
    { type := by unfold WrittenType.IsNamed modeDeclaration; decide
      spaces := nofun
      values := by decide
      name := ⟨by decide, List.all_eq_true.mp (by decide)⟩
      form := by unfold NameForm.Fits modeDeclaration; decide
      gap := List.forall_mem_singleton.mpr (by decide)
      gap_ne_nil := fun _ => List.cons_ne_nil ' ' []
      isTrimmed := by decide
      dash := by decide
      newline := by decide }
  exact ⟨htext, parse_text hproper⟩

end WrittenDeclaration

end Jsdoc

end CallSchema

import CallSchema.Extraction
import CallSchema.Proofs.PathParts

/-!
# The suffixes of sources that are found

The suffix of a found path is read off its text, and later, to tell the dialect, off the last
component of its normal form. The two differ on names that begin or end with dots, but not on a path
that was found for its suffix: so every source that is found has a dialect.
-/

namespace CallSchema

namespace Text

lemma head?_toList_append {s : String} {c : Char} (h : s.toList.head? = some c) (t : String) :
    (s ++ t).toList.head? = some c := by
  rw [String.toList_append, List.head?_append, h, Option.some_or]

end Text

namespace Path

open Text

variable {path front tail : List Char}

/-- A path with an extension ends in a name, in which something that is no dot stands before the
extension. -/
lemma extension_eq (h : extension path ≠ []) :
    ∃ before, atLastDot? (base path) = some (before, extension path) ∧
      before.all (· == '.') = false := by
  rw [extension] at h ⊢
  cases hdot : atLastDot? (base path) with
  | none => simp [hdot] at h
  | some found =>
    obtain ⟨before, suffix⟩ := found
    cases hall : before.all (· == '.') with
    | true => simp [hdot, hall] at h
    | false => exact ⟨before, by simp [hall], hall⟩

lemma extension_of_base (hbase : base path = front ++ '.' :: tail)
    (hfront : front.all (· == '.') = false) (htail : '.' ∉ tail) :
    extension path = '.' :: tail := by
  have hcut : cutAt? ['.'] (base path).reverse = some (tail.reverse, front.reverse) := by
    rw [cutAt?_singleton_eq_some_iff, hbase]
    simpa using htail
  rw [extension, atLastDot?, hcut]
  simp [hfront]

lemma namesDirectory_of_extension (h : extension path ≠ []) : namesDirectory path = false := by
  refine Bool.eq_false_iff.mpr fun hnames => h ?_
  have hbase : base path = [] ∨ base path = ['.'] ∨ base path = ['.', '.'] := by
    simpa [namesDirectory] using hnames
  rw [extension]
  rcases hbase with hbase | hbase | hbase <;> rw [hbase] <;> rfl

/-- An extension that is more than a dot is also the suffix of the name in the normal path. -/
theorem suffix_normalize (h : extension path ≠ []) (hdot : extension path ≠ ['.']) :
    Path.suffix (normalize path) = extension path := by
  obtain ⟨before, hcut, hall⟩ := extension_eq h
  have hbefore : before.isEmpty = false := by
    cases before with
    | nil => cases hall
    | cons c before => rfl
  rw [Path.suffix, name_normalize (namesDirectory_of_extension h), splitName, hcut]
  simp [hbefore, hdot]

end Path

namespace FileTree

variable {α : Type} {root : FileTree α} {path : String}

lemma suffix_normalize_of_isSource {found : List Char} (h : isSource found = true) :
    Path.suffix (Path.normalize found) = Path.extension found := by
  refine Path.suffix_normalize (fun hnil => ?_) (fun hdot => ?_)
  · rw [isSource, hnil] at h
    exact absurd h (by decide)
  · rw [isSource, hdot] at h
    exact absurd h (by decide)

lemma mem_sourceFiles {directory : List Char} {patterns : List (List Char)} :
    path ∈ root.sourceFiles directory patterns ↔
      ∃ pattern ∈ if patterns.isEmpty then sourcePatterns else patterns,
        ∃ found ∈ root.filesLike (Path.join directory pattern),
          isSource found = true ∧ path = String.ofList (Path.normalize found) := by
  simp only [sourceFiles, List.mem_eraseDups, List.mem_mergeSort, List.mem_map, List.mem_filter,
    List.mem_flatMap]
  constructor
  · rintro ⟨found, ⟨⟨pattern, hpattern, hfound⟩, hsource⟩, rfl⟩
    exact ⟨pattern, hpattern, found, hfound, hsource, rfl⟩
  · rintro ⟨pattern, hpattern, found, hfound, hsource, rfl⟩
    exact ⟨found, ⟨⟨pattern, hpattern, hfound⟩, hsource⟩, rfl⟩

end FileTree

lemma message_raised (kind message : String) : (raised kind message).message = message := rfl

namespace Sources

variable {files : Sources} {path : String} {e : Failure}

/-- The first character of a message about a file that cannot be read. -/
def faultMarks : List (Option Char) := [some '[', some 'e', some '\'']

lemma head?_message_failure (f : PathFault) (path : List Char) :
    (f.failure path).message.toList.head? ∈ faultMarks := by
  have hreport : ∀ kind number text,
      (PathFault.report kind number text path).message.toList.head? ∈ faultMarks := by
    intro kind number text
    have hmessage : (PathFault.report kind number text path).message =
        "[Errno " ++ (toString number ++ ("] " ++ (text ++ (": " ++
          String.ofList (Text.quotedList path))))) := by
      rw [PathFault.report, message_raised]
      simp only [String.append_assoc]
    rw [hmessage, Text.head?_toList_append (s := "[Errno ") (c := '[') (by decide)]
    decide
  cases f with
  | nullCharacter =>
    change Failure.nullInPath.message.toList.head? ∈ faultMarks
    decide
  | missing | taken | notDirectory | isDirectory =>
    rw [PathFault.failure]
    exact hreport _ _ _

lemma head?_message_of_readText (h : files.readText path = .error e) :
    e.message.toList.head? ∈ faultMarks := by
  rw [readText] at h
  cases hread : files.read (Path.clean path.toList) with
  | error f =>
    rw [hread] at h
    obtain rfl : f = e := Except.error.inj h
    rw [FileTree.read] at hread
    split at hread
    · obtain rfl := Except.error.inj hread
      exact head?_message_failure _ _
    · split at hread
      · cases hread
      · obtain rfl := Except.error.inj hread
        exact head?_message_failure _ _
  | ok content =>
    rw [hread] at h
    change textOf content.data = .error e at h
    rw [textOf] at h
    split at h
    · cases h
    · rename_i fault _
      obtain rfl := Except.error.inj h
      have hmessage : ∃ rest, (raised "UnicodeDecodeError" fault.message).message =
          "'utf-8' codec can't decode " ++ rest := by
        rw [message_raised]
        delta Text.Utf8Error.message
        rw [String.append_assoc, String.append_assoc]
        exact ⟨_, rfl⟩
      obtain ⟨rest, hrest⟩ := hmessage
      rw [hrest, Text.head?_toList_append (s := "'utf-8' codec can't decode ") (c := '\'')
        (by decide)]
      decide

lemma unit_ne_unsupported {d : Dialect} (h : Dialect.ofPath? path.toList = some d) :
    files.unit path ≠ .error (unsupported path) := by
  unfold unit
  rw [h]
  cases d with
  | typed =>
    intro hunit
    cases hunit
  | untyped =>
    intro hunit
    have htext : files.untypedText path = .error (unsupported path) := by
      cases htext : files.untypedText path with
      | ok text =>
        rw [htext] at hunit
        cases hunit
      | error e =>
        rw [htext] at hunit
        exact congrArg Except.error (Except.error.inj hunit)
    rw [untypedText] at htext
    split at htext
    · cases htext
    · rename_i e he
      have hhead := head?_message_of_readText he
      have hunreadable : unreadable path e = unsupported path := Except.error.inj htext
      have hmessage : e.message = "unsupported file type " ++
          String.ofList (Text.quotedList (Path.suffix path.toList)) := by
        by_cases hnull : e = .nullInPath
        · subst hnull
          cases hunreadable
        · rw [unreadable] at hunreadable
          · exact (Failure.sourceNotFound.inj hunreadable).2
          · exact hnull
      rw [hmessage, Text.head?_toList_append (s := "unsupported file type ") (c := 'u')
        (by decide)] at hhead
      exact absurd hhead (by decide)

end Sources

namespace FileTree

/-- Every source that is found has a dialect, whatever it was looked for with: its suffix is the
extension with which it was found. So it is never reported as one of an unsupported type. -/
theorem ofPath?_of_mem_sourceFiles {α : Type} (root : FileTree α) (directory : List Char)
    (patterns : List (List Char)) (path : String) (h : path ∈ root.sourceFiles directory patterns) :
    (∃ pattern found, found ∈ root.filesLike (Path.join directory pattern) ∧
        path = String.ofList (Path.normalize found) ∧ Path.extension found ≠ [] ∧
        Path.suffix path.toList = Path.extension found) ∧
      (Dialect.ofPath? path.toList).isSome = true ∧
      ∀ files : Sources, files.unit path ≠ .error (Sources.unsupported path) := by
  obtain ⟨pattern, -, found, hfound, hsource, rfl⟩ := mem_sourceFiles.mp h
  have hsuffix :
      Path.suffix (String.ofList (Path.normalize found)).toList = Path.extension found := by
    rw [String.toList_ofList]
    exact suffix_normalize_of_isSource hsource
  have hextension : Path.extension found ≠ [] := by
    intro hnil
    rw [isSource, hnil] at hsource
    exact absurd hsource (by decide)
  have hdialect :
      (Dialect.ofPath? (String.ofList (Path.normalize found)).toList).isSome = true := by
    rw [Dialect.ofPath?, hsuffix]
    exact hsource
  obtain ⟨d, hd⟩ := Option.isSome_iff_exists.mp hdialect
  exact ⟨⟨pattern, found, hfound, rfl, hextension, hsuffix⟩, hdialect,
    fun files => Sources.unit_ne_unsupported hd⟩

/-- Files whose names have dots in all places, some of them hidden. -/
def dottedFiles : FileTree Unit :=
  .directory
    [("web", .directory
      [("App.min.JSX", .file ()), ("..py", .file ()), (".py", .file ()), ("notes.py.", .file ())])]

theorem ofPath?_of_mem_sourceFiles_dotted :
    "web/App.min.JSX" ∈ dottedFiles.sourceFiles "web".toList ["*".toList, ".*".toList] ∧
      Dialect.ofPath? "web/App.min.JSX".toList = some .untyped ∧
      ∀ files : Sources,
        files.unit "web/App.min.JSX" ≠ .error (Sources.unsupported "web/App.min.JSX") := by
  have hfound : dottedFiles.sourceFiles "web".toList ["*".toList, ".*".toList] =
      ["web/App.min.JSX"] := by decide +kernel
  have hmem := hfound ▸ List.mem_singleton_self "web/App.min.JSX"
  have hdialect := ofPath?_of_mem_sourceFiles dottedFiles _ _ _ hmem
  exact ⟨hmem, by decide +kernel, hdialect.2.2⟩

end FileTree

end CallSchema

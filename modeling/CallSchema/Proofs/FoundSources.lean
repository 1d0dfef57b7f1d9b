import CallSchema.Proofs.SourceSuffixes
import CallSchema.Proofs.VisibleFiles

/-!
# The sources that are found below a directory

The patterns for sources find every file below a directory whose name ends in the suffix of a
source, unless it or a directory on the way to it is hidden: each once, in order, at its normal path.
The path of the directory is part of the patterns, so it must have no character with a meaning there.
-/

namespace CallSchema

namespace Wildcard

variable {cs ds : List Char}

lemma anyTail_iff {p : List Char → Bool} :
    anyTail p cs = true ↔ ∃ tail, tail <:+ cs ∧ p tail = true := by
  induction cs with
  | nil => simp [anyTail]
  | cons c cs ih =>
    rw [anyTail, Bool.or_eq_true, ih]
    constructor
    · rintro (hall | ⟨tail, htail, hp⟩)
      · exact ⟨c :: cs, List.suffix_rfl, hall⟩
      · exact ⟨tail, htail.trans (List.suffix_cons c cs), hp⟩
    · rintro ⟨tail, htail, hp⟩
      rcases List.suffix_cons_iff.mp htail with rfl | htail
      · exact .inl hp
      · exact .inr ⟨tail, htail, hp⟩

lemma accepts_chars : accepts (cs.map char) ds = true ↔ ds = cs := by
  induction cs generalizing ds with
  | nil => cases ds <;> simp [accepts]
  | cons c cs ih =>
    cases ds with
    | nil => simp [accepts]
    | cons d ds => simp [accepts, fits, ih]

lemma accepts_ending : accepts (many :: cs.map char) ds = true ↔ cs <:+ ds := by
  rw [accepts, anyTail_iff]
  constructor
  · rintro ⟨tail, htail, haccepts⟩
    exact accepts_chars.mp haccepts ▸ htail
  · exact fun h => ⟨cs, h, accepts_chars.mpr rfl⟩

end Wildcard

namespace Path

open Text

variable {path : List Char}

lemma normalize_of_walk {α : Type} {root : FileTree α} {names : List String}
    (hroot : Path.root path = []) (hwalk : root.walk [] (parts path) = .ok names)
    (hne : names ≠ []) :
    normalize path = joinWith ['/'] (names.map String.toList) := by
  have hdone := FileTree.steps_of_walk (List.forall_mem_nil _) hwalk
  have hnormal : normalParts path = (names.map String.toList).reverse := by
    rw [normalParts, hroot]
    exact hdone
  have hshown : Path.root path ++ joinWith ['/'] (normalParts path).reverse =
      joinWith ['/'] (names.map String.toList) := by
    rw [hnormal, List.reverse_reverse, hroot, List.nil_append]
  rw [normalize_eq, hshown]
  refine if_neg fun hnil => hne ?_
  have hparts : ∀ x ∈ names.map String.toList, IsPart x := by
    intro x hx
    have hpart : x ∈ normalParts path → IsPart x := isPart_of_mem_normalParts
    exact hpart (hnormal ▸ List.mem_reverse.mpr hx)
  exact List.map_eq_nil_iff.mp ((joinWith_eq_nil_iff hparts).mp hnil)

end Path

namespace PathStep

variable {path : List Char}

lemma map_ofComponent_parts (h : Wildcard.hasMagic path = false) :
    (Path.parts path).map ofComponent = (Path.parts path).map name := by
  have hmagic : ∀ c ∈ path, Wildcard.isMagic c = false := Text.forall_of_any h
  refine List.map_congr_left fun part hpart => ?_
  have hpartMagic : ∀ c ∈ part, Wildcard.isMagic c = false := by
    intro c hc
    by_cases hslash : c = '/'
    · exact absurd (hslash ▸ hc) (Path.isPart_of_mem_parts hpart).noSlash
    · refine hmagic c ((Text.exists_mem_splitWhere (p := (· == '/')) ?_).mp
        ⟨part, (List.mem_filter.mp hpart).1, hc⟩)
      simpa using hslash
  have hnone : Wildcard.hasMagic part = false := by
    rw [Wildcard.hasMagic, List.any_eq_false]
    exact fun c hc => by simp [hpartMagic c hc]
  have hstars : part ≠ ['*', '*'] := by
    rintro rfl
    exact absurd hnone (by decide)
  rw [ofComponent, if_neg hstars, hnone]
  rfl

end PathStep

namespace FileTree

variable {α : Type} {root node : FileTree α} {dir parts : List Char} {place names : List String}
  {es : List (String × FileTree α)} {done front found : List (List Char)} {pattern : List Wildcard}
  {steps : List PathStep}

lemma walk_of_locate (h : root.locate dir = .ok place) :
    dir ≠ [] ∧ Path.root dir = [] ∧ Path.hasNull dir = false ∧
      root.walk [] (Path.parts dir) = .ok place := by
  cases hnull : Path.hasNull dir with
  | true => simp [locate, hnull, bind, Except.bind] at h
  | false =>
    rw [locate, hnull] at h
    simp only [Bool.false_eq_true, if_false] at h
    split at h
    · cases h
    · rename_i hpath
      cases hwalk : root.walk [] (Path.parts dir) with
      | error f =>
        rw [hwalk] at h
        cases h
      | ok names =>
        rw [hwalk] at h
        simp only [bind, Except.bind] at h
        have hnames : names = place := by
          split at h
          · split at h
            · cases h
            · exact Except.ok.inj h
          · exact Except.ok.inj h
        have hgiven : dir ≠ [] ∧ Path.root dir = [] := by simpa using hpath
        exact ⟨hgiven.1, hgiven.2, rfl, congrArg Except.ok hnames⟩

lemma expand_names (root : FileTree α) (done front : List (List Char)) (steps : List PathStep) :
    root.expand done (front.map .name ++ steps) = root.expand (done ++ front) steps := by
  induction front generalizing done with
  | nil => rw [List.append_nil]; rfl
  | cons part front ih =>
    rw [List.map_cons, List.cons_append, expand, ih, List.append_assoc]
    rfl

lemma reach?_names (hproper : root.IsProper) (hwalk : root.walk [] front = .ok place)
    (hplace : root.below? place = some node) (h : (node.below? names).isSome = true) :
    root.reach? (front ++ names.map String.toList) = node.below? names := by
  obtain ⟨child, hchild⟩ := Option.isSome_iff_exists.mp h
  have hnode : node.IsProper := (hproper.below hplace).1
  have hnames := (hnode.below hchild).2
  have hstep := walk_names hplace (fun n hn => (hnames n hn).notUp) h
  have hall : root.walk [] (front ++ names.map String.toList) = .ok (place ++ names) := by
    rw [walk_append, hwalk]
    exact hstep
  rw [reach?, hall]
  change root.below? (place ++ names) = _
  rw [below?_append, hplace]
  rfl

lemma mem_keys_entries {n : String} :
    n ∈ Keyed.keys node.entries ↔ (node.below? [n]).isSome = true := by
  rw [← Keyed.isSome_get?, below?]
  cases Keyed.get? node.entries n <;> rfl

lemma mem_expand_anywhere (hproper : root.IsProper) (hwalk : root.walk [] front = .ok place)
    (hplace : root.below? place = some (directory es)) :
    found ∈ root.expand front [.anywhere, .like pattern false] ↔
      ∃ names n, AreShown (names ++ [n]) ∧ Wildcard.accepts pattern n.toList = true ∧
        ((directory es).below? (names ++ [n])).isSome = true ∧
        found = front ++ (names ++ [n]).map String.toList := by
  have hnode : (directory es).IsProper := (hproper.below hplace).1
  have hreach : root.reach? front = some (directory es) := by
    rw [reach?, hwalk]
    exact hplace
  -- the directory itself is one of those in which names are compared with the pattern
  have hwithin : ∀ names, names ∈ [] :: visibleIn es ↔
      AreShown names ∧ ((directory es).below? names).isSome = true := by
    intro names
    rw [List.mem_cons, mem_visibleIn es hnode.1 hnode.2 names]
    cases names with
    | nil => simp [AreShown, below?]
    | cons n names => simp
  have hlike : ∀ names, names ∈ [] :: visibleIn es →
      (found ∈ root.expand (front ++ names.map String.toList) [.like pattern false] ↔
        ∃ n, isHidden n = false ∧ Wildcard.accepts pattern n.toList = true ∧
          ((directory es).below? (names ++ [n])).isSome = true ∧
          found = front ++ (names ++ [n]).map String.toList) := by
    intro names hnames
    obtain ⟨child, hchild⟩ := Option.isSome_iff_exists.mp ((hwithin names).mp hnames).2
    rw [expand, reach?_names hproper hwalk hplace ((hwithin names).mp hnames).2, hchild]
    simp only [Option.map_some, Option.getD_some, List.mem_flatMap, List.mem_filter,
      mem_keys_entries, expand, List.mem_singleton, Bool.false_or, Bool.and_eq_true,
      Bool.not_eq_true', below?_append, hchild, Option.bind_some, List.map_append, List.map_cons,
      List.map_nil, List.append_assoc]
    constructor
    · rintro ⟨n, ⟨hsome, hhidden, haccepts⟩, rfl⟩
      exact ⟨n, hhidden, haccepts, hsome, rfl⟩
    · rintro ⟨n, hhidden, haccepts, hsome, rfl⟩
      exact ⟨n, ⟨hsome, hhidden, haccepts⟩, rfl⟩
  rw [expand, hreach]
  simp only [List.mem_flatMap]
  constructor
  · rintro ⟨names, hnames, hfound⟩
    obtain ⟨n, hhidden, haccepts, hsome, rfl⟩ := (hlike names hnames).mp hfound
    refine ⟨names, n, fun k hk => ?_, haccepts, hsome, rfl⟩
    rcases List.mem_append.mp hk with hk | hk
    · exact ((hwithin names).mp hnames).1 k hk
    · exact List.mem_singleton.mp hk ▸ hhidden
  · rintro ⟨names, n, hshown, haccepts, hsome, rfl⟩
    have hnames : names ∈ [] :: visibleIn es := (hwithin names).mpr
      ⟨fun k hk => hshown k (List.mem_append_left _ hk), isSome_below?_dropLast hsome⟩
    exact ⟨names, hnames, (hlike names hnames).mpr
      ⟨n, hshown n (by simp), haccepts, hsome, rfl⟩⟩

lemma locate_joinWith {c : α} (hproper : root.IsProper)
    (hfile : root.below? names = some (file c)) (hne : names ≠ []) :
    root.locate (Text.joinWith ['/'] (names.map String.toList)) = .ok names := by
  have hnames := (hproper.below hfile).2
  have hparts : ∀ x ∈ names.map String.toList, Path.IsPart x :=
    List.forall_mem_map.mpr fun n hn => (hnames n hn).isPart
  refine locate_of_walk ?_ ?_ ?_ ?_
  · rw [Path.hasNull, ← Bool.not_eq_true, List.contains_iff_mem, Path.null_mem_joinWith]
    rintro ⟨x, hx, hnull⟩
    obtain ⟨n, hn, rfl⟩ := List.mem_map.mp hx
    exact (hnames n hn).noNull hnull
  · rw [Path.root_joinWith hparts, List.isEmpty_nil, Bool.not_true, Bool.or_false,
      List.isEmpty_eq_false_iff]
    intro hnil
    exact hne (List.map_eq_nil_iff.mp ((Path.joinWith_eq_nil_iff hparts).mp hnil))
  · rw [Path.parts_joinWith hparts]
    exact walk_names rfl (fun n hn => (hnames n hn).notUp) (by rw [hfile]; rfl)
  · obtain ⟨front, n, rfl⟩ := (List.eq_nil_or_concat' names).resolve_left hne
    have hn := hnames n (by simp)
    have hup : n.toList ≠ ['.', '.'] := fun heq => hn.notUp (String.toList_injective heq)
    rw [Path.namesDirectory, List.map_append, List.map_singleton, Path.base_joinWith hn.noSlash]
    simp [hn.nonempty, hn.isPart.moves, hup]

lemma pairwise_eraseDups {paths : List String} (h : paths.Pairwise (· ≤ ·)) :
    paths.eraseDups.Pairwise (· < ·) := by
  induction hlength : paths.length using Nat.strongRecOn generalizing paths with
  | ind n ih =>
    cases paths with
    | nil => exact List.Pairwise.nil
    | cons path paths =>
      obtain ⟨hfirst, hrest⟩ := List.pairwise_cons.mp h
      rw [List.eraseDups_cons]
      refine List.Pairwise.cons (fun other hother => ?_) ?_
      · obtain ⟨hmem, hne⟩ := List.mem_filter.mp (List.mem_eraseDups.mp hother)
        refine Std.lt_of_le_of_ne (hfirst other hmem) ?_
        rintro rfl
        simp at hne
      · refine ih _ ?_ (hrest.filter _) rfl
        rw [← hlength]
        exact Nat.lt_succ_of_le (List.length_filter_le ..)

/-- Sources are found in order, each once. -/
theorem pairwise_sourceFiles {α : Type} (root : FileTree α) (directory : List Char)
    (patterns : List (List Char)) : (root.sourceFiles directory patterns).Pairwise (· < ·) := by
  refine pairwise_eraseDups ?_
  refine (List.pairwise_mergeSort ?_ ?_ _).imp of_decide_eq_true
  · intro a b c hab hbc
    exact decide_eq_true (String.le_trans (of_decide_eq_true hab) (of_decide_eq_true hbc))
  · intro a b
    simpa using String.le_total a b

/-- The ends of the names of sources. -/
def sourceSuffixes : List (List Char) :=
  [".py".toList, ".js".toList, ".mjs".toList, ".cjs".toList, ".jsx".toList]

/-- The pattern for the sources whose names end in a suffix. -/
def patternOf (suffix : List Char) : List Char := "**/*".toList ++ suffix

lemma sourcePatterns_eq : sourcePatterns = sourceSuffixes.map patternOf := rfl

/-- What the names of one kind of source end in. -/
structure IsSourceSuffix (suffix : List Char) : Prop where
  dotted : ∃ tail, suffix = '.' :: tail ∧ '.' ∉ tail
  noSlash : '/' ∉ suffix
  known : (Dialect.ofSuffix? (Text.lower suffix)).isSome = true
  steps : (Path.parts (patternOf suffix)).map PathStep.ofComponent =
    [.anywhere, .like (.many :: suffix.map .char) false]

lemma isSourceSuffix_of_mem {suffix : List Char} (h : suffix ∈ sourceSuffixes) :
    IsSourceSuffix suffix := by
  have hdotted : ∀ s ∈ sourceSuffixes, s = '.' :: s.tail ∧ '.' ∉ s.tail ∧ '/' ∉ s ∧
      (Dialect.ofSuffix? (Text.lower s)).isSome = true := by decide +kernel
  have hsteps : ∀ s ∈ sourceSuffixes, (Path.parts (patternOf s)).map PathStep.ofComponent =
      [.anywhere, .like (.many :: s.map .char) false] := by
    simp only [sourceSuffixes, List.forall_mem_cons]
    exact ⟨rfl, rfl, rfl, rfl, rfl, List.forall_mem_nil _⟩
  obtain ⟨hdot, htail, hslash, hknown⟩ := hdotted suffix h
  exact ⟨⟨suffix.tail, hdot, htail⟩, hslash, hknown, hsteps suffix h⟩

lemma isSource_of_base {path suffix : List Char} (hsuffix : IsSourceSuffix suffix)
    (hbase : suffix <:+ Path.base path) (hshown : (Path.base path).head? ≠ some '.') :
    isSource path = true := by
  obtain ⟨tail, rfl, htail⟩ := hsuffix.dotted
  obtain ⟨front, hfront⟩ := hbase
  have hall : front.all (· == '.') = false := by
    rw [← hfront] at hshown
    cases front with
    | nil => exact absurd rfl hshown
    | cons c front =>
      refine List.all_eq_false.mpr ⟨c, List.mem_cons_self, fun hc => hshown ?_⟩
      exact congrArg some (beq_iff_eq.mp hc)
  rw [isSource, Path.extension_of_base hfront.symm hall htail]
  exact hsuffix.known

/-- Names that lead from a place to a source: to a file, past no hidden name, the last of which ends
in a suffix of sources. -/
structure IsSourceAt (root : FileTree α) (place names : List String) : Prop where
  isFile : ∃ c, root.below? (place ++ names) = some (file c)
  shown : AreShown names
  suffixed : ∃ s ∈ sourceSuffixes, ∃ n ∈ names.getLast?, s <:+ n.toList

lemma IsSourceAt.ne_nil (h : IsSourceAt root place names) : names ≠ [] := by
  obtain ⟨s, -, n, hn, -⟩ := h.suffixed
  rintro rfl
  cases hn

section

variable (hproper : root.IsProper) (hlocate : root.locate dir = .ok place)
  (hplace : root.below? place = some (directory es))

include hproper hlocate hplace

lemma normalize_pathOf {c : α} (hfile : root.below? (place ++ names) = some (file c))
    (hne : names ≠ []) :
    Path.normalize (pathOf (Path.parts dir ++ names.map String.toList)) =
      Text.joinWith ['/'] ((place ++ names).map String.toList) := by
  obtain ⟨-, -, -, hwalk⟩ := walk_of_locate hlocate
  have hbelow : (directory es).below? names = some (file c) := by
    rwa [below?_append, hplace] at hfile
  have hnames := ((hproper.below hplace).1.below hbelow).2
  have hparts : ∀ x ∈ Path.parts dir ++ names.map String.toList, Path.IsPart x := by
    intro x hx
    rcases List.mem_append.mp hx with hx | hx
    · exact Path.isPart_of_mem_parts hx
    · obtain ⟨n, hn, rfl⟩ := List.mem_map.mp hx
      exact (hnames n hn).isPart
  refine Path.normalize_of_walk (Path.root_joinWith hparts) (?_ : root.walk [] _ = _) ?_
  · rw [pathOf, Path.parts_joinWith hparts, walk_append, hwalk]
    exact walk_names hplace (fun n hn => (hnames n hn).notUp) (by rw [hbelow]; rfl)
  · simp [hne]

/-- The pattern for one kind of source finds the files that names without hidden ones lead to, the
last of which ends as that kind does. -/
lemma mem_filesLike_patternOf {suffix path : List Char} (hmagic : Wildcard.hasMagic dir = false)
    (hsuffix : IsSourceSuffix suffix) :
    path ∈ root.filesLike (Path.join dir (patternOf suffix)) ↔
      ∃ names n c, AreShown (names ++ [n]) ∧ suffix <:+ n.toList ∧
        root.below? (place ++ (names ++ [n])) = some (file c) ∧
        path = pathOf (Path.parts dir ++ (names ++ [n]).map String.toList) := by
  obtain ⟨hdir, hroot, -, hwalk⟩ := walk_of_locate hlocate
  have hrelative : (patternOf suffix).head? ≠ some '/' := by
    simp [patternOf]
  have hbase : Path.base (Path.join dir (patternOf suffix)) = '*' :: suffix := by
    obtain ⟨front, hjoin, -⟩ := Path.exists_join hdir hrelative
    rw [hjoin, Path.base_append_slash]
    change Path.base ("**".toList ++ '/' :: '*' :: suffix) = _
    rw [Path.base_append_slash]
    exact Path.base_of_noSlash (List.not_mem_cons_of_ne_of_not_mem (by decide) hsuffix.noSlash)
  have hname : Path.namesDirectory (Path.join dir (patternOf suffix)) = false := by
    rw [Path.namesDirectory, hbase]
    simp
  have hsteps : (Path.parts (Path.join dir (patternOf suffix))).map PathStep.ofComponent =
      (Path.parts dir).map .name ++ [.anywhere, .like (.many :: suffix.map .char) false] := by
    rw [Path.parts_join hdir hrelative, List.map_append, PathStep.map_ofComponent_parts hmagic,
      hsuffix.steps]
  have hbelow : ∀ names, (directory es).below? names = root.below? (place ++ names) := by
    intro names
    rw [below?_append, hplace]
    rfl
  rw [filesLike, Path.root_join hdir hroot hrelative, hname, if_neg (by simp)]
  simp only [List.mem_map, List.mem_filter, hsteps, expand_names, List.nil_append,
    mem_expand_anywhere hproper hwalk hplace, Wildcard.accepts_ending]
  constructor
  · rintro ⟨_, ⟨⟨names, n, hshown, hends, hsome, rfl⟩, hisFile⟩, rfl⟩
    rw [reach?_names hproper hwalk hplace hsome, hbelow] at hisFile
    rw [hbelow] at hsome
    obtain ⟨node, hnode⟩ := Option.isSome_iff_exists.mp hsome
    cases node with
    | file c => exact ⟨names, n, c, hshown, hends, hnode, rfl⟩
    | directory es =>
      rw [hnode] at hisFile
      cases hisFile
  · rintro ⟨names, n, c, hshown, hends, hfile, rfl⟩
    have hsome : ((directory es).below? (names ++ [n])).isSome = true := by
      rw [hbelow, hfile]
      rfl
    refine ⟨_, ⟨⟨names, n, hshown, hends, hsome, rfl⟩, ?_⟩, rfl⟩
    rw [reach?_names hproper hwalk hplace hsome, hbelow, hfile]
    rfl

/-- The sources that are found without patterns are those that names lead to from the place that is
searched, at the path that the names make up from the root on. -/
lemma mem_sourceFiles_default {path : String} (hmagic : Wildcard.hasMagic dir = false) :
    path ∈ root.sourceFiles dir [] ↔
      ∃ names, IsSourceAt root place names ∧ path = "/".intercalate (place ++ names) := by
  have hpath : ∀ {names c}, root.below? (place ++ names) = some (file c) → names ≠ [] →
      String.ofList (Path.normalize (pathOf (Path.parts dir ++ names.map String.toList))) =
        "/".intercalate (place ++ names) := by
    intro names c hfile hne
    rw [normalize_pathOf hproper hlocate hplace hfile hne]
    exact String.toList_injective (by rw [String.toList_ofList, String.toList_intercalate]; rfl)
  rw [mem_sourceFiles]
  simp only [List.isEmpty_nil, if_true, sourcePatterns_eq, List.mem_map]
  constructor
  · rintro ⟨_, ⟨s, hs, rfl⟩, found, hfound, -, rfl⟩
    obtain ⟨names, n, c, hshown, hends, hfile, rfl⟩ :=
      (mem_filesLike_patternOf hproper hlocate hplace hmagic (isSourceSuffix_of_mem hs)).mp hfound
    refine ⟨names ++ [n], ⟨⟨c, hfile⟩, hshown, s, hs, n, ?_, hends⟩, hpath hfile (by simp)⟩
    exact List.getLast?_concat
  · rintro ⟨names, hsource, rfl⟩
    obtain ⟨front, n, rfl⟩ := (List.eq_nil_or_concat' names).resolve_left hsource.ne_nil
    obtain ⟨c, hfile⟩ := hsource.isFile
    obtain ⟨s, hs, last, hlast, hends⟩ := hsource.suffixed
    obtain rfl : n = last := Option.some.inj (List.getLast?_concat.symm.trans hlast)
    have hsuffix := isSourceSuffix_of_mem hs
    have hn : IsEntryName n := (hproper.below hfile).2 n (by simp)
    refine ⟨_, ⟨s, hs, rfl⟩, _, (mem_filesLike_patternOf hproper hlocate hplace hmagic hsuffix).mpr
      ⟨front, n, c, hsource.shown, hends, hfile, rfl⟩, ?_, (hpath hfile (by simp)).symm⟩
    have hbase : Path.base (pathOf (Path.parts dir ++ (front ++ [n]).map String.toList)) =
        n.toList := by
      rw [pathOf, List.map_append, List.map_singleton, ← List.append_assoc]
      exact Path.base_joinWith hn.noSlash
    have hshown : isHidden n = false := hsource.shown n (by simp)
    refine isSource_of_base hsuffix (hbase ▸ hends) ?_
    rw [hbase]
    exact of_decide_eq_false hshown

end

/-- Below a directory whose path has no character that means something else in a pattern, exactly
the visible files are found whose names end as those of sources do: in order, each once, at the path
from the root at which it is located. -/
theorem sourceFiles_default {α : Type} (root : FileTree α) (dir : List Char) (place : List String)
    (es : List (String × FileTree α)) (hproper : root.IsProper)
    (hlocate : root.locate dir = .ok place) (hplace : root.below? place = some (directory es))
    (hmagic : Wildcard.hasMagic dir = false) :
    (root.sourceFiles dir []).Pairwise (· < ·) ∧
      (∀ path, path ∈ root.sourceFiles dir [] ↔
        ∃ names, IsSourceAt root place names ∧ path = "/".intercalate (place ++ names)) ∧
      ∀ names, IsSourceAt root place names →
        root.locate ("/".intercalate (place ++ names)).toList = .ok (place ++ names) := by
  refine ⟨pairwise_sourceFiles root dir [],
    fun path => mem_sourceFiles_default hproper hlocate hplace hmagic, fun names hsource => ?_⟩
  obtain ⟨c, hfile⟩ := hsource.isFile
  rw [String.toList_intercalate]
  exact locate_joinWith hproper hfile (by simp [hsource.ne_nil])

/-- Files of a site: sources of several kinds and depths, hidden ones, and a page in a directory
whose name stands in brackets. -/
def siteFiles : FileTree Unit :=
  directory
    [("web", directory
      [("main.py", file ()), ("lib", directory [("util.min.mjs", file ()), ("README", file ())]),
        (".cache", directory [("old.js", file ())]), (".setup.py", file ()), ("App.JSX", file ()),
        ("[id]", directory [("page.js", file ())])])]

lemma isProper_siteFiles : siteFiles.IsProper := by
  simp only [siteFiles, IsProper, AreProper]
  decide

theorem sourceFiles_default_site :
    siteFiles.IsProper ∧ siteFiles.locate "web/../web/".toList = .ok ["web"] ∧
      IsSourceAt siteFiles ["web"] ["lib", "util.min.mjs"] ∧
      (siteFiles.sourceFiles "web/../web/".toList []).Pairwise (· < ·) ∧
      "web/lib/util.min.mjs" ∈ siteFiles.sourceFiles "web/../web/".toList [] := by
  have hlocate : siteFiles.locate "web/../web/".toList = .ok ["web"] := by decide +kernel
  have hsource : IsSourceAt siteFiles ["web"] ["lib", "util.min.mjs"] :=
    ⟨⟨(), rfl⟩, by decide, ".mjs".toList, by decide, "util.min.mjs", rfl, by decide⟩
  obtain ⟨hsorted, hfound, -⟩ := sourceFiles_default siteFiles "web/../web/".toList ["web"] _
    isProper_siteFiles hlocate rfl (by decide)
  exact ⟨isProper_siteFiles, hlocate, hsource, hsorted, (hfound _).mpr ⟨_, hsource, by decide⟩⟩

/-- In a pattern the brackets of a directory's name stand for a character, so that its sources are
not found. -/
theorem sourceFiles_bracketed :
    siteFiles.IsProper ∧ siteFiles.locate "web/[id]".toList = .ok ["web", "[id]"] ∧
      IsSourceAt siteFiles ["web", "[id]"] ["page.js"] ∧
      siteFiles.sourceFiles "web/[id]".toList [] = [] := by
  have hsource : IsSourceAt siteFiles ["web", "[id]"] ["page.js"] :=
    ⟨⟨(), rfl⟩, by decide, ".js".toList, by decide, "page.js", rfl, by decide⟩
  exact ⟨isProper_siteFiles, by decide +kernel, hsource, by decide +kernel⟩

end FileTree

end CallSchema

import CallSchema.Files.Tree
import CallSchema.Proofs.KeyedPairs
import CallSchema.Proofs.TextPieces

/-!
# Files that have been written

What has been written at a path is what is read there, also where the path goes back and forth on
its way. Writing leaves every directory that was there in its place, with all of its entries, so
that the way to the new file is still open. Whether a path can be written does not depend on what is
written.
-/

namespace CallSchema

namespace Text

variable {p : Char → Bool} {cs : List Char}

lemma exists_splitWhere_eq (p : Char → Bool) (cs : List Char) :
    ∃ pieces, splitWhere p cs = pieces ++ [(cs.reverse.takeWhile (!p ·)).reverse] := by
  have hall : ∀ c ∈ (cs.reverse.takeWhile (!p ·)).reverse, p c = false := by
    intro c hc
    have := List.all_eq_true.mp (List.all_takeWhile (l := cs.reverse)) c (List.mem_reverse.mp hc)
    simpa using this
  have hcs : cs =
      (cs.reverse.dropWhile (!p ·)).reverse ++ (cs.reverse.takeWhile (!p ·)).reverse := by
    rw [← List.reverse_append, List.takeWhile_append_dropWhile, List.reverse_reverse]
  have hhead := List.head?_dropWhile_not (!p ·) cs.reverse
  rw [← splitWhere_of_forall hall]
  cases hrest : cs.reverse.dropWhile (!p ·) with
  | nil =>
    rw [hrest, List.reverse_nil, List.nil_append] at hcs
    exact ⟨[], congrArg (splitWhere p) hcs⟩
  | cons c ds =>
    rw [hrest] at hcs hhead
    have hc : p c = true := by simpa using hhead
    rw [List.reverse_cons, List.append_assoc] at hcs
    exact ⟨splitWhere p ds.reverse, (congrArg (splitWhere p) hcs).trans (splitWhere_append hc _ _)⟩

end Text

namespace Path

variable {path : List Char}

lemma parts_eq_concat (h : namesDirectory path = false) :
    parts path = (parts path).dropLast ++ [base path] := by
  have hbase : base path ≠ [] ∧ base path ≠ ['.'] ∧ base path ≠ ['.', '.'] := by
    simpa [namesDirectory] using h
  obtain ⟨pieces, hpieces⟩ := Text.exists_splitWhere_eq (· == '/') path
  have hlast : parts path =
      pieces.filter (fun part => !part.isEmpty && part != ['.']) ++ [base path] := by
    rw [parts, Text.splitOn, hpieces, List.filter_append]
    refine congrArg (_ ++ ·) (List.filter_eq_self.mpr fun part hpart => ?_)
    obtain rfl : part = base path := List.mem_singleton.mp hpart
    simp [hbase.1, hbase.2.1]
  rw [hlast, List.dropLast_concat]

end Path

namespace FileTree

variable {α : Type} {root node new : FileTree α} {names done : List String}
  {es : List (String × FileTree α)} {path : List Char}

lemma below?_append (node : FileTree α) (names names' : List String) :
    node.below? (names ++ names') = (node.below? names).bind (·.below? names') := by
  induction names generalizing node with
  | nil => rfl
  | cons n names ih =>
    rw [List.cons_append, below?, below?]
    cases Keyed.get? node.entries n with
    | none => rfl
    | some child => exact ih child

lemma below?_putBelow (new node : FileTree α) (names : List String) :
    (putBelow new node names).below? names = some new := by
  induction names generalizing node with
  | nil => rfl
  | cons n names ih =>
    rw [putBelow, below?, entries, Keyed.get?_put, if_pos rfl]
    exact ih _

lemma has_put_of_has {xs : List (String × FileTree α)} {k key : String} (value : FileTree α)
    (h : Keyed.has xs k = true) : Keyed.has (Keyed.put xs key value) k = true := by
  rw [Keyed.has, Keyed.get?_put]
  split
  · rfl
  · exact h

/-- Putting a node in the place of no directory leaves all directories with their entries. -/
lemma exists_directory_putBelow (new : FileTree α)
    (hnot : ∀ es, node.below? names ≠ some (directory es))
    (h : node.below? done = some (directory es)) :
    ∃ es', (putBelow new node names).below? done = some (directory es') ∧
      ∀ k, Keyed.has es k = true → Keyed.has es' k = true := by
  induction names generalizing node done with
  | nil =>
    cases node with
    | directory es => exact absurd rfl (hnot es)
    | file content =>
      -- nothing is below a file
      cases done <;> cases h
  | cons n names ih =>
    cases done with
    | nil =>
      obtain rfl := Option.some.inj h
      exact ⟨_, rfl, fun k => has_put_of_has _⟩
    | cons m done =>
      rw [putBelow, below?, entries, Keyed.get?_put]
      rw [below?] at h
      by_cases hm : m = n
      · subst hm
        cases hchild : Keyed.get? node.entries m with
        | none =>
          rw [hchild] at h
          cases h
        | some child =>
          rw [hchild] at h
          rw [if_pos rfl]
          refine ih (fun es hes => hnot es ?_) h
          rw [below?, hchild]
          exact hes
      · rw [if_neg hm]
        exact ⟨es, h, fun _ => id⟩

lemma walk_append (root : FileTree α) (done : List String) (parts parts' : List (List Char)) :
    root.walk done (parts ++ parts') =
      root.walk done parts >>= fun names => root.walk names parts' := by
  induction parts generalizing done with
  | nil => rfl
  | cons part parts ih =>
    rw [List.cons_append, walk, walk]
    split
    · rfl
    · rfl
    · split
      · split
        · rfl
        · exact ih _
      · split
        · exact ih _
        · rfl

lemma walk_putBelow {parts : List (List Char)} {names' : List String}
    (hnot : ∀ es, root.below? names ≠ some (directory es)) (h : root.walk done parts = .ok names') :
    (putBelow new root names).walk done parts = .ok names' := by
  induction parts generalizing done with
  | nil => exact h
  | cons part parts ih =>
    rw [walk] at h
    split at h
    · cases h
    · cases h
    · rename_i es hes
      obtain ⟨es', hes', hhas⟩ := exists_directory_putBelow new hnot hes
      rw [walk, hes']
      dsimp only
      split at h
      · rename_i hup
        rw [if_pos hup]
        split at h
        · cases h
        · rename_i hdone
          rw [if_neg hdone]
          exact ih h
      · rename_i hdown
        rw [if_neg hdown]
        split at h
        · rename_i hpart
          rw [if_pos (hhas _ hpart)]
          exact ih h
        · cases h

lemma newPlace_eq_ok (h : root.newPlace path = .ok names) : Path.hasNull path = false ∧
    (path.isEmpty || !(Path.root path).isEmpty) = false ∧ ∃ before es,
      root.walk [] (Path.parts path).dropLast = .ok before ∧
        root.below? before = some (directory es) ∧
        names = before ++ ((Path.parts path).getLast?.map String.ofList).toList := by
  unfold newPlace at h
  cases hnull : Path.hasNull path with
  | true =>
    rw [hnull] at h
    cases h
  | false =>
    cases hrelative : path.isEmpty || !(Path.root path).isEmpty with
    | true =>
      rw [hnull, hrelative] at h
      cases h
    | false =>
      rw [hnull, hrelative] at h
      refine ⟨rfl, rfl, ?_⟩
      cases hwalk : root.walk [] (Path.parts path).dropLast with
      | error f =>
        simp only [hwalk] at h
        cases h
      | ok before =>
        simp only [hwalk, Bool.false_eq_true, if_false, bind, Except.bind] at h
        split at h
        · rename_i es hes
          exact ⟨before, es, rfl, hes, (Except.ok.inj h).symm⟩
        · cases h
        · cases h

lemma locate_of_walk (hnull : Path.hasNull path = false)
    (hrelative : (path.isEmpty || !(Path.root path).isEmpty) = false)
    (hwalk : root.walk [] (Path.parts path) = .ok names)
    (hname : Path.namesDirectory path = false) : root.locate path = .ok names := by
  unfold locate
  simp only [hnull, hrelative, hwalk, hname, Bool.false_eq_true, if_false, bind, Except.bind]
  split <;> rfl

lemma walk_concat {parts : List (List Char)} {part : List Char} (hup : part ≠ ['.', '.'])
    (hwalk : root.walk [] parts = .ok done) (hdone : root.below? done = some (directory es))
    (hentry : (root.below? (done ++ [String.ofList part])).isSome = true) :
    root.walk [] (parts ++ [part]) = .ok (done ++ [String.ofList part]) := by
  have hhas : Keyed.has es (String.ofList part) = true := by
    rw [below?_append, hdone] at hentry
    change ((Keyed.get? es (String.ofList part)).bind (below? · [])).isSome = true at hentry
    rw [Keyed.has]
    cases hget : Keyed.get? es (String.ofList part) with
    | none =>
      rw [hget] at hentry
      cases hentry
    | some node => rfl
  rw [walk_append, hwalk]
  change root.walk done [part] = _
  rw [walk, hdone]
  dsimp only
  rw [if_neg hup, if_pos hhas, walk]

/-- What is written at a path is read there. -/
theorem read_of_write {content : α} {root' : FileTree α} (h : root.write path content = .ok root') :
    root'.read path = .ok content := by
  unfold write at h
  cases hplace : root.newPlace path with
  | error f =>
    rw [hplace] at h
    cases h
  | ok names =>
    rw [hplace] at h
    dsimp only at h
    split at h
    · cases h
    rename_i hfree
    obtain rfl := Except.ok.inj h
    obtain ⟨hname, hdirectory⟩ :
        Path.namesDirectory path = false ∧ root.hasDirectory path = false := by
      simpa using hfree
    obtain ⟨hnull, hrelative, before, es, hwalk, hbefore, hnames⟩ := newPlace_eq_ok hplace
    have hparts := Path.parts_eq_concat hname
    obtain rfl : names = before ++ [String.ofList (Path.base path)] := by
      rw [hnames, hparts, List.getLast?_concat]
      rfl
    have hup : Path.base path ≠ ['.', '.'] := by
      rintro hbase
      rw [Path.namesDirectory, hbase] at hname
      cases hname
    have hnot : ∀ es, root.below? (before ++ [String.ofList (Path.base path)]) ≠
        some (directory es) := by
      intro es' hes'
      have hway := walk_concat hup hwalk hbefore (by rw [hes']; rfl)
      rw [← hparts] at hway
      rw [hasDirectory, node?, locate_of_walk hnull hrelative hway hname] at hdirectory
      change ((root.below? _).map _).getD false = false at hdirectory
      rw [hes'] at hdirectory
      cases hdirectory
    obtain ⟨es', hes', -⟩ := exists_directory_putBelow (file content) hnot hbefore
    have hnew := below?_putBelow (file content) root (before ++ [String.ofList (Path.base path)])
    have hway := walk_concat hup (walk_putBelow hnot hwalk) hes' (by rw [hnew]; rfl)
    rw [← hparts] at hway
    rw [read, locate_of_walk hnull hrelative hway hname]
    dsimp only
    rw [hnew]
    rfl

lemma write_congr {content : α} (h : ∃ root', root.write path content = .ok root') (content' : α) :
    ∃ root', root.write path content' = .ok root' := by
  obtain ⟨root', h⟩ := h
  unfold write at h ⊢
  cases hplace : root.newPlace path with
  | error f =>
    rw [hplace] at h
    cases h
  | ok names =>
    rw [hplace] at h
    dsimp only at h ⊢
    split at h
    · cases h
    · rename_i hfree
      rw [if_neg hfree]
      exact ⟨_, rfl⟩

lemma writeWithin_eq_bind (root : FileTree α) (path : List Char) (content : α) :
    root.writeWithin path content =
      (if (Path.directory path).isEmpty then pure root
        else root.ensureDirectory (Path.directory path)) >>= fun within =>
          within.write path content := by
  unfold writeWithin
  dsimp only
  split <;> rfl

lemma exists_write_of_writeWithin {content : α} {root' : FileTree α}
    (h : root.writeWithin path content = .ok root') : ∃ within : FileTree α,
      within.write path content = .ok root' ∧
        ∀ other, root.writeWithin path other = within.write path other := by
  simp only [writeWithin_eq_bind] at h ⊢
  generalize (if (Path.directory path).isEmpty then pure root
    else root.ensureDirectory (Path.directory path) : Except Failure (FileTree α)) = first at h ⊢
  cases first with
  | error e => cases h
  | ok within => exact ⟨within, h, fun _ => rfl⟩

/-- What is written with the missing directories on the way is read. -/
theorem read_of_writeWithin {content : α} {root' : FileTree α}
    (h : root.writeWithin path content = .ok root') : root'.read path = .ok content := by
  obtain ⟨within, hwrite, -⟩ := exists_write_of_writeWithin h
  exact read_of_write hwrite

/-- Where something can be written, anything can. -/
theorem exists_writeWithin {content : α} {root' : FileTree α}
    (h : root.writeWithin path content = .ok root') (other : α) :
    ∃ root'', root.writeWithin path other = .ok root'' := by
  obtain ⟨within, hwrite, hother⟩ := exists_write_of_writeWithin h
  rw [hother]
  exact write_congr ⟨root', hwrite⟩ other

end FileTree

end CallSchema

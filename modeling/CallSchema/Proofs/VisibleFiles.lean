import CallSchema.Files.Search
import CallSchema.Proofs.PathParts

/-!
# Trees and what is visible in them

In a tree whose directories have entries of different names, the nodes that are visible from a
directory are those that names lead to none of which is hidden. A walk along such names comes to the
node that they lead to.
-/

namespace CallSchema.FileTree

variable {α : Type} {root node child : FileTree α} {n : String} {names done : List String}
  {es : List (String × FileTree α)}

/-- What can be the name of an entry. -/
structure IsEntryName (n : String) : Prop where
  nonempty : n ≠ ""
  notHere : n ≠ "."
  notUp : n ≠ ".."
  noSlash : '/' ∉ n.toList
  noNull : '\x00' ∉ n.toList

instance (n : String) : Decidable (IsEntryName n) :=
  decidable_of_iff
    (n ≠ "" ∧ n ≠ "." ∧ n ≠ ".." ∧ '/' ∉ n.toList ∧ '\x00' ∉ n.toList)
    ⟨fun ⟨h, here, up, slash, null⟩ => ⟨h, here, up, slash, null⟩,
      fun ⟨h, here, up, slash, null⟩ => ⟨h, here, up, slash, null⟩⟩

lemma IsEntryName.isPart {n : String} (h : IsEntryName n) : Path.IsPart n.toList where
  nonempty := fun heq => h.nonempty (String.toList_eq_nil_iff.mp heq)
  moves := fun heq => h.notHere (String.toList_injective heq)
  noSlash := h.noSlash

mutual

/-- A tree whose directories have entries of different names, as entries can have them. -/
def IsProper : FileTree α → Prop
  | file _ => True
  | directory es => (Keyed.keys es).Nodup ∧ AreProper es

def AreProper : List (String × FileTree α) → Prop
  | [] => True
  | (n, node) :: es => IsEntryName n ∧ IsProper node ∧ AreProper es

end

lemma proper_of_get? (h : AreProper es) (hget : Keyed.get? es n = some node) :
    IsEntryName n ∧ IsProper node := by
  induction es with
  | nil => cases hget
  | cons e es ih =>
    obtain ⟨m, first⟩ := e
    obtain ⟨hname, hfirst, hes⟩ := h
    rw [Keyed.get?_cons] at hget
    split at hget
    · rename_i hm
      obtain rfl : n = m := hm
      obtain rfl : first = node := Option.some.inj hget
      exact ⟨hname, hfirst⟩
    · exact ih hes hget

lemma IsProper.areProper_entries (h : node.IsProper) : AreProper node.entries := by
  cases node with
  | file c => trivial
  | directory es => exact h.2

lemma IsProper.below (h : node.IsProper) (hbelow : node.below? names = some child) :
    child.IsProper ∧ ∀ n ∈ names, IsEntryName n := by
  induction names generalizing node with
  | nil =>
    obtain rfl := Option.some.inj hbelow
    exact ⟨h, List.forall_mem_nil _⟩
  | cons n names ih =>
    rw [below?] at hbelow
    obtain ⟨next, hget, hrest⟩ := Option.bind_eq_some_iff.mp hbelow
    obtain ⟨hname, hnext⟩ := proper_of_get? h.areProper_entries hget
    obtain ⟨hchild, hnames⟩ := ih hnext hrest
    exact ⟨hchild, List.forall_mem_cons.mpr ⟨hname, hnames⟩⟩

lemma below?_cons (e : String × FileTree α) (es : List (String × FileTree α)) (n : String)
    (names : List String) :
    (directory (e :: es)).below? (n :: names) =
      if n = e.1 then e.2.below? names else (directory es).below? (n :: names) := by
  rw [below?, below?, entries, entries, Keyed.get?_cons]
  split <;> rfl

lemma isSome_below?_dropLast (h : (node.below? (names ++ done)).isSome = true) :
    (node.below? names).isSome = true := by
  rw [below?_append] at h
  cases hbelow : node.below? names with
  | none => simp [hbelow] at h
  | some child => rfl

/-- None of the names is hidden. -/
def AreShown (names : List String) : Prop := ∀ n ∈ names, isHidden n = false

instance (names : List String) : Decidable (AreShown names) :=
  inferInstanceAs (Decidable (∀ n ∈ names, isHidden n = false))

mutual

/-- The visible nodes are those that names lead to none of which is hidden. -/
theorem mem_visible : ∀ (node : FileTree α), node.IsProper → ∀ names,
    names ∈ node.visible ↔ names ≠ [] ∧ AreShown names ∧ (node.below? names).isSome = true
  | file c, _, names => by
    rw [visible]
    refine iff_of_false List.not_mem_nil fun ⟨hne, _, hsome⟩ => ?_
    obtain ⟨n, names, rfl⟩ := List.exists_cons_of_ne_nil hne
    cases hsome
  | directory es, h, names => by
    rw [visible]
    exact mem_visibleIn es h.1 h.2 names

theorem mem_visibleIn : ∀ (es : List (String × FileTree α)), (Keyed.keys es).Nodup → AreProper es →
    ∀ names, names ∈ visibleIn es ↔
      names ≠ [] ∧ AreShown names ∧ ((directory es).below? names).isSome = true
  | [], _, _, names => by
    rw [visibleIn]
    refine iff_of_false List.not_mem_nil fun ⟨hne, _, hsome⟩ => ?_
    obtain ⟨n, names, rfl⟩ := List.exists_cons_of_ne_nil hne
    cases hsome
  | (m, node) :: es, hnodup, hproper, names => by
    obtain ⟨hm, hkeys⟩ := List.nodup_cons.mp hnodup
    have hnode := mem_visible node hproper.2.1
    have hrest := mem_visibleIn es hkeys hproper.2.2 names
    rw [visibleIn, List.mem_append, hrest]
    cases names with
    | nil => simp
    | cons n names =>
      rw [below?_cons]
      by_cases hn : n = m
      · subst hn
        -- the entries behind have other names
        have hother : ((directory es).below? (n :: names)).isSome = false := by
          have hget : Keyed.get? es n = none := by
            rw [← Option.not_isSome_iff_eq_none, Keyed.isSome_get?]
            exact hm
          rw [below?, entries, hget]
          rfl
        have hfirst : n :: names ∈ [n] :: (visible node).map (n :: ·) ↔
            names = [] ∨ names ∈ visible node := by simp
        rw [if_pos rfl, hother]
        cases hhidden : isHidden n with
        | true => simp [AreShown, hhidden]
        | false =>
          simp only [Bool.false_eq_true, if_false, hfirst, hnode names, and_false, or_false]
          cases names with
          | nil => simp [AreShown, hhidden, below?]
          | cons k names => simp [AreShown, hhidden]
      · have hother : n :: names ∉ [m] :: (visible node).map (m :: ·) := by
          simp [hn, Ne.symm hn]
        rw [if_neg hn]
        cases isHidden m <;> simp [hother]

end

lemma walk_names (hdone : root.below? done = some node) (hup : ∀ n ∈ names, n ≠ "..")
    (h : (node.below? names).isSome = true) :
    root.walk done (names.map String.toList) = .ok (done ++ names) := by
  induction names generalizing done node with
  | nil => rw [List.append_nil]; rfl
  | cons n names ih =>
    rw [below?] at h
    cases hget : Keyed.get? node.entries n with
    | none => simp [hget] at h
    | some child =>
      rw [hget] at h
      have hup' : n.toList ≠ ['.', '.'] := fun heq =>
        hup n List.mem_cons_self (String.toList_injective heq)
      have hchild : root.below? (done ++ [n]) = some child := by
        rw [below?_append, hdone]
        change (Keyed.get? node.entries n).bind (below? · []) = some child
        rw [hget]
        rfl
      cases node with
      | file c => cases hget
      | directory es =>
        have hhas : Keyed.has es n = true := by
          rw [Keyed.has, show Keyed.get? es n = some child from hget]
          rfl
        rw [List.map_cons, walk, hdone]
        dsimp only
        rw [if_neg hup', String.ofList_toList, if_pos hhas,
          ih hchild (fun k hk => hup k (List.mem_cons_of_mem n hk)) h, List.append_assoc]
        rfl

/-- A walk takes every step up that its components have, so that it ends at the normal path. -/
lemma steps_of_walk {parts : List (List Char)} (hup : ∀ n ∈ done, n ≠ "..")
    (h : root.walk done parts = .ok names) :
    parts.foldl (Path.stepInto false) (done.map String.toList).reverse =
      (names.map String.toList).reverse := by
  induction parts generalizing done with
  | nil =>
    obtain rfl := Except.ok.inj h
    rfl
  | cons part parts ih =>
    rw [walk] at h
    split at h
    · cases h
    · cases h
    · split at h
      · rename_i hpart
        subst hpart
        split at h
        · cases h
        · rename_i hdone
          obtain hnil | ⟨front, last, rfl⟩ := List.eq_nil_or_concat' done
          · exact absurd (List.isEmpty_iff.mpr hnil) hdone
          · have hlast : last.toList ≠ ['.', '.'] := fun heq =>
              hup last (by simp) (String.toList_injective heq)
            rw [List.dropLast_concat] at h
            refine Eq.trans ?_ (ih (fun n hn => hup n (List.mem_append_left _ hn)) h)
            rw [List.foldl_cons, List.map_append, List.reverse_append]
            simp [Path.stepInto, hlast]
      · rename_i hpart
        split at h
        · refine Eq.trans ?_ (ih (fun n hn => ?_) h)
          · rw [List.foldl_cons, Path.stepInto_of_ne hpart, List.map_append, List.reverse_append]
            simp
          · rcases List.mem_append.mp hn with hn | hn
            · exact hup n hn
            · obtain rfl := List.mem_singleton.mp hn
              intro heq
              exact hpart (by simpa using congrArg String.toList heq)
        · cases h

end CallSchema.FileTree

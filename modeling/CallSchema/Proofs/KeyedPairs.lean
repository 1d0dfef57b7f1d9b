import CallSchema.Keyed
import Mathlib.Data.List.Forall2
import Mathlib.Data.List.Induction
import Mathlib.Tactic.Lemma

/-!
# Keys in the order in which they came

A list built by putting pairs one after another has the keys of the pairs, each once and in the
order of their first pairs, and each key has the value of its last pair.
-/

namespace CallSchema.Keyed

section Distinct

variable {α β : Type} [DecidableEq α] [DecidableEq β]

lemma eraseDups_concat (l : List α) (a : α) :
    (l ++ [a]).eraseDups = if a ∈ l then l.eraseDups else l.eraseDups ++ [a] := by
  by_cases h : a ∈ l <;>
    simp [List.eraseDups_append, List.removeAll, h, List.eraseDups_cons]

lemma nodup_eraseDups (l : List α) : l.eraseDups.Nodup := by
  induction l using List.reverseRecOn with
  | nil => simp
  | append_singleton l a ih =>
    rw [eraseDups_concat]
    split
    · exact ih
    · rename_i ha
      refine List.nodup_append.mpr ⟨ih, by simp, fun b hb c hc => ?_⟩
      obtain rfl := List.mem_singleton.mp hc
      rintro rfl
      exact ha (List.mem_eraseDups.mp hb)

lemma eraseDups_of_nodup {l : List α} (h : l.Nodup) : l.eraseDups = l := by
  induction l using List.reverseRecOn with
  | nil => rfl
  | append_singleton l a ih =>
    obtain ⟨hl, -, hdisjoint⟩ := List.nodup_append.mp h
    rw [eraseDups_concat, if_neg fun ha => hdisjoint a ha a List.mem_cons_self rfl, ih hl]

lemma eraseDups_eraseDups_append (l m : List α) :
    (l.eraseDups ++ m).eraseDups = (l ++ m).eraseDups := by
  rw [List.eraseDups_append, List.eraseDups_append, eraseDups_of_nodup (nodup_eraseDups l)]
  have hrest : m.removeAll l.eraseDups = m.removeAll l :=
    List.filter_congr fun a _ => by simp [List.mem_eraseDups]
  rw [hrest]

/-- Picking by a function that tells apart what it picks keeps the order of first places. -/
lemma eraseDups_filterMap {f : α → Option β}
    (hf : ∀ {a b c}, f a = some c → f b = some c → a = b) (l : List α) :
    (l.filterMap f).eraseDups = l.eraseDups.filterMap f := by
  induction l using List.reverseRecOn with
  | nil => simp
  | append_singleton l a ih =>
    cases ha : f a with
    | none =>
      rw [List.filterMap_append, eraseDups_concat]
      split <;> simp [ha, ih]
    | some b =>
      have hmem : b ∈ l.filterMap f ↔ a ∈ l := by
        rw [List.mem_filterMap]
        constructor
        · rintro ⟨c, hc, hcb⟩
          exact hf hcb ha ▸ hc
        · exact fun h => ⟨a, h, ha⟩
      have hone : [a].filterMap f = [b] := by simp [ha]
      rw [List.filterMap_append, hone, eraseDups_concat, eraseDups_concat, ih]
      by_cases h : a ∈ l
      · rw [if_pos h, if_pos (hmem.mpr h)]
      · rw [if_neg h, if_neg (mt hmem.mp h), List.filterMap_append, hone]

end Distinct

variable {α : Type} {xs ys : List (String × α)} {key : String}

lemma keys_put (xs : List (String × α)) (key : String) (value : α) :
    keys (put xs key value) = if key ∈ keys xs then keys xs else keys xs ++ [key] := by
  split
  · rename_i h
    exact keys_put_of_mem value h
  · rename_i h
    exact keys_put_of_not_mem value h

lemma get?_cons (x : String × α) (xs : List (String × α)) (key : String) :
    get? (x :: xs) key = if key = x.1 then some x.2 else get? xs key := by
  obtain ⟨k, value⟩ := x
  by_cases h : key = k
  · simp [get?, h]
  · have hk : (key == k) = false := by simp [h]
    simp [get?, List.lookup_cons, hk, h]

lemma isSome_get? : (get? xs key).isSome ↔ key ∈ keys xs := by
  induction xs with
  | nil => simp [get?, keys]
  | cons x xs ih =>
    rw [get?_cons]
    split
    · rename_i hx
      simp [keys, hx]
    · rename_i hx
      simpa [keys, hx] using ih

lemma get?_put (xs : List (String × α)) (key other : String) (value : α) :
    get? (put xs key value) other = if other = key then some value else get? xs other := by
  induction xs with
  | nil => simp [put, get?_cons]
  | cons x xs ih =>
    by_cases hx : x.1 = key
    · simp only [put, hx, if_true, get?_cons]
      split <;> rfl
    · simp only [put, hx, if_false, get?_cons, ih]
      split
      · rename_i ho
        rw [if_neg (ho ▸ hx)]
      · rfl

lemma put_of_not_mem {value : α} (h : key ∉ keys xs) : put xs key value = xs ++ [(key, value)] := by
  induction xs with
  | nil => rfl
  | cons x xs ih =>
    rw [keys, List.map_cons, List.mem_cons, not_or] at h
    rw [put, if_neg (Ne.symm h.1), ih h.2, List.cons_append]

lemma putAll_concat (xs ys : List (String × α)) (y : String × α) :
    putAll xs (ys ++ [y]) = put (putAll xs ys) y.1 y.2 := by
  simp [putAll]

theorem keys_ofPairs (ys : List (String × α)) : keys (ofPairs ys) = (ys.map (·.1)).eraseDups := by
  -- from the back, since the last pair is the last one put
  induction ys using List.reverseRecOn with
  | nil => rfl
  | append_singleton ys y ih =>
    rw [ofPairs, putAll_concat, keys_put, ← ofPairs, ih, List.map_append, List.map_singleton,
      eraseDups_concat]
    simp only [List.mem_eraseDups]

/-- A key has the value that was put there last, or the one that it had before. -/
theorem get?_putAll (xs ys : List (String × α)) (key : String) :
    get? (putAll xs ys) key = (((ys.filter (·.1 = key)).getLast?).map (·.2)).or (get? xs key) := by
  induction ys using List.reverseRecOn with
  | nil => rfl
  | append_singleton ys y ih =>
    rw [putAll_concat, get?_put, ih, List.filter_append]
    by_cases h : key = y.1
    · simp [h]
    · simp [h, Ne.symm h]

theorem get?_ofPairs (ys : List (String × α)) (key : String) :
    get? (ofPairs ys) key = ((ys.filter (·.1 = key)).getLast?).map (·.2) := by
  rw [ofPairs, get?_putAll]
  exact Option.or_none

lemma nodup_keys_ofPairs (ys : List (String × α)) : (keys (ofPairs ys)).Nodup := by
  rw [keys_ofPairs]
  exact nodup_eraseDups _

lemma ofPairs_of_nodup {ys : List (String × α)} (h : (keys ys).Nodup) : ofPairs ys = ys := by
  induction ys using List.reverseRecOn with
  | nil => rfl
  | append_singleton ys y ih =>
    rw [keys, List.map_append, List.nodup_append] at h
    have hy : y.1 ∉ keys ys := fun hmem => h.2.2 y.1 hmem y.1 List.mem_cons_self rfl
    rw [ofPairs, putAll_concat, ← ofPairs, ih h.1, put_of_not_mem hy]

lemma get?_eq_some_iff_mem (h : (keys xs).Nodup) {value : α} :
    get? xs key = some value ↔ (key, value) ∈ xs := by
  induction xs with
  | nil => simp [get?]
  | cons x xs ih =>
    simp only [keys, List.map_cons, List.nodup_cons] at h
    rw [get?_cons, List.mem_cons]
    split
    · rename_i hx
      subst hx
      have hnot : (x.1, value) ∉ xs := fun hmem => h.1 (List.mem_map_of_mem (f := (·.1)) hmem)
      simp [hnot, Prod.ext_iff, eq_comm]
    · rename_i hx
      simp [ih h.2, Prod.ext_iff, hx]

lemma mem_of_mem_ofPairs {ys : List (String × α)} {x : String × α} (h : x ∈ ofPairs ys) :
    x ∈ ys := by
  have hget := (get?_eq_some_iff_mem (nodup_keys_ofPairs ys)).mpr h
  rw [get?_ofPairs, Option.map_eq_some_iff] at hget
  obtain ⟨y, hy, hvalue⟩ := hget
  obtain ⟨hmem, hkey⟩ := List.mem_filter.mp (List.mem_of_getLast? hy)
  have hxy : y = x := Prod.ext (by simpa using hkey) hvalue
  exact hxy ▸ hmem

lemma keys_putAll (h : (keys xs).Nodup) (ys : List (String × α)) :
    keys (putAll xs ys) = (keys xs ++ keys ys).eraseDups := by
  have hall : putAll xs ys = ofPairs (xs ++ ys) := by
    nth_rewrite 1 [← ofPairs_of_nodup h]
    simp only [ofPairs, putAll, List.foldl_append]
  rw [hall, keys_ofPairs, List.map_append]
  rfl

lemma get?_putAll_of_nodup (h : (keys ys).Nodup) (xs : List (String × α)) (key : String) :
    get? (putAll xs ys) key = (get? ys key).or (get? xs key) := by
  rw [get?_putAll, ← get?_ofPairs, ofPairs_of_nodup h]

lemma filterMap_get? {names : List String} (hsublist : (keys xs).Sublist names)
    (hnodup : names.Nodup) (g : String → α → Option β) :
    names.filterMap (fun n => (get? xs n).bind (g n)) = xs.filterMap fun x => g x.1 x.2 := by
  generalize hkeys : keys xs = ks at hsublist
  induction hsublist generalizing xs with
  | slnil =>
    rw [List.map_eq_nil_iff.mp hkeys]
    rfl
  | @cons ks names n hsublist ih =>
    obtain ⟨hn, hnodup⟩ := List.nodup_cons.mp hnodup
    have hnone : get? xs n = none := by
      rw [← Option.not_isSome_iff_eq_none, isSome_get?, hkeys]
      exact fun hmem => hn (hsublist.subset hmem)
    rw [List.filterMap_cons, hnone]
    exact ih hnodup hkeys
  | @cons_cons ks names n hsublist ih =>
    obtain ⟨x, xs, rfl, rfl, hrest⟩ := List.map_eq_cons_iff.mp hkeys
    obtain ⟨hn, hnodup⟩ := List.nodup_cons.mp hnodup
    have hnames : names.filterMap (fun n => (get? (x :: xs) n).bind (g n)) =
        names.filterMap fun n => (get? xs n).bind (g n) :=
      List.filterMap_congr fun n hmem => by
        rw [get?_cons, if_neg]
        exact fun hnx => hn (hnx ▸ hmem)
    rw [List.filterMap_cons, List.filterMap_cons, hnames, ih hnodup hrest, get?_cons, if_pos rfl]
    rfl

section Alike

variable {β : Type} {R : α → β → Prop} {a : α} {b : β} {zs : List (String × β)}

/-- Two lists with the same keys in the same order, and with related values. -/
def Alike (R : α → β → Prop) : List (String × α) → List (String × β) → Prop :=
  List.Forall₂ fun x z => x.1 = z.1 ∧ R x.2 z.2

lemma Alike.put (h : Alike R xs zs) (key : String) (hab : R a b) :
    Alike R (put xs key a) (put zs key b) := by
  induction h with
  | nil => exact .cons ⟨rfl, hab⟩ .nil
  | @cons x z xs zs hxz hrest ih =>
    rw [Keyed.put, Keyed.put, ← hxz.1]
    split
    · exact .cons ⟨rfl, hab⟩ hrest
    · exact .cons hxz ih

lemma Alike.ofPairs (h : Alike R xs zs) : Alike R (ofPairs xs) (ofPairs zs) := by
  refine List.rel_foldl (P := Alike R) (fun as bs hab x z hxz => ?_) .nil h
  have hput := hab.put x.1 hxz.2
  nth_rewrite 2 [hxz.1] at hput
  exact hput

end Alike

end CallSchema.Keyed

import CallSchema.Class
import CallSchema.Proofs.KeyedPairs
import CallSchema.Proofs.ListSteps

/-!
# Hints that classes inherit

The hints of a class's fields are those of its furthest ancestor first, in the order in which they
stand there, and those of nearer classes are put over them. So each name keeps the place where it
came up first, and has the hint of the class that is nearest to the one that is asked.
-/

namespace CallSchema

lemma exists_of_foldlM_put {α β δ : Type} {put : δ → String → α → δ}
    {f : String × β → Except Failure α} {xs : List (String × β)} {d out : δ}
    (h : xs.foldlM (fun d x => do pure (put d x.1 (← f x))) d = .ok out) :
    ∃ ys : List (String × α), List.Forall₂ (fun x y => y.1 = x.1 ∧ f x = .ok y.2) xs ys ∧
      out = ys.foldl (fun d y => put d y.1 y.2) d := by
  induction xs generalizing d with
  | nil => exact ⟨[], .nil, (Except.ok.inj h).symm⟩
  | cons x xs ih =>
    obtain ⟨d', hd', h⟩ := bind_eq_ok_iff.mp h
    obtain ⟨a, ha, hd'⟩ := bind_eq_ok_iff.mp hd'
    obtain rfl := Except.ok.inj hd'
    obtain ⟨ys, hys, hout⟩ := ih h
    exact ⟨(x.1, a) :: ys, .cons ⟨rfl, ha⟩ hys, hout⟩

namespace Dict

variable {α β : Type}

lemma pairs_putAll (d : Dict α) (xs : List (String × α)) :
    (d.putAll xs).pairs = Keyed.putAll d.pairs xs := by
  induction xs generalizing d with
  | nil => rfl
  | cons x xs ih => exact ih (d.put x.1 x.2)

lemma pairs_ofPairs (xs : List (String × α)) : (ofPairs xs).pairs = Keyed.ofPairs xs :=
  pairs_putAll empty xs

lemma keys_putAll (d e : Dict α) : (d.putAll e.pairs).keys = (d.keys ++ e.keys).eraseDups := by
  rw [keys, pairs_putAll]
  exact Keyed.keys_putAll d.nodup e.pairs

lemma get?_putAll (d e : Dict α) (key : String) :
    (d.putAll e.pairs).get? key = (e.get? key).or (d.get? key) := by
  rw [get?, pairs_putAll]
  exact Keyed.get?_putAll_of_nodup e.nodup d.pairs key

lemma isSome_get? {d : Dict α} {key : String} : (d.get? key).isSome ↔ key ∈ d.keys :=
  Keyed.isSome_get?

lemma get?_eq_none {d : Dict α} {e : Dict β} (h : d.keys = e.keys) {key : String}
    (he : e.get? key = none) : d.get? key = none := by
  rw [← Option.not_isSome_iff_eq_none, isSome_get?, h, ← isSome_get?, he]
  exact Bool.false_ne_true

lemma filterMap_get? {d : Dict α} {names : List String} (hsublist : d.keys.Sublist names)
    (hnodup : names.Nodup) (g : String → α → Option β) :
    names.filterMap (fun n => (d.get? n).bind (g n)) = d.pairs.filterMap fun x => g x.1 x.2 :=
  Keyed.filterMap_get? hsublist hnodup g

lemma exists_computed {f : String × β → Except Failure α} {e : Dict β} {ys : List (String × α)}
    (h : List.Forall₂ (fun x y => y.1 = x.1 ∧ f x = .ok y.2) e.pairs ys) :
    ∃ computed : Dict α, computed.pairs = ys ∧ computed.keys = e.keys ∧
      ∀ key b, e.get? key = some b → ∃ a, f (key, b) = .ok a ∧ computed.get? key = some a := by
  have hkeys : Keyed.keys ys = Keyed.keys e.pairs := map_eq_map_of_forall₂ h fun _ _ h => h.1
  have hnodup : (Keyed.keys ys).Nodup := hkeys ▸ e.nodup
  refine ⟨⟨ys, hnodup⟩, rfl, hkeys, fun key b hb => ?_⟩
  have hmem := (Keyed.get?_eq_some_iff_mem e.nodup).mp hb
  obtain ⟨⟨_, a⟩, hy, rfl, ha⟩ := exists_of_forall₂ h hmem
  exact ⟨a, ha, (Keyed.get?_eq_some_iff_mem hnodup).mpr hy⟩

lemma exists_computed_of_mapM {f : String × β → Except Failure α} {e : Dict β}
    {ys : List (String × α)} (h : e.pairs.mapM (fun x => do pure (x.1, ← f x)) = .ok ys) :
    ∃ computed : Dict α, computed.pairs = ys ∧ computed.keys = e.keys ∧
      ∀ key b, e.get? key = some b → ∃ a, f (key, b) = .ok a ∧ computed.get? key = some a :=
  exists_computed <| (mapM_eq_ok_iff.mp h).imp fun x y hy => by
    obtain ⟨a, ha, rfl⟩ := bind_pure_eq_ok_iff.mp hy
    exact ⟨rfl, ha⟩

lemma exists_computed_of_foldlM {f : String × β → Except Failure α} {e : Dict β}
    {d out : Dict α}
    (h : e.pairs.foldlM (fun d x => do pure (d.put x.1 (← f x))) d = .ok out) :
    ∃ computed : Dict α, computed.keys = e.keys ∧ out = d.putAll computed.pairs ∧
      ∀ key b, e.get? key = some b → ∃ a, f (key, b) = .ok a ∧ computed.get? key = some a := by
  obtain ⟨_, hys, rfl⟩ := exists_of_foldlM_put h
  obtain ⟨computed, rfl, hkeys, hvalues⟩ := exists_computed hys
  exact ⟨computed, hkeys, rfl, hvalues⟩

end Dict

namespace Context

variable {ctx : Context} {c : ClassInfo}

/-- The hint that the first of some classes gives a name, with that class. -/
def firstHint? (as : List ClassInfo) (name : String) : Option (ClassInfo × Hint) :=
  as.findSome? fun a => (a.annotations.get? name).map (a, ·)

lemma firstHint?_cons (a : ClassInfo) (as : List ClassInfo) (name : String) :
    firstHint? (a :: as) name =
      ((a.annotations.get? name).map (a, ·)).or (firstHint? as name) := by
  rw [firstHint?, List.findSome?_cons]
  cases a.annotations.get? name <;> rfl

/-- The hint that stands in a class, evaluated where it stands. -/
def evaluateIn (ctx : Context) (x : ClassInfo × Hint) : Except Failure Hint :=
  Hint.evaluate (ctx.classScope x.1) .field x.2

/-- The names to which some classes give hints, those of the last class first. -/
def hintedNames (as : List ClassInfo) : List String :=
  (as.reverse.flatMap (·.annotations.keys)).eraseDups

lemma hintedNames_cons (a : ClassInfo) (as : List ClassInfo) :
    hintedNames (a :: as) = (hintedNames as ++ a.annotations.keys).eraseDups := by
  rw [hintedNames, hintedNames, Keyed.eraseDups_eraseDups_append, List.reverse_cons,
    List.flatMap_append, List.flatMap_singleton]

lemma hints_of_classes {as : List ClassInfo} {hints : Dict Hint}
    (h : as.reverse.foldlM (fun (hints : Dict Hint) a => a.annotations.pairs.foldlM
      (fun (hints : Dict Hint) x => do pure (hints.put x.1 (← ctx.evaluateIn (a, x.2)))) hints)
      Dict.empty = .ok hints) :
    hints.keys = hintedNames as ∧
      ∀ name, hints.get? name = (firstHint? as name).bind (ctx.evaluateIn · |>.toOption) := by
  induction as generalizing hints with
  | nil =>
    obtain rfl := Except.ok.inj h
    exact ⟨rfl, fun _ => rfl⟩
  | cons a as ih =>
    rw [List.reverse_cons, List.foldlM_append] at h
    obtain ⟨inherited, hinherited, h⟩ := bind_eq_ok_iff.mp h
    obtain ⟨hkeys, hget⟩ := ih hinherited
    obtain ⟨own, hown, rfl, hvalues⟩ := Dict.exists_computed_of_foldlM
      (f := fun x => ctx.evaluateIn (a, x.2)) (by simpa using h)
    refine ⟨?_, fun name => ?_⟩
    · rw [Dict.keys_putAll, hkeys, hown, hintedNames_cons]
    · rw [Dict.get?_putAll, hget, firstHint?_cons]
      cases hname : a.annotations.get? name with
      | some h =>
        obtain ⟨v, hv, hvalue⟩ := hvalues name h hname
        simp [hvalue, hv, Except.toOption]
      | none => simp [Dict.get?_eq_none hown hname]

/-- Each name keeps the place where the furthest class gives it a hint, and has the hint of the
nearest one. -/
theorem keys_evaluatedHints {hints : Dict Hint} (h : ctx.evaluatedHints c = .ok hints) :
    hints.keys = hintedNames (ctx.described c) ∧ ∀ name, hints.get? name =
      (firstHint? (ctx.described c) name).bind (ctx.evaluateIn · |>.toOption) :=
  hints_of_classes h

end Context

end CallSchema

import CallSchema.Proofs.ResolverCalls
import Mathlib.Data.List.Perm.Subperm
import Mathlib.Data.Nat.Init

/-!
# Resolving ends

The identities in progress are distinct at every call, and there are as many as the call has others
around it. So calls are nested at most as deep as there are distinct identities and one more, and
from there on a higher limit changes nothing: resolving ends on recursive types of any kind.
-/

namespace CallSchema.TypeGraph

variable {τ ι : Type} {s : List ι}

lemma kept_eq (s : List ι) (Q : Call τ ι → Prop) : Kept (fun _ => True)
    fun α (x y : Resolving τ ι α) => RelatedIf s Q (fun _ run y => run = y s) x y :=
  kept_relatedIf s Q (fun _ => rfl) (fun _ => rfl) fun {_ _ x _ _ _} hs hxy h =>
    Resolving.bind_congr hxy (by simpa only [hs] using h)

variable [BEq ι] {g : TypeGraph τ ι} {limit : Nat} {t : τ}

/-- No call of a run is nested as deep as the limit, so that none is cut off. -/
def Within {α : Type} (limit : Nat) (run : Resolution τ ι α) : Prop :=
  ∀ c ∈ run.calls, c.level < limit

lemma resolving_succ_limit (h : Within limit (g.resolving limit t s)) :
    g.resolving limit t s = g.resolving (limit + 1) t s := by
  -- inside a call the levels count from the call, so its body is within one level less
  induction limit generalizing t s with
  | zero => exact absurd (h _ first_mem_calls) (Nat.not_lt_zero _)
  | succ limit ih =>
    cases hs : s.contains (g.identity t) with
    | true => rw [resolving_of_inProgress hs, resolving_of_inProgress hs]
    | false =>
      have hbody := (kept_eq (g.identity t :: s) fun c => c.level < limit).resolveByRules
        (g := g) (t := t) (g.resolving limit) (g.resolving (limit + 1)) (fun _ => trivial)
        (fun _ _ => trivial) fun u _ => ⟨inProgress_resolving, ih⟩
      rw [Within, resolving_of_not_inProgress hs] at h
      have heq := hbody.related fun c hc => by
        have := h (c.inside 1) (List.mem_cons_of_mem _ (List.mem_map_of_mem hc))
        simp only [Call.inside] at this
        omega
      rw [resolving_of_not_inProgress hs, resolving_of_not_inProgress hs, heq]

lemma resolvingOptional_succ_limit (h : Within limit (g.resolvingOptional limit t s)) :
    g.resolvingOptional limit t s = g.resolvingOptional (limit + 1) t s :=
  ((kept_eq s fun c => c.level < limit).resolveOptionalWith _ _ fun _ _ =>
    ⟨inProgress_resolving, resolving_succ_limit⟩).related h

/-- Identities no two of which are equal. -/
def Distinct (ids : List ι) : Prop := ids.Pairwise fun i j => (i == j) = false

lemma distinct_cons {i : ι} {ids : List ι} (h : Distinct ids) (hi : ids.contains i = false) :
    Distinct (i :: ids) := by
  refine List.pairwise_cons.mpr ⟨fun j hj => ?_, h⟩
  by_contra hij
  have : ids.contains i = true := List.contains_iff_exists_mem_beq.mpr ⟨j, hj, by simpa using hij⟩
  simp [hi] at this

/-- Of the identities of the types that `t` reaches, at most `n` are distinct. -/
def IdentitiesAtMost (g : TypeGraph τ ι) (t : τ) (n : Nat) : Prop :=
  ∀ ts : List τ, (∀ u ∈ ts, g.Reaches t u) → Distinct (ts.map g.identity) → ts.length ≤ n

/-- What holds of all calls of a run from `t`: the distinct identities of as many types that `t`
reaches as the call has others around it are in progress. -/
structure Nested (g : TypeGraph τ ι) (t : τ) (c : Call τ ι) : Prop where
  reaches : g.Reaches t c.type
  inProgress : ∃ ts : List τ, (∀ u ∈ ts, g.Reaches t u) ∧ c.inProgress = ts.map g.identity ∧
    c.level = ts.length
  distinct : Distinct c.inProgress

lemma inherited_nested (g : TypeGraph τ ι) (t : τ) : g.Inherited (g.Nested t) := by
  intro c u h hc hu
  obtain ⟨ts, hts, hin, hlevel⟩ := h.inProgress
  refine ⟨h.reaches.trans hu.below.to_reflTransGen, ⟨c.type :: ts, ?_, by simp [hin], by simp [hlevel]⟩,
    distinct_cons h.distinct (by simpa [Recurs] using hc)⟩
  exact List.forall_mem_cons.mpr ⟨h.reaches, hts⟩

lemma nested_of_reaches {u : τ} (h : g.Reaches t u) : g.Nested t ⟨0, [], u⟩ :=
  ⟨h, ⟨[], by simp⟩, List.Pairwise.nil⟩

lemma Nested.level_le {c : Call τ ι} (h : g.Nested t c) {n : Nat} (hn : g.IdentitiesAtMost t n) :
    c.level ≤ n := by
  obtain ⟨ts, hts, hin, hlevel⟩ := h.inProgress
  exact hlevel ▸ hn ts hts (hin ▸ h.distinct)

/-- How deep a call is nested, itself counted. -/
def depth (c : Call τ ι) : Nat := c.level + 1

/-- The calls of a run are nested at most `n + 1` deep, and find distinct identities in progress, to
which they add their own only if it is distinct too. -/
def Bounded (g : TypeGraph τ ι) (n : Nat) {α : Type} (run : Resolution τ ι α) : Prop :=
  ∀ c ∈ run.calls, depth c ≤ n + 1 ∧ Distinct c.inProgress ∧
    (¬g.Recurs c → Distinct (g.identity c.type :: c.inProgress))

lemma bounded_of_steady {α : Type} {x : Resolving τ ι α} {n : Nat} (hn : g.IdentitiesAtMost t n)
    (h : Steady s (g.Nested t) x) : g.Bounded n (x s) := fun c hc =>
  ⟨Nat.succ_le_succ ((h.calls c hc).level_le hn), (h.calls c hc).distinct,
    fun hrecurs => distinct_cons (h.calls c hc).distinct (by simpa [Recurs] using hrecurs)⟩

lemma Bounded.within {α : Type} {run : Resolution τ ι α} {n : Nat} (h : g.Bounded n run)
    (hlimit : n < limit) : Within limit run := fun c hc =>
  Nat.lt_of_le_of_lt (Nat.le_of_succ_le_succ (h c hc).1) hlimit

lemma bounded_resolving {n : Nat} (hn : g.IdentitiesAtMost t n) :
    g.Bounded n (g.resolving limit t []) := by
  refine bounded_of_steady hn ?_
  simpa [Call.inside] using steady_resolving (inherited_nested g t) 0 (nested_of_reaches .refl)

lemma bounded_resolvingOptional {n : Nat} (hn : g.IdentitiesAtMost t n) :
    g.Bounded n (g.resolvingOptional limit t []) :=
  bounded_of_steady hn (steady_resolvingOptional (inherited_nested g t) fun _ hu =>
    nested_of_reaches hu.reaches)

lemma identitiesAtMost_length [LawfulBEq ι] (ids : List ι)
    (h : ∀ u, g.Reaches t u → g.identity u ∈ ids) : g.IdentitiesAtMost t ids.length := by
  intro ts hts hdistinct
  have hnodup : (ts.map g.identity).Nodup := hdistinct.imp fun hij => by simpa using hij
  have hsubset : ts.map g.identity ⊆ ids := by
    intro i hi
    obtain ⟨u, hu, rfl⟩ := List.mem_map.mp hi
    exact h u (hts u hu)
  simpa using (List.subperm_of_subset hnodup hsubset).length_le

/-- Resolving ends if there are at most `n` distinct identities: one run, with calls nested at most
`n + 1` deep, is what comes of every limit above `n`, and the identities in progress are distinct at
each of its calls. -/
theorem resolving_ends (g : TypeGraph τ ι) (t : τ) (n : Nat) (hn : g.IdentitiesAtMost t n) :
    (∃ run, (∀ limit, n < limit → g.resolving limit t [] = run) ∧ g.Bounded n run) ∧
      ∃ run, (∀ limit, n < limit → g.resolvingOptional limit t [] = run) ∧ g.Bounded n run := by
  constructor
  · refine ⟨g.resolving (n + 1) t [], fun limit hlimit => ?_, bounded_resolving hn⟩
    induction limit, hlimit using Nat.le_induction with
    | base => rfl
    | succ limit hlimit ih =>
      exact (resolving_succ_limit ((bounded_resolving hn).within hlimit)).symm.trans ih
  · refine ⟨g.resolvingOptional (n + 1) t [], fun limit hlimit => ?_, bounded_resolvingOptional hn⟩
    induction limit, hlimit using Nat.le_induction with
    | base => rfl
    | succ limit hlimit ih =>
      exact (resolvingOptional_succ_limit
        ((bounded_resolvingOptional hn).within hlimit)).symm.trans ih

/-- The types of a linked list: a node has a value and a next node or nothing. -/
inductive Link
  | node
  | value
  | next
  | nothing
  deriving DecidableEq

def linkedList : TypeGraph Link Link where
  identity t := t
  describe _ := "link"
  isNone _ := false
  isAny _ := false
  literal? _ := none
  enumValues? _ := none
  primitive? t := if t = .value then some "number" else none
  isArrayLike _ := false
  elementType? _ := .ok none
  members t := .ok (if t = .node then
    [⟨"value", .value, false, none⟩, ⟨"next", .next, false, none⟩] else [])
  isUnion t := t = .next
  unionMembers t := if t = .next then [.node, .nothing] else []
  isIntersection _ := false
  intersectionMembers _ := []
  isAbsent t := t = .nothing

theorem resolving_ends_linkedList : linkedList.IdentitiesAtMost .node 4 ∧
    (∃ run, (∀ limit, 4 < limit → linkedList.resolving limit .node [] = run) ∧
      linkedList.Bounded 4 run) ∧
    ∃ run, (∀ limit, 4 < limit → linkedList.resolvingOptional limit .node [] = run) ∧
      linkedList.Bounded 4 run := by
  have h : linkedList.IdentitiesAtMost .node 4 :=
    identitiesAtMost_length [.node, .value, .next, .nothing] fun u _ => by
      cases u <;> decide
  exact ⟨h, resolving_ends linkedList .node 4 h⟩

end CallSchema.TypeGraph

/-!
Lists of pairs in which a key stands once, in the order in which the keys came, and dictionaries:
such lists for which that is known.
-/

namespace CallSchema

namespace Keyed

variable {α β : Type}

/-- The value of a key. -/
def get? (xs : List (String × α)) (key : String) : Option α := xs.lookup key

def keys (xs : List (String × α)) : List String := xs.map (·.1)

def has (xs : List (String × α)) (key : String) : Bool := (get? xs key).isSome

/-- Gives `key` the value `value`, in the place that it has, or at the end. -/
def put : List (String × α) → String → α → List (String × α)
  | [], key, value => [(key, value)]
  | x :: xs, key, value =>
    if x.1 = key then (key, value) :: xs else x :: put xs key value

/-- Puts the pairs of `ys` one after another. -/
def putAll (xs ys : List (String × α)) : List (String × α) :=
  ys.foldl (fun acc y => put acc y.1 y.2) xs

/-- A key keeps the place of its first pair and takes the value of its last. -/
def ofPairs (ys : List (String × α)) : List (String × α) := putAll [] ys

def erase (xs : List (String × α)) (key : String) : List (String × α) :=
  xs.filter (·.1 != key)

theorem keys_put_of_mem {xs : List (String × α)} {key : String} (value : α)
    (h : key ∈ keys xs) : keys (put xs key value) = keys xs := by
  induction xs with
  | nil => simp [keys] at h
  | cons x xs ih =>
    by_cases hx : x.1 = key
    · simp [put, keys, hx]
    · simp only [keys, List.map_cons, List.mem_cons] at h
      have : key ∈ keys xs := h.resolve_left (Ne.symm hx)
      simpa [put, keys, hx] using ih this

theorem keys_put_of_not_mem {xs : List (String × α)} {key : String} (value : α)
    (h : key ∉ keys xs) : keys (put xs key value) = keys xs ++ [key] := by
  induction xs with
  | nil => simp [put, keys]
  | cons x xs ih =>
    simp only [keys, List.map_cons, List.mem_cons, not_or] at h
    have hx : ¬ x.1 = key := Ne.symm h.1
    simpa [put, keys, hx] using ih h.2

theorem nodup_keys_put {xs : List (String × α)} (h : (keys xs).Nodup) (key : String) (value : α) :
    (keys (put xs key value)).Nodup := by
  by_cases hkey : key ∈ keys xs
  · rwa [keys_put_of_mem value hkey]
  · rw [keys_put_of_not_mem value hkey]
    refine List.nodup_append.mpr ⟨h, by simp, fun a ha b hb => ?_⟩
    rintro rfl
    exact hkey (List.mem_singleton.mp hb ▸ ha)

end Keyed

/-- Pairs in which no key stands twice. -/
structure Dict (α : Type) where
  pairs : List (String × α)
  nodup : (Keyed.keys pairs).Nodup
  deriving Repr

namespace Dict

variable {α : Type}

def empty : Dict α := ⟨[], List.nodup_nil⟩

instance : Inhabited (Dict α) := ⟨empty⟩

def get? (d : Dict α) (key : String) : Option α := Keyed.get? d.pairs key

def keys (d : Dict α) : List String := Keyed.keys d.pairs

def has (d : Dict α) (key : String) : Bool := Keyed.has d.pairs key

/-- Gives `key` the value `value`, in the place that it has, or at the end. -/
def put (d : Dict α) (key : String) (value : α) : Dict α :=
  ⟨Keyed.put d.pairs key value, Keyed.nodup_keys_put d.nodup key value⟩

/-- Puts pairs one after another. -/
def putAll (d : Dict α) (xs : List (String × α)) : Dict α :=
  xs.foldl (fun d x => d.put x.1 x.2) d

/-- A key keeps the place of its first pair and takes the value of its last. -/
def ofPairs (xs : List (String × α)) : Dict α := empty.putAll xs

end Dict

end CallSchema

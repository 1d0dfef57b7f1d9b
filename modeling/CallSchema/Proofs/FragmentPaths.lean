import CallSchema.Fragment
import CallSchema.Keyed
import Mathlib.Tactic.Lemma

/-!
# Paths in a fragment

A path of property names leads from an object to the fragments nested in it.
-/

namespace CallSchema.Fragment

/-- The properties of an object, and none of other fragments. -/
def properties : Fragment → List (String × Fragment)
  | object _ properties _ => properties
  | _ => []

@[simp] lemma properties_object (d : Option String) (properties : List (String × Fragment))
    (required : List String) : (object d properties required).properties = properties := rfl

lemma describe_object (d e : Option String) (properties : List (String × Fragment))
    (required : List String) : (object d properties required).describe e =
      object e properties required := rfl

@[simp] lemma properties_describe (d : Option String) (f : Fragment) :
    (f.describe d).properties = f.properties := by
  cases f <;> rfl

/-- The fragment that a path of properties leads to. -/
def at? (f : Fragment) : List String → Option Fragment
  | [] => some f
  | x :: path => (Keyed.get? f.properties x).bind (at? · path)

@[simp] lemma at?_nil (f : Fragment) : f.at? [] = some f := rfl

lemma at?_append (f : Fragment) (p q : List String) :
    f.at? (p ++ q) = (f.at? p).bind (·.at? q) := by
  induction p generalizing f with
  | nil => rfl
  | cons x p ih =>
    rw [List.cons_append, at?, at?]
    cases Keyed.get? f.properties x with
    | none => rfl
    | some g => exact ih g

lemma at?_cons_eq_some_iff {f g : Fragment} {x : String} {path : List String} :
    f.at? (x :: path) = some g ↔ ∃ c, Keyed.get? f.properties x = some c ∧ c.at? path = some g := by
  simp [at?, Option.bind_eq_some_iff]

lemma isSome_at?_describe (d : Option String) (f : Fragment) (path : List String) :
    ((f.describe d).at? path).isSome = (f.at? path).isSome := by
  cases path with
  | nil => rfl
  | cons x path => simp [at?]

end CallSchema.Fragment

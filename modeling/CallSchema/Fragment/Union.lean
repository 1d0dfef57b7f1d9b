import CallSchema.Fragment
import CallSchema.Failure

/-!
Unions and intersections of fragments. A union is collapsed where a simpler fragment says the same:
unknown variants are dropped, a single variant stands for itself, and enumerations of one base are
put together.
-/

namespace CallSchema.Fragment

/-- The base and the values of an enumeration. -/
def enum? : Fragment → Option (EnumBase × List EnumValue)
  | enum _ base values => some (base, values)
  | _ => none

/-- The enumeration of all values, in order, if all variants are enumerations of one base. -/
def joinEnums? (variants : List Fragment) : Option (EnumBase × List EnumValue) :=
  match variants.mapM enum? with
  | some ((base, values) :: rest) =>
    if rest.all (·.1 == base) then some (base, values ++ rest.flatMap (·.2)) else none
  | _ => none

/-- The union of fragments. -/
def oneOfAll (variants : List Fragment) : Fragment :=
  match variants.filter (!·.isUnknown) with
  | [] => unknown none
  | [f] => f
  | known =>
    match joinEnums? known with
    | some (base, values) => enum none base values
    | none => oneOf none known

/-- The intersection of fragments, of which there must be one. -/
def allOfAll (variants : List Fragment) : Except Failure Fragment :=
  if variants.isEmpty then .error .emptyIntersection else .ok (allOf none variants)

mutual

/-- Collapses a union, and the unions among its variants, once more. Other fragments stay as they
are. -/
def normalize : Fragment → Fragment
  | oneOf _ variants => oneOfAll (normalizeAll variants)
  | f => f

def normalizeAll : List Fragment → List Fragment
  | [] => []
  | f :: fs => normalize f :: normalizeAll fs

end

theorem normalizeAll_eq_map (fs : List Fragment) : normalizeAll fs = fs.map normalize := by
  induction fs with
  | nil => rfl
  | cons f fs ih => simp [normalizeAll, ih]

end CallSchema.Fragment

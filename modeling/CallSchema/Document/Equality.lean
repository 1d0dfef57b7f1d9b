import CallSchema.Document
import CallSchema.Keyed

/-!
Equality of documents as data. The order of an object's fields does not count, and numbers are equal
by value, whatever their form.
-/

namespace CallSchema.Document

/-- The number that a document equals. Truth values equal zero and one. -/
def number? : Document → Option Number
  | bool b => some (.int (if b then 1 else 0))
  | number n => some n
  | _ => none

mutual

def eqv : Document → Document → Bool
  | null, null => true
  | text s, text s' => s == s'
  | list items, list items' => eqvItems items items'
  | object fields, object fields' =>
    fields.length == fields'.length && eqvFields fields fields'
  | a, b =>
    match a.number?, b.number? with
    | some m, some n => m.eqv n
    | _, _ => false

def eqvItems : List Document → List Document → Bool
  | [], [] => true
  | d :: ds, e :: es => eqv d e && eqvItems ds es
  | _, _ => false

/-- Whether each field on the left has an equal one of its name on the right. -/
def eqvFields : List (String × Document) → List (String × Document) → Bool
  | [], _ => true
  | (key, d) :: rest, others =>
    (match Keyed.get? others key with
      | some e => eqv d e
      | none => false) && eqvFields rest others

end

end CallSchema.Document

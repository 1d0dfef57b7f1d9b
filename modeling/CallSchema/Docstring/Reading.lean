import CallSchema.Docstring.Epydoc
import CallSchema.Docstring.Google
import CallSchema.Docstring.Numpy
import CallSchema.Docstring.Rest

/-!
Reading documentation texts of unknown style: of the styles that fit, the one with the most items is
taken, and of several such the first.
-/

namespace CallSchema.Docstring

/-- The first of the longest lists of items. -/
def best : List Docstring → Docstring
  | [] => { description := none, items := [] }
  | d :: ds => ds.foldl (fun b e => if b.items.length < e.items.length then e else b) d

def parse (text : List Char) : Except Failure Docstring := do
  let rest ← Rest.parse? ('\n' :: text)
  pure (best ([rest, Google.parse? ('\n' :: text), some (Numpy.parse ('\n' :: text)),
    Epydoc.parse? ('\n' :: text)].filterMap id))

end CallSchema.Docstring

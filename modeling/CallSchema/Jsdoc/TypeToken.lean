import CallSchema.Failure
import CallSchema.Text.Trim

/-!
Declared types. A token names a type in any letter case, or several types with bars between them.
-/

namespace CallSchema.Jsdoc

open Text

/-- The token of a declaration that lists its values. -/
def enumToken : String := "enum"

def isUnionToken (token : List Char) : Bool := token.contains '|'

/-- A token without its surrounding blanks, in lower case. -/
def normalToken (token : List Char) : String := String.ofList (lower (trim token))

/-- The type that a token names. -/
def checkType (token : List Char) : Except Failure String :=
  if typeNames.contains (normalToken token) then .ok (normalToken token)
  else .error (.invalidType (String.ofList (trim token)))

/-- The types that the members of a union name. All members that name none are reported at once. -/
def checkUnion (token : List Char) : Except Failure (List String) :=
  let members := (splitOn '|' token).map normalToken
  match members.filter (!typeNames.contains ·) with
  | [] => .ok members
  | invalid => .error (.invalidUnion invalid)

end CallSchema.Jsdoc

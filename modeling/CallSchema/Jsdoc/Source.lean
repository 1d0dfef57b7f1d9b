import CallSchema.Jsdoc.Block
import CallSchema.Jsdoc.Fold
import CallSchema.Jsdoc.FunctionName

/-!
The documented functions of a source: one for each documentation comment that a function follows.
-/

namespace CallSchema.Jsdoc

/-- The function that a comment documents. Its declarations are read even if no function follows
it. -/
def Block.function? (b : Block) : Except Failure (Option DocumentedFunction) := do
  if b.isCommentedOut then return none
  let (notice, declarations) ← readBody b.body
  match functionName? b.after with
  | none => return none
  | some name => return some (← DocumentedFunction.make notice name (← buildParams declarations))

def functions (source : List Char) : Except Failure (List DocumentedFunction) := do
  let found ← (Block.all source).mapM Block.function?
  pure (found.filterMap id)

end CallSchema.Jsdoc

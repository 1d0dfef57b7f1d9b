import CallSchema.Hint.Parser
import CallSchema.Module.Line
import CallSchema.Text.Indent

/-!
A reader of plain programs. It reads definitions with parameters, assignments of one name, imports,
documentation texts and expressions, and the bodies of definitions for their documentation alone.
Classes, other blocks, decorators and other assignments are beyond it: it takes them for errors.
-/

namespace CallSchema

namespace Statement

open Text

/-- The text up to the bracket that closes it, and what follows that. -/
def toClosing? : (depth : Nat) → List Char → Option (List Char × List Char)
  | _, [] => none
  | depth, c :: cs =>
    if ")]\x7d".toList.contains c then
      match depth with
      | 0 => some ([], cs)
      | depth + 1 => (toClosing? depth cs).map fun (inner, rest) => (c :: inner, rest)
    else
      let depth := if "([\x7b".toList.contains c then depth + 1 else depth
      (toClosing? depth cs).map fun (inner, rest) => (c :: inner, rest)

/-- The pieces of a text between the marks that stand outside of brackets. -/
def splitOutside (mark : Char) : (depth : Nat) → List Char → List (List Char)
  | _, [] => [[]]
  | depth, c :: cs =>
    if depth = 0 && c = mark then [] :: splitOutside mark 0 cs
    else
      let depth :=
        if "([\x7b".toList.contains c then depth + 1
        else if ")]\x7d".toList.contains c then depth - 1 else depth
      match splitOutside mark depth cs with
      | [] => [[c]]
      | piece :: pieces => (c :: piece) :: pieces

def expression? (cs : List Char) : Option HintExpr := HintExpr.parse? (String.ofList (trim cs))

/-- A name that is not reserved. -/
def name? (cs : List Char) : Option String :=
  let cs := trim cs
  if cs.all isWord && (cs.head?.map HintExpr.startsWord).getD false then
    let n := String.ofList cs
    if HintExpr.reserved.contains n then none else some n
  else none

/-- A name with a hint, as far as it is given. -/
def hinted? (cs : List Char) : Option (String × Option HintExpr) :=
  match cutAt? [':'] cs with
  | none => (name? cs).map (·, none)
  | some (n, hint) => do some (← name? n, some (← expression? hint))

/-- A parameter of the kind given. -/
def param? (kind : ParamKind) (cs : List Char) : Option ParamDef :=
  match splitOutside '=' 0 cs with
  | [cs] => do
    let (name, hint) ← hinted? cs
    some { name, kind, hint }
  | [cs, value] => do
    let (name, hint) ← hinted? cs
    some { name, kind, hint, default := some (← expression? value) }
  | _ => none

/-- Parameters, the ones after a star as named ones. -/
def params? (kind : ParamKind) : List (List Char) → Option (List ParamDef)
  | [] => some []
  | piece :: pieces =>
    match trim piece with
    | [] => if pieces.isEmpty then some [] else none
    | ['*'] => params? .keywordOnly pieces
    | ['/'] => params? kind pieces
    | '*' :: '*' :: cs => do some ((← param? .keywords cs) :: (← params? kind pieces))
    | '*' :: cs => do some ((← param? .rest cs) :: (← params? .keywordOnly pieces))
    | cs => do some ((← param? kind cs) :: (← params? kind pieces))

/-- The parameters before a slash are positional only. -/
def withSlash (pieces : List (List Char)) (ps : List ParamDef) : List ParamDef :=
  match (pieces.map trim).idxOf? ['/'] with
  | some n =>
    ps.take n |>.map (fun p => { p with kind := .positionalOnly }) |>.append (ps.drop n)
  | none => ps

/-- The head of a definition, and what stands after its colon. -/
def definition? (line : List Char) : Option (Bool × FunctionDef × List Char) := do
  let (isAsync, line) ← match dropStart? "async def ".toList line with
    | some rest => some (true, rest)
    | none => (dropStart? "def ".toList line).map (false, ·)
  let (name, rest) ← cutAt? ['('] line
  let (inner, rest) ← toClosing? 0 rest
  let pieces := splitOutside ',' 0 inner
  let params := withSlash pieces (← params? .positional pieces)
  let (returns, body) ← match dropStart? ['-', '>'] (trimLeft rest) with
    | some rest => do
      let (hint, body) ← cutAt? [':'] rest
      some (some (← expression? hint), body)
    | none => (dropStart? [':'] (trimLeft rest)).map (none, ·)
  some (isAsync, { name := ← name? name, params, returns }, trim body)

/-- A text that stands as a statement. -/
def docText? (line : List Char) : Option String :=
  let mark := line.head?.getD ' '
  match dropStart? [mark, mark, mark] line with
  | some rest =>
    if (mark = '"' || mark = '\'') && endsWith [mark, mark, mark] rest then
      some (String.ofList (rest.take (rest.length - 3)))
    else none
  | none =>
    match HintExpr.parse? (String.ofList line) with
    | some (.constant (.text s)) => some s
    | _ => none

/-- The statements that a line without a block stands for. -/
def simple? (line : List Char) : Option (List Statement) :=
  if line = "pass".toList || (docText? line).isSome then some []
  else match dropStart? "return".toList line with
  | some rest =>
    if (trim rest).isEmpty || (startsWith [' '] rest && (expression? rest).isSome) then some []
    else none
  | none =>
  match dropStart? "import ".toList line with
  | some rest => do some [.importModule (← name? rest)]
  | none =>
  match (dropStart? "from ".toList line).bind (cutAt? " import ".toList) with
  | some (path, names) => do
    some [.importNames (← name? path) (← (splitOn ',' names).mapM name?)]
  | none =>
  match splitOutside '=' 0 line with
  | [_] => (expression? line).map fun _ => []
  | [name, value] => do
    match name? value with
    | some of => some [.rebind (← name? name) of]
    | none => some [.assign (← name? name) (← expression? value)]
  | _ => none

mutual

/-- The statements on lines of one indentation, the documentation text that stands first, and the
lines after them; `fuel` bounds the number of lines. -/
def block : (fuel : Nat) → (indent : Nat) → List ProgramLine →
    Except LineFault (List Statement × List ProgramLine)
  | 0, _, lines => .ok ([], lines)
  | _, _, [] => .ok ([], [])
  | fuel + 1, indent, l :: lines =>
    if l.indent < indent then .ok ([], l :: lines)
    else if indent < l.indent then .error ⟨.unexpectedIndent, l.number⟩
    else do
      let (here, lines) ← statement fuel l lines
      let (more, lines) ← block fuel indent lines
      pure (here ++ more, lines)

/-- The statement that starts on a line. -/
def statement : (fuel : Nat) → ProgramLine → List ProgramLine →
    Except LineFault (List Statement × List ProgramLine)
  | 0, _, lines => .ok ([], lines)
  | fuel + 1, l, lines =>
    let text := trim l.text
    match definition? text with
    | some (isAsync, f, []) =>
      match lines with
      | [] => .error ⟨.missingBlock l.number, l.number⟩
      | first :: rest =>
        if first.indent ≤ l.indent then .error ⟨.missingBlock l.number, first.number⟩
        else do
          let (_, lines) ← block fuel first.indent (first :: rest)
          pure ([.define isAsync { f with doc := docText? (trim first.text) }], lines)
    | some (isAsync, f, body) =>
      if (simple? body).isSome then .ok ([.define isAsync { f with doc := docText? body }], lines)
      else .error ⟨.invalid, l.number⟩
    | none =>
      match simple? text with
      | some ss => .ok (ss, lines)
      | none => .error ⟨.invalid, l.number⟩

end

end Statement

namespace Module

/-- What follows the innermost bracket that is left open, from a text that is given backwards.
`closed` counts the brackets that have been met from behind. -/
def afterOpen (closed : Nat) : List Char → List Char
  | [] => []
  | c :: cs =>
    if ")]\x7d".toList.contains c then afterOpen (closed + 1) cs ++ [c]
    else if "([\x7b".toList.contains c then
      match closed with
      | 0 => []
      | closed + 1 => afterOpen closed cs ++ [c]
    else afterOpen closed cs ++ [c]

/-- Whether what follows the open bracket of a line cannot stand there. -/
def spoilsBracket (l : ProgramLine) : Bool :=
  match Text.trimLeft (afterOpen 0 l.text.reverse) with
  | c :: _ => ":=.,;/%&|^<>?!$".toList.contains c
  | [] => false

/-- The module that a text is. A fault in the characters of the text comes before one in its
statements, except for indentation; a bracket that is never closed comes last. -/
def parse (source : List Char) : Except LineFault Module :=
  let (lines, fault) := ProgramLine.read source
  let parsed (lines : List ProgramLine) : Except LineFault Module :=
    (Statement.block (2 * lines.length + 2) 0 lines).map fun r => { statements := r.1 }
  match fault with
  | none => parsed lines
  | some ⟨.neverClosed c, n⟩ =>
    match parsed lines.dropLast, lines.getLast? with
    | .error e, _ => .error e
    | .ok _, some last =>
      if spoilsBracket last then .error ⟨.invalid, last.number⟩ else .error ⟨.neverClosed c, n⟩
    | .ok _, none => .error ⟨.neverClosed c, n⟩
  | some e =>
    match parsed lines with
    | .error ⟨.unexpectedIndent, n⟩ => .error ⟨.unexpectedIndent, n⟩
    | _ => .error e

end Module

namespace PlainProgram

/-- Programs read as plain ones. -/
scoped instance reader : ProgramReader where
  parse source := (Module.parse source).mapError LineFault.error

end PlainProgram

end CallSchema

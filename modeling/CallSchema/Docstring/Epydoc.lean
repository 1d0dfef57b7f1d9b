import CallSchema.Docstring

/-!
Tagged items: each starts with an at sign at the start of a line. A tag with its names and a colon
is looked for anywhere in the item, parameters first.
-/

namespace CallSchema.Docstring.Epydoc

open Text

/-- What a tag is about. -/
inductive Tag
  | param (word name : String)
  | raises
  | returns (word : String)
  | note (word : String)
  deriving DecidableEq, Repr

/-- Letters of names: those between `A` and `z` in ASCII, signs included. -/
def isNameStart (c : Char) : Bool := 'A' ≤ c && c ≤ 'z'

def isNameChar (c : Char) : Bool := isNameStart c || ('0' ≤ c && c ≤ '9')

/-- Blanks and a name, perhaps with a question mark. -/
def takeName? (cs : List Char) : Option (List Char × List Char) :=
  match cs with
  | b :: _ =>
    if isBlank b then
      match trimLeft cs with
      | c :: rest =>
        if isNameStart c then
          let name := c :: rest.takeWhile isNameChar
          match rest.dropWhile isNameChar with
          | '?' :: after => some (name ++ ['?'], after)
          | after => some (name, after)
        else none
      | [] => none
    else none
  | [] => none

/-- The first of some words that a text starts with. -/
def takeWord? (ws : List String) (cs : List Char) : Option (String × List Char) :=
  ws.findSome? fun w => (dropStart? w.toList cs).map (w, ·)

def paramWords : List String := ["param", "keyword", "type"]

def variableWords : List String := ["ivar", "cvar", "var"]

/-- One of some words, a name and a colon. -/
def namedTag? (ws : List String) (cs : List Char) : Option (Tag × List Char) := do
  let (word, rest) ← takeWord? ws cs
  let (name, rest) ← takeName? rest
  match rest with
  | ':' :: after => some (.param word (String.ofList name), after)
  | _ => none

def raiseTag? (cs : List Char) : Option (Tag × List Char) := do
  let rest ← dropStart? "raise".toList cs
  match (takeName? rest).getD ([], rest) with
  | (_, ':' :: after) => some (.raises, after)
  | _ => none

def returnWords : List String := ["return", "rtype", "yield", "ytype"]

def returnTag? (cs : List Char) : Option (Tag × List Char) := do
  match ← takeWord? returnWords cs with
  | (word, ':' :: after) => some (.returns word, after)
  | _ => none

/-- Passes over names; `fuel` bounds their number. -/
def dropNames : (fuel : Nat) → List Char → List Char
  | 0, cs => cs
  | fuel + 1, cs =>
    match takeName? cs with
    | some (_, rest) => dropNames fuel rest
    | none => cs

/-- Any word of two letters or more, names and a colon. -/
def noteTag? (cs : List Char) : Option (Tag × List Char) :=
  match cs with
  | c :: rest =>
    match rest.takeWhile isNameChar with
    | [] => none
    | more =>
      if isNameStart c then
        match dropNames cs.length (rest.dropWhile isNameChar) with
        | ':' :: after => some (.note (String.ofList (c :: more)), after)
        | _ => none
      else none
  | [] => none

/-- The leftmost place where a tag stands. -/
def search? (at? : List Char → Option (Tag × List Char)) : List Char → Option (Tag × List Char)
  | [] => none
  | c :: cs =>
    match at? (c :: cs) with
    | some found => some found
    | none => search? at? cs

/-- The tag of an item and its text. -/
def tag? (chunk : List Char) : Option (Tag × String) := do
  let (tag, rest) ← (search? (namedTag? paramWords) chunk).or <|
    (search? (namedTag? variableWords) chunk).or <|
    (search? raiseTag? chunk).or <| (search? returnTag? chunk).or <| search? noteTag? chunk
  match tag with
  | .note word =>
    if (paramWords ++ variableWords ++ returnWords).contains word then none
    else some (tag, String.ofList (cleanDescription rest))
  | tag => some (tag, String.ofList (cleanDescription rest))

/-- The name under which what is said about a parameter or about returning is put together. -/
def Tag.key? : Tag → Option String
  | param _ name => some name
  | returns _ => some "return"
  | _ => none

def Tag.isType : Tag → Bool
  | param word _ => word == "type"
  | returns word => word == "rtype" || word == "ytype"
  | _ => false

/-- The last description given under a name. -/
def descriptionOf (tags : List (Tag × String)) (name : String) : Option String :=
  (tags.reverse.find? fun t => t.1.key? == some name && !t.1.isType).map (·.2)

/-- Whether returning and yielding are both spoken of. -/
def mixesReturns (tags : List (Tag × String)) : Bool :=
  let said (ws : List String) : Bool := tags.any fun t => match t.1 with
    | .returns word => ws.contains word
    | _ => false
  said ["return", "rtype"] && said ["yield", "ytype"]

/-- One item for each name, at its first mention, and one for each other tag. -/
def itemsFrom (all : List (Tag × String)) : (done : List String) → List (Tag × String) →
    List DocItem
  | _, [] => []
  | done, (tag, _) :: tags =>
    match tag.key? with
    | none => .other :: itemsFrom all done tags
    | some key =>
      if done.contains key then itemsFrom all done tags
      else
        let item : DocItem := match tag with
          | .param _ name => .param name (descriptionOf all name)
          | _ => .other
        item :: itemsFrom all (key :: done) tags

def parse? (text : List Char) : Option Docstring := do
  let (before, chunks) := markedChunks '@' (newlineLines (clean text))
  let tags ← chunks.mapM tag?
  if mixesReturns tags then none
  else
    some
      { description := describeBefore before !chunks.isEmpty
        items := itemsFrom tags [] tags }

end CallSchema.Docstring.Epydoc

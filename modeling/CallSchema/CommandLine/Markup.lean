import CallSchema.Text.Trim

/-!
Texts with styles marked in brackets, as they show without colours. A mark starts with a lower-case
letter or one of `#`, `/` and `@`; a backslash before it makes it a text.
-/

namespace CallSchema

inductive MarkupPiece
  | text (s : List Char)
  /-- A mark, at a position of the text. -/
  | mark (position : Nat) (name : List Char)
  deriving DecidableEq, Repr, Inhabited

namespace Markup

def startsMark (c : Char) : Bool := ('a' ≤ c && c ≤ 'z') || c = '#' || c = '/' || c = '@'

/-- The name in brackets that a text begins with after the opening one. -/
def name? (cs : List Char) : Option (List Char × List Char) :=
  match cs with
  | c :: rest =>
    if startsMark c then
      let inner := rest.takeWhile fun d => d != '[' && d != ']'
      match rest.drop inner.length with
      | ']' :: after => some (c :: inner, after)
      | _ => none
    else none
  | [] => none

/-- The pieces of a text, read from a position on; `fuel` bounds the number of characters. -/
def pieces : (fuel position : Nat) → List Char → List MarkupPiece
  | 0, _, _ => []
  | _, _, [] => []
  | fuel + 1, position, c :: cs =>
    let slashes := ((c :: cs).takeWhile (· == '\\')).length
    let rest := (c :: cs).drop slashes
    match rest with
    | '[' :: after =>
      match name? after with
      | some (name, more) =>
        let next := position + slashes + name.length + 2
        let kept := List.replicate (slashes / 2) '\\'
        if slashes % 2 = 1 then
          .text (kept ++ '[' :: name ++ [']']) :: pieces fuel next more
        else .text kept :: .mark (position + slashes) name :: pieces fuel next more
      | none =>
        .text (List.replicate (slashes - 1) '\\' ++ ['['])
          :: pieces fuel (position + slashes + 1) after
    | _ =>
      if slashes = 0 then .text [c] :: pieces fuel (position + 1) cs
      else .text (List.replicate slashes '\\') :: pieces fuel (position + slashes) rest

/-- The name of a style, for comparing. -/
def styleName (name : List Char) : List Char := Text.lower (Text.trim name)

/-- A mark that closes no style. -/
def unopened (position : Nat) (name : List Char) : String :=
  "closing tag '[" ++ String.ofList name ++ "]' at position " ++ toString position
    ++ (if Text.trim name.tail = [] then " has nothing to close" else " doesn't match any open tag")

/-- The text of pieces, inside the open styles given, the innermost first. -/
def plainFrom (styles : List (List Char)) : List MarkupPiece → Except String (List Char)
  | [] => .ok []
  | .text s :: rest => do pure (s ++ (← plainFrom styles rest))
  | .mark position name :: rest =>
    match name with
    | '/' :: closed =>
      let closed := styleName closed
      if closed.isEmpty then
        match styles with
        | [] => .error (unopened position ['/'])
        | _ :: outer => plainFrom outer rest
      else if styles.contains closed then plainFrom (styles.erase closed) rest
      else .error (unopened position name)
    | name => plainFrom (styleName (name.takeWhile (· != '=')) :: styles) rest

/-- How a text with marks shows, or what is wrong with it. -/
def plain (s : String) : Except String String :=
  (plainFrom [] (pieces (s.length + 1) 0 s.toList)).map String.ofList

end Markup

end CallSchema

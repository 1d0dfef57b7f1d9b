import CallSchema.Document
import CallSchema.Text.Quoted

/-!
The text of a document: texts in double quotes with only quotes, backslashes and control characters
escaped, and lists and objects on one line or with one item a line. It is written piece by piece, up
to the first whole number that has no text.
-/

namespace CallSchema.Document

def escapedChar (c : Char) : List Char :=
  if c = '"' then ['\\', '"']
  else if c = '\\' then ['\\', '\\']
  else if c = '\n' then ['\\', 'n']
  else if c = '\r' then ['\\', 'r']
  else if c = '\t' then ['\\', 't']
  else if c.toNat = 8 then ['\\', 'b']
  else if c.toNat = 12 then ['\\', 'f']
  else if c.toNat < 32 then '\\' :: 'u' :: Text.hex 4 c.toNat
  else [c]

def writeText (s : String) : String :=
  String.ofList ('"' :: s.toList.flatMap escapedChar ++ ['"'])

/-- Doubles that are not finite are named. -/
def writeNumber : Number → String
  | .int n => toString n
  | .float x => x.textWith fun
    | .infinite false => "Infinity"
    | .infinite true => "-Infinity"
    | _ => "NaN"

/-- The start of a new item at a depth; nothing when items stand on one line. -/
def newline (indent : Option Nat) (depth : Nat) : String :=
  match indent with
  | none => ""
  | some n => "\n" ++ String.ofList (List.replicate (n * depth) ' ')

def itemMark (indent : Option Nat) : String := if indent.isNone then ", " else ","

/-- Sets items between brackets. -/
def bracketed (indent : Option Nat) (depth : Nat) (opening closing : String)
    (items : List String) : String :=
  if items.isEmpty then opening ++ closing
  else opening ++ newline indent (depth + 1)
    ++ (itemMark indent ++ newline indent (depth + 1)).intercalate items
    ++ newline indent depth ++ closing

mutual

/-- The text of a document that stands at `depth`. -/
def write (indent : Option Nat) (depth : Nat) : Document → String
  | .null => "null"
  | .bool b => if b then "true" else "false"
  | .number n => writeNumber n
  | .text s => writeText s
  | .list items => bracketed indent depth "[" "]" (writeItems indent (depth + 1) items)
  | .object fields => bracketed indent depth "\x7b" "\x7d" (writeFields indent (depth + 1) fields)

def writeItems (indent : Option Nat) (depth : Nat) : List Document → List String
  | [] => []
  | d :: ds => write indent depth d :: writeItems indent depth ds

def writeFields (indent : Option Nat) (depth : Nat) : List (String × Document) → List String
  | [] => []
  | (key, d) :: fields =>
    (writeText key ++ ": " ++ write indent depth d) :: writeFields indent depth fields

end

/-- What ends the writing at a whole number with too many digits. -/
def overlong : Failure :=
  raised "ValueError" ("Exceeds the limit (" ++ toString maxDigits
    ++ " digits) for integer string conversion; use sys.set_int_max_str_digits() to increase the "
    ++ "limit")

/-- Whether a number has a text. -/
def hasText : Number → Bool
  | .int n => (Nat.toDigits 10 n.natAbs).length ≤ maxDigits
  | .float _ => true

/-- A piece of a text that is written at once, or what ends the writing in its place. -/
abbrev Piece := Except Failure String

/-- The pieces of what stands between brackets. -/
def bracketedPieces (indent : Option Nat) (depth : Nat) (before opening closing : String)
    (isEmpty : Bool) (inner : (before : String) → List Piece) : List Piece :=
  if isEmpty then [.ok (before ++ opening ++ closing)]
  else .ok before :: (inner (opening ++ newline indent (depth + 1))
    ++ [.ok (newline indent depth ++ closing)])

mutual

/-- The pieces of a document that stands at `depth`. Where it starts with a number, that is in one
piece with what stands `before` the document. -/
def pieces (indent : Option Nat) (depth : Nat) (before : String) : Document → List Piece
  | .number n => [if hasText n then .ok (before ++ writeNumber n) else .error overlong]
  | .list items =>
    bracketedPieces indent depth before "[" "]" items.isEmpty
      fun before => itemPieces indent (depth + 1) before items
  | .object fields =>
    bracketedPieces indent depth before "\x7b" "\x7d" fields.isEmpty
      fun before => fieldPieces indent (depth + 1) before fields
  | .null => [.ok (before ++ write indent depth .null)]
  | .bool b => [.ok (before ++ write indent depth (.bool b))]
  | .text s => [.ok (before ++ write indent depth (.text s))]

def itemPieces (indent : Option Nat) (depth : Nat) (before : String) : List Document → List Piece
  | [] => []
  | d :: ds =>
    pieces indent depth before d
      ++ itemPieces indent depth (itemMark indent ++ newline indent depth) ds

def fieldPieces (indent : Option Nat) (depth : Nat) (before : String) :
    List (String × Document) → List Piece
  | [] => []
  | (key, d) :: fields =>
    .ok (before ++ writeText key ++ ": ") :: (pieces indent depth "" d
      ++ fieldPieces indent depth (itemMark indent ++ newline indent depth) fields)

end

/-- The text with pieces after it up to the first that has none, and how writing them ends. -/
def writePieces (text : String) : List Piece → String × Except Failure Unit
  | [] => (text, .ok ())
  | .ok s :: ps => writePieces (text ++ s) ps
  | .error e :: _ => (text, .error e)

/-- Writes a document. -/
def print (indent : Option Nat) (d : Document) : String × Except Failure Unit :=
  writePieces "" (pieces indent 0 "" d)

end CallSchema.Document

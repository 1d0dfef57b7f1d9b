import CallSchema.Module
import CallSchema.Text.Utf8

/-!
Programs as they are read from text. How the text of a program is read is a parameter: everything
that is done with programs holds for whatever reads them.
-/

namespace CallSchema

/-- Why a text is no program: the class of the exception, what it says, and the line. -/
structure SyntaxError where
  kind : String := "SyntaxError"
  message : String
  line : Nat
  deriving Repr, Inhabited

/-- The exception for an error in the file of the name given. -/
def SyntaxError.failure (e : SyntaxError) (file : List Char) : Failure :=
  raised e.kind
    (e.message ++ " (" ++ String.ofList file ++ ", line " ++ toString e.line ++ ")")

/-- What reads the text of a program. A text that it reads holds no null character. -/
class ProgramReader where
  parse : List Char → Except SyntaxError Module

namespace Module

variable [ProgramReader]

/-- The module that a text read from a file of the name given is. -/
def ofText (file source : List Char) : Except Failure Module :=
  if source.contains '\x00' then
    .error (raised "ValueError" "source code string cannot contain null bytes")
  else match ProgramReader.parse source with
    | .ok m => .ok m
    | .error e => .error (e.failure file)

end Module

namespace Text

/-- The runs of bytes that can stand in a name, with the numbers of the lines on which they are. -/
def nameRuns (line : Nat) (current : List UInt8) : List UInt8 → List (Nat × List UInt8)
  | [] => [(line, current.reverse)]
  | b :: bs =>
    if b ≥ 0x80 || isAsciiWord (Char.ofNat b.toNat) then nameRuns line (b :: current) bs
    else (line, current.reverse) :: nameRuns (if b = 10 then line + 1 else line) [] bs

/-- Drops a mark at the start of a file that only says how it is encoded. -/
def dropEncodingMark : List UInt8 → List UInt8
  | 0xEF :: 0xBB :: 0xBF :: bs => bs
  | bs => bs

/-- The error at the first run of bytes that is no text. -/
def undecodable? (bytes : List UInt8) : Option SyntaxError :=
  (nameRuns 1 [] bytes).findSome? fun (line, run) => match decode run with
    | .error e => some { message := "(unicode error) " ++ e.message, line }
    | .ok _ => none

end Text

end CallSchema

import CallSchema.Settings
import CallSchema.Text.Quoted
import CallSchema.Text.Trim

/-!
Command line arguments: options by their names or unambiguous starts of them, with values after them
or after an equals sign.
-/

namespace CallSchema

inductive CommandOption
  | help
  | sourceDirectory
  | output
  | failFast
  deriving DecidableEq, Repr, Inhabited

namespace CommandOption

/-- All names of options, in the order in which they are listed. -/
def names : List (String × CommandOption) :=
  [("-h", help), ("--help", help), ("--source-dir", sourceDirectory), ("--output", output),
    ("--fail-fast", failFast)]

/-- The name in messages. -/
def shown : CommandOption → String
  | help => "-h/--help"
  | sourceDirectory => "--source-dir"
  | output => "--output"
  | failFast => "--fail-fast"

end CommandOption

inductive ArgumentError
  | ambiguous (argument : String) (names : List String)
  | missingValue (option : CommandOption)
  | needlessValue (option : CommandOption) (value : String)
  | unrecognized (arguments : List String)
  deriving DecidableEq, Repr, Inhabited

def ArgumentError.message : ArgumentError → String
  | ambiguous argument names =>
    "ambiguous option: " ++ argument ++ " could match " ++ ", ".intercalate names
  | missingValue option => "argument " ++ option.shown ++ ": expected one argument"
  | needlessValue option value =>
    "argument " ++ option.shown ++ ": ignored explicit argument " ++ Text.quoted value
  | unrecognized arguments => "unrecognized arguments: " ++ " ".intercalate arguments

/-- What an argument is, seen alone. -/
inductive Argument
  | plain (text : String)
  /-- The mark after which no argument is an option. -/
  | endMark
  | option (o : CommandOption) (value : Option String)
  /-- An argument that looks like an option but is none. -/
  | unknown (text : String)
  deriving DecidableEq, Repr, Inhabited

namespace Argument

/-- The text as it was given; it is asked for only where no option is meant. -/
def text : Argument → String
  | plain s | unknown s => s
  | endMark => "--"
  | option o _ => o.shown

def isNumber (cs : List Char) : Bool :=
  match cs with
  | '-' :: digits =>
    match Text.cutAt? ['.'] digits with
    | none => !digits.isEmpty && digits.all Text.isDigit
    | some (whole, places) =>
      whole.all Text.isDigit && !places.isEmpty && places.all Text.isDigit
  | _ => false

/-- The options whose names start as an argument does, with the value that the argument gives. -/
def candidates (cs : List Char) : List (String × CommandOption × Option String) :=
  match cs with
  | '-' :: '-' :: _ =>
    let (start, value) := match Text.cutAt? ['='] cs with
      | some (start, value) => (start, some (String.ofList value))
      | none => (cs, none)
    (CommandOption.names.filter fun x => Text.startsWith start x.1.toList).map
      fun (name, o) => (name, o, value)
  | '-' :: c :: value =>
    CommandOption.names.filterMap fun (name, o) =>
      if name = String.ofList ['-', c] then some (name, o, some (String.ofList value))
      else if Text.startsWith cs name.toList then some (name, o, none) else none
  | _ => []

/-- An argument by its text. -/
def read (s : String) : Except ArgumentError Argument :=
  let cs := s.toList
  if cs.head? != some '-' then .ok (.plain s)
  else match CommandOption.names.lookup s with
  | some o => .ok (.option o none)
  | none =>
    if cs.length = 1 then .ok (.plain s)
    else
      let exact := (Text.cutAt? ['='] cs).bind fun (name, value) =>
        (CommandOption.names.lookup (String.ofList name)).map (·, String.ofList value)
      match exact with
      | some (o, value) => .ok (.option o (some value))
      | none =>
        match candidates cs with
        | [(_, o, value)] => .ok (.option o value)
        | [] => if isNumber cs || cs.contains ' ' then .ok (.plain s) else .ok (.unknown s)
        | found => .error (.ambiguous s (found.map (·.1)))

/-- All arguments; the ones after a double dash are plain. -/
def readAll : List String → Except ArgumentError (List Argument)
  | [] => .ok []
  | s :: ss =>
    if s = "--" then .ok (.endMark :: ss.map .plain)
    else do
      let a ← read s
      pure (a :: (← readAll ss))

end Argument

namespace Settings

/-- What a command line asks for. -/
inductive Request
  | help
  | run (settings : Settings)
  deriving DecidableEq, Repr, Inhabited

/-- The settings with the ones that the arguments give. `extra` holds the arguments that nothing
takes, the last one first. -/
def withArguments (settings : Settings) (extra : List String) :
    List Argument → Except ArgumentError Request
  | [] => if extra.isEmpty then .ok (.run settings) else .error (.unrecognized extra.reverse)
  | .option .help none :: _ => .ok .help
  | .option .failFast none :: rest => withArguments { settings with failFast := true } extra rest
  | .option .sourceDirectory (some s) :: rest =>
    withArguments { settings with sourceDirectory := s } extra rest
  | .option .output (some s) :: rest =>
    withArguments { settings with outputFile := s } extra rest
  | .option .sourceDirectory none :: .plain s :: rest =>
    withArguments { settings with sourceDirectory := s } extra rest
  | .option .output none :: .plain s :: rest =>
    withArguments { settings with outputFile := s } extra rest
  | .option o (some value) :: _ => .error (.needlessValue o value)
  | .option o none :: _ => .error (.missingValue o)
  | a :: rest => withArguments settings (a.text :: extra) rest

/-- What a command line asks for, with the settings given where it says nothing. -/
def request (settings : Settings) (arguments : List String) : Except ArgumentError Request := do
  settings.withArguments [] (← Argument.readAll arguments)

end Settings

end CallSchema

import CallSchema.Module

/-!
A sample of sources in both dialects: a small service about users and their tokens.
-/

namespace CallSchema.Sample

def typing (name : String) (args : List HintExpr) : HintExpr :=
  .subscript (.ofPath ["typing"] name) args

def extended (name : String) (args : List HintExpr) : HintExpr :=
  .subscript (.ofPath ["typing_extensions"] name) args

def text (s : String) : HintExpr := .constant (.text s)

/-- A typed dictionary with the fields given. -/
def dictionary (name : String) (fields : List (String × HintExpr)) : Statement :=
  .classDef { name, bases := [.ofPath ["typing_extensions"] "TypedDict"] }
    (fields.map fun (n, hint) => .field n hint none)

def address : Statement :=
  dictionary "Address"
    [("street", .name "str"),
      ("city", extended "NotRequired" [.either (.name "str") (.name "int")]),
      ("country", extended "NotRequired" [.name "str"])]

def user : Statement :=
  dictionary "User"
    [("name", .name "str"), ("age", .name "float"),
      ("address", extended "NotRequired" [.name "Address"])]

def balanceQuery : Statement :=
  dictionary "BalanceQuery" [("user", .name "User"), ("token", .name "int")]

/-- A documentation text of the lines given. -/
def docLines (lines : List String) : Option String :=
  some ("\n" ++ String.join (lines.map fun l => if l.isEmpty then "\n" else "    " ++ l ++ "\n")
    ++ "    ")

def getBalance : FunctionDef :=
  { name := "get_user_token_balance"
    params := [{ name := "query", kind := .keywords,
                 hint := some (extended "Unpack" [.name "BalanceQuery"]) }]
    returns := some (.constant .null)
    doc := docLines
      ["Fetch the token balance for a user based on their username and token details.", "",
        "Args:", "    user: The user. This can be a wallet address, Discord ID, etc.",
        "    token: The token to search for, which can be its symbol, address, or name."] }

def newFunction : FunctionDef :=
  { name := "this_is_a_new_function"
    params := [{ name := "param1", hint := some (.name "str") },
      { name := "param2", hint := some (.name "float") }]
    returns := some (.constant .null)
    doc := docLines
      ["Just testing a new function", "", "Args:",
        "    param1: this is the description for param1",
        "    param2: this is the description for param2"] }

def setStatus : FunctionDef :=
  { name := "set_status"
    params :=
      [{ name := "status", hint := some (typing "Literal" [text "active", text "inactive"]) },
        { name := "reason", hint := some (typing "Optional" [.name "str"]),
          default := some (.constant .null) }]
    returns := some (.constant .null)
    doc := docLines
      ["Change the status of the current account.", "", "Args:", "    status: The new status.",
        "    reason: Why the status changes."] }

/-- A program with hints. -/
def typed : Module :=
  { statements :=
      [address, user, balanceQuery, .define true getBalance, .define false newFunction,
        .define false setStatus] }

/-- A source with comments. -/
def untyped : String :=
  "\n".intercalate [
    "/**",
    " * Fetch the token balance for a user based on their username and token details.",
    " * @param \x7bstring\x7d userName - The username of the user. This can be a "
      ++ "wallet address, Discord ID, etc.",
    " * @param \x7bnumber | string\x7d token - The token to search for, which "
      ++ "can be its symbol, address, or name.",
    " */",
    "export async function getUserTokenBalanceJs(\x7b userName, token \x7d) \x7b\x7d",
    "",
    "/**",
    " * Just testing a new function",
    " * With a longer description",
    " * @param \x7bobject\x7d param1 - this is the description for param1",
    " * @param \x7benum\x7d param2 [hola, 1, test] - this is the description for param2",
    " */",
    "const thisIsANewFunctionJs = async (\x7b param1, param2 \x7d) => \x7b\x7d;",
    "",
    "/**",
    " * @description This function handles a user object",
    " * @param \x7bobject\x7d user The user object",
    " * @property \x7bstring\x7d user.name The user's name",
    " * @property \x7bnumber\x7d [user.age] The user's age",
    " * @param \x7bnumber\x7d token - The token ID",
    " */",
    "function doSomething(\x7b user, token \x7d) \x7b\x7d",
    ""]

end CallSchema.Sample

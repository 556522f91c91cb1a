import VectorScene.Command.Args
import VectorScene.Json.Pass

/-!
# Calls

A call is a command's name with arguments. Calls are recorded in the history and in log files, as
JSON text or as the expression that makes the call.

## Main definitions

* `Call`: a name with arguments
* `callChars`: the expression that makes a call
* `Call.jsonChars`, `Call.read`: a call as JSON text
* `Call.listJson`, `Call.listOfJson`: a command list as JSON text
-/

namespace VectorScene.Command

/-- A command's name with arguments. -/
structure Call where
  name : String
  args : Args

/-- The parameters up to the last one that is given. -/
def usedParameters (parameters : List Parameter) (args : Args) : List Parameter :=
  (parameters.reverse.dropWhile fun p => !args.contains p.name).reverse

/-- The literal of an argument, or that of an absent value. -/
def argumentLiteral (args : Args) (p : Parameter) : List Char :=
  ((args.get? p.name).getD .absent).literalChars

/-- The expression that makes a call: arguments in the order of the schema, without those behind the
last one that is given. -/
def callChars (name : String) (parameters : List Parameter) (args : Args) : List Char :=
  name.toList ++ '(' :: Value.spaced ((usedParameters parameters args).map (argumentLiteral args))
    ++ [')']

/-- The expression that makes a call. -/
def callText (name : String) (parameters : List Parameter) (args : Args) : String :=
  String.ofList (callChars name parameters args)

namespace Call

/-- The names of the two members of a call in JSON text. -/
def nameKey : String := "cmdName"

/-- The member that holds the arguments. -/
def argsKey : String := "cmdArgs"

/-- A call as JSON text. -/
def jsonChars (call : Call) : List Char :=
  Json.objectChars [(nameKey, Json.encode call.name), (argsKey, call.args.jsonChars)]

/-- A call as JSON text. -/
def json (call : Call) : String := String.ofList call.jsonChars

/-- A command list as JSON text. -/
def listJson (calls : List Call) : String := String.ofList (Json.arrayChars (calls.map jsonChars))

/-- How many containers may be nested inside the arguments of a call. -/
def valueDepth : Nat := Json.nestingLimit - 3

/-- Reads arguments. -/
def readArgs (c : Json.Cursor) : Except Json.Failure (Args × Json.Cursor) :=
  let c := c.trim
  if c.rest.head? = some '\x7b' then
    Json.object (Json.member (Value.read valueDepth)) [] (fun all => .ok (Args.ofList all)) c
  else .error (Json.mismatch .map c)

/-- Reads a member of a call, which may stand there once; other members are passed over. -/
def readMember (gathered : Option String × Option Args) (key : String) (c : Json.Cursor) :
    Except Json.Failure ((Option String × Option Args) × Json.Cursor) :=
  if key = nameKey then
    if gathered.1.isSome then .error (.unplaced (.repeatedField key) c)
    else do
      let (_, c) ← Json.colon c
      let (name, c) ← Json.string c
      return ((some name, gathered.2), c)
  else if key = argsKey then
    if gathered.2.isSome then .error (.unplaced (.repeatedField key) c)
    else do
      let (_, c) ← Json.colon c
      let (args, c) ← readArgs c
      return ((gathered.1, some args), c)
  else do
    let (_, c) ← Json.colon c
    let (_, c) ← Json.passValue c
    return (gathered, c)

/-- The call of its members. The arguments may be left out. -/
def ofMembers (gathered : Option String × Option Args) : Except Json.Cause Call :=
  match gathered.1 with
  | some name => .ok ⟨name, gathered.2.getD .empty⟩
  | none => .error (.missingField nameKey)

/-- Reads the name and the arguments as items of an array. -/
def readItems (c : Json.Cursor) : Except Json.Failure (Call × Json.Cursor) := do
  let (more, c) ← Json.nextItem .array true c
  if !more then throw (.unplaced (.wrongLength 0 .entry 2) c)
  let (name, c) ← Json.string c
  let (more, c) ← Json.nextItem .array false c
  if !more then return (⟨name, .empty⟩, c)
  let (args, c) ← readArgs c
  return (⟨name, args⟩, c)

/-- Reads a call: an object with a name and arguments, or an array of the two. -/
def read (c : Json.Cursor) : Except Json.Failure (Call × Json.Cursor) :=
  let c := c.trim
  if c.rest.head? = some '\x7b' then Json.object readMember (none, none) ofMembers c
  else if c.rest.head? = some '[' then Json.Container.array.finish (readItems c.next)
  else .error (Json.mismatch .entry c)

/-- Reads a command list. -/
def readList (c : Json.Cursor) : Except Json.Failure (List Call × Json.Cursor) :=
  let c := c.trim
  if c.rest.head? = some '[' then Json.array read c else .error (Json.mismatch .sequence c)

/-- The command list that a JSON text is. -/
def listOfJson (text : String) : Except Json.Error (List Call) := Json.Reader.run readList text

end Call

end VectorScene.Command

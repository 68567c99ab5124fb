set_option autoImplicit false

/-!
# Arguments of the command line

A command line names a command and the filter it applies to.  Options may stand before the command
and after it.  An option is given at most once in each of the two places, and the later place wins.
-/

namespace InventoryFilter.CommandLine

/-- What can be done with a filter. -/
inductive Verb
  | compile
  | tokens
  | parse
  deriving DecidableEq, Repr, Inhabited

/-- The verb with the given name. -/
def Verb.ofName? (name : String) : Option Verb :=
  if name = "compile" then some .compile
  else if name = "tokens" then some .tokens
  else if name = "parse" then some .parse
  else none

/-- What the command line asks for. -/
structure Invocation where
  verb : Verb
  /-- the filter -/
  expression : String
  /-- whether an expression is shown as data -/
  json : Bool
  /-- the file that holds the column map -/
  columns : Option String
  /-- whether the log shows more -/
  verbose : Bool
  deriving DecidableEq, Repr, Inhabited

/-- Why a command line asks for nothing that can be done. -/
inductive UsageFault
  | unknownOption (option : String)
  | repeatedOption (option : String)
  | missingValue (option : String)
  | emptyValue (option : String)
  | unneededValue (option : String)
  | unknownCommand (name : String)
  | missingCommand
  | missingExpression
  | extraArgument (argument : String)
  deriving DecidableEq, Repr, Inhabited

/-- What is said about a command line that asks for nothing that can be done. -/
def UsageFault.message : UsageFault → String
  | unknownOption option => "unknown option '" ++ option ++ "'"
  | repeatedOption option => "option '" ++ option ++ "' is given twice"
  | missingValue option => "option '" ++ option ++ "' needs a value"
  | emptyValue option => "option '" ++ option ++ "' needs a value that is not empty"
  | unneededValue option => "option '" ++ option ++ "' takes no value"
  | unknownCommand name => "unknown command '" ++ name ++ "'"
  | missingCommand => "a command is needed"
  | missingExpression => "an expression is needed"
  | extraArgument argument => "argument '" ++ argument ++ "' is not needed"

/-- What ends the reading of a command line before its end. -/
inductive Interrupt
  | version
  | help
  | fault (fault : UsageFault)
  deriving DecidableEq, Repr, Inhabited

/-- The options given in one place. -/
structure Options where
  columns : Option String
  verbose : Bool
  json : Bool
  deriving DecidableEq, Repr, Inhabited

/-- No options. -/
def Options.none : Options := ⟨.none, false, false⟩

/-- How far a command line has been read. -/
structure Reading where
  /-- the options before the command -/
  before : Options
  /-- the command -/
  verb : Option Verb
  /-- the options after the command -/
  after : Options
  expression : Option String
  /-- whether the next argument is the value of the column map option -/
  awaiting : Bool
  /-- whether all further arguments stand for themselves -/
  literal : Bool
  deriving DecidableEq, Repr, Inhabited

namespace Reading

/-- Nothing has been read. -/
def start : Reading := ⟨.none, .none, .none, .none, false, false⟩

/-- The options in the place that has been reached. -/
def current (r : Reading) : Options := if r.verb.isNone then r.before else r.after

/-- Other options in the place that has been reached. -/
def withCurrent (r : Reading) (options : Options) : Reading :=
  if r.verb.isNone then { r with before := options } else { r with after := options }

/-- The file of the column map. -/
def setColumns (r : Reading) (file : String) : Except Interrupt Reading :=
  if file.isEmpty then .error (.fault (.emptyValue "--columns"))
  else if r.current.columns.isSome then .error (.fault (.repeatedOption "--columns"))
  else .ok { r.withCurrent { r.current with columns := some file } with awaiting := false }

/-- A request for more in the log. -/
def setVerbose (r : Reading) : Except Interrupt Reading :=
  if r.current.verbose then .error (.fault (.repeatedOption "--verbose"))
  else .ok (r.withCurrent { r.current with verbose := true })

/-- A request for data, which only one command knows. -/
def setJson (r : Reading) : Except Interrupt Reading :=
  if r.verb ≠ some .parse then .error (.fault (.unknownOption "--json"))
  else if r.current.json then .error (.fault (.repeatedOption "--json"))
  else .ok (r.withCurrent { r.current with json := true })

/-- An argument that is no option. -/
def positional (r : Reading) (argument : String) : Except Interrupt Reading :=
  match r.verb with
  | none =>
    if r.literal then .error (.fault (.unknownCommand argument))
    else if argument = "help" then .error .help
    else
      match Verb.ofName? argument with
      | some verb => .ok { r with verb := some verb }
      | none => .error (.fault (.unknownCommand argument))
  | some _ =>
    if r.expression.isSome then .error (.fault (.extraArgument argument))
    else .ok { r with expression := some argument }

/-- An option by its long name, with the value after an equals sign if there is one. -/
def longOption (r : Reading) (name : String) (value : Option String) :
    Except Interrupt Reading :=
  let option := "--" ++ name
  match name, value with
  | "columns", some file => r.setColumns file
  | "columns", none => .ok { r with awaiting := true }
  | "verbose", none => r.setVerbose
  | "json", none => r.setJson
  | "help", none => .error .help
  | "version", none =>
    if r.verb.isNone then .error .version else .error (.fault (.unknownOption option))
  | "verbose", some _ | "json", some _ | "help", some _ | "version", some _ =>
    .error (.fault (.unneededValue option))
  | _, _ => .error (.fault (.unknownOption option))

/-- Options by their letters, after the hyphen.  What follows the letter of an option with a value
is its value, after an equals sign or not. -/
def letters (r : Reading) : List Char → Except Interrupt Reading
  | [] => .ok r
  | 'v' :: more => do
    let r ← r.setVerbose
    r.letters more
  | 'c' :: '=' :: value => r.setColumns (String.ofList value)
  | ['c'] => .ok { r with awaiting := true }
  | 'c' :: value => r.setColumns (String.ofList value)
  | 'h' :: _ => .error .help
  | c :: _ =>
    if c = 'V' ∧ r.verb.isNone then .error .version
    else .error (.fault (.unknownOption (String.ofList ['-', c])))

/-- The text before the first equals sign, and the text after it if there is one. -/
def splitValue (cs : List Char) : String × Option String :=
  match cs.dropWhile (· != '=') with
  | [] => (String.ofList cs, none)
  | _ :: value => (String.ofList (cs.takeWhile (· != '=')), some (String.ofList value))

/-- One more argument. -/
def step (r : Reading) (argument : String) : Except Interrupt Reading :=
  if r.literal then r.positional argument
  else
    match argument.toList with
    | '-' :: c :: rest =>
      if r.awaiting then .error (.fault (.missingValue "--columns"))
      else if c ≠ '-' then r.letters (c :: rest)
      else if rest.isEmpty then .ok { r with literal := true }
      else r.longOption (splitValue rest).1 (splitValue rest).2
    | _ => if r.awaiting then r.setColumns argument else r.positional argument

/-- The file of the column map: from the options after the command, or else from those before it,
or else from the environment.  A place without the option looks into the environment, which must
then not hold an empty name. -/
def columnsFile (r : Reading) (environment : Option String) : Except Interrupt (Option String) :=
  if environment = some "" ∧ (r.before.columns.isNone ∨ r.after.columns.isNone) then
    .error (.fault (.emptyValue "--columns"))
  else .ok (r.after.columns <|> r.before.columns <|> environment)

/-- What has been asked for once all arguments have been read. -/
def finish (r : Reading) (environment : Option String) : Except Interrupt Invocation := do
  if r.awaiting then .error (.fault (.missingValue "--columns"))
  match r.verb, r.expression with
  | none, _ => .error (.fault .missingCommand)
  | some _, none => .error (.fault .missingExpression)
  | some verb, some expression =>
    let columns ← r.columnsFile environment
    .ok ⟨verb, expression, r.after.json, columns, r.before.verbose || r.after.verbose⟩

end Reading

/-- What a command line asks for, given the file of the column map that the environment names. -/
def Invocation.ofArguments (environment : Option String) (arguments : List String) :
    Except Interrupt Invocation := do
  let r ← arguments.foldlM Reading.step Reading.start
  r.finish environment

end InventoryFilter.CommandLine

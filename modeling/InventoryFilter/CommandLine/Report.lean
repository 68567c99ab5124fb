import InventoryFilter.Columns.Reader
import InventoryFilter.CommandLine.Arguments
import InventoryFilter.Compile
import InventoryFilter.Expr.Data
import InventoryFilter.Expr.Display

set_option autoImplicit false

/-!
# What the command line answers

Running a command line is a function from its arguments and from what surrounds it to an exit code
and two texts.  It is surrounded by its environment, by files, and by what the run itself leaves
open: the order in which a stored column map is inserted, and the words of others about a file that
cannot be used.
-/

namespace InventoryFilter.CommandLine

variable [Pattern.Validator]

/-- The outcome of a command line. -/
structure Report where
  exitCode : Nat
  /-- what goes to the standard output -/
  output : String
  /-- what goes to the standard error output -/
  diagnostics : String
  deriving DecidableEq, Repr, Inhabited

/-- What surrounds the run of a command line. -/
structure World where
  /-- the value of the variable that names the file of the column map -/
  columnsVariable : Option String
  /-- the text of a file, or the words of the system about why it cannot be read -/
  fileText : String → Except String String
  /-- the words about a text that stores no column map -/
  storesNoMap : String → String
  /-- the order in which a stored column map is inserted -/
  arrangement : ColumnMap.Arrangement

/-- The name of the variable that names the file of the column map. -/
def columnsVariableName : String := "FILTER_SQL_COLUMNS"

/-- What is said about the version. -/
def versionText : String := "filter-sql 0.1.0\n"

/-- What is said about the usage. -/
def helpText : String :=
  "Usage: filter-sql [-c FILE] [-v] compile|tokens|parse EXPRESSION [--json]\n"

/-- The outcome of a failure after some events. -/
def failure (log message : String) : Report := ⟨1, "", log ++ "Error: " ++ message ++ "\n"⟩

/-- A message and, below it, the words about what caused it. -/
def withCause (message cause : String) : String :=
  message ++ "\n\nCaused by:\n    " ++
    String.ofList (cause.toList.flatMap fun c => if c = '\n' then "\n    ".toList else [c])

/-- What is said about a filter that is rejected. -/
def rejectionText (expression : String) (r : Rejection) : String :=
  "invalid filter at position " ++ toString r.position ++ "\n" ++ r.caretText expression

/-- The line of a token in a listing. -/
def tokenLine (t : Token) : String :=
  Text.pad .right 4 (toString t.position) ++ " " ++ Text.pad .left 10 t.kind.name ++ " " ++
    t.lexeme ++ "\n"

namespace Invocation

/-- The least level that the log shows. -/
def logLevel (i : Invocation) : Level := if i.verbose then .debug else .info

/-- The log of some events. -/
def log (i : Invocation) (events : List Event) : String := Event.log i.logLevel events

/-- The column map and the event of loading it, or what went wrong. -/
def loadColumns (i : Invocation) (world : World) : Except String (ColumnMap × Event) :=
  match i.columns with
  | none => .ok (.empty, .noColumns)
  | some file =>
    match world.fileText file with
    | .error cause => .error (withCause ("Failed to read column map " ++ file) cause)
    | .ok text =>
      match ColumnMap.ofText? world.arrangement text with
      | none => .error (withCause ("Invalid column map " ++ file) (world.storesNoMap text))
      | some columns => .ok (columns, .loaded columns.size file)

/-- The predicate of the filter. -/
def runCompile (i : Invocation) (world : World) : Report :=
  match i.loadColumns world with
  | .error message => failure "" message
  | .ok (columns, loaded) =>
    let compilation := compileReporting i.expression columns
    let log := i.log (loaded :: compilation.events)
    match compilation.result with
    | .ok sql => ⟨0, sql ++ "\n", log⟩
    | .error r => failure log (rejectionText i.expression r)

/-- The tokens of the filter, a line each. -/
def runTokens (i : Invocation) : Report :=
  ⟨0, String.join ((tokenize i.expression).map tokenLine), ""⟩

/-- The expression that the filter spells, as a filter or as data. -/
def runParse (i : Invocation) : Report :=
  match parse i.expression with
  | .ok e => ⟨0, (if i.json then e.toData.pretty else e.display) ++ "\n", i.log [.parsed e]⟩
  | .error r => failure "" (rejectionText i.expression r)

/-- What is asked for. -/
def run (i : Invocation) (world : World) : Report :=
  match i.verb with
  | .compile => i.runCompile world
  | .tokens => i.runTokens
  | .parse => i.runParse

end Invocation

/-- The outcome of reading a command line that asks for no command. -/
def Interrupt.report : Interrupt → Report
  | version => ⟨0, versionText, ""⟩
  | help => ⟨0, helpText, ""⟩
  | fault f => ⟨2, "", "error: " ++ f.message ++ "\n\n" ++ helpText⟩

/-- The outcome of a command line. -/
def run (world : World) (arguments : List String) : Report :=
  match Invocation.ofArguments world.columnsVariable arguments with
  | .error interrupt => interrupt.report
  | .ok invocation => invocation.run world

end InventoryFilter.CommandLine

import InventoryFilter.CommandLine.Report
import InventoryFilter.Pattern.Standard

set_option autoImplicit false

/-!
# The program

Gathers what surrounds the command line, runs it, and writes the outcome.
-/

namespace InventoryFilter.CommandLine

open scoped Pattern.Standard

/-- The text of a file, or why it cannot be read. -/
def readText (file : String) : IO (Except String String) := do
  match ← (IO.FS.readFile file).toBaseIO with
  | .ok text => pure (.ok text)
  | .error fault => pure (.error (toString fault))

/-- Runs the command line and writes its report; the result is the exit code. -/
def perform (arguments : List String) : IO UInt32 := do
  let columnsVariable ← IO.getEnv columnsVariableName
  let report ←
    match Invocation.ofArguments columnsVariable arguments with
    | .error interrupt => pure interrupt.report
    | .ok invocation =>
      let text ←
        match invocation.verb, invocation.columns with
        | .compile, some file => readText file
        | _, _ => pure (.error "not looked at")
      pure (invocation.run
        ⟨columnsVariable, fun _ => text, fun _ => "not an object of texts", .stored⟩)
  IO.eprint report.diagnostics
  IO.print report.output
  pure report.exitCode.toUInt32

end InventoryFilter.CommandLine

/-- The program. -/
def main (arguments : List String) : IO UInt32 := InventoryFilter.CommandLine.perform arguments

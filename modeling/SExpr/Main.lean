import SExpr.CommandLine.Run

/-!
# The program

Reads its arguments, and a line of input when it needs one, and prints what the run comes to.
-/

open SExpr in
/-- Run the command line of the process. -/
def main (args : List String) : IO UInt32 := do
  let request := CommandLine.Request.ofTexts (args.map String.toList)
  let stdout ← IO.getStdout
  let stderr ← IO.getStderr
  let mut line : Text := []
  if request.needsInput then
    stdout.putStr (String.ofList CommandLine.prompt)
    stdout.flush
    line := (← (← IO.getStdin).getLine).toList
  match request.answer (CommandLine.firstLine line) with
  | .ok outcome =>
    stdout.putStr (String.ofList outcome.stdout)
    stderr.putStr (String.ofList outcome.stderr)
    return outcome.exit.toUInt32
  | .error fault =>
    stderr.putStrLn (String.ofList fault.message)
    return 1

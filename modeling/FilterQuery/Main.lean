import FilterQuery.Cli.Command

/-!
# The program

Reads what a command asks for, and prints what comes of it. Arguments that are not well formed end
the program with code 2, a command that cannot be carried out with code 1.
-/

namespace FilterQuery.Cli

/-- The text of a file, or why it cannot be read. -/
def readInput (path : Option String) : IO (Except String String) := do
  match path with
  | none => return .error "No file"
  | some path =>
    try
      return .ok (← IO.FS.readFile path)
    catch
      | .noFileOrDirectory .. => return .error "No such file or directory (os error 2)"
      | e => return .error (toString e)

/-- The text on standard input, unless that is a terminal. -/
def readStdin : IO (Option String) := do
  let stdin ← IO.getStdin
  if ← stdin.isTty then return none
  return some (← stdin.readToEnd)

/-- Carry out a command and print what comes of it. -/
def execute (command : Command) : IO UInt32 := do
  let file ← readInput command.file?
  let text ← if command.readsStdin then readStdin else pure none
  match command.run { file, stdin := text } with
  | .ok text =>
    IO.println text
    return 0
  | .error e =>
    IO.eprintln e.message
    return 1

end FilterQuery.Cli

open FilterQuery.Cli

def main (args : List String) : IO UInt32 := do
  match Command.ofArguments? (← IO.getEnv "FACETS_MAX_FILTERS") args with
  | some command => execute command
  | none =>
    IO.eprintln "usage: facets <compile|check|policies> [arguments]"
    return 2

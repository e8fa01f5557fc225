import FilterQuery.Compiler.Error
import FilterQuery.Policy.Validation

/-!
# Errors of the command line
-/

namespace FilterQuery.Cli

/-- Why a command cannot be carried out. -/
inductive Error
  | parse (error : ParseError)
  | compile (error : CompileError)
  | config (error : ConfigError)
  /-- A file cannot be read. -/
  | file (reason : String)
  /-- There is no query, neither as an argument nor on standard input. -/
  | noInput
  /-- A field is not given as a name and a policy. -/
  | invalidField (spec : String)
deriving DecidableEq

/-- The message for a command that cannot be carried out. -/
def Error.message : Error → String
  | parse e => s!"Parse error: {e.message}"
  | compile e => s!"Compile error: {e.message}"
  | config e => s!"Policy error: {e.message}"
  | file reason => s!"IO error: {reason}"
  | noInput => "No query provided. Pass it as an argument or pipe it to stdin."
  | invalidField spec => s!"Invalid field '{spec}', expected NAME=POLICY (e.g. age=number)"

end FilterQuery.Cli

import FilterQuery.Cli.Compile

/-!
# Arguments

An argument of a command is an option, with or without a value, or a plain argument. The value of a
long option is attached by an equals sign or is the next argument; that of a short one may also be
attached as it is. A value that is an argument of its own does not start with a dash, unless it is
nothing else. All arguments behind `--` are plain.
-/

namespace FilterQuery.Cli

/-- An option that a command knows. -/
structure OptionSpec where
  name : String
  short : Option Char
  takesValue : Bool

/-- Arguments by their meaning: the names and values of options, and the plain arguments. The value
of an option that takes none is empty. -/
structure Arguments where
  options : List (String × String)
  plain : List String

namespace Arguments

/-- No arguments. -/
def empty : Arguments := ⟨[], []⟩

/-- Put an option in front. -/
def addOption (a : Arguments) (name value : String) : Arguments :=
  { a with options := (name, value) :: a.options }

/-- Put a plain argument in front. -/
def addPlain (a : Arguments) (text : String) : Arguments :=
  { a with plain := text :: a.plain }

/-- The values given to an option. -/
def values (a : Arguments) (name : String) : List String :=
  a.options.filterMap fun (n, v) => if n == name then some v else none

end Arguments

/-- An argument on its own. -/
inductive Argument
  /-- The mark behind which all arguments are plain. -/
  | endOfOptions
  | plain (text : String)
  /-- An option by its long name. -/
  | long (name : String) (value : Option String)
  /-- An option by its short name. -/
  | short (name : Char) (value : Option String)

/-- The meaning of an argument that is not a value. -/
def Argument.ofText (text : String) : Argument :=
  match text.toList with
  | ['-', '-'] => .endOfOptions
  | '-' :: '-' :: cs =>
    let name := String.ofList (cs.takeWhile (· != '='))
    match cs.dropWhile (· != '=') with
    | _ :: value => .long name (some (String.ofList value))
    | [] => .long name none
  | ['-', c] => .short c none
  | '-' :: c :: '=' :: value => .short c (some (String.ofList value))
  | '-' :: c :: value => .short c (some (String.ofList value))
  | _ => .plain text

/-- Whether an argument of its own can be the value of an option. -/
def isValue (text : String) : Bool :=
  match Argument.ofText text with
  | .plain _ => true
  | _ => false

/-- The option among `known` that an argument names, and the value attached to it. -/
def Argument.option? (known : List OptionSpec) : Argument → Option (OptionSpec × Option String)
  | long name value => (known.find? (·.name == name)).map fun spec => (spec, value)
  | short c value => (known.find? (·.short == some c)).map fun spec => (spec, value)
  | _ => none

/-- Give arguments their meaning, where the first is the value of the option `pending` if there is
one. -/
def readArgumentsFrom (known : List OptionSpec) (pending : Option OptionSpec) :
    List String → Option Arguments
  | [] => if pending.isNone then some .empty else none
  | text :: rest =>
    match pending with
    | some spec =>
      if isValue text then (readArgumentsFrom known none rest).map (·.addOption spec.name text)
      else none
    | none =>
      match Argument.ofText text with
      | .endOfOptions => some ⟨[], rest⟩
      | .plain text => (readArgumentsFrom known none rest).map (·.addPlain text)
      | arg =>
        match arg.option? known with
        | some (spec, value) =>
          match spec.takesValue, value with
          | true, some value =>
            (readArgumentsFrom known none rest).map (·.addOption spec.name value)
          | true, none => readArgumentsFrom known (some spec) rest
          | false, none => (readArgumentsFrom known none rest).map (·.addOption spec.name "")
          | false, some _ => none
        | none => none

/-- Give the arguments of a command their meaning. There is no result if an option is not known, is
without its value, or has a value that it does not take. -/
def readArguments (known : List OptionSpec) (args : List String) : Option Arguments :=
  readArgumentsFrom known none args

end FilterQuery.Cli

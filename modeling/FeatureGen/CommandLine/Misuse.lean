import FeatureGen.CommandLine.Usage
import FeatureGen.Text.Quoted

/-!
# Faults of a command line

What can be wrong with the arguments of a command.  The reader of a command line stops at the first
fault, or at a flag that asks for help or for the version.
-/

namespace FeatureGen.CommandLine

/-- What is wrong with the arguments of a command. -/
inductive Misuse
  /-- An operand is missing. -/
  | missingOperand (operand : Operand)
  /-- A flag lacks arguments. -/
  | missingArgument (flag : Flag)
  /-- A flag that takes no argument is given one. -/
  | ignoredArgument (flag : Flag) (text : String)
  /-- An argument is the start of the names of several flags. -/
  | ambiguous (text : String) (names : List String)
  /-- An operand is none of the words that may stand there. -/
  | invalidChoice (operand : Operand) (text : String) (choices : List String)
  /-- Some arguments mean nothing. -/
  | unrecognized (texts : List String)
  deriving DecidableEq, Repr

/-- The names of a flag in messages. -/
def Flag.label (f : Flag) : String := "/".intercalate f.names

/-- What is wrong, in words. -/
def Misuse.message : Misuse → String
  | .missingOperand operand => "the following arguments are required: " ++ operand.label
  | .missingArgument flag =>
    "argument " ++ flag.label ++ ": expected " ++
      (if flag.arity = .several then "at least one argument" else "one argument")
  | .ignoredArgument flag text =>
    "argument " ++ flag.label ++ ": ignored explicit argument " ++ Text.quoted text
  | .ambiguous text names =>
    "ambiguous option: " ++ text ++ " could match " ++ ", ".intercalate names
  | .invalidChoice operand text choices =>
    "argument " ++ operand.label ++ ": invalid choice: " ++ Text.quoted text ++
      " (choose from " ++ ", ".intercalate (choices.map Text.quoted) ++ ")"
  | .unrecognized texts => "unrecognized arguments: " ++ " ".intercalate texts

/-- Why a command line is read no further. -/
inductive Stop
  /-- The help of a command is asked for. -/
  | help (command : Command)
  /-- The version is asked for. -/
  | version
  /-- The arguments of a command are wrong. -/
  | misuse (command : Command) (m : Misuse)
  deriving DecidableEq, Repr

namespace Stop

/-- The exit code of the program. -/
def exitCode : Stop → Nat
  | .help _ | .version => 0
  | .misuse _ _ => 2

/-- What is printed to standard output. -/
def stdout : Stop → String
  | .help command => command.help
  | .version => linesText [versionText]
  | .misuse _ _ => ""

/-- What is printed to standard error. -/
def stderr : Stop → String
  | .help _ | .version => ""
  | .misuse command m =>
    command.usage ++ linesText [command.program ++ ": error: " ++ m.message]

end Stop

end FeatureGen.CommandLine

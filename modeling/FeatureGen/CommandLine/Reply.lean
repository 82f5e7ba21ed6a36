import FeatureGen.Analysis.Basic
import FeatureGen.Config.Environment
import FeatureGen.Config.Stored
import FeatureGen.Console.Basic
import FeatureGen.Generation.Batch

/-!
# Replies

What a command has to say, and the faults that keep it from saying anything.
-/

namespace FeatureGen.CommandLine

open FeatureGen.Schema (Diagnostic)

/-- What a command says. -/
structure Reply where
  /-- What is printed to the console. -/
  blocks : List Console.Block
  /-- The exit code of the program. -/
  exitCode : Nat := 0
  /-- What is told on the way. -/
  diagnostics : List Diagnostic := []

/-- Why a command breaks off. -/
inductive Breakdown
  /-- The schema or a part of the project cannot be read. -/
  | unreadable (f : ReadFault)
  /-- The configuration file cannot be loaded. -/
  | configuration (f : LoadFault)
  /-- The environment gives no configuration. -/
  | environment (f : EnvironmentFault)
  /-- The schema has a number with too many digits. -/
  | digits (f : Text.DigitFault)
  /-- The generation cannot go on. -/
  | generation (f : Generation.ActionFault)

/-- What is wrong, in words. -/
def Breakdown.message : Breakdown → String
  | .unreadable f => f.message
  | .configuration f => f.message
  | .environment f => f.message
  | .digits f => f.message
  | .generation f => f.message

/-- The single line of a reply that says what went wrong. -/
def Reply.failure (text : String) : Reply where
  blocks := [.text text]
  exitCode := 1

/-- The reply with blocks before its own. -/
def Reply.after (blocks : List Console.Block) (r : Reply) : Reply :=
  { r with blocks := blocks ++ r.blocks }

/-- The line of a diagnostic. -/
def diagnosticLine (d : Diagnostic) : String := "DEBUG    " ++ d.message

/-- A reply that needs the text of the schema.  Without a schema it says so after a label. -/
def withSchema (config : Config) (p : Project) (label : String)
    (reply : String → Except Breakdown Reply) : Except Breakdown Reply :=
  match p.readSchema config with
  | .ok text => reply text
  | .error (.unreadable f) => .error (.unreadable f)
  | .error fault => .ok (.failure (label ++ ": " ++ fault.message))

end FeatureGen.CommandLine

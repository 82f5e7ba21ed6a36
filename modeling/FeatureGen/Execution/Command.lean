import FeatureGen.Execution.Basic
import FeatureGen.Text.Quoted

/-!
# Running a command

The programs are those of the system, which is given: it says of a command whether it can be run and
what it does then.  A directory or a program that is missing gives the return code 127
(`Command.outcome`); any other reason why a command cannot be run is a fault.
-/

namespace FeatureGen.Execution

/-- A command that is to be run. -/
structure Command where
  /-- The program and its arguments. -/
  words : List String
  /-- The directory in which it runs, if not in that of this program. -/
  directory : Option String := none
  /-- The time that it may take. -/
  limit : Limit := .seconds 120
  /-- Variables that are added to the environment. -/
  environment : List (String × String) := []

/-- Why a command cannot be run. -/
inductive Fault
  /-- It has no program. -/
  | noProgram
  /-- Its directory is a file. -/
  | notDirectory (path : String)
  /-- Its program is a directory, or a file that is no program. -/
  | notExecutable (path : String)
  /-- A text of it holds a null character. -/
  | nullCharacter
  deriving DecidableEq, Repr

/-- What is wrong, in words. -/
def Fault.message : Fault → String
  | .noProgram => "the program is missing"
  | .notDirectory path => "[Errno 20] Not a directory: " ++ Text.quoted path
  | .notExecutable path => "[Errno 13] Permission denied: " ++ Text.quoted path
  | .nullCharacter => "embedded null byte"

/-- What becomes of a command in a system. -/
inductive Attempt
  /-- Its directory or its program is missing. -/
  | missing (path : String)
  /-- It cannot be run for another reason. -/
  | refused (fault : Fault)
  /-- It is run. -/
  | run (effect : Effect)

/-- A system that runs commands. -/
abbrev System := Command → Attempt

/-- The completion of a command whose directory or program is missing. -/
def missing (path : String) : Completion where
  code := 127
  stderr := "[Errno 2] No such file or directory: " ++ Text.quoted path

/-- What is seen of a command after an attempt to run it. -/
def Command.outcome (c : Command) : Attempt → Except Fault Completion
  | .missing path => .ok (missing path)
  | .refused fault => .error fault
  | .run effect => .ok (effect.completion c.words c.limit)

/-- The command as the system gets it: an empty path is no directory. -/
def Command.request (c : Command) : Command :=
  { c with directory := c.directory.filter (!·.isEmpty) }

/-- Runs a command in a system. -/
def Command.run (system : System) (c : Command) : Except Fault Completion :=
  if c.words.isEmpty then .error .noProgram else c.outcome (system c.request)

end FeatureGen.Execution

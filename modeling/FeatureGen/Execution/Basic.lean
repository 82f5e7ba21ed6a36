import FeatureGen.Text.Blank
import FeatureGen.Text.Utf8

/-!
# How commands end

A command is a program with arguments that runs beside this one for a limited time.  What it does is
an `Effect`: the octets that it prints, its return code, and the time it takes.  What is seen of it
is a `Completion`, which also says whether the time was too short.
-/

namespace FeatureGen.Execution

/-- How a command ended. -/
structure Completion where
  /-- Its return code. -/
  code : Int := 0
  /-- What it printed to standard output. -/
  stdout : String := ""
  /-- What it printed to standard error. -/
  stderr : String := ""
  deriving DecidableEq, Repr

/-- The time that a command may take. -/
structure Limit where
  /-- The number of seconds as messages show it. -/
  label : String
  /-- The same in thousandths. -/
  milliseconds : Nat
  deriving DecidableEq, Repr

/-- So many seconds; less than none is none. -/
def Limit.seconds (n : Int) : Limit where
  label := toString n
  milliseconds := 1000 * n.toNat

/-- What a program does. -/
structure Effect where
  /-- What it prints to standard output. -/
  stdout : ByteArray := .empty
  /-- What it prints to standard error. -/
  stderr : ByteArray := .empty
  /-- Its return code. -/
  code : Int := 0
  /-- The milliseconds it takes. -/
  elapsed : Nat := 0

/-- What octets show: the text they encode, without blanks around it. -/
def printed (octets : ByteArray) : String :=
  String.ofList (Text.trim (Text.decodeUtf8Lossy octets).toList)

/-- How a command ends that has an effect within a limit. -/
def Effect.completion (e : Effect) (words : List String) (limit : Limit) : Completion :=
  if limit.milliseconds ≤ e.elapsed then
    { code := -1
      stderr := "Command timed out after " ++ limit.label ++ "s: " ++ " ".intercalate words }
  else { code := e.code, stdout := printed e.stdout, stderr := printed e.stderr }

end FeatureGen.Execution

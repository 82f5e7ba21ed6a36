import FeatureGen.Config.Basic
import FeatureGen.Text.Quoted
import FeatureGen.Text.Split
import FeatureGen.Validation.Scalar

/-!
# Configuration from the environment

Five variables set parts of a configuration; each may be missing.  The names of reserved fields are
given in one variable, between commas.
-/

namespace FeatureGen

open FeatureGen.Text
open FeatureGen.Validation

/-- The variables of an environment with their values. -/
abbrev Environment := List (String × String)

/-- The variables that set a configuration. -/
def Environment.names : List String :=
  ["IGNITER_BASE_PATH", "IGNITER_SCHEMA_PATH", "IGNITER_FEATURES_DIR", "IGNITER_RESERVED_FIELDS",
    "IGNITER_COMPLEX_MODEL_THRESHOLD"]

/-- Why an environment gives no configuration. -/
inductive EnvironmentFault
  /-- The threshold is a text that writes no whole number. -/
  | notNumber (text : String)
  /-- The threshold has more digits than a number may have. -/
  | tooManyDigits (f : DigitFault)
  /-- A value is refused. -/
  | refused (report : Report)
  deriving DecidableEq, Repr

/-- What is wrong with a text that writes no number, in words. -/
def EnvironmentFault.notNumberMessage (text : String) : String :=
  "invalid literal for int() with base 10: " ++ String.ofList ((quoted text).toList.take 200)

/-- What is wrong with an environment, in words. -/
def EnvironmentFault.message : EnvironmentFault → String
  | .notNumber text => notNumberMessage text
  | .tooManyDigits f => f.message
  | .refused report => report.message

/-- Whether a text starts with a minus, and what follows its sign. -/
def splitSign : List Char → Bool × List Char
  | '-' :: s => (true, s)
  | '+' :: s => (false, s)
  | s => (false, s)

/-- The number of digits that a text starts with, where single underscores may stand between
digits. -/
def leadingDigits (s : List Char) : Nat :=
  match groupedDigits? false (s.takeWhile fun c => isDigit c || c = '_') with
  | some digits => digits.length
  | none => 0

/-- The whole number that a text of decimal digits of any script writes, with blanks around it and a
sign in front.  Whether there are too many digits is looked at before what follows them. -/
def signedNumber (text : String) : Except EnvironmentFault Int :=
  let (negative, s) := splitSign (strip isMargin text.toList)
  if digitLimit < leadingDigits s then .error (.tooManyDigits ⟨leadingDigits s⟩)
  else
    match groupedDigits? false s with
    | none => .error (.notNumber text)
    | some digits => .ok (if negative then -(natOfDigits digits : Int) else natOfDigits digits)

/-- The names in a text, between commas; empty ones are left out. -/
def commaNames (s : String) : List String :=
  (((pieces ',' s.toList).map trim).filter (!·.isEmpty)).map String.ofList

/-- The value of a variable, if it is not empty. -/
def Environment.value? (env : Environment) (name : String) : Option String :=
  (env.lookup name).filter (!·.isEmpty)

/-- The threshold that an environment sets. -/
def Environment.threshold (env : Environment) : Except EnvironmentFault Nat :=
  match env.value? "IGNITER_COMPLEX_MODEL_THRESHOLD" with
  | none => .ok ({} : AnalysisSettings).complexModelThreshold
  | some text =>
    match signedNumber text with
    | .error fault => .error fault
    | .ok (.ofNat n) => .ok n
    | .ok (.negSucc _) =>
      .error (.refused ⟨"AnalyzeSettings",
        [{ problem := .negative, location := [.member "complex_model_threshold"] }]⟩)

/-- The configuration that an environment sets. -/
def Config.ofEnvironment (env : Environment) : Except EnvironmentFault Config :=
  match env.threshold with
  | .error fault => .error fault
  | .ok threshold =>
    let d : Config := {}
    .ok { d with
      basePath := Path.ofString ((env.lookup "IGNITER_BASE_PATH").getD ".")
      featuresDir := (env.lookup "IGNITER_FEATURES_DIR").getD d.featuresDir
      schema := { d.schema with
        path := (env.value? "IGNITER_SCHEMA_PATH").getD d.schema.path
        reserved :=
          ((env.value? "IGNITER_RESERVED_FIELDS").map commaNames).getD d.schema.reserved }
      analysis := { d.analysis with complexModelThreshold := threshold } }

end FeatureGen

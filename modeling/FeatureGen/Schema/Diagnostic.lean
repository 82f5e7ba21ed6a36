import FeatureGen.Schema.Relation

/-!
# Diagnostics

What happens while a schema is compiled or a project is analysed without stopping the work is
reported by diagnostics.  They are values; the command line prints their messages when it is asked
to.
-/

namespace FeatureGen.Schema

/-- Something worth telling that stops no work. -/
inductive Diagnostic
  /-- A line of a model body is no declaration of a field. -/
  | unparsableLine (line : String)
  /-- A relation leads to no known model. -/
  | unknownTarget (type : String)
  /-- The relation of a field cannot be read and is left out. -/
  | relationIgnored (field : String) (fault : RelationFault)
  /-- A field has the name of one before it and is left out. -/
  | duplicateField (model field : String)
  /-- The package manager failed and printed nothing. -/
  | packagesFailed (code : Int) (stderr : String)
  /-- The package manager printed something else than JSON. -/
  | packagesUnreadable
  deriving DecidableEq, Repr

/-- The text of a diagnostic. -/
def Diagnostic.message : Diagnostic → String
  | .unparsableLine line => "Skipping unparsable field line: " ++ Text.quoted line
  | .unknownTarget type => "Could not resolve relation target for type " ++ type
  | .relationIgnored field fault => "Ignoring relation on field " ++ field ++ ": " ++ fault.message
  | .duplicateField model field => "Dropping duplicate field " ++ model ++ "." ++ field
  | .packagesFailed code stderr => "npm outdated failed (" ++ toString code ++ "): " ++ stderr
  | .packagesUnreadable => "npm outdated returned non-JSON output"

end FeatureGen.Schema

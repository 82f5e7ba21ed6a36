import FeatureGen.Config.Basic
import FeatureGen.Project.Basic

/-!
# The schema file of a project

The schema is read again whenever it is needed.
-/

namespace FeatureGen

/-- Why there is no schema text. -/
inductive SchemaFault
  /-- There is no file at this path. -/
  | missing (path : Path)
  /-- The file cannot be read. -/
  | unreadable (f : ReadFault)
  deriving DecidableEq

/-- What is wrong, in words. -/
def SchemaFault.message : SchemaFault → String
  | .missing path => "Prisma schema file not found: " ++ path.toString
  | .unreadable f => f.message

/-- The schema text of a project. -/
def Project.readSchema (p : Project) (config : Config) : Except SchemaFault String :=
  match p.isFile config.schemaPath with
  | .error f => .error (.unreadable (.file f))
  | .ok false => .error (.missing config.schemaPath)
  | .ok true => (p.readText config.schemaPath).mapError .unreadable

end FeatureGen

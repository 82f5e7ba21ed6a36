import FeatureGen.Config.Document
import FeatureGen.Project.Basic

/-!
# Stored configurations

A configuration is saved to a file of a project, and loaded from one.  The text of the file is the
document of the configuration.
-/

namespace FeatureGen

open FeatureGen.Validation

/-- Why a configuration cannot be loaded. -/
inductive LoadFault
  /-- The file cannot be read. -/
  | unreadable (f : ReadFault)
  /-- The document is refused. -/
  | refused (report : Report)
  deriving DecidableEq

/-- What is wrong, in words. -/
def LoadFault.message : LoadFault → String
  | .unreadable f => f.message
  | .refused report => report.message

namespace Config

/-- The file to which a configuration is saved if no other is given. -/
def file (c : Config) : Path := c.basePath / "igniter.json"

/-- The project with a configuration saved to a file. -/
def save (c : Config) (p : Project) (path : Path) : Project × Option FileFault :=
  p.writeFile path c.render.toByteArray

/-- The configuration in a file of a project. -/
def load (p : Project) (path : Path) : Except LoadFault Config :=
  match p.readText path with
  | .error f => .error (.unreadable f)
  | .ok text => (read text).mapError .refused

end Config

end FeatureGen

import FeatureGen.Project.Path
import FeatureGen.Schema.Settings

/-!
# Configuration

Where the parts of a project lie and which conventions it follows.  The paths of the parts are
derived from the base path.
-/

namespace FeatureGen

/-- What the analysis of a project expects. -/
structure AnalysisSettings where
  /-- A model with more relations than this is complex. -/
  complexModelThreshold : Nat := 3
  /-- The directories that each feature should have. -/
  requiredFeatureDirs : List String := ["controllers", "procedures"]
  deriving DecidableEq, Repr

/-- The configuration of a project. -/
structure Config where
  /-- The directory of the project. -/
  basePath : Path := Path.ofString "."
  /-- The directory that holds one directory per feature. -/
  featuresDir : String := "src/features"
  /-- The directory of the routes. -/
  apiDir : String := "src/app/api"
  /-- The directory of the static output. -/
  buildDir : String := ".next/static"
  /-- The schema and its conventions. -/
  schema : Schema.Settings := {}
  /-- What the analysis expects. -/
  analysis : AnalysisSettings := {}
  deriving DecidableEq

namespace Config

/-- The schema file. -/
def schemaPath (c : Config) : Path := c.basePath / c.schema.path

/-- The directory of the features. -/
def featuresPath (c : Config) : Path := c.basePath / c.featuresDir

/-- The directory of the routes. -/
def apiPath (c : Config) : Path := c.basePath / c.apiDir

/-- The directory of the static output. -/
def buildPath (c : Config) : Path := c.basePath / c.buildDir

/-- The parts of the project. -/
def parts (c : Config) : List Path := [c.schemaPath, c.featuresPath, c.apiPath, c.buildPath]

end Config

end FeatureGen

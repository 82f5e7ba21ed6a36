import FeatureGen.Config.Basic
import FeatureGen.Json.Printer
import FeatureGen.Json.Reader
import FeatureGen.Validation.Scalar

/-!
# Configuration files

A configuration is written as a JSON document (`Config.render`), and a document is read back and
checked (`Config.read`).  Every member may be left out and then has its default; members that have
no meaning are passed over.
-/

namespace FeatureGen

open FeatureGen.Validation

/-- The settings of the schema as an object. -/
def Schema.Settings.toJson (s : Schema.Settings) : Json :=
  .obj [("path", .str s.path), ("primary_key", .str s.primaryKey),
    ("foreign_key_suffix", .str s.foreignKeySuffix), ("reserved_fields", .ofStrings s.reserved)]

/-- The settings of the analysis as an object. -/
def AnalysisSettings.toJson (s : AnalysisSettings) : Json :=
  .obj [("complex_model_threshold", .ofNat s.complexModelThreshold),
    ("required_feature_dirs", .ofStrings s.requiredFeatureDirs)]

/-- The settings of the schema, checked member by member. -/
def Schema.Settings.ofJson (source : Source) : Json → Checked Schema.Settings
  | .obj ms =>
    let d : Schema.Settings := {}
    Checked.of Schema.Settings.mk
      |>.and (.optional ms "path" d.path string)
      |>.and (.optional ms "primary_key" d.primaryKey string)
      |>.and (.optional ms "foreign_key_suffix" d.foreignKeySuffix string)
      |>.and (.optional ms "reserved_fields" d.reserved (strings source))
  | _ => .fail (.notObject source "SchemaSettings")

/-- The settings of the analysis, checked member by member. -/
def AnalysisSettings.ofJson (source : Source) : Json → Checked AnalysisSettings
  | .obj ms =>
    let d : AnalysisSettings := {}
    Checked.of AnalysisSettings.mk
      |>.and (.optional ms "complex_model_threshold" d.complexModelThreshold natural)
      |>.and (.optional ms "required_feature_dirs" d.requiredFeatureDirs (strings source))
  | _ => .fail (.notObject source "AnalyzeSettings")

/-- A path, written as a string. -/
def Path.ofJson : Json → Checked Path
  | .str s => .ok (Path.ofString s)
  | _ => .fail .notPath

namespace Config

/-- A configuration as an object. -/
def toJson (c : Config) : Json :=
  .obj [("base_path", .str c.basePath.toString), ("features_dir", .str c.featuresDir),
    ("api_dir", .str c.apiDir), ("build_dir", .str c.buildDir), ("prisma", c.schema.toJson),
    ("analyze", c.analysis.toJson)]

/-- A configuration, checked member by member. -/
def ofJson (source : Source) : Json → Checked Config
  | .obj ms =>
    let d : Config := {}
    Checked.of Config.mk
      |>.and (.optional ms "base_path" d.basePath Path.ofJson)
      |>.and (.optional ms "features_dir" d.featuresDir string)
      |>.and (.optional ms "api_dir" d.apiDir string)
      |>.and (.optional ms "build_dir" d.buildDir string)
      |>.and (.optional ms "prisma" d.schema (Schema.Settings.ofJson source))
      |>.and (.optional ms "analyze" d.analysis (AnalysisSettings.ofJson source))
  | _ => .fail (.notObject source "Config")

/-- The document of a configuration. -/
def render (c : Config) : String := c.toJson.pretty

/-- The configuration that a document holds. -/
def read (text : String) : Except Report Config :=
  match Json.read? text with
  | some v => (ofJson .text v).mapError (Report.mk "Config")
  | none => .error ⟨"Config", [{ problem := .notJson }]⟩

end Config

end FeatureGen

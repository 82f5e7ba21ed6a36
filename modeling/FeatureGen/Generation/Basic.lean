import FeatureGen.Feature.Origin
import FeatureGen.Generation.Action
import FeatureGen.Generation.SchemaFile

/-!
# Generating a feature

A feature is generated into a directory of its own, named for the feature in lowercase below the
directory of all features.  It gets an empty `.gitkeep` in each directory of its presentation, the
directories of its controllers and procedures, and its four files.

`plan` lists the actions, and `write` runs them and says what was written; `generate` finds the
feature first.
-/

namespace FeatureGen.Generation

/-- Where the templates of the files come from. -/
inductive Templates
  /-- The library's own. -/
  | shipped
  /-- Texts in a directory, which are copied. -/
  | directory (path : Path)

/-- The name of the template of a file. -/
def templateName : FileKind → String
  | .index => "feature/index.ts.j2"
  | .interface => "feature/interface.ts.j2"
  | .controller => "feature/controller.ts.j2"
  | .procedure => "feature/procedure.ts.j2"

/-- What is written to a file of a feature. -/
def Templates.content (templates : Templates) (f : Feature) (kind : FileKind) : Content :=
  match templates with
  | .shipped => .text (kind.module f).render
  | .directory path => .template path (templateName kind)

/-- The directories of the presentation. -/
def presentationDirs : List String := ["components", "hooks", "contexts", "utils"]

/-- The directories for code. -/
def codeDirs : List String := ["controllers", "procedures"]

/-- The directory of a feature. -/
def featurePath (config : Config) (name : String) : Path :=
  config.featuresPath / Text.lowercase name

/-- The path of a file of a feature. -/
def filePath (config : Config) (name : String) (kind : FileKind) : Path :=
  featurePath config name / kind.target name

/-- The actions that generate a feature. -/
def plan (config : Config) (templates : Templates) (f : Feature) : List Action :=
  let root := featurePath config f.name
  (presentationDirs.map fun d => .write (root / "presentation" / d / ".gitkeep") (.text "")) ++
  (codeDirs.map fun d => .makeDirectories (root / d)) ++
  (FileKind.all.map fun k => .write (filePath config f.name k) (templates.content f k))

/-- What was generated for a feature. -/
structure Generated where
  /-- The name of the feature. -/
  name : String
  /-- Its directory. -/
  path : Path
  /-- Its files. -/
  files : List Path
  /-- How many fields it has. -/
  fieldCount : Nat
  /-- Where they come from. -/
  source : FieldSource
  deriving DecidableEq

/-- Why a feature is not generated. -/
inductive GenerationFault
  /-- There is no schema text. -/
  | schema (f : SchemaFault)
  /-- The feature of this name cannot be written. -/
  | feature (name : String) (f : ActionFault)
  /-- The run cannot go on. -/
  | run (f : ActionFault)
  /-- The schema has a number with too many digits, and the run cannot go on either. -/
  | digits (f : Text.DigitFault)
  deriving DecidableEq

/-- What is wrong, in words. -/
def GenerationFault.message : GenerationFault → String
  | .schema f => f.message
  | .feature name f => "Feature " ++ name ++ ": " ++ f.message
  | .run f => f.message
  | .digits f => f.message

/-- The settings of a generator. -/
structure Generator where
  /-- The configuration of the project. -/
  config : Config
  /-- The templates of the files. -/
  templates : Templates := .shipped

/-- Writes a feature whose fields have a source. -/
def Generator.write (g : Generator) (p : Project) (f : Feature) (source : FieldSource) :
    Project × Except GenerationFault Generated :=
  match performAll p (plan g.config g.templates f) with
  | (q, none) =>
    (q, .ok {
      name := f.name
      path := featurePath g.config f.name
      files := FileKind.all.map (filePath g.config f.name)
      fieldCount := f.fields.length
      source := source })
  | (q, some fault) => (q, .error (if fault.isLocal then .feature f.name fault else .run fault))

/-- Generates a feature from a schema text.  The fields are found before anything is written. -/
def Generator.generateFrom (g : Generator) (p : Project) (text name : String)
    (fallback : List String) : Project × Except GenerationFault Generated :=
  match Feature.ofSchema text name fallback g.config.schema with
  | .error fault => (p, .error (.digits fault))
  | .ok (f, source) => g.write p f source

/-- Generates a feature from the schema file of the project. -/
def Generator.generate (g : Generator) (p : Project) (name : String) (fallback : List String) :
    Project × Except GenerationFault Generated :=
  match p.readSchema g.config with
  | .error f => (p, .error (.schema f))
  | .ok text => g.generateFrom p text name fallback

end FeatureGen.Generation

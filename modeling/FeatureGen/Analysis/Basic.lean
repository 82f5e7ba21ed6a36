import FeatureGen.Analysis.Report
import FeatureGen.Analysis.Size
import FeatureGen.Generation.SchemaFile
import FeatureGen.Json.Reader
import FeatureGen.Execution.Command
import FeatureGen.Schema.Model

/-!
# Analysing a project

The four parts of a report.  The schema is compiled model by model; the features are the directories
below the features path; the packages are what the package manager printed; routes and static output
are files of the project.
-/

namespace FeatureGen.Analysis

open FeatureGen.Execution (Command Completion)
open FeatureGen.Schema (Diagnostic)
open FeatureGen.Text (DigitFault)

/-! ## Schema -/

/-- The statistics with those of one more model. -/
def SchemaStats.add (stats : SchemaStats) (config : Config) (text model : String) :
    Except DigitFault SchemaStats :=
  (Schema.compile text model config.schema).map fun fields =>
    let relations := (fields.filter (·.isRelation)).length
    { models := stats.models + 1
      fields := stats.fields + fields.length
      relations := stats.relations + relations
      complexModels :=
        if config.analysis.complexModelThreshold < relations then stats.complexModels ++ [model]
        else stats.complexModels }

/-- The models of a schema text. -/
def modelsOf (text : String) : List String :=
  (Schema.modelNames text.toList).map String.ofList

/-- The statistics of a schema text. -/
def schemaStats (config : Config) (text : String) : Except DigitFault SchemaStats :=
  (modelsOf text).foldlM (fun stats model => stats.add config text model) {}

/-- What is told while the schema is looked at. -/
def schemaDiagnostics (config : Config) (text : String) : List Diagnostic :=
  (modelsOf text).flatMap fun model => Schema.compileDiagnostics text model config.schema

/-! ## Features -/

/-- The number of lines of a file.  Octets that encode nothing count as one character each. -/
def lineCount (content : ByteArray) : Nat :=
  (Text.splitLines (Text.unifyNewlines (Text.decodeUtf8Lossy content).toList)).length

/-- Whether a feature has all the directories. -/
def isComplete (p : Project) (feature : Path) : List String → Except FileFault Bool
  | [] => .ok true
  | d :: ds =>
    match p.isDirectory (feature / d) with
    | .ok true => isComplete p feature ds
    | .ok false => .ok false
    | .error fault => .error fault

/-- The statistics with those of one more feature. -/
def FeatureStats.add (stats : FeatureStats) (config : Config) (p : Project) (feature : Path) :
    Except FileFault FeatureStats :=
  match isComplete p feature config.analysis.requiredFeatureDirs with
  | .error fault => .error fault
  | .ok complete =>
    match p.files feature with
    | .error fault => .error fault
    | .ok files =>
      .ok {
        count := stats.count + 1
        incomplete := if complete then stats.incomplete else stats.incomplete ++ [feature.name]
        complexity :=
          stats.complexity ++
            [(feature.name, Number.total (files.map fun file => lineCount file.2))] }

/-- The statistics with those of several more features. -/
def FeatureStats.addAll (stats : FeatureStats) (config : Config) (p : Project) :
    List Path → Except FileFault FeatureStats
  | [] => .ok stats
  | feature :: rest =>
    match stats.add config p feature with
    | .error fault => .error fault
    | .ok stats => stats.addAll config p rest

/-- The statistics of the features of a project. -/
def featureStats (config : Config) (p : Project) : Except FileFault FeatureStats :=
  match p.directories config.featuresPath with
  | .error fault => .error fault
  | .ok features => FeatureStats.addAll {} config p features

/-! ## Packages -/

/-- The command that lists the outdated packages. -/
def outdatedCommand (config : Config) : Command where
  words := ["npm", "outdated", "--json"]
  directory := some config.basePath.toString

/-- The outdated packages that the package manager printed, and what is told about it.  It fails
when a package is outdated, so that its return code says nothing if it printed something. -/
def outdatedPackages (result : Completion) : List String × List Diagnostic :=
  if result.stdout.isEmpty then
    ([], if result.code = 0 then [] else [.packagesFailed result.code result.stderr])
  else
    match Json.read? result.stdout with
    | none => ([], [.packagesUnreadable])
    | some (.obj members) => (members.map (·.1), [])
    | some _ => ([], [])

/-! ## Performance -/

/-- The statistics of what is served. -/
def performanceStats (config : Config) (p : Project) : Except FileFault PerformanceStats :=
  match p.files config.apiPath with
  | .error fault => .error fault
  | .ok apiFiles =>
    match p.files config.buildPath with
    | .error fault => .error fault
    | .ok buildFiles =>
      let size := Number.total (buildFiles.map fun file => file.2.size)
      .ok {
        apiEndpoints := (apiFiles.filter fun file => file.1.name == "route.ts").length
        bundleSize := (sizeText? size).getD "" }

/-! ## The whole report -/

/-- Why there is no report. -/
inductive AnalysisFault
  /-- There is no schema text. -/
  | schema (f : SchemaFault)
  /-- The schema has a number with too many digits. -/
  | digits (f : DigitFault)
  /-- A part of the project cannot be looked at. -/
  | file (f : FileFault)
  deriving DecidableEq

/-- What is wrong, in words. -/
def AnalysisFault.message : AnalysisFault → String
  | .schema f => f.message
  | .digits f => f.message
  | .file f => f.message

/-- The report on a project, where the package manager printed `npm`. -/
def analyze (config : Config) (p : Project) (npm : Completion) :
    Except AnalysisFault Report × List Diagnostic :=
  match p.readSchema config with
  | .error f => (.error (.schema f), [])
  | .ok text =>
    let told := schemaDiagnostics config text
    match schemaStats config text with
    | .error f => (.error (.digits f), told)
    | .ok schema =>
      match featureStats config p with
      | .error f => (.error (.file f), told)
      | .ok features =>
        let (outdated, toldToo) := outdatedPackages npm
        match performanceStats config p with
        | .error f => (.error (.file f), told ++ toldToo)
        | .ok performance => (.ok ⟨schema, features, outdated, performance⟩, told ++ toldToo)

end FeatureGen.Analysis

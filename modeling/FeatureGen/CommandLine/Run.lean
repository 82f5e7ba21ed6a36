import FeatureGen.Analysis.Overview
import FeatureGen.CommandLine.Generate
import FeatureGen.CommandLine.Request
import FeatureGen.Schema.Record

/-!
# Running a command line

`Request.run` carries out a request on a project and gives the project as it is afterwards.  `run`
does so for the arguments of the program and collects what is printed, and the exit code.
-/

namespace FeatureGen.CommandLine

open FeatureGen.Execution (Completion)

/-! ## The commands that only look -/

/-- Analyses the project. -/
def analyzeReply (config : Config) (p : Project) (npm : Completion) (json : Bool) :
    Except Breakdown Reply :=
  match Analysis.analyze config p npm with
  | (.ok report, told) =>
    .ok { blocks := if json then [.json report.toJson] else report.overview, diagnostics := told }
  | (.error (.file f), _) => .error (.unreadable (.file f))
  | (.error (.digits f), _) => .error (.digits f)
  | (.error (.schema (.unreadable f)), _) => .error (.unreadable f)
  | (.error fault, _) => .ok (.failure ("Analysis failed: " ++ fault.message))

/-- Lists the models. -/
def modelsReply (config : Config) (p : Project) : Except Breakdown Reply :=
  withSchema config p "Error" fun text =>
    match modelTable text config.schema with
    | .error f => .error (.digits f)
    | .ok table => .ok {
        blocks := [.table table]
        diagnostics :=
          (modelNamesOf text).flatMap fun model =>
            Schema.compileDiagnostics text model config.schema }

/-- Lists the fields of a model. -/
def fieldsReply (config : Config) (p : Project) (model : String) (json : Bool) :
    Except Breakdown Reply :=
  withSchema config p "Error" fun text =>
    if Schema.hasModel text.toList model.toList then
      match Schema.compile text model config.schema with
      | .error f => .error (.digits f)
      | .ok fields => .ok {
          blocks :=
            if json then [.json (.arr (fields.map Schema.Field.toJson))]
            else
              [.table (fieldTable model fields),
                .text (toString fields.length ++ " fields extracted")]
          diagnostics := Schema.compileDiagnostics text model config.schema }
    else .ok (.failure ("Model " ++ model ++ " is not declared in the schema."))

/-! ## Requests -/

/-- The configuration of a request without its base path. -/
def Request.storedConfig (r : Request) (p : Project) (env : Environment) :
    Except Breakdown Config :=
  match r.configPath with
  | none => (Config.ofEnvironment env).mapError .environment
  | some path => (Config.load p (Path.ofString path)).mapError .configuration

/-- The configuration of a request. -/
def Request.config (r : Request) (p : Project) (env : Environment) : Except Breakdown Config :=
  (r.storedConfig p env).map fun config =>
    match r.basePath with
    | none => config
    | some path => { config with basePath := Path.ofString path }

/-- Carries out a task. -/
def Task.run (config : Config) (p : Project) (npm : Completion) :
    Task → Project × Except Breakdown Reply
  | .generate name fallback => generateOne ⟨config, .shipped⟩ p name fallback
  | .generateAll chosen => generateForModels ⟨config, .shipped⟩ p chosen
  | .analyze json => (p, analyzeReply config p npm json)
  | .models => (p, modelsReply config p)
  | .fields model json => (p, fieldsReply config p model json)

/-- Carries out a request. -/
def Request.run (r : Request) (p : Project) (env : Environment) (npm : Completion) :
    Project × Except Breakdown Reply :=
  match r.config p env with
  | .error fault => (p, .error fault)
  | .ok config => r.task.run config p npm

/-! ## The program -/

/-- What the program prints, and how it ends. -/
structure Outcome where
  /-- The exit code. -/
  exitCode : Nat
  /-- What is printed to the console. -/
  console : String := ""
  /-- What is printed to standard output about the program itself. -/
  stdout : String := ""
  /-- What is printed to standard error. -/
  stderr : String := ""
  deriving DecidableEq, Repr

/-- A text without blanks at the ends of its lines. -/
def trimLines (s : String) : String :=
  String.ofList (Text.joinPieces '\n' ((Text.pieces '\n' s.toList).map Text.trimEnd))

/-- How the program ends when the arguments stop it. -/
def Stop.outcome (stop : Stop) : Outcome where
  exitCode := stop.exitCode
  stdout := trimLines stop.stdout
  stderr := trimLines stop.stderr

/-- How the program ends with a reply. -/
def Reply.outcome (reply : Reply) (verbose : Bool) : Outcome where
  exitCode := reply.exitCode
  console := Console.render reply.blocks
  stderr := if verbose then trimLines (linesText (reply.diagnostics.map diagnosticLine)) else ""

/-- Runs the program with arguments in an environment, where the package manager printed `npm`. -/
def run (texts : List String) (p : Project) (env : Environment) (npm : Completion) :
    Project × Except Breakdown Outcome :=
  match Request.read texts with
  | .error stop => (p, .ok stop.outcome)
  | .ok request =>
    let (q, result) := request.run p env npm
    (q, result.map (·.outcome request.verbose))

end FeatureGen.CommandLine

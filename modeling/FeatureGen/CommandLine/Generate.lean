import FeatureGen.CommandLine.Listing
import FeatureGen.CommandLine.Reply

/-!
# The commands that generate

A feature is generated by name, or one for each model that is chosen.  Models are chosen without
regard to case; of several that agree up to case the last is meant.
-/

namespace FeatureGen.CommandLine

open FeatureGen.Console (Block blankLine)
open FeatureGen.Generation

/-! ## One feature -/

/-- Where the fields of a feature came from. -/
def sourceLine (g : Generated) : String :=
  match g.source with
  | .schema => "Parsed " ++ toString g.fieldCount ++ " fields from schema model " ++ g.name
  | .fallback =>
    "Model " ++ g.name ++ " not in schema; using " ++ toString g.fieldCount ++ " provided fields"
  | .none => "No fields found for " ++ g.name ++ "; generated an empty feature."

/-- What is said of a feature that was generated. -/
def generatedBlocks (g : Generated) : List Block :=
  .text (sourceLine g) ::
    g.files.map (fun path => .text ("  created " ++ path.toString)) ++
    [.text ("\nFeature " ++ g.name ++ " generated successfully!")]

/-- Generates a feature. -/
def generateOne (g : Generator) (p : Project) (name : String) (fallback : List String) :
    Project × Except Breakdown Reply :=
  let head := [Block.text ("\nGenerating feature: " ++ name ++ "\n")]
  let told := match p.readSchema g.config with
    | .ok text => Feature.diagnostics text name fallback g.config.schema
    | .error _ => []
  let (q, result) := g.generate p name fallback
  (q, match result with
    | .ok generated => .ok { blocks := head ++ generatedBlocks generated, diagnostics := told }
    | .error (.schema (.unreadable f)) => .error (.unreadable f)
    | .error (.run f) => .error (.generation f)
    | .error (.digits f) => .error (.digits f)
    | .error (.schema fault) => .ok ((Reply.failure ("Error: " ++ fault.message)).after head)
    | .error fault =>
      .ok { (Reply.failure ("Feature generation failed: " ++ fault.message)).after head with
        diagnostics := told })

/-! ## Several features -/

/-- The model that a name means. -/
def chosenModel? (models : List String) (name : String) : Option String :=
  models.reverse.find? fun model => Text.lowercase model == Text.lowercase name

/-- What is said of a batch. -/
def batchBlocks (b : Batch) : List Block :=
  [.text "\nGenerating features for Prisma models\n"] ++
  (b.progress.map fun (model, ok) =>
    .text ("  " ++ model ++ ": " ++ if ok then "done" else "failed")) ++
  [.table (summaryTable b), blankLine] ++
  (b.failed.map fun (model, message) => .text ("  - " ++ model ++ ": " ++ message)) ++
  [.text (
    if b.succeeded then "All features generated successfully!"
    else "Some features could not be generated. Check the errors above.")]

/-- Generates a feature for each of some models of a schema text. -/
def generateModels (g : Generator) (p : Project) (text : String) (models : List String) :
    Project × Except Breakdown Reply :=
  let (q, result) := g.generateAllFrom text p {} models
  (q, match result with
    | .ok b => .ok {
        blocks := batchBlocks b
        exitCode := if b.succeeded then 0 else 1
        diagnostics :=
          models.flatMap fun model => Feature.diagnostics text model [] g.config.schema }
    | .error (.run f) => .error (.generation f)
    | .error (.digits f) => .error (.digits f)
    | .error (.schema (.unreadable f)) => .error (.unreadable f)
    | .error fault => .ok (.failure ("Feature generation failed: " ++ fault.message)))

/-- Generates a feature for each model of a schema text that is chosen, or for all if none is. -/
def generateChosen (g : Generator) (p : Project) (text : String) (chosen : List String) :
    Project × Except Breakdown Reply :=
  match modelNamesOf text, chosen with
  | [], _ =>
    (p, .ok { blocks :=
      [.text "No models found in your Prisma schema.",
        .text "Tip: add some models to your schema.prisma file first."] })
  | models, [] => generateModels g p text models
  | models, chosen =>
    let unknown := chosen.filter fun name => (chosenModel? models name).isNone
    let warnings := unknown.map fun name =>
      Block.text ("Model " ++ name ++ " is not declared in the schema; skipping.")
    match chosen.filterMap (chosenModel? models) with
    | [] =>
      (p, .ok { blocks := warnings ++ [.text "No models selected. Operation cancelled."] })
    | models =>
      let (q, result) := generateModels g p text models
      (q, result.map (Reply.after warnings))

/-- Generates features for the models of the project. -/
def generateForModels (g : Generator) (p : Project) (chosen : List String) :
    Project × Except Breakdown Reply :=
  match p.readSchema g.config with
  | .ok text => generateChosen g p text chosen
  | .error (.unreadable f) => (p, .error (.unreadable f))
  | .error fault => (p, .ok (.failure ("Error: " ++ fault.message)))

end FeatureGen.CommandLine

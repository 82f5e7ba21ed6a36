import FeatureGen.Analysis.Report
import FeatureGen.Console.Basic

/-!
# The overview of a report

A report is shown as an outline with a branch for each of its parts, and a hint below it if there is
something to do.
-/

namespace FeatureGen.Analysis

open FeatureGen.Console (Block Outline)

/-- Names after a label, or another text if there are none. -/
def namesOr (label otherwise : String) : List String → Outline
  | [] => .leaf otherwise
  | names => .leaf (label ++ ", ".intercalate names)

/-- A number after a label. -/
def counted (label : String) (n : Nat) : Outline := .leaf (label ++ toString n)

/-- The branch of the schema. -/
def SchemaStats.outline (s : SchemaStats) : Outline :=
  .node "Schema Analysis"
    [counted "Models: " s.models, counted "Fields: " s.fields, counted "Relations: " s.relations,
      namesOr "Complex Models: " "No complex models found" s.complexModels]

/-- The branch of the features. -/
def FeatureStats.outline (s : FeatureStats) : Outline :=
  .node "Features Analysis"
    [counted "Total Features: " s.count,
      namesOr "Incomplete Features: " "All features are complete" s.incomplete]

/-- The branch of the packages. -/
def outdatedOutline (packages : List String) : Outline :=
  .node "Dependencies Analysis"
    [namesOr "Outdated: " "All dependencies are up to date" packages]

/-- The branch of what is served. -/
def PerformanceStats.outline (s : PerformanceStats) : Outline :=
  .node "Performance Analysis"
    [counted "API Endpoints: " s.apiEndpoints, .leaf ("Bundle Size: " ++ s.bundleSize)]

/-- A report as an outline. -/
def Report.outline (r : Report) : Outline :=
  .node "Project Analysis"
    [r.schema.outline, r.features.outline, outdatedOutline r.outdated, r.performance.outline]

/-- The hint below a report. -/
def recommendation : String :=
  "Recommendations found: split complex models, regenerate incomplete features and update " ++
    "outdated dependencies."

/-- What is shown of a report. -/
def Report.overview (r : Report) : List Block :=
  [Console.blankLine, .outline r.outline, Console.blankLine] ++
    if r.hasRecommendations then [.text recommendation] else []

end FeatureGen.Analysis

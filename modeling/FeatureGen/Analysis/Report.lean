import FeatureGen.Json.Basic

/-!
# Reports on a project

What an analysis finds out: how large the schema is, which features are complete, which packages are
outdated, and how much is served.
-/

namespace FeatureGen.Analysis

/-- How large the schema is. -/
structure SchemaStats where
  /-- The number of models. -/
  models : Nat := 0
  /-- The number of fields of all models. -/
  fields : Nat := 0
  /-- The number of relations among them. -/
  relations : Nat := 0
  /-- The models with too many relations. -/
  complexModels : List String := []
  deriving DecidableEq, Repr

/-- The features that were generated. -/
structure FeatureStats where
  /-- Their number. -/
  count : Nat := 0
  /-- Those that lack a directory. -/
  incomplete : List String := []
  /-- The number of lines of each. -/
  complexity : List (String × Nat) := []
  deriving DecidableEq, Repr

/-- What is served. -/
structure PerformanceStats where
  /-- The number of routes. -/
  apiEndpoints : Nat := 0
  /-- The size of the static output. -/
  bundleSize : String := "0KB"
  deriving DecidableEq, Repr

/-- All that an analysis finds out. -/
structure Report where
  /-- The schema. -/
  schema : SchemaStats := {}
  /-- The features. -/
  features : FeatureStats := {}
  /-- The outdated packages. -/
  outdated : List String := []
  /-- What is served. -/
  performance : PerformanceStats := {}
  deriving DecidableEq, Repr

/-- Whether there is something to do. -/
def Report.hasRecommendations (r : Report) : Bool :=
  !r.schema.complexModels.isEmpty || !r.features.incomplete.isEmpty || !r.outdated.isEmpty

/-! ## As objects -/

/-- The statistics of the schema as an object. -/
def SchemaStats.toJson (s : SchemaStats) : Json :=
  .obj [("models", .ofNat s.models), ("fields", .ofNat s.fields), ("relations", .ofNat s.relations),
    ("complex_models", .ofStrings s.complexModels)]

/-- The statistics of the features as an object. -/
def FeatureStats.toJson (s : FeatureStats) : Json :=
  .obj [("count", .ofNat s.count), ("incomplete", .ofStrings s.incomplete),
    ("complexity", .obj (s.complexity.map fun (name, n) => (name, .ofNat n)))]

/-- Outdated packages as an object. -/
def outdatedToJson (packages : List String) : Json := .obj [("outdated", .ofStrings packages)]

/-- The statistics of what is served as an object. -/
def PerformanceStats.toJson (s : PerformanceStats) : Json :=
  .obj [("api_endpoints", .ofNat s.apiEndpoints), ("bundle_size", .str s.bundleSize)]

/-- A report as an object. -/
def Report.toJson (r : Report) : Json :=
  .obj [("schema_stats", r.schema.toJson), ("features", r.features.toJson),
    ("dependencies", outdatedToJson r.outdated), ("performance", r.performance.toJson)]

end FeatureGen.Analysis

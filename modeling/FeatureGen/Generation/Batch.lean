import FeatureGen.Generation.Basic

/-!
# Generating several features

The schema is read once for all of them.  A feature that cannot be written is noted and the others
are generated all the same.  Other faults end the run.
-/

namespace FeatureGen.Generation

/-- What became of several features. -/
structure Batch where
  /-- What was generated, in order. -/
  generated : List Generated := []
  /-- The names that failed, each once, with the last message for each. -/
  failed : List (String × String) := []
  /-- Every name in order, and whether it was generated. -/
  progress : List (String × Bool) := []
  deriving DecidableEq

namespace Batch

/-- How many names there are in all. -/
def total (b : Batch) : Nat := b.generated.length + b.failed.length

/-- Whether nothing failed. -/
def succeeded (b : Batch) : Bool := b.failed.isEmpty

/-- The batch with one more feature generated. -/
def addGenerated (b : Batch) (name : String) (g : Generated) : Batch :=
  { b with generated := b.generated ++ [g], progress := b.progress ++ [(name, true)] }

/-- Messages with one more under a name, which keeps its place if it has one. -/
def setMessage (name message : String) : List (String × String) → List (String × String)
  | [] => [(name, message)]
  | (n, m) :: rest => if n = name then (n, message) :: rest else (n, m) :: setMessage name message rest

/-- The batch with one more feature failed. -/
def addFailed (b : Batch) (name message : String) : Batch :=
  { b with failed := setMessage name message b.failed, progress := b.progress ++ [(name, false)] }

end Batch

/-- Generates features from a schema text after those of a batch. -/
def Generator.generateAllFrom (g : Generator) (text : String) (p : Project) (b : Batch) :
    List String → Project × Except GenerationFault Batch
  | [] => (p, .ok b)
  | name :: names =>
    match g.generateFrom p text name [] with
    | (q, .ok result) => g.generateAllFrom text q (b.addGenerated name result) names
    | (q, .error (.run f)) => (q, .error (.run f))
    | (q, .error (.digits f)) => (q, .error (.digits f))
    | (q, .error fault) => g.generateAllFrom text q (b.addFailed name fault.message) names

/-- Generates features from the schema file of the project. -/
def Generator.generateAll (g : Generator) (p : Project) (names : List String) :
    Project × Except GenerationFault Batch :=
  match p.readSchema g.config with
  | .error f => (p, .error (.schema f))
  | .ok text => g.generateAllFrom text p {} names

end FeatureGen.Generation

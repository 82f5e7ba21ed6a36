import FeatureGen.Console.Basic
import FeatureGen.Generation.Batch
import FeatureGen.Schema.Model

/-!
# Listings

The tables that commands print: the models of a schema, the fields of a model, and how many features
were generated.
-/

namespace FeatureGen.CommandLine

open FeatureGen.Console (Table)
open FeatureGen.Schema (Field)

/-- The names of the models of a schema text. -/
def modelNamesOf (text : String) : List String :=
  (Schema.modelNames text.toList).map String.ofList

/-- The models of a schema text, each with the number of its fields. -/
def modelTable (text : String) (settings : Schema.Settings) : Except Text.DigitFault Table :=
  let row := fun model =>
    (Schema.compile text model settings).map fun fields => [model, toString fields.length]
  ((modelNamesOf text).mapM row).map fun rows =>
    { title := "Schema Models"
      columns := [{ header := "Model" }, { header := "Fields", alignRight := true }]
      rows := rows }

/-- The flags of a field that are on. -/
def flagsLabel (f : Field) : String :=
  ", ".intercalate <|
    [("optional", f.isOptional), ("list", f.isList), ("default", f.hasDefault),
      ("enum", f.isEnum)].filterMap fun (label, on) => if on then some label else none

/-- The relation of a field: its cardinality and the model it leads to. -/
def relationLabel (f : Field) : String :=
  match f.relation with
  | none => ""
  | some r => r.cardinality.label ++ " -> " ++ if r.model.isEmpty then "?" else r.model

/-- The fields of a model. -/
def fieldTable (model : String) (fields : List Field) : Table where
  title := model ++ " fields"
  columns := ["Name", "Type", "Zod", "Flags", "Relation"].map fun header => { header }
  rows := fields.map fun f => [f.name, f.type, f.validator, flagsLabel f, relationLabel f]

/-- How many features of a batch were generated. -/
def summaryTable (b : Generation.Batch) : Table where
  title := "Generation Summary"
  columns := [{ header := "Item", canWrap := false }, { header := "Value" }]
  rows :=
    [["Generated", toString b.generated.length ++ "/" ++ toString b.total],
      ["Failed", toString b.failed.length]]

end FeatureGen.CommandLine

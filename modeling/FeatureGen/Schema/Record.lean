import FeatureGen.Schema.Field
import FeatureGen.Validation.Scalar

/-!
# Fields as records

A field is written as a JSON object with its members in a fixed order (`Field.toJson`), and an
object is checked and read as a field (`Field.ofJson`).
-/

namespace FeatureGen.Schema

open FeatureGen.Validation

/-- A relation as an object. -/
def Relation.toJson (r : Relation) : Json :=
  .obj [("type", .str r.cardinality.label), ("model", .str r.model),
    ("fields", .ofStrings r.fields), ("references", .ofStrings r.references),
    ("name", .ofString? r.name)]

/-- A field as an object. -/
def Field.toJson (f : Field) : Json :=
  .obj [("name", .str f.name), ("type", .str f.type), ("zod_type", .str f.validator),
    ("description", .str f.description), ("is_optional", .bool f.isOptional),
    ("is_list", .bool f.isList), ("has_default", .bool f.hasDefault), ("is_enum", .bool f.isEnum),
    ("enum_values", .ofStrings f.enumValues), ("is_relation", .bool f.isRelation),
    ("relation", (f.relation.map Relation.toJson).getD .null)]

/-- A cardinality by its name. -/
def Cardinality.ofJson : Json → Checked Cardinality
  | .str s =>
    match Cardinality.ofLabel? s with
    | some c => .ok c
    | none => .fail (.notAmong labels)
  | _ => .fail (.notAmong labels)
where
  /-- The names of all cardinalities. -/
  labels : List String := ["one-to-one", "one-to-many", "many-to-many"]

/-- A relation, checked member by member. -/
def Relation.ofJson (source : Source) : Json → Checked Relation
  | .obj ms =>
    Checked.of Relation.mk
      |>.and (.required ms "type" Cardinality.ofJson)
      |>.and (.optional ms "model" "" string)
      |>.and (.optional ms "fields" [] (stringTuple source))
      |>.and (.optional ms "references" [] (stringTuple source))
      |>.and (.optional ms "name" none optionalString)
  | _ => .fail (.notObject source "RelationInfo")

/-- A relation, or nothing. -/
def Relation.ofJson? (source : Source) : Json → Checked (Option Relation)
  | .null => .ok none
  | v => (Relation.ofJson source v).map some

/-- A field, checked member by member. -/
def Field.ofJson (source : Source) : Json → Checked Field
  | .obj ms =>
    Checked.of Field.mk
      |>.and (.required ms "name" string)
      |>.and (.required ms "type" string)
      |>.and (.required ms "zod_type" string)
      |>.and (.optional ms "description" "" string)
      |>.and (.optional ms "is_optional" false bool)
      |>.and (.optional ms "is_list" false bool)
      |>.and (.optional ms "has_default" false bool)
      |>.and (.optional ms "is_enum" false bool)
      |>.and (.optional ms "enum_values" [] (stringTuple source))
      |>.and (.optional ms "is_relation" false bool)
      |>.and (.optional ms "relation" none (Relation.ofJson? source))
  | _ => .fail (.notObject source "FieldRecord")

end FeatureGen.Schema

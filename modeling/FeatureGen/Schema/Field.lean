import FeatureGen.Schema.Relation

/-!
# Fields

A `Field` is what is known of one field of a model.  `normalize` turns on the flags that other parts
of it imply and turns none off, so normalizing twice does no more than normalizing once.
-/

namespace FeatureGen.Schema

/-- A field of a model. -/
structure Field where
  /-- The name, which no other field of the model has. -/
  name : String
  /-- The type as the schema writes it. -/
  type : String
  /-- The expression that validates a value. -/
  validator : String
  /-- A description to read. -/
  description : String := ""
  /-- Whether the field may be absent. -/
  isOptional : Bool := false
  /-- Whether the field holds a list. -/
  isList : Bool := false
  /-- Whether the schema gives a default value. -/
  hasDefault : Bool := false
  /-- Whether the type is an enumeration. -/
  isEnum : Bool := false
  /-- The values of the enumeration. -/
  enumValues : List String := []
  /-- Whether the field refers to another model. -/
  isRelation : Bool := false
  /-- The relation, if the field has one. -/
  relation : Option Relation := none
  deriving DecidableEq, Repr

namespace Field

/-- The field with the flags that its relation and its default imply. -/
def normalize (f : Field) : Field :=
  { f with
    isRelation := f.isRelation || f.relation.isSome
    isList := f.isList || f.relation.any (·.cardinality.isMany)
    isOptional := f.isOptional || f.hasDefault }

/-- Normalizing twice does no more than normalizing once. -/
@[simp] theorem normalize_normalize (f : Field) : f.normalize.normalize = f.normalize := by
  simp [normalize]

end Field

end FeatureGen.Schema

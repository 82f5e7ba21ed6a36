import FeatureGen.Distinct
import FeatureGen.Feature.Basic

/-!
# The interface of a feature

The interface declares how input is validated and what an entity is.  The members of the entity are
the primary key, if it is managed, then the fields, then the other managed fields.  The types of
related entities are imported from their features, each once up to case; the entity's own type needs
no import.
-/

namespace FeatureGen.Feature

open FeatureGen.Schema (Field)

/-- The type of a field without the mark of a list. -/
def enumType (f : Field) : String :=
  " | ".intercalate (f.enumValues.map Json.scriptSafe)

/-- The type of a field. -/
def fieldType (f : Field) : String :=
  if f.isEnum && !f.enumValues.isEmpty then
    if f.isList then "(" ++ enumType f ++ ")" else enumType f
  else typeName f.type f.isRelation ++ (if f.isList then "[]" else "")

/-- The model that a field leads to, empty if it leads to none or to an unknown one. -/
def targetOf (f : Field) : String := (f.relation.map (·.model)).getD ""

/-- The models whose types are imported. -/
def relatedModels (f : Feature) : List String :=
  let targets := (f.fields.filter (·.isRelation)).map targetOf
  firstsBy Text.lowercase [] (targets.filter fun t => !t.isEmpty && t != f.model)

/-- The member for a field. -/
def fieldMember (f : Field) : Member :=
  if f.isRelation && (targetOf f).isEmpty then
    { note := some ("relation target of " ++ f.name ++ " could not be resolved")
      name := f.name
      isOptional := f.isOptional
      type := "unknown" ++ (if f.isList then "[]" else "") }
  else { name := f.name, isOptional := f.isOptional, type := fieldType f }

/-- The member for the primary key. -/
def keyMember (f : Field) : Member := { name := f.name, type := fieldType f }

/-- The member for a managed field.  A default value makes it always present. -/
def managedMember (f : Field) : Member :=
  { name := f.name, isOptional := f.isOptional && !f.hasDefault, type := fieldType f }

/-- The members of the entity. -/
def entityMembers (f : Feature) : List Member :=
  (f.managed.filter (·.name == f.primaryKey)).map keyMember ++
    f.fields.map fieldMember ++
    (f.managed.filter (·.name != f.primaryKey)).map managedMember

/-- The entries of the input schema. -/
def schemaEntries (f : Feature) : List Code := f.inputFields.map fun i => .entry i.name i.validator

/-- The interface of a feature. -/
def interfaceFile (f : Feature) : Module :=
  [.importNames ["z"] "zod"] ++
  (f.relatedModels.map fun target =>
    .importTypes [target] ("@/features/" ++ Text.lowercase target)) ++
  [.blank,
   .doc ("Validation schema for " ++ f.model ++ " input."),
   .constant f.schemaConstant "z.object" f.schemaEntries,
   .blank,
   .doc (f.model ++ " entity as returned by the API."),
   .interface f.model f.entityMembers,
   .blank,
   .typeAlias f.createType ("z.infer<typeof " ++ f.schemaConstant ++ ">"),
   .typeAlias f.updateType ("Partial<" ++ f.createType ++ ">")]

end FeatureGen.Feature

import FeatureGen.Text.Case

/-!
# Type names in generated code

The type in TypeScript for a type of the schema.  A time is a `Date`; basic types have names of
their own; all other types, and the types of relations, keep their spelling.  Basic types are known
in any case.
-/

namespace FeatureGen.Feature

/-- Basic types that keep their name, in lowercase. -/
def basicTypes : List String :=
  ["string", "number", "boolean", "date", "datetime", "any", "bigint", "undefined", "null", "never",
   "unknown", "void"]

/-- Basic types with another name. -/
def renamedTypes : List (String × String) :=
  [("int", "number"), ("float", "number"), ("decimal", "number"), ("json", "any"),
   ("bytes", "Buffer"), ("uuid", "string")]

/-- The type in generated code. -/
def typeName (type : String) (isRelation : Bool) : String :=
  let small := Text.lowercase type
  if small = "datetime" then "Date"
  else if isRelation then type
  else
    match renamedTypes.lookup small with
    | some name => name
    | none => if basicTypes.contains small then small else type

end FeatureGen.Feature

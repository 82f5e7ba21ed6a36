/-!
# Naming conventions of a schema

Where the schema of a project lies and how its fields are named.
-/

namespace FeatureGen.Schema

/-- Where the schema lies and which names have a meaning of their own. -/
structure Settings where
  /-- The schema file, below the base path of the project. -/
  path : String := "prisma/schema.prisma"
  /-- The key that an implicit relation refers to. -/
  primaryKey : String := "id"
  /-- What is put after the name of a field to name its foreign key. -/
  foreignKeySuffix : String := "Id"
  /-- Fields that are managed by themselves and left out of what is compiled. -/
  reserved : List String := ["id", "createdAt", "updatedAt"]
  deriving DecidableEq, Repr

end FeatureGen.Schema

import FeatureGen.Feature.Code
import FeatureGen.Feature.Naming
import FeatureGen.Feature.TypeName
import FeatureGen.Json.Printer
import FeatureGen.Schema.Field

/-!
# Features

A feature is what code is generated for: a name, its fields, the fields that are managed for it, and
the name of its primary key.  The names that occur in the generated files are derived here, so that
the file that declares a name and the files that import it agree.
-/

namespace FeatureGen

open FeatureGen.Schema (Field)

/-- What code is generated for. -/
structure Feature where
  /-- The name. -/
  name : String
  /-- The fields, managed ones left out. -/
  fields : List Field
  /-- The managed fields. -/
  managed : List Field
  /-- The name of the primary key. -/
  primaryKey : String
  deriving DecidableEq, Repr

namespace Feature

/-- The name in lowercase, which names the files. -/
def stem (f : Feature) : String := Text.lowercase f.name

/-- The name of the type of an entity. -/
def model (f : Feature) : String := pascalCase f.name

/-- The name of a value that is an entity. -/
def entity (f : Feature) : String := camelCase f.name

/-- The constant that validates the input, under the name of the type. -/
def schemaConstant (f : Feature) : String := smallFirst f.model ++ "Schema"

/-- The type of the input that creates an entity. -/
def createType (f : Feature) : String := "Create" ++ f.model ++ "DTO"

/-- The type of the input that updates an entity. -/
def updateType (f : Feature) : String := "Update" ++ f.model ++ "DTO"

/-- The constant of the controller. -/
def controllerConstant (f : Feature) : String := f.entity ++ "Controller"

/-- The constant of the procedure. -/
def procedureConstant (f : Feature) : String := f.model ++ "FeatureProcedure"

/-- The fields that a client gives: those that are no relations. -/
def inputFields (f : Feature) : List Field := f.fields.filter (!·.isRelation)

/-! ## Specifiers of modules -/

/-- The interface, seen from the directory of the feature. -/
def interfaceSpecifier (f : Feature) : String := f.stem ++ ".interface"

/-- The controller, seen from its own directory. -/
def controllerSpecifier (f : Feature) : String := f.stem ++ ".controller"

/-- The procedure, seen from its own directory. -/
def procedureSpecifier (f : Feature) : String := f.stem ++ ".procedure"

end Feature

end FeatureGen

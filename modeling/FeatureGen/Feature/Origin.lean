import FeatureGen.Feature.Draft
import FeatureGen.Schema.Model

/-!
# Where the fields of a feature come from

The fields of a feature are those of the model of its name.  If the schema gives none, they come
from pairs `name:type`, and if there are no pairs either the feature is empty.  The managed fields
are the reserved fields of the model, or by convention when the fields come from elsewhere.

The name of a generated file is the lowercase name of the feature with a suffix; characters with a
meaning in a page are written as references in it.
-/

namespace FeatureGen

open FeatureGen.Schema (Field Diagnostic)
open FeatureGen.Text (DigitFault)

/-- Where the fields of a feature come from. -/
inductive FieldSource
  /-- From its model. -/
  | schema
  /-- From pairs `name:type`. -/
  | fallback
  /-- From nowhere. -/
  | none
  deriving DecidableEq, Repr

/-- The name of a source. -/
def FieldSource.label : FieldSource → String
  | .schema => "schema"
  | .fallback => "fallback"
  | .none => "none"

namespace Feature

/-- The fields of a feature, and where they come from. -/
def resolveFields (text name : String) (fallback : List String) (settings : Schema.Settings) :
    Except DigitFault (List Field × FieldSource) :=
  (Schema.compile text name settings).map fun fields =>
    if !fields.isEmpty then (fields.map Field.normalize, .schema)
    else if !fallback.isEmpty then (Schema.fallbackFields fallback, .fallback)
    else ([], .none)

/-- The managed fields of a feature whose fields have a source. -/
def resolveManaged (text name : String) (source : FieldSource) (settings : Schema.Settings) :
    Except DigitFault (List Field) :=
  match source with
  | .schema => Schema.compileReserved text name settings
  | _ => .ok (Schema.defaultReserved settings)

/-- The feature of a name in a schema, and where its fields come from. -/
def ofSchema (text name : String) (fallback : List String) (settings : Schema.Settings) :
    Except DigitFault (Feature × FieldSource) :=
  match resolveFields text name fallback settings with
  | .error fault => .error fault
  | .ok (fields, source) =>
    (resolveManaged text name source settings).map fun managed =>
      ({ name := name
         fields := fields
         managed := managed
         primaryKey := settings.primaryKey }, source)

/-- What is told while the feature of a name is found. -/
def diagnostics (text name : String) (fallback : List String) (settings : Schema.Settings) :
    List Diagnostic :=
  Schema.compileDiagnostics text name settings ++
    match resolveFields text name fallback settings with
    | .ok (_, .schema) => Schema.compileReservedDiagnostics text name settings
    | _ => []

end Feature

/-! ## Names of files -/

/-- A character as it is written in a page. -/
def escapeForPage (c : Char) : List Char :=
  if c = '&' then "&amp;".toList
  else if c = '<' then "&lt;".toList
  else if c = '>' then "&gt;".toList
  else if c = '\'' then "&#39;".toList
  else if c = '"' then "&#34;".toList
  else [c]

/-- The lowercase name of a feature as it stands in the names of its files. -/
def Feature.fileStem (name : String) : String :=
  String.ofList ((Text.lowercase name).toList.flatMap escapeForPage)

/-- The name of a generated file, below the directory of the feature. -/
def FileKind.target (kind : FileKind) (name : String) : String :=
  match kind with
  | .index => "index.ts"
  | .interface => Feature.fileStem name ++ ".interface.ts"
  | .controller => "controllers/" ++ Feature.fileStem name ++ ".controller.ts"
  | .procedure => "procedures/" ++ Feature.fileStem name ++ ".procedure.ts"

end FeatureGen

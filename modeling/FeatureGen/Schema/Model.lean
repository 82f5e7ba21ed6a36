import FeatureGen.Schema.FieldLine

/-!
# Compiling a model

`compile` gives the fields of a model, in the order of its body.  Reserved fields and lines that are
no declarations are left out, and of several fields with one name the first counts.
`compileReserved` gives the reserved fields alone.  A feature whose model is not declared gets its
fields from pairs `name:type` (`fallbackFields`) and its reserved fields by convention
(`defaultReserved`).

A `ledger` says of every declaration in a body how it ends, and what is told about it.

The index of the schema is made before a declaration is looked at.  If that fails nothing is
compiled, and nothing is told.  A model that is not declared needs no index.
-/

namespace FeatureGen.Schema

open FeatureGen.Text

/-! ## The ledger of a body -/

/-- How a declaration in a model body ends. -/
inductive Ending
  /-- It is a field of the model. -/
  | field (f : Field)
  /-- Its name is reserved. -/
  | reserved (name : String)
  /-- It does not have the shape of a field. -/
  | unparsable
  /-- A field with its name stands before it. -/
  | duplicate (name : String)
  deriving DecidableEq, Repr

/-- The field, if the declaration became one. -/
def Ending.field? : Ending → Option Field
  | .field f => some f
  | _ => none

/-- How a declaration ended, and what is told about it. -/
structure Entry where
  /-- How it ended. -/
  ending : Ending
  /-- What is told about it. -/
  diagnostics : List Diagnostic

/-- The ending of a declaration that follows fields of the given names. -/
def Verdict.ending (seen : List String) : Verdict → Ending
  | .field f => if seen.contains f.name then .duplicate f.name else .field f
  | .reserved name => .reserved name
  | .unparsable => .unparsable

/-- What is told about an ending as such. -/
def Ending.diagnostics (model : String) : Ending → List Diagnostic
  | .duplicate name => [.duplicateField model name]
  | _ => []

/-- The entry of a declaration that follows fields of the given names. -/
def Entry.ofLine (model : String) (index : Index) (settings : Settings) (seen : List String)
    (line : List Char) : Entry :=
  let ending := (classify line index settings).ending seen
  { ending := ending
    diagnostics := classifyDiagnostics line index settings ++ ending.diagnostics model }

/-- The entries of declarations that follow fields of the given names. -/
def ledgerFrom (model : String) (index : Index) (settings : Settings) (seen : List String) :
    List (List Char) → List Entry
  | [] => []
  | line :: lines =>
    let entry := Entry.ofLine model index settings seen line
    let seen := match entry.ending.field? with
      | some f => f.name :: seen
      | none => seen
    entry :: ledgerFrom model index settings seen lines

/-- The entries of the declarations of a model, none if it is not declared. -/
def ledger (text model : String) (settings : Settings) : Except DigitFault (List Entry) :=
  match modelBody? text.toList model.toList with
  | none => .ok []
  | some body =>
    (Index.ofText text.toList).map fun index =>
      ledgerFrom model index settings [] (fieldLines body)

/-- The fields of a model. -/
def compile (text model : String) (settings : Settings) : Except DigitFault (List Field) :=
  (ledger text model settings).map fun entries => entries.filterMap (·.ending.field?)

/-- What is told while a model is compiled. -/
def compileDiagnostics (text model : String) (settings : Settings) : List Diagnostic :=
  match ledger text model settings with
  | .ok entries => entries.flatMap (·.diagnostics)
  | .error _ => []

/-! ## Reserved fields -/

/-- The settings without reserved names. -/
def Settings.unreserved (settings : Settings) : Settings := { settings with reserved := [] }

/-- The reserved fields that a model declares. -/
def compileReserved (text model : String) (settings : Settings) :
    Except DigitFault (List Field) :=
  (compile text model settings.unreserved).map fun fields =>
    fields.filter fun f => settings.reserved.contains f.name

/-- What is told while the reserved fields of a model are compiled. -/
def compileReservedDiagnostics (text model : String) (settings : Settings) : List Diagnostic :=
  compileDiagnostics text model settings.unreserved

/-- The reserved fields of a feature whose model is not declared.  A name that ends in `At` is a
time, unless it is the primary key, and every other is a text. -/
def defaultReserved (settings : Settings) : List Field :=
  (firsts settings.reserved).map fun name =>
    let type := if name != settings.primaryKey && name.endsWith "At" then "DateTime" else "String"
    { name := name
      type := type
      validator := (Expression.ofType type false false {}).render
      description := name ++ " field" }

/-! ## Fields without a model -/

/-- The name and the type in a pair `name:type`. -/
def splitPair (pair : List Char) : List Char × List Char :=
  (trim (pair.takeWhile (· != ':')), trim ((pair.dropWhile (· != ':')).drop 1))

/-- The fields that pairs `name:type` give.  A pair without a type is a text, one without a name is
left out, and of several with one name the first counts. -/
def fallbackFields (pairs : List String) : List Field :=
  let named := (pairs.map fun p => splitPair p.toList).filter (!·.1.isEmpty)
  (firstsBy (·.1) [] named).map fun (name, type) =>
    { name := String.ofList name
      type := if type.isEmpty then "String" else String.ofList type
      validator := Primitive.string.render
      description := String.ofList name ++ " field" }

end FeatureGen.Schema

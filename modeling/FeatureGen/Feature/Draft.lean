import FeatureGen.Feature.ControllerFile
import FeatureGen.Feature.IndexFile
import FeatureGen.Feature.InterfaceFile
import FeatureGen.Feature.ProcedureFile

/-!
# Drafts of features

A draft is a feature some parts of which may be missing.  Each file needs some of the parts, in an
order of its own, and a draft without one of them gives a fault that names the first.  The interface
also needs every relation to be there that a field claims to have.  A whole feature in which no
relation is missing gives all files.
-/

namespace FeatureGen

open FeatureGen.Schema (Field)

/-- The files that are generated. -/
inductive FileKind
  | index
  | interface
  | controller
  | procedure
  deriving DecidableEq, Repr

namespace FileKind

/-- The files in the order in which they are generated. -/
def all : List FileKind := [.index, .interface, .controller, .procedure]

/-- The module of a feature for a file. -/
def module (kind : FileKind) (f : Feature) : Feature.Module :=
  match kind with
  | .index => f.indexFile
  | .interface => f.interfaceFile
  | .controller => f.controllerFile
  | .procedure => f.procedureFile

end FileKind

/-- Why a draft gives no file. -/
inductive DraftFault
  /-- A part is missing. -/
  | missing (part : String)
  /-- The name is missing where its words are needed. -/
  | noWords
  /-- A field claims to be a relation and has none. -/
  | noRelation
  deriving DecidableEq, Repr

/-- What is wrong, in words. -/
def DraftFault.message : DraftFault → String
  | .missing part => "'" ++ part ++ "' is undefined"
  | .noWords => "expected string or bytes-like object, got 'StrictUndefined'"
  | .noRelation => "'None' has no attribute 'model'"

/-- A feature some parts of which may be missing. -/
structure Draft where
  /-- The name. -/
  name : Option String := none
  /-- The fields. -/
  fields : Option (List Field) := none
  /-- The managed fields. -/
  managed : Option (List Field) := none
  /-- The name of the primary key. -/
  primaryKey : Option String := none

namespace Draft

/-- A part that a file needs. -/
def part {α : Type} (name : String) : Option α → Except DraftFault α
  | some a => .ok a
  | none => .error (.missing name)

/-- The name, whose words a file needs before anything else. -/
def words : Option String → Except DraftFault String
  | some s => .ok s
  | none => .error .noWords

/-- Whether a field claims to be a relation and has none. -/
def lacksRelation (f : Field) : Bool := f.isRelation && f.relation.isNone

/-- The feature of a draft, as far as a file needs it. -/
def feature (d : Draft) : FileKind → Except DraftFault Feature
  | .index => do
    let name ← part "name" d.name
    return ⟨name, [], [], ""⟩
  | .interface => do
    let name ← words d.name
    let fields ← part "fields" d.fields
    if fields.any lacksRelation then throw .noRelation
    let managed ← part "managed_fields" d.managed
    let key ← if managed.isEmpty then pure "" else part "primary_key" d.primaryKey
    return ⟨name, fields, managed, key⟩
  | .controller => do
    let name ← words d.name
    let key ← part "primary_key" d.primaryKey
    return ⟨name, [], [], key⟩
  | .procedure => do
    let name ← words d.name
    let managed ← part "managed_fields" d.managed
    let fields ← part "fields" d.fields
    let key ← part "primary_key" d.primaryKey
    return ⟨name, fields, managed, key⟩

/-- The text of a file. -/
def render (d : Draft) (kind : FileKind) : Except DraftFault String :=
  (d.feature kind).map fun f => (kind.module f).render

/-- A feature as a draft. -/
def ofFeature (f : Feature) : Draft :=
  { name := some f.name, fields := some f.fields, managed := some f.managed,
    primaryKey := some f.primaryKey }

end Draft

end FeatureGen

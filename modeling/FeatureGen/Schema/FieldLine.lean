import FeatureGen.Schema.Diagnostic
import FeatureGen.Schema.Expression
import FeatureGen.Schema.Field

/-!
# Classification of a declaration

A declaration `name Type[?|[]] [@attribute…]` becomes a `Field`, unless its name is reserved or it
does not have that shape.  An attribute of a relation that cannot be read costs the field its
relation and nothing else.

The marks are settled before the expression is made, so that the expression agrees with them.
-/

namespace FeatureGen.Schema

open FeatureGen.Text

/-- What may stand after a type. -/
inductive Modifier
  | single
  | optional
  | list
  deriving DecidableEq, Repr

/-- The parts of a declaration. -/
structure FieldShape where
  /-- The name. -/
  name : List Char
  /-- The type. -/
  type : List Char
  /-- What stands after the type. -/
  modifier : Modifier
  /-- The attributes, from the first `@` on; they hold no line feed. -/
  tail : List Char
  deriving DecidableEq, Repr

/-- What stands after a type, and what follows it. -/
def readModifier : List Char → Modifier × List Char
  | '?' :: s => (.optional, s)
  | '[' :: ']' :: s => (.list, s)
  | s => (.single, s)

/-- The attributes that make up the rest of a declaration. -/
def readTail? (s : List Char) : Option (List Char) :=
  if s.isEmpty then some []
  else
    let tail := trimStart s
    if tail.head? = some '@' && !tail.contains '\n' then some tail else none

/-- The parts of a declaration, if the text has its shape. -/
def FieldShape.read? (s : List Char) : Option FieldShape := do
  let (name, s) ← spanSome? isWord s
  let s ← afterBlanks? s
  let (type, s) ← spanSome? isWord s
  let (modifier, s) := readModifier s
  let tail ← readTail? s
  return { name, type, modifier, tail }

/-- Whether a default value is among the attributes. -/
def FieldShape.hasDefault (shape : FieldShape) : Bool :=
  (search? (fun _ => afterTag? "default") none shape.tail).isSome

/-- What becomes of a declaration. -/
inductive Verdict
  /-- It is a field. -/
  | field (f : Field)
  /-- Its name is reserved. -/
  | reserved (name : String)
  /-- It does not have the shape of a field. -/
  | unparsable
  deriving DecidableEq, Repr

/-- The field, if there is one. -/
def Verdict.field? : Verdict → Option Field
  | .field f => some f
  | _ => none

/-- The field of a shape, where `relation` is what its attribute and its type give. -/
def FieldShape.toField (shape : FieldShape) (relation : Option Relation) (index : Index) : Field :=
  let name := String.ofList shape.name
  let type := String.ofList shape.type
  let isList := shape.modifier = .list || relation.any (·.cardinality.isMany)
  let isOptional := shape.modifier = .optional || shape.hasDefault
  Field.normalize {
    name := name
    type := type
    validator := (Expression.ofType type isOptional isList index).render
    description := name ++ " field"
    isOptional := isOptional
    isList := isList
    hasDefault := shape.hasDefault
    isEnum := index.isEnum type
    enumValues := index.enumValues type
    isRelation := relation.isSome
    relation := relation }

/-- The relation of a shape; an attribute that cannot be read leaves it none. -/
def FieldShape.relation? (shape : FieldShape) (index : Index) (settings : Settings) :
    Option Relation :=
  match RelationAttribute.parse shape.tail with
  | .ok attr =>
    relate (String.ofList shape.name) (String.ofList shape.type) (shape.modifier = .list) attr
      index settings
  | .error _ => none

/-- What is told about the relation of a field. -/
def relationDiagnostics (field type : String) (attr : Except RelationFault (Option RelationAttribute))
    (index : Index) (settings : Settings) : List Diagnostic :=
  match attr with
  | .error fault => [.relationIgnored field fault]
  | .ok none => []
  | .ok (some a) =>
    if a.hasKeys && (target? type a index settings.foreignKeySuffix).isNone then
      [.unknownTarget type]
    else []

/-- What becomes of a declaration. -/
def classify (line : List Char) (index : Index) (settings : Settings) : Verdict :=
  match FieldShape.read? (trim line) with
  | none => .unparsable
  | some shape =>
    if settings.reserved.contains (String.ofList shape.name) then
      .reserved (String.ofList shape.name)
    else .field (shape.toField (shape.relation? index settings) index)

/-- A declaration that becomes a field has the shape of one, and its name is not reserved. -/
theorem exists_shape_of_classify {line : List Char} {index : Index} {settings : Settings} {f : Field}
    (h : (classify line index settings).field? = some f) :
    ∃ shape, FieldShape.read? (trim line) = some shape ∧
      String.ofList shape.name ∉ settings.reserved ∧
      f = shape.toField (shape.relation? index settings) index := by
  rw [classify] at h
  split at h
  · cases h
  · next shape hread =>
    split at h
    · cases h
    · next hr => exact ⟨shape, hread, by simpa using hr, (Option.some.inj h).symm⟩

/-- What is told about a declaration. -/
def classifyDiagnostics (line : List Char) (index : Index) (settings : Settings) :
    List Diagnostic :=
  match FieldShape.read? (trim line) with
  | none => [.unparsableLine (String.ofList line)]
  | some shape =>
    if settings.reserved.contains (String.ofList shape.name) then []
    else
      relationDiagnostics (String.ofList shape.name) (String.ofList shape.type)
        (RelationAttribute.parse shape.tail) index settings

end FeatureGen.Schema

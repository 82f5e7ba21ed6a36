import FeatureGen.Schema.Index

/-!
# Validation expressions

The expression that validates a value of a schema type.  A declared enumeration, an identifier type
or a basic type has an expression of its own, and every other type is a text that is not empty.  A
list is wrapped first and an optional value second, so that an optional list reads as an optional
array.
-/

namespace FeatureGen.Schema

/-- The basic types by how they are validated. -/
inductive Primitive
  | string
  | int
  | number
  | boolean
  | date
  | any
  | bigint
  | bytes
  deriving DecidableEq, Repr

/-- How a type of the schema language is validated, if it is a basic one. -/
def Primitive.ofType? : String → Option Primitive
  | "String" => some .string
  | "Int" => some .int
  | "Float" => some .number
  | "Boolean" => some .boolean
  | "DateTime" => some .date
  | "Json" => some .any
  | "BigInt" => some .bigint
  | "Decimal" => some .number
  | "Bytes" => some .bytes
  | _ => none

/-- The expression of a basic type. -/
def Primitive.render : Primitive → String
  | .string => "z.string()"
  | .int => "z.number().int()"
  | .number => "z.number()"
  | .boolean => "z.boolean()"
  | .date => "z.date()"
  | .any => "z.any()"
  | .bigint => "z.bigint()"
  | .bytes => "z.instanceof(Buffer)"

/-- An expression that validates one value. -/
inductive BaseExpression
  /-- One of the given texts. -/
  | enumeration (values : List String)
  /-- A unique identifier, of the given version if there is one. -/
  | uuid (version : Option String)
  /-- A value of a basic type. -/
  | primitive (p : Primitive)
  /-- A text that is not empty. -/
  | nonemptyText
  deriving DecidableEq, Repr

/-- The written expression. -/
def BaseExpression.render : BaseExpression → String
  | .enumeration values =>
    "z.enum([" ++ ", ".intercalate (values.map fun v => "'" ++ v ++ "'") ++ "])"
  | .uuid none => "z.string().uuid()"
  | .uuid (some version) => "z.string().uuid(\x7b version: " ++ version ++ " \x7d)"
  | .primitive p => p.render
  | .nonemptyText => "z.string().min(1)"

/-- The expression for one value of a type. -/
def BaseExpression.ofType (type : String) (index : Index) : BaseExpression :=
  if index.isEnum type then .enumeration (index.enumValues type)
  else if type = "UUID" then .uuid index.uuidVersion
  else
    match Primitive.ofType? type with
    | some p => .primitive p
    | none => .nonemptyText

/-- An expression with the marks of the field it validates. -/
structure Expression where
  /-- The expression for one value. -/
  base : BaseExpression
  /-- Whether the field may be absent. -/
  isOptional : Bool := false
  /-- Whether the field holds a list of values. -/
  isList : Bool := false
  deriving DecidableEq, Repr

/-- The written expression. -/
def Expression.render (e : Expression) : String :=
  let one := e.base.render
  let many := if e.isList then "z.array(" ++ one ++ ")" else one
  if e.isOptional then many ++ ".optional().nullable()" else many

/-- The expression that validates a field of a type. -/
def Expression.ofType (type : String) (isOptional isList : Bool) (index : Index) : Expression where
  base := .ofType type index
  isOptional := isOptional
  isList := isList

end FeatureGen.Schema

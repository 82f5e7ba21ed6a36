import FeatureGen.Schema.Index
import FeatureGen.Schema.Settings
import FeatureGen.Text.Quoted
import FeatureGen.Text.Split

/-!
# Relations between models

A field refers to another model in two ways.  Its type may name a declared model, or it carries an
attribute `@relation(…)` that lists the fields which hold the keys and the keys they refer to.

`RelationAttribute.parse` reads the attribute.  It has at most one name and the two lists, and it
may have arguments that do not matter here.  A `RelationFault` says why an attribute cannot be read.
`relate` builds the relation of a field: the keys of the attribute count as they are written, and a
type that names a model without them gets keys by the naming conventions.
-/

namespace FeatureGen.Schema

open FeatureGen.Text

/-! ## Attributes -/

/-- The arguments of a relation attribute. -/
structure RelationAttribute where
  /-- The name of the relation. -/
  name : Option String := none
  /-- The fields that hold the keys. -/
  fields : List String := []
  /-- The keys that they refer to. -/
  references : List String := []
  deriving DecidableEq, Repr

/-- Whether the attribute lists its keys. -/
def RelationAttribute.hasKeys (a : RelationAttribute) : Bool := !a.fields.isEmpty && !a.references.isEmpty

/-- Why a relation attribute cannot be read. -/
inductive RelationFault
  /-- The parentheses, from the first on, do not close. -/
  | unbalanced (rest : String)
  /-- An argument is neither a name in front nor a keyword with a value. -/
  | unexpectedArgument (argument : String)
  /-- The value of a key list is not in brackets. -/
  | notBracketed (key value : String)
  /-- A key list has no keys. -/
  | noKeys (key : String)
  /-- One key list is given without the other. -/
  | oneSided
  deriving DecidableEq, Repr

/-- What is wrong, in words. -/
def RelationFault.message : RelationFault → String
  | .unbalanced rest => "Unbalanced parentheses in " ++ quoted rest
  | .unexpectedArgument argument => "Unexpected relation argument " ++ quoted argument
  | .notBracketed key value =>
    "'" ++ key ++ "' must be a bracketed list, got " ++ quoted value
  | .noKeys key => "'" ++ key ++ "' list is empty"
  | .oneSided => "'fields' and 'references' must be given together"

/-- The pieces of a text between commas that are in no brackets, parentheses or double quotes, with
`depth` of the former open and the piece so far in reverse. -/
def splitArgumentsFrom (depth : Int) (inString : Bool) (piece : List Char) :
    List Char → List (List Char)
  | [] => [trim piece.reverse]
  | c :: s =>
    if c = '"' then splitArgumentsFrom depth (!inString) (c :: piece) s
    else if inString then splitArgumentsFrom depth inString (c :: piece) s
    else if c = '[' || c = '(' then splitArgumentsFrom (depth + 1) inString (c :: piece) s
    else if c = ']' || c = ')' then splitArgumentsFrom (depth - 1) inString (c :: piece) s
    else if c = ',' && depth = 0 then trim piece.reverse :: splitArgumentsFrom depth inString [] s
    else splitArgumentsFrom depth inString (c :: piece) s

/-- The arguments in a text, without blanks around them; empty ones are left out. -/
def splitArguments (s : List Char) : List (List Char) :=
  (splitArgumentsFrom 0 false [] s).filter (!·.isEmpty)

/-- The text without quotes at its start. -/
def dropQuotes (s : List Char) : List Char := s.dropWhile isQuote

/-- The text without blanks, and then without quotes, at its ends. -/
def unquote (s : List Char) : List Char := (dropQuotes (dropQuotes (trim s)).reverse).reverse

/-- The keys in a bracketed list. -/
def keyList (key value : List Char) : Except RelationFault (List String) :=
  let value := trim value
  if value.head? = some '[' && value.getLast? = some ']' then
    let inner := (value.drop 1).dropLast
    match ((pieces ',' inner).map trim).filter (!·.isEmpty) with
    | [] => .error (.noKeys (String.ofList key))
    | keys => .ok (keys.map String.ofList)
  else .error (.notBracketed (String.ofList key) (String.ofList value))

/-- The keyword of an argument and its value. -/
def keyword? (argument : List Char) : Option (List Char × List Char) := do
  let (key, s) ← spanSome? isWord argument
  let value ← afterMark? ':' s
  return (key, trimStart value)

/-- What the arguments have given so far. -/
structure Arguments where
  /-- The name. -/
  name : List Char := []
  /-- The list `fields`, if it was given. -/
  fields : Option (List String) := none
  /-- The list `references`, if it was given. -/
  references : Option (List String) := none

/-- What the arguments give with one more, which may be a name without a keyword if it is the
`first`. -/
def Arguments.add (args : Arguments) (first : Bool) (argument : List Char) :
    Except RelationFault Arguments :=
  match keyword? argument with
  | none =>
    if first && argument.head? = some '"' then .ok { args with name := unquote argument }
    else .error (.unexpectedArgument (String.ofList argument))
  | some (key, value) =>
    if key = "name".toList then .ok { args with name := unquote value }
    else if key = "fields".toList then
      (keyList key value).map fun keys => { args with fields := some keys }
    else if key = "references".toList then
      (keyList key value).map fun keys => { args with references := some keys }
    else .ok args

/-- What all the arguments give together. -/
def Arguments.addAll (args : Arguments) (first : Bool) :
    List (List Char) → Except RelationFault Arguments
  | [] => .ok args
  | a :: rest =>
    match args.add first a with
    | .ok args => args.addAll false rest
    | .error fault => .error fault

/-- The attribute with the given arguments; of the two lists both are given or none. -/
def Arguments.toAttribute (args : Arguments) : Except RelationFault RelationAttribute :=
  if args.fields.isSome = args.references.isSome then
    .ok {
      name := if args.name.isEmpty then none else some (String.ofList args.name)
      fields := args.fields.getD []
      references := args.references.getD [] }
  else .error .oneSided

/-- The text after `@` and a word, where the word ends. -/
def afterTag? (tag : String) (s : List Char) : Option (List Char) :=
  match after? ('@' :: tag.toList) s with
  | some rest => if endsWord rest then some rest else none
  | none => none

/-- The first relation attribute in the attributes of a field, if there is one. -/
def RelationAttribute.parse (tail : List Char) : Except RelationFault (Option RelationAttribute) :=
  match search? (fun _ => afterTag? "relation") none tail with
  | none => .ok none
  | some rest =>
    if rest.head? = some '(' then
      match closeOffset? 0 false none rest with
      | none => .error (.unbalanced (String.ofList rest))
      | some n =>
        match Arguments.addAll {} true (splitArguments ((rest.take n).drop 1)) with
        | .ok args => args.toAttribute.map some
        | .error fault => .error fault
    else .ok (some {})

/-! ## Relations -/

/-- How many records stand on each side of a relation. -/
inductive Cardinality
  | oneToOne
  | oneToMany
  | manyToMany
  deriving DecidableEq, Repr

/-- The name of a cardinality. -/
def Cardinality.label : Cardinality → String
  | .oneToOne => "one-to-one"
  | .oneToMany => "one-to-many"
  | .manyToMany => "many-to-many"

/-- The cardinality with a name. -/
def Cardinality.ofLabel? : String → Option Cardinality
  | "one-to-one" => some .oneToOne
  | "one-to-many" => some .oneToMany
  | "many-to-many" => some .manyToMany
  | _ => none

/-- Whether the field of such a relation holds a list. -/
def Cardinality.isMany : Cardinality → Bool
  | .oneToOne => false
  | .oneToMany | .manyToMany => true

/-- The cardinality of a relation: several keys on a side make it many to many, and else a list
makes it one to many. -/
def cardinality (fields references : List String) (isList : Bool) : Cardinality :=
  if 1 < fields.length ∨ 1 < references.length then .manyToMany
  else if isList then .oneToMany
  else .oneToOne

/-- A relation of a field to a model. -/
structure Relation where
  /-- How many records stand on each side. -/
  cardinality : Cardinality
  /-- The model it leads to, empty if it is not known. -/
  model : String := ""
  /-- The fields that hold the keys. -/
  fields : List String := []
  /-- The keys that they refer to. -/
  references : List String := []
  /-- The name of the relation. -/
  name : Option String := none
  deriving DecidableEq, Repr

/-- The model that a foreign key is named after, if its name is longer than the suffix and ends with
it. -/
def modelOfKey? (key suffix : List Char) : Option (List Char) :=
  let stem := key.take (key.length - suffix.length)
  if suffix.isEmpty || stem.isEmpty || key != stem ++ suffix then none
  else some (upperFirst stem)

/-- The model that an annotated field leads to: its type if that is a model, else the name of the
relation, else the model that the first key is named after. -/
def target? (type : String) (a : RelationAttribute) (index : Index) (suffix : String) : Option String :=
  if index.isModel type then some type
  else
    match a.name.filter (!·.isEmpty) with
    | some name => some name
    | none =>
      a.fields.head?.bind fun key =>
        (modelOfKey? key.toList suffix.toList).map String.ofList

/-- The relation of a field, if it has one.  The attribute counts if it lists its keys; else the
type must name a model, and the keys follow the naming conventions. -/
def relate (field type : String) (isList : Bool) (attr : Option RelationAttribute) (index : Index)
    (settings : Settings) : Option Relation :=
  match attr.filter RelationAttribute.hasKeys with
  | some a =>
    some {
      cardinality := Schema.cardinality a.fields a.references isList
      model := (target? type a index settings.foreignKeySuffix).getD ""
      fields := a.fields
      references := a.references
      name := a.name }
  | none =>
    if index.isModel type then
      let fields := [field ++ settings.foreignKeySuffix]
      let references := [settings.primaryKey]
      some {
        cardinality := Schema.cardinality fields references isList
        model := type
        fields := fields
        references := references
        name := attr.bind RelationAttribute.name }
    else none

end FeatureGen.Schema

import FeatureGen.Schema.Block
import FeatureGen.Schema.Enumeration
import FeatureGen.Text.Digit

/-!
# The index of a schema

What the classification of one field needs to know of the rest of the schema: which names are
models, which are enumerations and with what values, and the version of unique identifiers that the
schema first asks for.
-/

namespace FeatureGen.Schema

open FeatureGen.Text

/-- Names and values declared anywhere in a schema. -/
structure Index where
  /-- The declared models. -/
  models : List String := []
  /-- The declared enumerations with their values. -/
  enums : List (String × List String) := []
  /-- The version of the first default that is a unique identifier. -/
  uuidVersion : Option String := none
  deriving DecidableEq, Repr

namespace Index

/-- Whether a type is a declared model. -/
def isModel (index : Index) (type : String) : Bool := index.models.contains type

/-- Whether a type is a declared enumeration. -/
def isEnum (index : Index) (type : String) : Bool := (index.enums.lookup type).isSome

/-- The values of an enumeration; a type that is none has no values. -/
def enumValues (index : Index) (type : String) : List String := (index.enums.lookup type).getD []

end Index

/-- The digits of a default `@default(uuid(…))` that starts here. -/
def uuidDefaultAt? (s : List Char) : Option (List Char) := do
  let s ← after? "@default(".toList s
  let s ← after? "uuid(".toList (trimStart s)
  let s := trimStart s
  let digits := s.takeWhile isDigit
  let s ← afterMark? ')' (s.dropWhile isDigit)
  let _ ← afterMark? ')' s
  return digits

/-- The version of the first default that is a unique identifier; one without a number means the
fourth. -/
def uuidVersion? (text : List Char) : Option String :=
  (search? (fun _ => uuidDefaultAt?) none text).map fun digits =>
    if digits.isEmpty then "4" else String.ofList digits

/-- The enumerations of a schema with their values, in its order. -/
def enumerations (text : List Char) : Except DigitFault (List (String × List String)) :=
  (enumBlocks text).mapM fun (name, body) =>
    (enumValues body).map fun values => (String.ofList name, values.map String.ofList)

/-- The index of a schema.  Of two enumerations with one name the first counts, but the values of
both have to be readable. -/
def Index.ofText (text : List Char) : Except DigitFault Index :=
  (enumerations text).map fun enums =>
    { models := (modelNames text).map String.ofList
      enums := firstsBy (·.1) [] enums
      uuidVersion := uuidVersion? text }

end FeatureGen.Schema

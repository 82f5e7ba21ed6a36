import FeatureGen.Json.Basic

/-!
# Validation

A JSON value is checked against a type, and all its faults are reported together.  A `Violation`
says what is wrong and where.  `Checked α` is a value of the type or the violations; `Checked.and`
applies one to another and keeps the violations of both.

Values may come from a JSON text or from a program, and a few messages differ with that.
-/

namespace FeatureGen.Validation

/-- Where a value comes from. -/
inductive Source
  /-- From a JSON text. -/
  | text
  /-- From a program. -/
  | program
  deriving DecidableEq, Repr

/-- A step from a value to one within it. -/
inductive Step
  /-- To a member of an object. -/
  | member (name : String)
  /-- To an item of an array. -/
  | item (index : Nat)
  deriving DecidableEq, Repr

/-- What is wrong with a value. -/
inductive Problem
  /-- A member that must be there is not. -/
  | missing
  /-- It is no string. -/
  | notString
  /-- It cannot be taken for a truth value. -/
  | notBool
  /-- It is a number or a text that names no truth value. -/
  | unreadableBool
  /-- It cannot be taken for a whole number. -/
  | notInt
  /-- It is a text that writes no whole number. -/
  | unreadableInt
  /-- It is a number or a text too long for a whole number. -/
  | oversizedInt
  /-- It is a number that is not whole. -/
  | fractional
  /-- It is infinite or no number. -/
  | notFinite
  /-- It is below zero. -/
  | negative
  /-- It is none of the given texts. -/
  | notAmong (texts : List String)
  /-- It is no list. -/
  | notList (source : Source)
  /-- It is no list, where the list is to have a fixed order. -/
  | notTuple (source : Source)
  /-- It is no path. -/
  | notPath
  /-- It is no object with the members of the named type. -/
  | notObject (source : Source) (typeName : String)
  /-- The text is no JSON. -/
  | notJson
  deriving DecidableEq, Repr

/-- The texts `'a', 'b' or 'c'`. -/
def alternatives : List String → String
  | [] => ""
  | [a] => "'" ++ a ++ "'"
  | [a, b] => "'" ++ a ++ "' or '" ++ b ++ "'"
  | a :: rest => "'" ++ a ++ "', " ++ alternatives rest

/-- The code of a problem. -/
def Problem.code : Problem → String
  | .missing => "missing"
  | .notString => "string_type"
  | .notBool => "bool_type"
  | .unreadableBool => "bool_parsing"
  | .notInt => "int_type"
  | .unreadableInt => "int_parsing"
  | .oversizedInt => "int_parsing_size"
  | .fractional => "int_from_float"
  | .notFinite => "finite_number"
  | .negative => "greater_than_equal"
  | .notAmong _ => "enum"
  | .notList _ => "list_type"
  | .notTuple _ => "tuple_type"
  | .notPath => "path_type"
  | .notObject _ _ => "model_type"
  | .notJson => "json_invalid"

/-- A problem in words; where the words of a reader of JSON would be needed there are none. -/
def Problem.message? : Problem → Option String
  | .missing => some "Field required"
  | .notString => some "Input should be a valid string"
  | .notBool => some "Input should be a valid boolean"
  | .unreadableBool => some "Input should be a valid boolean, unable to interpret input"
  | .notInt => some "Input should be a valid integer"
  | .unreadableInt =>
    some "Input should be a valid integer, unable to parse string as an integer"
  | .oversizedInt => some "Unable to parse input string as an integer, exceeded maximum size"
  | .fractional => some "Input should be a valid integer, got a number with a fractional part"
  | .notFinite => some "Input should be a finite number"
  | .negative => some "Input should be greater than or equal to 0"
  | .notAmong texts => some ("Input should be " ++ alternatives texts)
  | .notList .text => some "Input should be a valid array"
  | .notList .program => some "Input should be a valid list"
  | .notTuple .text => some "Input should be a valid array"
  | .notTuple .program => some "Input should be a valid tuple"
  | .notPath => some "Input is not a valid path for <class 'pathlib.Path'>"
  | .notObject .text _ => some "Input should be an object"
  | .notObject .program typeName =>
    some ("Input should be a valid dictionary or instance of " ++ typeName)
  | .notJson => none

/-- What is wrong, and where. -/
structure Violation where
  /-- What is wrong. -/
  problem : Problem
  /-- The steps from the checked value to the one that is wrong. -/
  location : List Step := []
  deriving DecidableEq, Repr

/-- The violations in a value that could not be taken for one of the type named by `title`. -/
structure Report where
  /-- The name of the type. -/
  title : String
  /-- The violations, in the order of the members of the type. -/
  violations : List Violation
  deriving DecidableEq, Repr

/-- A step in words. -/
def Step.label : Step → String
  | .member name => name
  | .item index => toString index

/-- What is wrong, and where, in words. -/
def Violation.message (v : Violation) : String :=
  ".".intercalate (v.location.map Step.label) ++ ": " ++
    v.problem.message?.getD "Input should be valid JSON"

/-- All violations in words, after the name of the type. -/
def Report.message (r : Report) : String :=
  "\n".intercalate (r.title :: r.violations.map Violation.message)

/-- A value of a type, or what is wrong. -/
abbrev Checked (α : Type) := Except (List Violation) α

namespace Checked

variable {α β : Type}

/-- A single problem. -/
def fail (problem : Problem) : Checked α := .error [{ problem }]

/-- A function to be applied to checked values. -/
def of (f : α) : Checked α := .ok f

/-- A function applied to a value, with the violations of both. -/
def and (f : Checked (α → β)) (x : Checked α) : Checked β :=
  match f, x with
  | .ok f, .ok a => .ok (f a)
  | .ok _, .error vs => .error vs
  | .error us, .ok _ => .error us
  | .error us, .error vs => .error (us ++ vs)

/-- The violations seen from one step further out. -/
def under (step : Step) (x : Checked α) : Checked α :=
  x.mapError (·.map fun v => { v with location := step :: v.location })

/-- The checked items of a list, each in its place from `index` on. -/
def items (check : Json → Checked α) (index : Nat) : List Json → Checked (List α)
  | [] => .ok []
  | v :: vs =>
    and ((under (.item index) (check v)).map List.cons) (items check (index + 1) vs)

/-- A member of an object that must be there. -/
def required (members : List (String × Json)) (name : String) (check : Json → Checked α) :
    Checked α :=
  under (.member name) <|
    match members.lookup name with
    | some v => check v
    | none => fail .missing

/-- A member of an object that has a default. -/
def optional (members : List (String × Json)) (name : String) (default : α)
    (check : Json → Checked α) : Checked α :=
  match members.lookup name with
  | some v => under (.member name) (check v)
  | none => .ok default

end Checked

end FeatureGen.Validation

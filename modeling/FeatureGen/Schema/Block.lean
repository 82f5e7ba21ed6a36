import FeatureGen.Distinct
import FeatureGen.Text.Literal

/-!
# Blocks of a schema

A schema declares a model by `model Name { … }` and an enumeration by `enum Name { … }`.  Blocks are
found by their headers wherever these stand in the text; the document as a whole is not checked.  A
block ends at the first closing brace, so a brace inside a default value ends it early.

Models are looked up without regard to case, in `hasModel` and `modelBody?`; they are listed, and
enumerations are collected, by the keyword in lowercase.
-/

namespace FeatureGen.Schema

open FeatureGen.Text

/-- The text up to the first closing brace, and the text after it. -/
def untilClosed? (s : List Char) : Option (List Char × List Char) :=
  match s.dropWhile (· != '\x7d') with
  | [] => none
  | _ :: rest => some (s.takeWhile (· != '\x7d'), rest)

/-! ## Looking a model up -/

/-- The text after the brace of a header, where blanks, a given name and the brace must follow. -/
def afterName? (name : List Char) : List Char → Option (List Char)
  | [] => none
  | c :: s =>
    if isBlank c then
      match (afterUpToCase? name s).bind (afterMark? '\x7b') with
      | some rest => some rest
      | none => afterName? name s
    else none

/-- The text after the brace of a header of a given model that starts here. -/
def headerAt? (name : List Char) (before : Option Char) (s : List Char) : Option (List Char) :=
  if startsWord before then (afterUpToCase? "model".toList s).bind (afterName? name) else none

/-- The body of a closed block of a given model that starts here. -/
def blockAt? (name : List Char) (before : Option Char) (s : List Char) : Option (List Char) := do
  let rest ← headerAt? name before s
  let (body, _) ← untilClosed? rest
  return body

/-- Whether the text has a header of a model with this name. -/
def hasModel (text name : List Char) : Bool :=
  !name.isEmpty && (search? (headerAt? name) none text).isSome

/-- The body of the first closed block of a model with this name. -/
def modelBody? (text name : List Char) : Option (List Char) :=
  if name.isEmpty then none else search? (blockAt? name) none text

/-! ## Listing blocks -/

/-- The name in a header with this keyword that starts here, and the text after its brace. -/
def namedHeaderAt? (keyword : List Char) (before : Option Char) (s : List Char) :
    Option (List Char × List Char) :=
  if startsWord before then do
    let s ← after? keyword s
    let s ← afterBlanks? s
    let (name, s) := spanWord s
    if name.isEmpty then none
    else
      let rest ← afterMark? '\x7b' s
      return (name, rest)
  else none

/-- The names of the declared models, in the order of their first headers. -/
def modelNames (text : List Char) : List (List Char) :=
  firsts ((searchAll (namedHeaderAt? "model".toList) none text).map (·.1))

/-- A closed block of an enumeration that starts here: its name, its body and the text after it. -/
def enumBlockAt? (before : Option Char) (s : List Char) :
    Option (List Char × List Char × List Char) := do
  let (name, rest) ← namedHeaderAt? "enum".toList before s
  let (body, rest) ← untilClosed? rest
  return (name, body, rest)

/-- The closed blocks of enumerations, each with its name and body.  The first `skip` characters
belong to a block that was found before. -/
def enumBlocksFrom (skip : Nat) (before : Option Char) :
    List Char → List (List Char × List Char)
  | [] => []
  | c :: s =>
    match skip with
    | k + 1 => enumBlocksFrom k (some c) s
    | 0 =>
      match enumBlockAt? before (c :: s) with
      | some (name, body, rest) =>
        (name, body) :: enumBlocksFrom (s.length - rest.length) (some c) s
      | none => enumBlocksFrom 0 (some c) s

/-- The closed blocks of enumerations in a text, none inside another. -/
def enumBlocks (text : List Char) : List (List Char × List Char) := enumBlocksFrom 0 none text

end FeatureGen.Schema

import FeatureGen.Number.Binary64

/-!
# JSON values

A JSON value.  Whole numbers are kept exactly and other numbers as binary floating point, because
the two are told apart when a value is checked against a type.  The members of an object keep their
order.
-/

namespace FeatureGen

open FeatureGen.Number (Binary64)

/-- A JSON value. -/
inductive Json
  | null
  | bool (b : Bool)
  | int (n : Int)
  | real (x : Binary64)
  | str (s : String)
  | arr (items : List Json)
  | obj (members : List (String × Json))
  deriving Repr, Inhabited

namespace Json

/-- The members of an object, each name once: it stands where it first occurs and has the value it
was given last. -/
def lastWins (members : List (String × Json)) : List (String × Json) :=
  members.foldl (fun kept (name, value) =>
    if kept.any (·.1 == name) then
      kept.map fun (n, v) => if n == name then (n, value) else (n, v)
    else kept ++ [(name, value)]) []

/-- The value of a member of an object. -/
def get? (name : String) : Json → Option Json
  | .obj members => members.lookup name
  | _ => none

/-- A list of strings as a value. -/
def ofStrings (items : List String) : Json := .arr (items.map .str)

/-- A string that may be absent as a value. -/
def ofString? : Option String → Json
  | some s => .str s
  | none => .null

/-- A count as a value. -/
def ofNat (n : Nat) : Json := .int n

end Json

end FeatureGen

/-!
# Generated code

The TypeScript that is generated, as data.  A `Module` is a list of statements, and `Module.render`
is the only place where they become text.  The bodies of larger values are nested blocks of `Code`,
which are indented by two blanks a level.

`Module.connections` lists what a module takes from others, `Module.exports` the names that it
declares for others.
-/

namespace FeatureGen.Feature

/-- Lines within a value. -/
inductive Code
  /-- A line without text. -/
  | blank
  /-- A line. -/
  | line (text : String)
  /-- A member of an object: `key: value,`. -/
  | entry (key value : String)
  /-- Lines between an opening and a closing one, indented by a level. -/
  | block (opening : String) (body : List Code) (closing : String)

/-- The blanks before a line. -/
def indentation (level : Nat) : String := String.ofList (List.replicate (2 * level) ' ')

mutual

/-- The lines of a piece of code. -/
def Code.lines (level : Nat) : Code → List String
  | .blank => [""]
  | .line text => [indentation level ++ text]
  | .entry key value => [indentation level ++ key ++ ": " ++ value ++ ","]
  | .block opening body closing =>
    (indentation level ++ opening) :: linesOf (level + 1) body ++ [indentation level ++ closing]

/-- The lines of several pieces of code. -/
def linesOf (level : Nat) : List Code → List String
  | [] => []
  | c :: cs => c.lines level ++ linesOf level cs

end

/-- A member of a declared interface. -/
structure Member where
  /-- A comment on the line before it. -/
  note : Option String := none
  /-- The name. -/
  name : String
  /-- Whether it may be absent. -/
  isOptional : Bool := false
  /-- The type. -/
  type : String
  deriving DecidableEq, Repr

/-- The lines of a member. -/
def Member.lines (m : Member) : List String :=
  (m.note.map fun note => "  // " ++ note).toList ++
    ["  " ++ m.name ++ (if m.isOptional then "?" else "") ++ ": " ++ m.type]

/-- A statement of a module. -/
inductive Statement
  /-- An empty line. -/
  | blank
  /-- A comment in front of a declaration. -/
  | doc (text : String)
  /-- `import { … } from '…'`. -/
  | importNames (names : List String) (specifier : String)
  /-- `import type { … } from '…'`. -/
  | importTypes (names : List String) (specifier : String)
  /-- `export * from '…'`. -/
  | exportAll (specifier : String)
  /-- `export { … } from '…'`. -/
  | exportNames (names : List String) (specifier : String)
  /-- `export const name = callee({ … })`. -/
  | constant (name callee : String) (body : List Code)
  /-- `export interface name { … }`. -/
  | interface (name : String) (members : List Member)
  /-- `export type name = definition`. -/
  | typeAlias (name definition : String)

/-- Names in braces. -/
def braced (names : List String) : String := "\x7b " ++ ", ".intercalate names ++ " \x7d"

/-- A specifier in quotes, as it ends an import. -/
def source (specifier : String) : String := " from '" ++ specifier ++ "'"

/-- The lines of a statement. -/
def Statement.lines : Statement → List String
  | .blank => [""]
  | .doc text => ["/**", " * " ++ text, " */"]
  | .importNames names specifier => ["import " ++ braced names ++ source specifier]
  | .importTypes names specifier => ["import type " ++ braced names ++ source specifier]
  | .exportAll specifier => ["export *" ++ source specifier]
  | .exportNames names specifier => ["export " ++ braced names ++ source specifier]
  | .constant name callee body =>
    ("export const " ++ name ++ " = " ++ callee ++ "(\x7b") :: linesOf 1 body ++ ["\x7d)"]
  | .interface name members =>
    ("export interface " ++ name ++ " \x7b") :: members.flatMap Member.lines ++ ["\x7d"]
  | .typeAlias name definition => ["export type " ++ name ++ " = " ++ definition]

/-- The statements of a file. -/
abbrev Module := List Statement

namespace Module

/-- The text of a module: each line ends with a line feed. -/
def render (m : Module) : String := String.join ((m.flatMap Statement.lines).map (· ++ "\n"))

/-- What a statement takes from another module: the names, if they are listed, and where from. -/
def connection? : Statement → Option (List String × String)
  | .importNames names specifier => some (names, specifier)
  | .importTypes names specifier => some (names, specifier)
  | .exportAll specifier => some ([], specifier)
  | .exportNames names specifier => some (names, specifier)
  | _ => none

/-- The connections of a module to others. -/
def connections (m : Module) : List (List String × String) := m.filterMap connection?

/-- The name that a statement declares for other modules. -/
def exported? : Statement → Option String
  | .constant name _ _ => some name
  | .interface name _ => some name
  | .typeAlias name _ => some name
  | _ => none

/-- The names that a module declares for others. -/
def exports (m : Module) : List String := m.filterMap exported?

end Module

end FeatureGen.Feature

import FeatureGen.Feature.Basic

/-!
# The procedure of a feature

The procedure gives every action of the controller its access to the database.  What it writes when
an entity is created are the fields that a client gives.
-/

namespace FeatureGen.Feature

namespace ProcedureFile

variable (f : Feature)

/-- The type of the primary key: that of the first field of its name, managed ones first. -/
def keyType : String :=
  match (f.managed ++ f.fields).find? (·.name == f.primaryKey) with
  | some key => typeName key.type false
  | none => "string"

/-- A call on the table of the entity. -/
def call (method : String) (arguments : List Code) : Code :=
  .block ("return context.providers.database." ++ f.entity ++ "." ++ method ++ "(\x7b") arguments
    "\x7d)"

/-- An operation on the entity. -/
def operation (name parameters : String) (body : List Code) : Code :=
  .block (name ++ ": async (" ++ parameters ++ ") => \x7b") body "\x7d,"

/-- The parameter that names one entity. -/
def keyParameter : String :=
  "params: \x7b " ++ f.primaryKey ++ ": " ++ keyType f ++ " \x7d"

/-- The condition that picks one entity. -/
def whereKey : Code :=
  .entry "where" ("\x7b " ++ f.primaryKey ++ ": params." ++ f.primaryKey ++ " \x7d")

/-- Reads a page of entities. -/
def findMany : Code :=
  operation "findMany" "query: \x7b page?: number; limit?: number \x7d"
    [call f "findMany"
      [.entry "skip" "query.page && query.limit ? (query.page - 1) * query.limit : undefined",
       .entry "take" "query.limit"]]

/-- Reads one entity. -/
def findOne : Code := operation "findOne" (keyParameter f) [call f "findUnique" [whereKey f]]

/-- The members of a new entity. -/
def dataEntries : List Code := f.inputFields.map fun i => .entry i.name ("input." ++ i.name)

/-- Creates an entity. -/
def create : Code :=
  operation "create" ("input: " ++ f.createType)
    [call f "create" [.block "data: \x7b" (dataEntries f) "\x7d,"]]

/-- Updates an entity. -/
def update : Code :=
  operation "update" (keyParameter f ++ " & " ++ f.updateType)
    [.line ("const \x7b " ++ f.primaryKey ++ ", ...data \x7d = params"),
     call f "update" [.entry "where" ("\x7b " ++ f.primaryKey ++ " \x7d"), .line "data,"]]

/-- Deletes an entity. -/
def delete : Code := operation "delete" (keyParameter f) [call f "delete" [whereKey f]]

end ProcedureFile

open ProcedureFile in
/-- The procedure of a feature. -/
def procedureFile (f : Feature) : Module :=
  [.importNames ["igniter"] "@/igniter",
   .importTypes [f.createType, f.updateType] ("../" ++ f.interfaceSpecifier),
   .blank,
   .constant f.procedureConstant "igniter.procedure"
     [.entry "name" ("'" ++ f.procedureConstant ++ "'"),
      .block "handler: async (_, \x7b context \x7d) => \x7b"
        [.block "return \x7b"
          [.block (f.entity ++ ": \x7b")
            [findMany f, .blank, findOne f, .blank, create f, .blank, update f, .blank, delete f]
            "\x7d,"]
          "\x7d"]
        "\x7d,"]]

end FeatureGen.Feature

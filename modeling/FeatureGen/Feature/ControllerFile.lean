import FeatureGen.Feature.Basic

/-!
# The controller of a feature

The controller answers requests.  It has two queries, for many entities and for one, and three
mutations, which create, update and delete an entity.  Every action runs the procedure of the
feature.
-/

namespace FeatureGen.Feature

/-- The handler of an action. -/
def handler (parameters : String) (body : List String) : Code :=
  .block ("handler: async (" ++ parameters ++ ") => \x7b") (body.map .line) "\x7d,"

/-- An action with the lines of its parts. -/
def action (name kind : String) (parts : List Code) : Code :=
  .block (name ++ ": igniter." ++ kind ++ "(\x7b") parts "\x7d),"

/-- The parts that say how an action is called. -/
def route (method path : String) : List Code :=
  [.entry "method" ("'" ++ method ++ "'"), .entry "path" path]

namespace ControllerFile

variable (f : Feature)

/-- The path of one entity. -/
def keyPath : String := "'/:" ++ f.primaryKey ++ "' as const"

/-- The procedure that every action runs. -/
def uses : Code := .entry "use" ("[" ++ f.procedureConstant ++ "()]")

/-- A handler that returns what a call on the entity gives. -/
def returning (parameters call : String) : Code :=
  handler parameters
    ["const result = await context." ++ f.entity ++ "." ++ call,
     "return response.success(result)"]

/-- The query for many entities. -/
def findMany : Code :=
  action "findMany" "query" <|
    route "GET" "'/'" ++
    [uses f,
     .block "query: z.object(\x7b"
       [.entry "page" "z.coerce.number().optional()",
        .entry "limit" "z.coerce.number().optional()"] "\x7d),",
     returning f "\x7b response, request, context \x7d" "findMany(request.query)"]

/-- The query for one entity. -/
def findOne : Code :=
  action "findOne" "query" <|
    route "GET" (keyPath f) ++
    [uses f, returning f "\x7b request, response, context \x7d" "findOne(request.params)"]

/-- The mutation that creates an entity. -/
def create : Code :=
  action "create" "mutation" <|
    route "POST" "'/'" ++
    [uses f, .entry "body" (f.entity ++ "Schema"),
     returning f "\x7b request, response, context \x7d" "create(request.body)"]

/-- The mutation that updates an entity. -/
def update : Code :=
  action "update" "mutation" <|
    route "PUT" (keyPath f) ++
    [uses f, .entry "body" (f.entity ++ "Schema.partial()"),
     returning f "\x7b request, response, context \x7d"
       "update(\x7b ...request.params, ...request.body \x7d)"]

/-- The mutation that deletes an entity. -/
def delete : Code :=
  action "delete" "mutation" <|
    route "DELETE" (keyPath f) ++
    [uses f,
     handler "\x7b request, response, context \x7d"
       ["await context." ++ f.entity ++ ".delete(request.params)",
        "return response.success(null)"]]

end ControllerFile

open ControllerFile in
/-- The controller of a feature. -/
def controllerFile (f : Feature) : Module :=
  [.importNames ["igniter"] "@/igniter",
   .importNames ["z"] "zod",
   .importNames [f.entity ++ "Schema"] ("../" ++ f.interfaceSpecifier),
   .importNames [f.procedureConstant] ("../procedures/" ++ f.procedureSpecifier),
   .blank,
   .constant f.controllerConstant "igniter.controller"
     [.entry "path" ("'/" ++ kebabCase f.name ++ "'"),
      .block "actions: \x7b"
        [findMany f, .blank, findOne f, .blank, create f, .blank, update f, .blank, delete f]
        "\x7d,"]]

end FeatureGen.Feature

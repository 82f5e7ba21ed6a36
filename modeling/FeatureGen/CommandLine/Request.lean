import FeatureGen.CommandLine.Reading

/-!
# Requests

What a user wants done.  A request is read off a command line that leads to a complete command.
-/

namespace FeatureGen.CommandLine

/-- What is to be done. -/
inductive Task
  /-- Generate one feature, with fields for the case that its model is not declared. -/
  | generate (name : String) (fallback : List String)
  /-- Generate the features of all models, or of those that are chosen. -/
  | generateAll (chosen : List String)
  /-- Analyse the project. -/
  | analyze (json : Bool)
  /-- List the models. -/
  | models
  /-- List the fields of a model. -/
  | fields (model : String) (json : Bool)
  deriving DecidableEq, Repr

/-- Whether the project is to be analysed. -/
def Task.analyzes : Task → Bool
  | .analyze _ => true
  | _ => false

/-- What a user wants done, and how. -/
structure Request where
  /-- What is to be done. -/
  task : Task
  /-- Another directory of the project. -/
  basePath : Option String := none
  /-- The configuration file; without one the environment sets the configuration. -/
  configPath : Option String := none
  /-- Whether diagnostics are printed. -/
  verbose : Bool := false
  deriving DecidableEq, Repr

/-- The task of a reading, if its command is complete. -/
def Reading.task? (r : Reading) : Option Task :=
  match r.command with
  | .root | .generate => none
  | .feature =>
    match r.textOf? .name with
    | some name => some (.generate name ((r.argumentsOf? .fields).getD []))
    | none => some (.generateAll ((r.argumentsOf? .models).getD []))
  | .analyze => some (.analyze (r.has .json))
  | .models => some .models
  | .fields => some (.fields r.operand (r.has .json))

/-- The request that a command line makes. -/
def Request.read (texts : List String) : Except Stop Request :=
  match readAll texts with
  | .error stop => .error stop
  | .ok r =>
    match r.task? with
    | none => .error (.help r.command)
    | some task => .ok {
        task := task
        basePath := r.textOf? .basePath
        configPath := r.textOf? .config
        verbose := r.has .verbose }

end FeatureGen.CommandLine

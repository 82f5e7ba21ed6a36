/-!
# Commands and their flags

The command line names a command by one or two words, such as `models` or `generate feature`.  Every
command has flags, which may stand anywhere after it and before the next word of the command, and
most commands need one more word, the operand.

`Command.subcommand?` finds the command that a word leads to.  It goes down a level each time, so
that a command line is read in a bounded number of steps (`height_lt_of_subcommand?`).
-/

namespace FeatureGen.CommandLine

/-! ## Flags -/

/-- How many arguments a flag takes. -/
inductive Arity
  /-- None. -/
  | none
  /-- Exactly one. -/
  | one
  /-- One or more. -/
  | several
  deriving DecidableEq, Repr

/-- What a flag asks for. -/
inductive Flag
  /-- To show the help of a command. -/
  | help
  /-- To show the version. -/
  | version
  /-- Another directory of the project. -/
  | basePath
  /-- A configuration file. -/
  | config
  /-- To tell what happens on the way. -/
  | verbose
  /-- The name of a feature. -/
  | name
  /-- The fields of a feature whose model is not declared. -/
  | fields
  /-- The models to generate features for. -/
  | models
  /-- To show the result as JSON. -/
  | json
  deriving DecidableEq, Repr

namespace Flag

/-- The names of a flag. -/
def names : Flag → List String
  | .help => ["-h", "--help"]
  | .version => ["--version"]
  | .basePath => ["--base-path"]
  | .config => ["--config"]
  | .verbose => ["--verbose", "-v"]
  | .name => ["--name", "-n"]
  | .fields => ["--fields", "-f"]
  | .models => ["--models", "-m"]
  | .json => ["--json"]

/-- How many arguments a flag takes. -/
def arity : Flag → Arity
  | .help | .version | .verbose | .json => .none
  | .basePath | .config | .name => .one
  | .fields | .models => .several

end Flag

/-! ## Commands -/

/-- A word that a command needs. -/
inductive Operand
  /-- The first word of a command. -/
  | command
  /-- What is to be generated. -/
  | target
  /-- The name of a model. -/
  | model
  deriving DecidableEq, Repr

/-- The name of an operand in messages. -/
def Operand.label : Operand → String
  | .command => "command"
  | .target => "target"
  | .model => "model"

/-- A command, or the start of one. -/
inductive Command
  /-- No word so far. -/
  | root
  /-- Generate something. -/
  | generate
  /-- Generate features. -/
  | feature
  /-- Analyse the project. -/
  | analyze
  /-- List the models. -/
  | models
  /-- List the fields of a model. -/
  | fields
  deriving DecidableEq, Repr

namespace Command

/-- The words of a command after the name of the program. -/
def program : Command → String
  | .root => "igniter"
  | .generate => "igniter generate"
  | .feature => "igniter generate feature"
  | .analyze => "igniter analyze"
  | .models => "igniter models"
  | .fields => "igniter fields"

/-- The flags of a command. -/
def flags : Command → List Flag
  | .root => [.help, .version, .basePath, .config, .verbose]
  | .generate => [.help]
  | .feature => [.help, .name, .fields, .models]
  | .analyze => [.help, .json]
  | .models => [.help]
  | .fields => [.help, .json]

/-- The word that a command needs. -/
def operand? : Command → Option Operand
  | .root => some .command
  | .generate => some .target
  | .fields => some .model
  | _ => none

/-- The words that lead on from a command, each with the command it leads to. -/
def subcommands : Command → List (String × Command)
  | .root =>
    [("generate", .generate), ("g", .generate), ("analyze", .analyze), ("models", .models),
      ("fields", .fields)]
  | .generate => [("feature", .feature)]
  | _ => []

/-- The command that a word leads to. -/
def subcommand? (c : Command) (word : String) : Option Command := c.subcommands.lookup word

/-- The most words that may follow a command to complete it. -/
def height : Command → Nat
  | .root => 2
  | .generate => 1
  | _ => 0

theorem height_lt_of_subcommand? {c d : Command} {word : String}
    (h : c.subcommand? word = some d) : d.height < c.height := by
  have key : ∀ (l : List (String × Command)), l.lookup word = some d → ∃ p ∈ l, p.2 = d := by
    intro l
    induction l with
    | nil => simp
    | cons p rest ih =>
      intro hl
      rw [List.lookup_cons] at hl
      split at hl
      · exact ⟨p, by simp, by simpa using hl⟩
      · obtain ⟨q, hq, rfl⟩ := ih hl
        exact ⟨q, by simp [hq], rfl⟩
  obtain ⟨p, hp, rfl⟩ := key c.subcommands h
  cases c <;> simp [subcommands] at hp
  · rcases hp with rfl | rfl | rfl | rfl | rfl <;> decide
  · subst hp
    decide

/-- The flags of a command by their names, in order. -/
def flagNames (c : Command) : List (String × Flag) :=
  c.flags.flatMap fun f => f.names.map fun name => (name, f)

/-- The flag of a name. -/
def flag? (c : Command) (name : String) : Option Flag := c.flagNames.lookup name

end Command

end FeatureGen.CommandLine

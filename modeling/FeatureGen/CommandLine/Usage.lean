import FeatureGen.CommandLine.Command

/-!
# Usage

For each command a short text says how it is used, and a longer one, the help, explains its operands
and flags.
-/

namespace FeatureGen.CommandLine

/-- The version of the program. -/
def versionText : String := "igniter 0.1.0"

/-- Several lines. -/
def linesText (lines : List String) : String := String.join (lines.map (· ++ "\n"))

namespace Command

/-- How a command is used. -/
def usage : Command → String
  | .root => linesText
    ["usage: igniter [-h] [--version] [--base-path BASE_PATH] [--config CONFIG]",
      "               [--verbose]",
      "               \x7bgenerate,g,analyze,models,fields\x7d ..."]
  | .generate => linesText ["usage: igniter generate [-h] \x7bfeature\x7d ..."]
  | .feature => linesText
    ["usage: igniter generate feature [-h] [--name NAME]",
      "                                [--fields FIELDS [FIELDS ...]]",
      "                                [--models MODELS [MODELS ...]]"]
  | .analyze => linesText ["usage: igniter analyze [-h] [--json]"]
  | .models => linesText ["usage: igniter models [-h]"]
  | .fields => linesText ["usage: igniter fields [-h] [--json] model"]

/-- The parts of the help below the usage, each a list of lines. -/
def explanation : Command → List (List String)
  | .root =>
    [["Feature-first code generator driven by your Prisma schema"],
      ["positional arguments:",
        "  \x7bgenerate,g,analyze,models,fields\x7d",
        "    generate (g)        Generate code",
        "    analyze             Analyze your project",
        "    models              List schema models",
        "    fields              Show the compiled fields of a model"],
      ["options:",
        "  -h, --help            show this help message and exit",
        "  --version             show program's version number and exit",
        "  --base-path BASE_PATH",
        "                        Project root (default: current directory)",
        "  --config CONFIG       Path to an igniter.json config file",
        "  --verbose, -v         Print parser diagnostics to stderr"],
      ["Examples:",
        "  igniter generate feature --name Post",
        "  igniter generate feature --name Note --fields title:string body:string",
        "  igniter analyze --json"]]
  | .generate =>
    [["positional arguments:",
        "  \x7bfeature\x7d",
        "    feature   Generate a feature from a schema model"],
      ["options:",
        "  -h, --help  show this help message and exit"]]
  | .feature =>
    [["options:",
        "  -h, --help            show this help message and exit",
        "  --name NAME, -n NAME  Feature / model name",
        "  --fields FIELDS [FIELDS ...], -f FIELDS [FIELDS ...]",
        "                        Fallback fields (format: name:type) when the model is",
        "                        not in the schema",
        "  --models MODELS [MODELS ...], -m MODELS [MODELS ...]",
        "                        Without --name: only generate these models"]]
  | .analyze =>
    [["options:",
        "  -h, --help  show this help message and exit",
        "  --json      Print the report as JSON"]]
  | .models =>
    [["options:",
        "  -h, --help  show this help message and exit"]]
  | .fields =>
    [["positional arguments:",
        "  model       Model name"],
      ["options:",
        "  -h, --help  show this help message and exit",
        "  --json      Print the fields as JSON"]]

/-- The help of a command. -/
def help (c : Command) : String :=
  "\n".intercalate (c.usage :: c.explanation.map linesText)

end Command

end FeatureGen.CommandLine

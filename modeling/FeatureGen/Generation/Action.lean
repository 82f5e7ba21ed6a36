import FeatureGen.Project.Basic

/-!
# Actions on a project

Generation is a list of actions.  An action writes one file, or makes sure that a directory is
there.  What is written is a text, or the copy of a template from a directory of the user's own.

`perform` runs one action and `performAll` runs a list of them up to the first fault.  Both give the
project as it is afterwards, also with a fault.
-/

namespace FeatureGen.Generation

/-- What is written to a file. -/
inductive Content
  /-- A text. -/
  | text (s : String)
  /-- The text of a template below a directory. -/
  | template (directory : Path) (name : String)

/-- A single action. -/
inductive Action
  /-- Writes a file and makes the directories it is in. -/
  | write (path : Path) (content : Content)
  /-- Makes a directory and those it is in. -/
  | makeDirectories (path : Path)

/-- Why an action fails. -/
inductive ActionFault
  /-- A file cannot be written or read. -/
  | file (f : FileFault)
  /-- There is no template of this name below the directory. -/
  | noTemplate (directory : Path) (name : String)
  /-- The octets of a template encode no text. -/
  | encoding (f : Text.Utf8Fault)
  deriving DecidableEq

/-- What is wrong, in words. -/
def ActionFault.message : ActionFault → String
  | .file f => f.message
  | .noTemplate directory name =>
    Text.quoted name ++ " not found in search path: " ++ Text.quoted directory.toString
  | .encoding f => encodingMessage f

/-- Whether a fault is one of the feature that is generated.  A path that cannot be and a template
that is no text are faults of the whole run. -/
def ActionFault.isLocal : ActionFault → Bool
  | .file f => f.problem != .nullCharacter
  | .noTemplate _ _ => true
  | .encoding _ => false

/-- The text to write. -/
def Content.resolve (p : Project) : Content → Except ActionFault String
  | .text s => .ok s
  | .template directory name =>
    let path := directory / name
    match p.isFile path with
    | .ok true =>
      match p.readText path with
      | .ok s => .ok s
      | .error (.file f) => .error (.file f)
      | .error (.encoding f) => .error (.encoding f)
    | _ => .error (.noTemplate directory name)

/-- Runs an action. -/
def perform (p : Project) : Action → Project × Option ActionFault
  | .write path content =>
    match content.resolve p with
    | .error fault => (p, some fault)
    | .ok s =>
      let (q, fault?) := p.writeFile path s.toByteArray
      (q, fault?.map .file)
  | .makeDirectories path =>
    let (q, fault?) := p.ensureDirectories path
    (q, fault?.map .file)

/-- Runs actions up to the first fault. -/
def performAll (p : Project) : List Action → Project × Option ActionFault
  | [] => (p, none)
  | a :: rest =>
    match perform p a with
    | (q, none) => performAll q rest
    | (q, some fault) => (q, some fault)

end FeatureGen.Generation

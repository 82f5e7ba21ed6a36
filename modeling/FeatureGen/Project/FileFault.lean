import FeatureGen.Project.Path
import FeatureGen.Text.Quoted
import FeatureGen.Text.Utf8

/-!
# Faults of files

Why a file cannot be read or written.  The text of a fault names the path that was asked for.
-/

namespace FeatureGen

/-- What is wrong with a path. -/
inductive FileProblem
  /-- Nothing is there, or a directory on the way is missing. -/
  | notFound
  /-- Something is there already. -/
  | alreadyExists
  /-- A file stands where a directory is needed. -/
  | notDirectory
  /-- A directory stands where a file is needed. -/
  | isDirectory
  /-- A name or the whole path is too long. -/
  | nameTooLong
  /-- The path holds a null character. -/
  | nullCharacter
  deriving DecidableEq, Repr

/-- The number of a problem and its name. -/
def FileProblem.label : FileProblem → String
  | .notFound => "[Errno 2] No such file or directory"
  | .alreadyExists => "[Errno 17] File exists"
  | .notDirectory => "[Errno 20] Not a directory"
  | .isDirectory => "[Errno 21] Is a directory"
  | .nameTooLong => "[Errno 36] File name too long"
  | .nullCharacter => "embedded null byte"

/-- What is wrong with a path, and with which. -/
structure FileFault where
  /-- What is wrong. -/
  problem : FileProblem
  /-- The path that was asked for. -/
  path : Path
  deriving DecidableEq

/-- What is wrong, in words. -/
def FileFault.message (f : FileFault) : String :=
  match f.problem with
  | .nullCharacter => f.problem.label
  | _ => f.problem.label ++ ": " ++ Text.quoted f.path.toString

/-- Why a text cannot be read. -/
inductive ReadFault
  /-- The file cannot be read. -/
  | file (f : FileFault)
  /-- Its octets encode no text. -/
  | encoding (f : Text.Utf8Fault)
  deriving DecidableEq

/-- A fault of UTF-8 in words. -/
def encodingMessage (f : Text.Utf8Fault) : String :=
  "'utf-8' codec can't decode " ++
    (if f.length = 1 then
      "byte 0x" ++ String.ofList (Text.hexDigits 2 f.octet.toNat) ++ " in position " ++
        toString f.position
    else
      "bytes in position " ++ toString f.position ++ "-" ++ toString (f.position + f.length - 1)) ++
    ": " ++ f.reason.message

/-- What is wrong, in words. -/
def ReadFault.message : ReadFault → String
  | .file f => f.message
  | .encoding f => encodingMessage f

end FeatureGen

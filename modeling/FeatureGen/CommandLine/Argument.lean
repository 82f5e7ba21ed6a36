import FeatureGen.CommandLine.Misuse
import FeatureGen.Text.Digit
import FeatureGen.Text.Literal

/-!
# Arguments

Each argument of a command is a word or names a flag.  A flag is named in full, or by the start of
one of its long names if no other name starts so.  An argument for the flag may be attached: after
an equals sign, or right after a short name.

An argument that starts with a hyphen is still a word if it is a single hyphen or if it names no
flag and is a negative number or holds a blank.  Behind the separator `--` there are only words.
-/

namespace FeatureGen.CommandLine

open FeatureGen.Text

/-- An argument of a command. -/
inductive Argument
  /-- A word. -/
  | word (text : String)
  /-- The separator before words. -/
  | separator
  /-- A flag, with what is attached to its name. -/
  | flag (text : String) (flag : Flag) (attached : List Char)
  /-- Something like a flag that the command does not have. -/
  | unknown (text : String)
  deriving DecidableEq, Repr

namespace Argument

/-- The separator. -/
def separatorText : String := "--"

/-- An argument as it was given. -/
def text : Argument → String
  | .word text => text
  | .separator => separatorText
  | .flag text _ _ => text
  | .unknown text => text

/-- A text without a line feed at its end. -/
def withoutFinalFeed (s : List Char) : List Char :=
  if s.getLast? = some '\n' then s.dropLast else s

/-- Whether a text after a hyphen writes a number, which may start with a point. -/
def isNumber (s : List Char) : Bool :=
  let s := withoutFinalFeed s
  match s.dropWhile isDigit with
  | [] => !s.isEmpty
  | '.' :: fraction => !fraction.isEmpty && fraction.all isDigit
  | _ => false

/-- The flags of a command that a text may name, by the names that it may stand for, each with what
is attached. -/
def candidates (c : Command) : List Char → List (String × Flag × List Char)
  | '-' :: '-' :: s =>
    let start := '-' :: '-' :: s.takeWhile (· != '=')
    let attached := s.dropWhile (· != '=')
    (c.flagNames.filter fun (name, _) => (after? start name.toList).isSome).map
      fun (name, f) => (name, f, attached)
  | '-' :: letter :: attached =>
    (c.flagNames.filter fun (name, _) => name.toList = ['-', letter]).map
      fun (name, f) => (name, f, attached)
  | _ => []

/-- The flag of which a text before an equals sign is the name, with the sign and what follows. -/
def beforeEquals? (c : Command) (s : List Char) : Option (Flag × List Char) :=
  match s.dropWhile (· != '=') with
  | [] => none
  | attached =>
    (c.flag? (String.ofList (s.takeWhile (· != '=')))).map fun f => (f, attached)

/-- An argument that starts with a hyphen and is not the name of a flag. -/
def ofOther (c : Command) (text : String) : Except Misuse Argument :=
  match beforeEquals? c text.toList with
  | some (f, attached) => .ok (.flag text f attached)
  | none =>
    match candidates c text.toList with
    | [(_, f, attached)] => .ok (.flag text f attached)
    | [] =>
      if isNumber (text.toList.drop 1) || text.toList.contains ' ' then .ok (.word text)
      else .ok (.unknown text)
    | several => .error (.ambiguous text (several.map (·.1)))

/-- An argument of a command that stands before any separator. -/
def ofText (c : Command) (text : String) : Except Misuse Argument :=
  match text.toList with
  | '-' :: _ :: _ =>
    match c.flag? text with
    | some f => .ok (.flag text f [])
    | none => ofOther c text
  | _ => .ok (.word text)

/-- The arguments of a command. -/
def ofTexts (c : Command) : List String → Except Misuse (List Argument)
  | [] => .ok []
  | text :: rest =>
    if text = separatorText then .ok (.separator :: rest.map .word)
    else
      match ofText c text, ofTexts c rest with
      | .ok a, .ok arguments => .ok (a :: arguments)
      | .error m, _ => .error m
      | _, .error m => .error m

example : ofTexts .root ["-v", "--conf=a", "models", "--", "-v"] =
    .ok [.flag "-v" .verbose [], .flag "--conf=a" .config "=a".toList, .word "models", .separator,
      .word "-v"] := by cbv

example : ofTexts .root ["--ver"] = .error (.ambiguous "--ver" ["--version", "--verbose"]) := by
  cbv

end Argument

end FeatureGen.CommandLine

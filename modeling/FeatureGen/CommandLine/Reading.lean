import FeatureGen.CommandLine.Argument

/-!
# Reading a command line

`read` takes the arguments of a command one after another.  A flag takes the words after it, as many
as it can; every other word is the operand of the command as long as that is missing.  A word that
leads to another command leaves all arguments behind it to that command.  What is left over is
surplus, and is refused at the end (`readAll`).

Several short flags may stand behind one hyphen; the last of them may have an argument attached.
-/

namespace FeatureGen.CommandLine

/-! ## Flags -/

/-- The words at the start of some arguments. -/
def wordsOf : List Argument → List String
  | .word text :: rest => text :: wordsOf rest
  | _ => []

/-- The words that a flag takes from those that follow it. -/
def Flag.take? (flag : Flag) (words : List String) : Option (List String) :=
  match flag.arity, words with
  | .none, _ => some []
  | _, [] => none
  | .one, word :: _ => some [word]
  | .several, words => some words

/-- A flag with its arguments. -/
abbrev Given := Flag × List String

/-- The flags that one argument names. -/
structure Cluster where
  /-- The flags with their arguments, in order. -/
  flags : List Given
  /-- How many of the arguments that follow they take. -/
  taken : Nat := 0
  /-- What is surplus. -/
  surplus : List String := []

/-- The flags of an argument that starts with the given one, to which the text is attached.  The
words are those that follow the argument. -/
def Cluster.read (c : Command) (words : List String) (flag : Flag) :
    List Char → Except Misuse Cluster
  | [] =>
    match flag.take? words with
    | some taken => .ok { flags := [(flag, taken)], taken := taken.length }
    | none => .error (.missingArgument flag)
  | '=' :: text =>
    if flag.arity = .none then .error (.ignoredArgument flag (String.ofList text))
    else .ok { flags := [(flag, [String.ofList text])] }
  | letter :: text =>
    let attached := String.ofList (letter :: text)
    if flag.arity ≠ .none then .ok { flags := [(flag, [attached])] }
    else if letter = '-' then .error (.ignoredArgument flag attached)
    else
      match c.flag? (String.ofList ['-', letter]) with
      | none => .ok { flags := [(flag, [])], surplus := ["-" ++ attached] }
      | some next =>
        (Cluster.read c words next text).map fun cluster =>
          { cluster with flags := (flag, []) :: cluster.flags }

/-! ## One command -/

/-- What was read of the arguments of a command. -/
structure Scan where
  /-- The flags with their arguments, in order. -/
  given : List Given := []
  /-- The operand, and behind one that leads to another command the arguments of that. -/
  operand : List String := []
  /-- What is surplus. -/
  surplus : List String := []

/-- More flags, up to one that asks for help or for the version. -/
def Scan.addFlags (c : Command) (s : Scan) : List Given → Except Stop Scan
  | [] => .ok s
  | (.help, _) :: _ => .error (.help c)
  | (.version, _) :: _ => .error .version
  | flag :: rest => { s with given := s.given ++ [flag] }.addFlags c rest

/-- More of what is surplus. -/
def Scan.addSurplus (s : Scan) (texts : List String) : Scan :=
  { s with surplus := s.surplus ++ texts }

/-- The operand of a command at the start of its arguments, if there is one, with the arguments that
follow it.  A separator on either side of it belongs to it. -/
def operandOf? (operand : Operand) : List Argument → Option (List String × List Argument)
  | .word text :: rest =>
    match operand, rest with
    | .model, .separator :: rest => some ([text], rest)
    | .model, rest => some ([text], rest)
    | _, rest => some (text :: rest.map Argument.text, [])
  | .separator :: .word text :: rest =>
    match operand with
    | .model => some ([text], rest)
    | _ => some (Argument.separatorText :: text :: rest.map Argument.text, [])
  | _ => none

theorem length_lt_of_operandOf? {operand : Operand} {arguments rest : List Argument}
    {texts : List String} (h : operandOf? operand arguments = some (texts, rest)) :
    rest.length < arguments.length := by
  unfold operandOf? at h
  split at h <;> (try split at h) <;> simp at h <;> grind

/-- What the arguments of a command add to a scan. -/
def Scan.readFrom (c : Command) (s : Scan) : List Argument → Except Stop Scan
  | [] => .ok s
  | .unknown text :: rest => (s.addSurplus [text]).readFrom c rest
  | .flag _ flag attached :: rest =>
    match Cluster.read c (wordsOf rest) flag attached with
    | .error m => .error (.misuse c m)
    | .ok cluster =>
      match s.addFlags c cluster.flags with
      | .error stop => .error stop
      | .ok s => (s.addSurplus cluster.surplus).readFrom c (rest.drop cluster.taken)
  | a :: rest =>
    let pending := if s.operand.isEmpty then c.operand? else none
    match _h : pending.bind fun operand => operandOf? operand (a :: rest) with
    | some (texts, rest) => { s with operand := texts }.readFrom c rest
    | none => (s.addSurplus [a.text]).readFrom c rest
termination_by arguments => arguments.length
decreasing_by
  · simp
  · simp only [List.length_drop, List.length_cons]
    omega
  · obtain ⟨operand, -, h⟩ := Option.bind_eq_some_iff.1 ‹_›
    exact length_lt_of_operandOf? h
  · simp

/-! ## The whole line -/

/-- What a command line asks for. -/
structure Reading where
  /-- The command. -/
  command : Command
  /-- The flags with their arguments, in order. -/
  given : List Given := []
  /-- The operand of the command, if it has one. -/
  operand : String := ""
  /-- What is surplus. -/
  surplus : List String := []
  deriving DecidableEq, Repr

/-- A reading of what follows a command that leads to another, with what came before. -/
def Reading.after (s : Scan) (r : Reading) : Reading :=
  { r with given := s.given ++ r.given, surplus := s.surplus ++ r.surplus }

/-- Reads the arguments of a command. -/
def read (c : Command) (texts : List String) : Except Stop Reading :=
  match Argument.ofTexts c texts with
  | .error m => .error (.misuse c m)
  | .ok arguments =>
    match Scan.readFrom c {} arguments with
    | .error stop => .error stop
    | .ok s =>
      match c.operand?, s.operand with
      | none, _ => .ok { command := c, given := s.given, surplus := s.surplus }
      | some operand, [] => .error (.misuse c (.missingOperand operand))
      | some .model, text :: _ =>
        .ok { command := c, given := s.given, operand := text, surplus := s.surplus }
      | some operand, word :: rest =>
        match _h : c.subcommand? word with
        | none => .error (.misuse c (.invalidChoice operand word (c.subcommands.map (·.1))))
        | some d => (read d rest).map (Reading.after s)
termination_by c.height
decreasing_by exact Command.height_lt_of_subcommand? ‹_›

/-- Reads the arguments of the program. -/
def readAll (texts : List String) : Except Stop Reading :=
  match read .root texts with
  | .error stop => .error stop
  | .ok r => if r.surplus.isEmpty then .ok r else .error (.misuse .root (.unrecognized r.surplus))

namespace Reading

/-- The arguments that a flag is given the last time. -/
def argumentsOf? (r : Reading) (flag : Flag) : Option (List String) := r.given.reverse.lookup flag

/-- Whether a flag is given. -/
def has (r : Reading) (flag : Flag) : Bool := (r.argumentsOf? flag).isSome

/-- The single argument that a flag is given the last time, unless it is empty. -/
def textOf? (r : Reading) (flag : Flag) : Option String :=
  ((r.argumentsOf? flag).bind List.head?).filter (!·.isEmpty)

end Reading

end FeatureGen.CommandLine

import FeatureGen.Text.Split

/-!
# Paths

A path is a list of names below a root.  `Path.ofString` drops empty names and dots and keeps double
dots, which only the tree can resolve; so a path that is written as text and read again is the same
path.  Two slashes in front are a root of their own, and three or more are one.

`path / text` goes on from a path by a text, which starts anew if it has a root.
-/

namespace FeatureGen

/-- Where a path starts. -/
inductive Path.Root
  /-- At the working directory. -/
  | relative
  /-- At the root, written with one slash. -/
  | single
  /-- At the root, written with two slashes. -/
  | double
  deriving DecidableEq, Repr

/-- Whether a text is a name in a path. -/
def Path.isName (s : List Char) : Bool := !s.isEmpty && s != ['.'] && !s.contains '/'

/-- A path: a root and the names below it. -/
structure Path where
  /-- Where the path starts. -/
  root : Path.Root
  /-- The names below the root. -/
  names : List (List Char)
  /-- Each of them is a name. -/
  names_ok : ∀ n ∈ names, Path.isName n = true
  deriving DecidableEq

namespace Path

/-- The root that a text starts with. -/
def rootOf : List Char → Root
  | '/' :: '/' :: '/' :: _ => .single
  | '/' :: '/' :: _ => .double
  | '/' :: _ => .single
  | _ => .relative

/-- The path that a text writes. -/
def ofChars (s : List Char) : Path where
  root := rootOf s
  names := (Text.pieces '/' s).filter isName
  names_ok := fun _ h => (List.mem_filter.1 h).2

/-- The path that a text writes. -/
def ofString (s : String) : Path := ofChars s.toList

/-- The slashes of a root. -/
def Root.chars : Root → List Char
  | .relative => []
  | .single => ['/']
  | .double => ['/', '/']

/-- The text of a path; the path without names to the working directory is a dot. -/
def chars (p : Path) : List Char :=
  if p.root = .relative ∧ p.names = [] then ['.'] else p.root.chars ++ Text.joinPieces '/' p.names

/-- The text of a path. -/
protected def toString (p : Path) : String := String.ofList p.chars

/-- The path that goes on from `p` by `q`; a rooted `q` starts anew. -/
def append (p q : Path) : Path :=
  match q.root with
  | .relative =>
    { root := p.root
      names := p.names ++ q.names
      names_ok := fun n h => (List.mem_append.1 h).elim (p.names_ok n) (q.names_ok n) }
  | _ => q

/-- The path that goes on from a path by a text. -/
def join (p : Path) (s : String) : Path := p.append (ofString s)

instance : HDiv Path String Path := ⟨join⟩

/-- The path that goes on from a path by names; texts that are no names are passed over. -/
def descend (p : Path) (names : List (List Char)) : Path :=
  p.append ⟨.relative, names.filter isName, fun _ h => (List.mem_filter.1 h).2⟩

/-- The path without its last name. -/
def parent (p : Path) : Path where
  root := p.root
  names := p.names.dropLast
  names_ok := fun n h => p.names_ok n (List.dropLast_subset _ h)

/-- The last name, empty if there is none. -/
def name (p : Path) : String := String.ofList (p.names.getLast?.getD [])

example : (ofString "a//b/./c/").toString = "a/b/c" := by decide

example : (ofString "///x" / "../y").toString = "/x/../y" := by decide

example : (ofString "").toString = "." := by decide

end Path

end FeatureGen

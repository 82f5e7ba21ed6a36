import FeatureGen.Project.Tree
import FeatureGen.Text.Lines

/-!
# Projects on disk

A project is a file tree with a working directory.  Paths are looked up from the working directory
or from the root; a path with a name of more than 255 octets, or of 4096 octets or more in all, is
too long.

Operations that write give the project as it is afterwards, also when they fail: directories that
were made before the fault stay.
-/

namespace FeatureGen

/-- A file tree with a working directory. -/
structure Project where
  /-- The files. -/
  tree : Tree
  /-- The working directory. -/
  cwd : Location

namespace Project

/-- The place that a path leads to; nothing has to be there. -/
def resolve (p : Project) (path : Path) : Except FileProblem Location :=
  if path.names.any (·.contains '\x00') then .error .nullCharacter
  else if 4096 ≤ path.toString.utf8ByteSize then .error .nameTooLong
  else p.tree.walk (if path.root = .relative then p.cwd else []) path.names

/-- What stands at a path. -/
def stat (p : Project) (path : Path) : Except FileProblem Node :=
  match p.resolve path with
  | .error problem => .error problem
  | .ok l =>
    match p.tree.get? l with
    | some node => .ok node
    | none => .error .notFound

/-- Whether something that satisfies a test stands at a path.  Only a name that is too long is a
fault. -/
def isAt (p : Project) (test : Node → Bool) (path : Path) : Except FileFault Bool :=
  match p.stat path with
  | .ok node => .ok (test node)
  | .error .nameTooLong => .error ⟨.nameTooLong, path⟩
  | .error _ => .ok false

/-- Whether a path leads to a directory. -/
def isDirectory (p : Project) (path : Path) : Except FileFault Bool :=
  p.isAt (fun | .directory => true | .file _ => false) path

/-- Whether a path leads to a file. -/
def isFile (p : Project) (path : Path) : Except FileFault Bool :=
  p.isAt (fun | .directory => false | .file _ => true) path

/-! ## Reading -/

/-- The octets of a file. -/
def readBytes (p : Project) (path : Path) : Except FileFault ByteArray :=
  match p.stat path with
  | .ok (.file content) => .ok content
  | .ok .directory => .error ⟨.isDirectory, path⟩
  | .error problem => .error ⟨problem, path⟩

/-- The text of a file as it is stored. -/
def readStored (p : Project) (path : Path) : Except ReadFault String :=
  match p.readBytes path with
  | .error fault => .error (.file fault)
  | .ok bytes => (Text.decodeUtf8 bytes).mapError .encoding

/-- The text with every line break as one line feed. -/
def unified (s : String) : String := String.ofList (Text.unifyNewlines s.toList)

/-- The text of a file, with every line break as one line feed. -/
def readText (p : Project) (path : Path) : Except ReadFault String :=
  (p.readStored path).map unified

/-! ## Writing -/

/-- The project with a node put at a place, or what is wrong. -/
def putAt (p : Project) (l : Location) (node : Node) (problem : FileProblem) :
    Except FileProblem Project :=
  match l.getLast? with
  | none => .error problem
  | some n =>
    match p.tree.put? l.dropLast n node with
    | some tree => .ok { p with tree := tree }
    | none => .error problem

/-- The project with a new directory, or what is wrong. -/
def makeDirectory (p : Project) (path : Path) : Except FileProblem Project :=
  match p.resolve path with
  | .error problem => .error problem
  | .ok l =>
    match p.tree.get? l with
    | some _ => .error .alreadyExists
    | none => p.putAt l .directory .notFound

/-- What is wrong when a directory was to be there, if anything is: a directory that is there
already is as good as a new one. -/
def directoryFault? (p : Project) (path : Path) (problem : FileProblem) : Option FileFault :=
  match problem with
  | .nullCharacter => some ⟨problem, path⟩
  | .notFound => some ⟨problem, path⟩
  | _ =>
    match p.isDirectory path with
    | .ok true => none
    | .ok false => some ⟨problem, path⟩
    | .error fault => some fault

/-- The project with a directory that may be there already, whose parent must be there. -/
def ensureDirectory (p : Project) (path : Path) : Project × Option FileFault :=
  match p.makeDirectory path with
  | .ok q => (q, none)
  | .error problem => (p, p.directoryFault? path problem)

/-- The project with a directory and those it is in, each of which may be there already. -/
def ensureDirectories (p : Project) (path : Path) : Project × Option FileFault :=
  match p.makeDirectory path with
  | .ok q => (q, none)
  | .error .notFound =>
    if path.names = [] then (p, some ⟨.notFound, path⟩)
    else
      match p.ensureDirectories path.parent with
      | (q, some fault) => (q, some fault)
      | (q, none) => q.ensureDirectory path
  | .error problem => (p, p.directoryFault? path problem)
termination_by path.names.length
decreasing_by
  simp only [Path.parent, List.length_dropLast]
  have := List.length_pos_iff.2 ‹¬ path.names = []›
  omega

/-- The project with a file, whose directory must be there. -/
def writeBytes (p : Project) (path : Path) (content : ByteArray) : Project × Option FileFault :=
  match p.resolve path with
  | .error problem => (p, some ⟨problem, path⟩)
  | .ok l =>
    match p.tree.get? l with
    | some .directory => (p, some ⟨.isDirectory, path⟩)
    | _ =>
      match p.putAt l (.file content) .notFound with
      | .ok q => (q, none)
      | .error problem => (p, some ⟨problem, path⟩)

/-- The project with a file and the directories it is in. -/
def writeFile (p : Project) (path : Path) (content : ByteArray) : Project × Option FileFault :=
  match p.ensureDirectories path.parent with
  | (q, some fault) => (q, some fault)
  | (q, none) => q.writeBytes path content

/-- The project without what is at a path or below it. -/
def remove (p : Project) (path : Path) : Project × Option FileFault :=
  match p.resolve path with
  | .error problem => (p, some ⟨problem, path⟩)
  | .ok l =>
    match p.tree.get? l with
    | none => (p, some ⟨.notFound, path⟩)
    | some _ => ({ p with tree := p.tree.remove l }, none)

/-! ## Listing -/

/-- What is below a directory, sorted by names: the path to each and what stands there.  Nothing is
below a path that leads to no directory. -/
def descendants (p : Project) (root : Path) : Except FileFault (List (Path × Node)) :=
  match p.isDirectory root with
  | .error fault => .error fault
  | .ok false => .ok []
  | .ok true =>
    match p.resolve root with
    | .error _ => .ok []
    | .ok l =>
      let found := (p.tree.below l).mergeSort fun a b => Tree.comesBefore a.1 b.1
      .ok (found.map fun (names, node) => (root.descend names, node))

/-- The files below a directory with their octets, sorted by the names on the way. -/
def files (p : Project) (root : Path) : Except FileFault (List (Path × ByteArray)) :=
  (p.descendants root).map (·.filterMap fun
    | (path, .file content) => some (path, content)
    | (_, .directory) => none)

/-- The directories in a directory, sorted by name. -/
def directories (p : Project) (root : Path) : Except FileFault (List Path) :=
  (p.descendants root).map (·.filterMap fun
    | (path, .directory) => if path.parent.names = root.names then some path else none
    | (_, .file _) => none)

end Project

end FeatureGen

import FeatureGen.Number.Natural
import FeatureGen.Project.FileFault

/-!
# File trees

A tree of files and directories.  A place in it is the list of names that leads there from the root.
The tree is kept as a list of places with what stands at them, and its look-up `Tree.get?` is all
that matters: each operation is described by what it does to the look-up.

Whatever is in a tree is in a directory of it (`Tree.closed`).
-/

namespace FeatureGen

/-- A place in a tree: the names that lead to it from the root. -/
abbrev Location := List (List Char)

/-- What stands at a place. -/
inductive Node
  /-- A file with its octets. -/
  | file (content : ByteArray)
  /-- A directory. -/
  | directory

instance : DecidableEq Node
  | .file a, .file b =>
    match ByteArray.instDecidableEq a b with
    | isTrue h => isTrue (by rw [h])
    | isFalse h => isFalse fun e => h (Node.file.inj e)
  | .directory, .directory => isTrue rfl
  | .file _, .directory => isFalse nofun
  | .directory, .file _ => isFalse nofun

/-- What a list of entries has at a place; the root is a directory. -/
def Tree.find (entries : List (Location × Node)) (l : Location) : Option Node :=
  if l = [] then some .directory else entries.lookup l

/-- A tree of files and directories. -/
structure Tree where
  /-- The places below the root with what stands at them. -/
  entries : List (Location × Node)
  /-- What is in the tree is in a directory. -/
  closed : ∀ l n, (Tree.find entries (l ++ [n])).isSome → Tree.find entries l = some .directory

namespace Tree

/-- What stands at a place. -/
def get? (t : Tree) (l : Location) : Option Node := find t.entries l

/-- The tree in which nothing is below the root. -/
def empty : Tree where
  entries := []
  closed := by simp [find]

@[simp] theorem get?_root (t : Tree) : t.get? [] = some .directory := by simp [get?, find]

/-- What is in a tree is in a directory. -/
theorem get?_parent {t : Tree} {l : Location} {n : List Char}
    (h : (t.get? (l ++ [n])).isSome) : t.get? l = some .directory := t.closed l n h

/-! ## Putting something at a place -/

theorem lookup_cons_eq (k : Location) (node : Node) (entries : List (Location × Node)) :
    ((k, node) :: entries).lookup k = some node := by simp

theorem lookup_cons_ne {k l : Location} (h : k ≠ l) (node : Node)
    (entries : List (Location × Node)) : ((l, node) :: entries).lookup k = entries.lookup k := by
  simp [List.lookup_cons, beq_eq_false_iff_ne.2 h]

/-- A look-up passes over entries that are filtered out because of other places. -/
theorem lookup_filter {keep : Location → Bool} {k : Location} (h : keep k = true)
    (entries : List (Location × Node)) :
    (entries.filter fun e => keep e.1).lookup k = entries.lookup k := by
  induction entries with
  | nil => rfl
  | cons e es ih =>
    obtain ⟨m, n⟩ := e
    by_cases hk : k = m
    · subst hk
      rw [List.filter_cons_of_pos (by exact h), lookup_cons_eq, lookup_cons_eq]
    · rw [lookup_cons_ne hk]
      by_cases hm : keep m = true
      · rw [List.filter_cons_of_pos (by exact hm), lookup_cons_ne hk, ih]
      · rw [List.filter_cons_of_neg (by exact hm), ih]

/-- A look-up finds nothing where all entries are filtered out. -/
theorem lookup_filter_none {keep : Location → Bool} {k : Location} (h : keep k = false)
    (entries : List (Location × Node)) :
    (entries.filter fun e => keep e.1).lookup k = none := by
  induction entries with
  | nil => rfl
  | cons e es ih =>
    obtain ⟨m, n⟩ := e
    by_cases hm : keep m = true
    · rw [List.filter_cons_of_pos (by exact hm), lookup_cons_ne (fun e => by simp_all), ih]
    · rw [List.filter_cons_of_neg (by exact hm), ih]

/-- The entries with a node put at a place. -/
def putEntries (entries : List (Location × Node)) (l : Location) (node : Node) :
    List (Location × Node) := (l, node) :: entries.filter (·.1 != l)

theorem find_putEntries (entries : List (Location × Node)) {l : Location} (node : Node)
    (hl : l ≠ []) (k : Location) :
    find (putEntries entries l node) k = if k = l then some node else find entries k := by
  by_cases hk : k = l
  · subst hk; simp [find, putEntries, hl]
  · by_cases h0 : k = []
    · simp [find, h0, Ne.symm hl]
    · rw [if_neg hk, find, if_neg h0, find, if_neg h0, putEntries, lookup_cons_ne hk,
        @lookup_filter (· != l) k (by simpa using hk)]

/-- The tree with a node put under a name in a directory.  A file replaces a file at most. -/
def put (t : Tree) (l : Location) (n : List Char) (node : Node)
    (hdir : t.get? l = some .directory)
    (hnode : t.get? (l ++ [n]) = some .directory → node = .directory) : Tree where
  entries := putEntries t.entries (l ++ [n]) node
  closed := by
    intro k m h
    rw [find_putEntries _ _ (by simp)] at h ⊢
    by_cases hk : k ++ [m] = l ++ [n]
    · have hkl : k = l := by simpa using congrArg List.dropLast hk
      subst hkl
      rw [if_neg (fun e => by simpa using congrArg List.length e)]
      exact hdir
    · rw [if_neg hk] at h
      have hdirk := t.closed k m h
      split
      · next hkl => rw [hnode (by rw [get?, ← hkl, hdirk])]
      · exact hdirk

@[simp] theorem get?_put {t : Tree} {l : Location} {n : List Char} {node : Node} {hdir hnode}
    (k : Location) :
    (t.put l n node hdir hnode).get? k = if k = l ++ [n] then some node else t.get? k :=
  find_putEntries _ _ (by simp) _

/-- The tree with a node put under a name, if that name is in a directory and holds no directory
that the node would replace. -/
def put? (t : Tree) (l : Location) (n : List Char) (node : Node) : Option Tree :=
  if hdir : t.get? l = some .directory then
    if hnode : t.get? (l ++ [n]) = some .directory → node = .directory then
      some (t.put l n node hdir hnode)
    else none
  else none

/-! ## Removing -/

/-- The entries that are not at a place or below it. -/
def removeEntries (entries : List (Location × Node)) (l : Location) : List (Location × Node) :=
  entries.filter fun e => !l.isPrefixOf e.1

theorem find_removeEntries (entries : List (Location × Node)) (l k : Location) :
    find (removeEntries entries l) k =
      if k = [] then some .directory
      else if l.isPrefixOf k then none else find entries k := by
  rw [find, removeEntries]
  split
  · rfl
  · next h0 =>
    split
    · next hp => exact @lookup_filter_none (fun m => !l.isPrefixOf m) k (by simp [hp]) _
    · next hp =>
      rw [@lookup_filter (fun m => !l.isPrefixOf m) k (by rw [eq_false_of_ne_true hp]; rfl), find, if_neg h0]

/-- The tree without what is at a place or below it. -/
def remove (t : Tree) (l : Location) : Tree where
  entries := removeEntries t.entries l
  closed := by
    intro k m h
    rw [find_removeEntries] at h ⊢
    split
    · rfl
    · simp only [List.append_eq_nil_iff, List.cons_ne_self, and_false, ↓reduceIte] at h
      split at h
      · simp at h
      · next hp =>
        have : ¬ l.isPrefixOf k = true := fun hk =>
          hp (List.isPrefixOf_iff_prefix.2
            ((List.isPrefixOf_iff_prefix.1 hk).trans (List.prefix_append k [m])))
        rw [if_neg this]
        exact t.closed k m h

theorem get?_remove (t : Tree) (l k : Location) :
    (t.remove l).get? k =
      if k = [] then some .directory else if l.isPrefixOf k then none else t.get? k :=
  find_removeEntries _ _ _

/-! ## Walking -/

/-- The place that a name leads to; two dots lead back, and from the root to the root. -/
def next (l : Location) (n : List Char) : Location := if n = ['.', '.'] then l.dropLast else l ++ [n]

/-- The octets of a name. -/
def nameSize (n : List Char) : Nat := Number.total (n.map Char.utf8Size)

/-- The place that names lead to from a directory.  Nothing has to be there, but each name is
followed from a directory. -/
def walk (t : Tree) (l : Location) : List (List Char) → Except FileProblem Location
  | [] => .ok l
  | n :: ns =>
    match t.get? l with
    | some .directory => if 255 < nameSize n then .error .nameTooLong else t.walk (next l n) ns
    | some (.file _) => .error .notDirectory
    | none => .error .notFound

/-! ## Listing -/

/-- What is below a place: the names that lead there from it, and what stands there. -/
def below (t : Tree) (l : Location) : List (Location × Node) :=
  t.entries.filterMap fun (k, node) =>
    if l.isPrefixOf k && l.length < k.length then some (k.drop l.length, node) else none

/-- Whether one place comes before another, name by name. -/
def comesBefore (a b : Location) : Bool := !decide (b < a)

end Tree

end FeatureGen

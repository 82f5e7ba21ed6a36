import FeatureGen.Project.Basic
import FeatureGen.Proofs.Project.Path

/-!
# The way of a path

Where names lead from a place is a matter of the names alone (`Tree.goal`); the tree only decides
whether they can be followed.  `Tree.way` lists the places on the way, and a walk succeeds exactly
if all of them but the last are directories and no name is too long (`Tree.walk_eq_ok_iff`).  For a
project that is `Project.resolve_eq_ok_iff`.

A place is *clear* if a directory is there or could be made there: no file is in its place.  A walk
over clear places either succeeds or finds that a directory is missing (`resolve_of_isClear`).
-/

namespace FeatureGen

namespace Tree

variable {t : Tree} {l k : Location} {n : List Char} {ns ms : List (List Char)}

/-! ## Places on the way -/

/-- The place that names lead to from a place. -/
def goal (l : Location) (ns : List (List Char)) : Location := ns.foldl next l

/-- The places from which names are followed, one for each name. -/
def passed (l : Location) : List (List Char) → List Location
  | [] => []
  | n :: ns => l :: passed (next l n) ns

/-- The places on the way, from the first to the one that the names lead to. -/
def way (l : Location) (ns : List (List Char)) : List Location := passed l ns ++ [goal l ns]

theorem goal_append (l : Location) (ns ms : List (List Char)) :
    goal l (ns ++ ms) = goal (goal l ns) ms := List.foldl_append

theorem goal_concat (l : Location) (ns : List (List Char)) (n : List Char) :
    goal l (ns ++ [n]) = next (goal l ns) n := goal_append l ns [n]

theorem passed_append (l : Location) (ns ms : List (List Char)) :
    passed l (ns ++ ms) = passed l ns ++ passed (goal l ns) ms := by
  induction ns generalizing l with
  | nil => rfl
  | cons n ns ih => exact congrArg (l :: ·) (ih (next l n))

/-- The last name is followed from where the others lead. -/
theorem passed_concat (l : Location) (ns : List (List Char)) (n : List Char) :
    passed l (ns ++ [n]) = way l ns := passed_append l ns [n]

theorem goal_mem_way (l : Location) (ns : List (List Char)) : goal l ns ∈ way l ns :=
  List.mem_append_right _ List.mem_cons_self

theorem mem_way_of_mem_passed (h : k ∈ passed l ns) : k ∈ way l ns := List.mem_append_left _ h

theorem start_mem_way (l : Location) (ns : List (List Char)) : l ∈ way l ns := by
  cases ns <;> exact List.mem_cons_self

theorem way_append (l : Location) (ns ms : List (List Char)) :
    way l (ns ++ ms) = passed l ns ++ way (goal l ns) ms := by
  rw [way, passed_append, goal_append, List.append_assoc, way]

/-- A way goes on from where it leads. -/
theorem mem_way_append : k ∈ way l (ns ++ ms) ↔ k ∈ way l ns ∨ k ∈ way (goal l ns) ms := by
  have hway : k ∈ way l ns ↔ k ∈ passed l ns ∨ k = goal l ns := by simp [way]
  rw [way_append, List.mem_append, hway]
  constructor
  · rintro (h | h)
    · exact .inl (.inl h)
    · exact .inr h
  · rintro ((h | rfl) | h)
    · exact .inl h
    · exact .inr (start_mem_way _ ms)
    · exact .inr h

/-- On the way are the places to which the names lead if some at the end are left out. -/
theorem mem_way_iff : k ∈ way l ns ↔ ∃ e, e <+: ns ∧ k = goal l e := by
  induction ns generalizing l with
  | nil =>
    show k ∈ [l] ↔ _
    simp [goal]
  | cons n ns ih =>
    show k ∈ l :: way (next l n) ns ↔ _
    rw [List.mem_cons, ih]
    constructor
    · rintro (rfl | ⟨e, he, rfl⟩)
      · exact ⟨[], List.nil_prefix, rfl⟩
      · exact ⟨n :: e, List.cons_prefix_cons.2 ⟨rfl, he⟩, rfl⟩
    · rintro ⟨e, he, rfl⟩
      rcases List.prefix_cons_iff.1 he with rfl | ⟨e, rfl, hbelow⟩
      · exact .inl rfl
      · exact .inr ⟨e, hbelow, rfl⟩

/-! ## Names that lead down -/

/-- None of the names leads back. -/
def Downward (ns : List (List Char)) : Prop := ∀ n ∈ ns, n ≠ ['.', '.']

instance (ns : List (List Char)) : Decidable (Downward ns) :=
  inferInstanceAs (Decidable (∀ n ∈ ns, n ≠ ['.', '.']))

/-- Names that lead down lead to the place below with these names. -/
theorem goal_of_downward (h : Downward ns) : goal l ns = l ++ ns := by
  induction ns generalizing l with
  | nil => exact (List.append_nil l).symm
  | cons n ns ih =>
    have hn : next l n = l ++ [n] := if_neg (h n List.mem_cons_self)
    show goal (next l n) ns = l ++ n :: ns
    rw [hn, ih fun m hm => h m (List.mem_cons_of_mem _ hm), List.append_assoc]
    rfl

/-- The places on their way are those above it. -/
theorem mem_way_of_downward (h : Downward ns) : k ∈ way l ns ↔ ∃ e, e <+: ns ∧ k = l ++ e := by
  have hgoal {e : List (List Char)} (he : e <+: ns) : goal l e = l ++ e :=
    goal_of_downward fun n hn => h n (he.subset hn)
  rw [mem_way_iff]
  constructor
  · rintro ⟨e, he, rfl⟩
    exact ⟨e, he, hgoal he⟩
  · rintro ⟨e, he, rfl⟩
    exact ⟨e, he, (hgoal he).symm⟩

/-! ## Walking -/

/-- A walk succeeds if it passes only directories and no name is too long. -/
theorem walk_eq_ok_iff :
    t.walk l ns = .ok k ↔
      (∀ m ∈ passed l ns, t.get? m = some .directory) ∧ (∀ n ∈ ns, nameSize n ≤ 255) ∧
        goal l ns = k := by
  induction ns generalizing l with
  | nil => simp [walk, passed, goal]
  | cons n ns ih =>
    rw [walk, passed, List.forall_mem_cons, List.forall_mem_cons]
    cases hl : t.get? l with
    | none => simp
    | some node =>
      cases node with
      | file content => simp
      | directory =>
        by_cases hn : 255 < nameSize n
        · simp [hn, Nat.not_le.2 hn]
        · simp only [if_neg hn, ih, true_and, Nat.not_lt.1 hn]
          rfl

/-- The path alone does not make a walk fail for a null character. -/
theorem walk_ne_nullCharacter : t.walk l ns ≠ .error .nullCharacter := by
  induction ns generalizing l with
  | nil => simp [walk]
  | cons n ns ih =>
    rw [walk]
    split
    · split
      · simp
      · exact ih
    · simp
    · simp

/-- No file is at a place: a directory is there, or nothing is. -/
def IsClear (t : Tree) (l : Location) : Prop := t.get? l = none ∨ t.get? l = some .directory

theorem isClear_of_directory (h : t.get? l = some .directory) : t.IsClear l := .inr h

/-- A walk over clear places fails only where nothing is. -/
theorem walk_of_isClear (hclear : ∀ m ∈ passed l ns, t.IsClear m)
    (hsize : ∀ n ∈ ns, nameSize n ≤ 255) :
    t.walk l ns = .ok (goal l ns) ∨ t.walk l ns = .error .notFound := by
  induction ns generalizing l with
  | nil => exact .inl rfl
  | cons n ns ih =>
    rw [passed, List.forall_mem_cons] at hclear
    rw [List.forall_mem_cons] at hsize
    rw [walk]
    rcases hclear.1 with hl | hl
    · exact .inr (by rw [hl])
    · rw [hl]
      simp only [if_neg (Nat.not_lt.2 hsize.1)]
      exact ih hclear.2 hsize.2

/-- Above what is in a tree there is a directory. -/
theorem get?_dropLast {node : Node} (h : t.get? l = some node) :
    t.get? l.dropLast = some .directory := by
  rcases List.eq_nil_or_concat l with rfl | ⟨l, n, rfl⟩
  · exact t.get?_root
  · rw [List.concat_eq_append, List.dropLast_concat]
    rw [List.concat_eq_append] at h
    exact get?_parent (by rw [h]; rfl)

end Tree

/-! ## Paths in a project -/

/-- A path is not too long and holds no null character. -/
structure Path.Fits (path : Path) : Prop where
  nullFree : ∀ n ∈ path.names, '\x00' ∉ n
  size : path.toString.utf8ByteSize < 4096
  nameSize : ∀ n ∈ path.names, Tree.nameSize n ≤ 255

/-- A parent is not too long if the path is not. -/
theorem Path.Fits.parent {path : Path} (h : path.Fits) : path.parent.Fits where
  nullFree := fun n hn => h.nullFree n (List.dropLast_subset _ hn)
  nameSize := fun n hn => h.nameSize n (List.dropLast_subset _ hn)
  size := by
    by_cases hne : path.names = []
    · have hself : path.parent = path := Path.eq_of_names rfl (by simp [Path.parent, hne])
      rw [hself]
      exact h.size
    · exact Nat.lt_of_le_of_lt (Path.utf8ByteSize_parent_le hne) h.size

/-- The names can be added to a path, and none of them leads back. -/
def Path.LeadsDown (ns : List (List Char)) : Prop :=
  ∀ n ∈ ns, Path.isName n = true ∧ n ≠ ['.', '.']

instance (ns : List (List Char)) : Decidable (Path.LeadsDown ns) :=
  inferInstanceAs (Decidable (∀ n ∈ ns, Path.isName n = true ∧ n ≠ ['.', '.']))

namespace Project

variable {p : Project} {path : Path} {l : Location}

/-- The place from which a path is followed. -/
def start (p : Project) (path : Path) : Location := if path.root = .relative then p.cwd else []

/-- The place that a path leads to. -/
def place (p : Project) (path : Path) : Location := Tree.goal (p.start path) path.names

/-- The places on the way of a path: where it starts, where each of its names leads, and so the
place itself at last. -/
def way (p : Project) (path : Path) : List Location := Tree.way (p.start path) path.names

theorem place_mem_way (p : Project) (path : Path) : p.place path ∈ p.way path :=
  Tree.goal_mem_way _ _

theorem start_mem_way (p : Project) (path : Path) : p.start path ∈ p.way path :=
  Tree.start_mem_way _ _

/-- The places on the way of a path are those of the paths in front of it. -/
theorem exists_of_mem_way (h : l ∈ p.way path) :
    ∃ a : Path, a.root = path.root ∧ a.names <+: path.names ∧ l = p.place a := by
  obtain ⟨e, he, rfl⟩ := Tree.mem_way_iff.1 h
  exact ⟨⟨path.root, e, fun n hn => path.names_ok n (he.subset hn)⟩, rfl, he, rfl⟩

/-- Names that lead down from a path lead down from its place. -/
theorem place_descend {ns : List (List Char)} (h : Path.LeadsDown ns) :
    p.place (path.descend ns) = p.place path ++ ns := by
  rw [place, Path.names_descend fun n hn => (h n hn).1, Tree.goal_append,
    Tree.goal_of_downward fun n hn => (h n hn).2]
  rfl

/-- On the way down are the places above, below the place of the path. -/
theorem mem_way_descend {ns : List (List Char)} (h : Path.LeadsDown ns) :
    l ∈ p.way (path.descend ns) ↔ l ∈ p.way path ∨ ∃ e, e <+: ns ∧ l = p.place path ++ e := by
  rw [way, Path.names_descend fun n hn => (h n hn).1, Tree.mem_way_append,
    Tree.mem_way_of_downward fun n hn => (h n hn).2]
  rfl

/-- A path leads somewhere if there are directories all the way. -/
theorem resolve_eq_ok_iff :
    p.resolve path = .ok l ↔
      path.Fits ∧ (∀ m ∈ Tree.passed (p.start path) path.names, p.tree.get? m = some .directory) ∧
        p.place path = l := by
  have hnull : path.names.any (·.contains '\x00') = true ↔ ¬ ∀ n ∈ path.names, '\x00' ∉ n := by
    simp
  rw [resolve]
  split
  · next h =>
    constructor
    · intro he
      cases he
    · rintro ⟨hfits, -⟩
      exact absurd hfits.nullFree (hnull.1 h)
  · next h =>
    rw [hnull, Decidable.not_not] at h
    split
    · next hsize =>
      constructor
      · intro he
        cases he
      · rintro ⟨hfits, -⟩
        exact absurd hfits.size (Nat.not_lt.2 hsize)
    · next hsize =>
      rw [Tree.walk_eq_ok_iff]
      constructor
      · rintro ⟨hpassed, hnames, hgoal⟩
        exact ⟨⟨h, Nat.not_le.1 hsize, hnames⟩, hpassed, hgoal⟩
      · rintro ⟨hfits, hpassed, hgoal⟩
        exact ⟨hpassed, hfits.nameSize, hgoal⟩

/-- On a clear way a path leads somewhere, or a directory is missing. -/
theorem resolve_of_isClear (hfits : path.Fits)
    (hclear : ∀ m ∈ Tree.passed (p.start path) path.names, p.tree.IsClear m) :
    p.resolve path = .ok (p.place path) ∨ p.resolve path = .error .notFound := by
  have hnull : ¬ path.names.any (·.contains '\x00') = true := by
    simpa using hfits.nullFree
  rw [resolve, if_neg hnull, if_neg (Nat.not_le.2 hfits.size)]
  exact Tree.walk_of_isClear hclear hfits.nameSize

/-- Only a null character in a path is reported as one. -/
theorem resolve_ne_nullCharacter (h : ∀ n ∈ path.names, '\x00' ∉ n) :
    p.resolve path ≠ .error .nullCharacter := by
  have hnull : ¬ path.names.any (·.contains '\x00') = true := by simpa using h
  rw [resolve, if_neg hnull]
  split
  · simp
  · exact Tree.walk_ne_nullCharacter

end Project

end FeatureGen

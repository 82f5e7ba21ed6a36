import FeatureGen.Proofs.Distinct
import FeatureGen.Proofs.Project.Write
import Mathlib.Data.List.Induction
import Mathlib.Data.List.Nodup

/-!
# What a listing finds

A tree keeps a list of entries, of which the first one for a place counts.  A listing reads them
all, so it finds what stands below a place if there is one entry for each place there
(`Tree.mem_below`).  That is so where nothing stands yet (`Tree.distinct_of_none`), and it stays so
while nodes are put into the tree (`Tree.Puts`), which is all that writing does (`puts_writeFile`).

Listings of a directory are given up to their order: the files by what is in them
(`exists_files`), and the directories by their names (`exists_directories`).
-/

namespace FeatureGen

namespace Tree

variable {t t' t'' : Tree} {l m : Location} {n : List Char} {e : List (List Char)} {node : Node}

/-! ## Entries -/

/-- At a place and below it there is one entry for each place. -/
def Distinct (t : Tree) (l : Location) : Prop :=
  ((t.entries.filter fun entry => l.isPrefixOf entry.1).map (·.1)).Nodup

/-- One tree comes from another by putting nodes into it. -/
inductive Puts (t : Tree) : Tree → Prop
  /-- Nothing is put. -/
  | refl : Puts t t
  /-- One more node is put. -/
  | put {t' : Tree} (h : Puts t t') (l : Location) (n : List Char) (node : Node)
    (hdir : t'.get? l = some .directory)
    (hnode : t'.get? (l ++ [n]) = some .directory → node = .directory) :
    Puts t (t'.put l n node hdir hnode)

theorem Puts.trans (h : t.Puts t') (h' : t'.Puts t'') : t.Puts t'' := by
  induction h' with
  | refl => exact h
  | put _ l n node hdir hnode ih => exact ih.put l n node hdir hnode

/-- What is put takes the place of the entry that was there. -/
theorem Distinct.put {hdir hnode} (h : t.Distinct l) : (t.put m n node hdir hnode).Distinct l := by
  have hrest : (((t.entries.filter (·.1 != m ++ [n])).filter fun entry =>
      l.isPrefixOf entry.1).map (·.1)).Nodup := by
    rw [List.filter_comm]
    exact h.sublist (List.filter_sublist.map _)
  show (((putEntries t.entries (m ++ [n]) node).filter fun entry =>
      l.isPrefixOf entry.1).map (·.1)).Nodup
  rw [putEntries, List.filter_cons]
  split
  · rw [List.map_cons, List.nodup_cons]
    refine ⟨fun hmem => ?_, hrest⟩
    obtain ⟨entry, hentry, heq⟩ := List.mem_map.1 hmem
    have hne := (List.mem_filter.1 (List.mem_filter.1 hentry).1).2
    rw [heq] at hne
    simp at hne
  · exact hrest

theorem Distinct.of_puts (h : t.Distinct l) (hputs : t.Puts t') : t'.Distinct l := by
  induction hputs with
  | refl => exact h
  | put _ _ _ _ _ _ ih => exact ih.put

theorem Distinct.append (h : t.Distinct l) (e : List (List Char)) : t.Distinct (l ++ e) := by
  have hprefix : (t.entries.filter fun entry => (l ++ e).isPrefixOf entry.1) =
      (t.entries.filter fun entry => l.isPrefixOf entry.1).filter
        fun entry => (l ++ e).isPrefixOf entry.1 := by
    rw [List.filter_filter]
    apply List.filter_congr
    intro entry _
    rw [Bool.eq_iff_iff, Bool.and_eq_true, List.isPrefixOf_iff_prefix, List.isPrefixOf_iff_prefix]
    exact ⟨fun he => ⟨he, (List.prefix_append l e).trans he⟩, And.left⟩
  rw [Distinct, hprefix]
  exact h.sublist (List.filter_sublist.map _)

/-- Above what is in a tree there are directories. -/
theorem get?_of_append (he : e ≠ []) (h : (t.get? (l ++ e)).isSome) :
    t.get? l = some .directory := by
  induction e using List.reverseRecOn with
  | nil => exact absurd rfl he
  | append_singleton e n ih =>
    rw [← List.append_assoc] at h
    have hparent := get?_parent h
    by_cases hnil : e = []
    · rwa [hnil, List.append_nil] at hparent
    · exact ih hnil (by rw [hparent]; rfl)

/-- Below the root the entries are looked up. -/
theorem get?_eq_lookup (h : l ≠ []) : t.get? l = t.entries.lookup l := if_neg h

/-- Where nothing stands there are no entries. -/
theorem distinct_of_none (h : t.get? l = none) : t.Distinct l := by
  have hnone : (t.entries.filter fun entry => l.isPrefixOf entry.1) = [] := by
    rw [List.filter_eq_nil_iff]
    rintro ⟨k, node⟩ hmem hprefix
    obtain ⟨e, rfl⟩ := List.isPrefixOf_iff_prefix.1 hprefix
    have hne : l ≠ [] := by
      rintro rfl
      rw [get?_root] at h
      cases h
    have hsome : (t.get? (l ++ e)).isSome := by
      rw [get?_eq_lookup (by simp [hne]), List.lookup_isSome_iff]
      exact ⟨_, hmem, beq_self_eq_true (l ++ e)⟩
    by_cases he : e = []
    · rw [he, List.append_nil, h] at hsome
      cases hsome
    · rw [get?_of_append he hsome] at h
      cases h
  rw [Distinct, hnone]
  exact List.nodup_nil

/-- A walk over short names is not stopped by a name that is too long. -/
theorem walk_ne_nameTooLong {ns : List (List Char)} (h : ∀ n ∈ ns, nameSize n ≤ 255) :
    t.walk l ns ≠ .error .nameTooLong := by
  induction ns generalizing l with
  | nil => simp [walk]
  | cons n ns ih =>
    rw [List.forall_mem_cons] at h
    rw [walk]
    split
    · rw [if_neg (Nat.not_lt.2 h.1)]
      exact ih h.2
    · simp
    · simp

/-! ## Below a place -/

/-- An entry as a listing of a place gives it, if it is below that place. -/
def listed? (l : Location) (entry : Location × Node) : Option (Location × Node) :=
  if l.isPrefixOf entry.1 && l.length < entry.1.length then some (entry.1.drop l.length, entry.2)
  else none

theorem below_eq (t : Tree) (l : Location) : t.below l = t.entries.filterMap (listed? l) := rfl

/-- It gives the names that lead there. -/
theorem listed?_eq_some_iff {entry : Location × Node} :
    listed? l entry = some (e, node) ↔ e ≠ [] ∧ entry = (l ++ e, node) := by
  obtain ⟨k, node'⟩ := entry
  rw [listed?, Option.ite_none_right_eq_some, Bool.and_eq_true, List.isPrefixOf_iff_prefix,
    decide_eq_true_eq]
  constructor
  · rintro ⟨⟨⟨e, rfl⟩, hlength⟩, heq⟩
    rw [List.drop_left] at heq
    cases heq
    refine ⟨?_, rfl⟩
    rintro rfl
    simp at hlength
  · rintro ⟨he, heq⟩
    cases heq
    rw [List.drop_left, List.length_append]
    exact ⟨⟨List.prefix_append l e, Nat.lt_add_of_pos_right (List.length_pos_iff.2 he)⟩, rfl⟩

/-- Where there is one entry for each place, it is what stands there. -/
theorem mem_entries_iff (h : t.Distinct l) (he : e ≠ []) :
    (l ++ e, node) ∈ t.entries ↔ t.get? (l ++ e) = some node := by
  have hprefix : l.isPrefixOf (l ++ e) = true :=
    List.isPrefixOf_iff_prefix.2 (List.prefix_append l e)
  have hlookup := @lookup_filter l.isPrefixOf (l ++ e) hprefix t.entries
  rw [get?_eq_lookup (by simp [he]), ← hlookup]
  constructor
  · intro hmem
    exact lookup_eq_some_of_mem h (List.mem_filter.2 ⟨hmem, hprefix⟩)
  · intro hsome
    obtain ⟨l₁, l₂, heq, -⟩ := List.lookup_eq_some_iff.1 hsome
    have hmem : (l ++ e, node) ∈ t.entries.filter fun entry => l.isPrefixOf entry.1 := by
      rw [heq]
      exact List.mem_append_right l₁ List.mem_cons_self
    exact (List.mem_filter.1 hmem).1

/-- A listing finds what stands below a place. -/
theorem mem_below (h : t.Distinct l) :
    (e, node) ∈ t.below l ↔ e ≠ [] ∧ t.get? (l ++ e) = some node := by
  rw [below_eq, List.mem_filterMap]
  simp only [listed?_eq_some_iff]
  constructor
  · rintro ⟨entry, hmem, he, rfl⟩
    exact ⟨he, (mem_entries_iff h he).1 hmem⟩
  · rintro ⟨he, hget⟩
    exact ⟨_, (mem_entries_iff h he).2 hget, he, rfl⟩

/-- It finds everything once. -/
theorem nodup_below (h : t.Distinct l) : (t.below l).Nodup := by
  have hbelow : t.below l =
      (t.entries.filter fun entry => l.isPrefixOf entry.1).filterMap (listed? l) := by
    rw [below_eq, List.filterMap_filter]
    apply List.filterMap_congr
    intro entry _
    by_cases hprefix : l.isPrefixOf entry.1 = true
    · rw [if_pos hprefix]
    · rw [if_neg hprefix, listed?, eq_false_of_ne_true hprefix]
      rfl
  rw [hbelow]
  refine List.Nodup.filterMap ?_ (List.Nodup.of_map _ h)
  rintro entry entry' ⟨e, node⟩ he he'
  rw [(listed?_eq_some_iff.1 he).2, (listed?_eq_some_iff.1 he').2]

end Tree

/-- One name is added to a path where its parent is that path. -/
theorem Path.names_parent_descend_iff {p : Path} {ns : List (List Char)}
    (h : ∀ n ∈ ns, Path.isName n = true) (hne : ns ≠ []) :
    (p.descend ns).parent.names = p.names ↔ ns.length = 1 := by
  have hlength := List.length_pos_iff.2 hne
  show (p.descend ns).names.dropLast = p.names ↔ _
  rw [Path.names_descend h, List.dropLast_append_of_ne_nil hne, List.append_right_eq_self,
    ← List.length_eq_zero_iff, List.length_dropLast]
  omega

namespace Project

variable {p q : Project} {path root : Path} {l : Location} {e : List (List Char)} {node : Node}
  {problem : FileProblem}

/-! ## Writing puts nodes into the tree -/

theorem puts_putAt (h : p.putAt l node problem = .ok q) : p.tree.Puts q.tree := by
  rw [putAt] at h
  split at h
  · cases h
  · split at h
    · next hput =>
      cases h
      rw [Tree.put?] at hput
      split at hput
      · next hdir =>
        split at hput
        · next hnode =>
          cases hput
          exact Tree.Puts.refl.put _ _ node hdir hnode
        · cases hput
      · cases hput
    · cases h

theorem puts_makeDirectory (h : p.makeDirectory path = .ok q) : p.tree.Puts q.tree := by
  rw [makeDirectory] at h
  split at h
  · cases h
  · split at h
    · cases h
    · exact puts_putAt h

theorem puts_ensureDirectory (p : Project) (path : Path) :
    p.tree.Puts (p.ensureDirectory path).1.tree := by
  rw [ensureDirectory]
  split
  · next hq => exact puts_makeDirectory hq
  · exact .refl

theorem puts_ensureDirectories (p : Project) (path : Path) :
    p.tree.Puts (p.ensureDirectories path).1.tree := by
  fun_induction Project.ensureDirectories p path with
  | case1 path q hq => exact puts_makeDirectory hq
  | case2 path _ _ => exact .refl
  | case3 path _ _ q fault hq ih =>
    rw [hq] at ih
    exact ih
  | case4 path _ _ q hq ih =>
    rw [hq] at ih
    exact ih.trans (puts_ensureDirectory q path)
  | case5 path problem _ _ => exact .refl

theorem puts_writeFile (p : Project) (path : Path) (content : ByteArray) :
    p.tree.Puts (p.writeFile path content).1.tree := by
  have hdirs := p.puts_ensureDirectories path.parent
  rw [writeFile]
  split
  · next q fault hq =>
    rw [hq] at hdirs
    exact hdirs
  · next q hq =>
    rw [hq] at hdirs
    rcases q.writeBytes_cases path content with ⟨fault, he⟩ | ⟨r, he, -, -, hr⟩
    · rwa [he]
    · rw [he]
      exact hdirs.trans (puts_putAt hr)

/-! ## Places below a path -/

/-- On the way down to a directory there are directories. -/
theorem directory_of_prefix {root : Path} {ns : List (List Char)} (hdown : Path.LeadsDown ns)
    (h : p.stat (root.descend ns) = .ok .directory) (he : e <+: ns) :
    p.tree.get? (p.place root ++ e) = some .directory :=
  (stat_eq_directory_iff.1 h).2 _ ((mem_way_descend hdown).2 (.inr ⟨e, he, rfl⟩))

/-- What is below the place of a path that leads down is not on its way. -/
theorem not_mem_way_append {path : Path} (hdown : Tree.Downward path.names) (he : e ≠ []) :
    p.place path ++ e ∉ p.way path := by
  intro h
  obtain ⟨e', he', heq⟩ := (Tree.mem_way_of_downward hdown).1 h
  have hplace : p.place path = p.start path ++ path.names := Tree.goal_of_downward hdown
  rw [hplace, List.append_assoc] at heq
  have hlength := congrArg List.length (List.append_cancel_left heq)
  have hpos := List.length_pos_iff.2 he
  have hle := he'.length_le
  rw [List.length_append] at hlength
  omega

/-! ## Paths that lead nowhere -/

/-- Where names lead down to something, they pass directories. -/
theorem directory_of_mem_passed {t : Tree} {ns : List (List Char)} {k : Location}
    (hdown : Tree.Downward ns) (h : (t.get? (l ++ ns)).isSome) (hk : k ∈ Tree.passed l ns) :
    t.get? k = some .directory := by
  induction ns generalizing l with
  | nil => exact absurd hk List.not_mem_nil
  | cons n ns ih =>
    have hnext : Tree.next l n = l ++ [n] := if_neg (hdown n List.mem_cons_self)
    rw [Tree.passed, hnext] at hk
    rcases List.mem_cons.1 hk with rfl | hk
    · exact Tree.get?_of_append (List.cons_ne_nil n ns) h
    · refine ih (fun m hm => hdown m (List.mem_cons_of_mem n hm)) ?_ hk
      rwa [List.append_assoc]

/-- If a path that leads down leads to nothing, nothing is in its place. -/
theorem get?_place_eq_none (hfits : path.Fits) (hdown : Tree.Downward path.names)
    (habsent : ∀ node, p.stat path ≠ .ok node) : p.tree.get? (p.place path) = none := by
  rw [Option.eq_none_iff_forall_ne_some]
  intro node hnode
  have hplace : p.place path = p.start path ++ path.names := Tree.goal_of_downward hdown
  refine habsent node (stat_eq_ok_iff.2 ⟨hfits, fun m hm => ?_, hnode⟩)
  exact directory_of_mem_passed hdown (by rw [← hplace, hnode]; rfl) hm

/-- A short path is not found to be too long. -/
theorem isDirectory_of_absent (hfits : path.Fits) (habsent : ∀ node, p.stat path ≠ .ok node) :
    p.isDirectory path = .ok false := by
  have hresolve : p.resolve path ≠ .error .nameTooLong := by
    have hnull : ¬ path.names.any (·.contains '\x00') = true := by
      simpa using hfits.nullFree
    rw [resolve, if_neg hnull, if_neg (Nat.not_le.2 hfits.size)]
    exact Tree.walk_ne_nameTooLong hfits.nameSize
  have hstat : p.stat path ≠ .error .nameTooLong := by
    rw [stat]
    split
    · next problem hproblem => exact fun h => hresolve (hproblem.trans (by cases h; rfl))
    · split <;> simp
  rw [isDirectory, isAt]
  split
  · next node hnode => exact absurd hnode (habsent node)
  · next hlong => exact absurd hlong hstat
  · rfl

/-- What a path leads to is in a directory. -/
theorem stat_parent (hne : path.names ≠ []) (h : p.stat path = .ok node) :
    p.stat path.parent = .ok .directory := by
  obtain ⟨hfits, hpassed, -⟩ := stat_eq_ok_iff.1 h
  rw [(way_eq_parent hne).1] at hpassed
  exact stat_eq_directory_iff.2 ⟨hfits.parent, hpassed⟩

/-! ## Listing -/

/-- Nothing is listed where nothing is. -/
theorem directories_of_absent (hfits : root.Fits) (habsent : ∀ node, p.stat root ≠ .ok node) :
    p.directories root = .ok [] := by
  rw [directories, descendants, isDirectory_of_absent hfits habsent]
  rfl

/-- A listing of a directory gives all that is below it. -/
theorem exists_descendants (h : p.stat root = .ok .directory) :
    ∃ found : List (Location × Node), found.Perm (p.tree.below (p.place root)) ∧
      p.descendants root = .ok (found.map fun entry => (root.descend entry.1, entry.2)) := by
  obtain ⟨hfits, hpassed, -⟩ := stat_eq_ok_iff.1 h
  have hresolve : p.resolve root = .ok (p.place root) :=
    resolve_eq_ok_iff.2 ⟨hfits, hpassed, rfl⟩
  refine ⟨(p.tree.below (p.place root)).mergeSort fun a b => Tree.comesBefore a.1 b.1,
    List.mergeSort_perm _ _, ?_⟩
  simp only [descendants, isDirectory_eq_true_iff.2 h, hresolve]

/-- What is in a file. -/
def content? : Location × Node → Option (Location × ByteArray)
  | (e, .file content) => some (e, content)
  | (_, .directory) => none

theorem content?_eq_some_iff {entry : Location × Node} {e : Location} {content : ByteArray} :
    content? entry = some (e, content) ↔ entry = (e, .file content) := by
  obtain ⟨e', node⟩ := entry
  cases node with
  | file content' => simp [content?]
  | directory => simp [content?]

/-- The files of a directory are those that stand below it. -/
theorem exists_files (h : p.stat root = .ok .directory) (hdistinct : p.tree.Distinct (p.place root))
    {contents : List (Location × ByteArray)} (hnodup : contents.Nodup)
    (hmem : ∀ e content, (e, content) ∈ contents ↔
      p.tree.get? (p.place root ++ e) = some (.file content)) :
    ∃ files : List (Path × ByteArray), p.files root = .ok files ∧
      (files.map (·.2)).Perm (contents.map (·.2)) := by
  obtain ⟨found, hperm, hfound⟩ := exists_descendants h
  have hplace : p.tree.get? (p.place root) = some .directory := (stat_eq_ok_iff.1 h).2.2
  refine ⟨_, by rw [files, hfound, Except.map], ?_⟩
  have hbelow : ((p.tree.below (p.place root)).filterMap content?).Perm contents := by
    rw [List.perm_ext_iff_of_nodup _ hnodup]
    · rintro ⟨e, content⟩
      rw [List.mem_filterMap, hmem]
      constructor
      · rintro ⟨entry, hentry, heq⟩
        rw [content?_eq_some_iff.1 heq, Tree.mem_below hdistinct] at hentry
        exact hentry.2
      · intro hget
        refine ⟨(e, .file content), (Tree.mem_below hdistinct).2 ⟨?_, hget⟩, rfl⟩
        rintro rfl
        rw [List.append_nil, hplace] at hget
        cases hget
    · refine (Tree.nodup_below hdistinct).filterMap ?_
      rintro entry entry' ⟨e, content⟩ he he'
      rw [content?_eq_some_iff.1 he, content?_eq_some_iff.1 he']
  refine .trans (.of_eq ?_) (((hperm.filterMap content?).trans hbelow).map (·.2))
  rw [List.filterMap_map, List.map_filterMap, List.map_filterMap]
  apply List.filterMap_congr
  rintro ⟨e, node⟩ -
  cases node <;> rfl

/-- The name of a directory that is listed directly. -/
def directoryName? : Location × Node → Option (List Char)
  | ([n], .directory) => some n
  | _ => none

theorem directoryName?_eq_some_iff {entry : Location × Node} {n : List Char} :
    directoryName? entry = some n ↔ entry = ([n], .directory) := by
  constructor
  · intro h
    unfold directoryName? at h
    split at h
    · cases h
      rfl
    · cases h
  · rintro rfl
    rfl

/-- The directories in a directory are those that stand in it. -/
theorem exists_directories (h : p.stat root = .ok .directory)
    (hdistinct : p.tree.Distinct (p.place root))
    (hnames : ∀ e node, p.tree.get? (p.place root ++ e) = some node →
      ∀ n ∈ e, Path.isName n = true)
    {names : List (List Char)} (hnodup : names.Nodup)
    (hmem : ∀ n, n ∈ names ↔ p.tree.get? (p.place root ++ [n]) = some .directory) :
    ∃ directories : List Path, p.directories root = .ok directories ∧
      directories.Perm (names.map fun n => root.descend [n]) := by
  obtain ⟨found, hperm, hfound⟩ := exists_descendants h
  refine ⟨_, by rw [directories, hfound, Except.map], ?_⟩
  have hbelow : ((p.tree.below (p.place root)).filterMap directoryName?).Perm names := by
    rw [List.perm_ext_iff_of_nodup _ hnodup]
    · intro n
      rw [List.mem_filterMap, hmem]
      constructor
      · rintro ⟨entry, hentry, heq⟩
        rw [directoryName?_eq_some_iff.1 heq, Tree.mem_below hdistinct] at hentry
        exact hentry.2
      · intro hget
        exact ⟨_, (Tree.mem_below hdistinct).2 ⟨List.cons_ne_nil n [], hget⟩, rfl⟩
    · refine (Tree.nodup_below hdistinct).filterMap ?_
      rintro entry entry' n hn hn'
      rw [directoryName?_eq_some_iff.1 hn, directoryName?_eq_some_iff.1 hn']
  refine .trans (.of_eq ?_)
    (((hperm.filterMap directoryName?).trans hbelow).map fun n => root.descend [n])
  rw [List.filterMap_map, List.map_filterMap]
  apply List.filterMap_congr
  rintro ⟨e, node⟩ hentry
  obtain ⟨hne, hget⟩ := (Tree.mem_below hdistinct).1 (hperm.mem_iff.1 hentry)
  have hparent := Path.names_parent_descend_iff (p := root) (hnames e node hget) hne
  rcases e with - | ⟨n, - | ⟨m, e⟩⟩
  · exact absurd rfl hne
  · cases node with
    | directory => exact if_pos (hparent.2 rfl)
    | file content => rfl
  · cases node with
    | directory => exact if_neg fun h => absurd (hparent.1 h) (by simp)
    | file content => rfl

end Project

end FeatureGen

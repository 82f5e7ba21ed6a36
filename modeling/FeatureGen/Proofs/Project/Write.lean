import FeatureGen.Proofs.Project.Walk

/-!
# What writing changes

Operations that write change a project at few places and in few ways (`Project.Extends`): a
directory may be made where nothing was, and a file may be written where no directory was.  So
nothing is ever removed, and a path that leads to a directory leads to it ever after
(`Extends.stat_directory`).

Making a directory with those it is in changes the project on the way of its path alone
(`extends_ensureDirectories`), and writing a file changes that place besides (`extends_writeFile`).
Both succeed exactly if the path fits and no obstacle stands on the way
(`ensureDirectories_eq_none_iff`, `writeFile_eq_none_iff`).
-/

namespace FeatureGen

/-- How what stands at a place may change, where directories may be made at some places and files
written at some. -/
inductive Change (dirs files : Location → Prop) (k : Location) : Option Node → Option Node → Prop
  /-- It stays. -/
  | keep {a : Option Node} : Change dirs files k a a
  /-- A directory is made where nothing was. -/
  | make (hk : dirs k) : Change dirs files k none (some .directory)
  /-- A file is written where no directory was. -/
  | write {a : Option Node} {content : ByteArray} (hk : files k) (ha : a ≠ some .directory) :
    Change dirs files k a (some (.file content))

namespace Change

variable {dirs files dirs' files' : Location → Prop} {k : Location} {a b c : Option Node}

theorem trans (h : Change dirs files k a b) (h' : Change dirs files k b c) :
    Change dirs files k a c := by
  cases h with
  | keep => exact h'
  | make hk =>
    cases h' with
    | keep => exact .make hk
    | write hfile hne => exact absurd rfl hne
  | write hk ha =>
    cases h' with
    | keep => exact .write hk ha
    | write hfile hne => exact .write hfile ha

theorem mono (h : Change dirs files k a b) (hdirs : dirs k → dirs' k)
    (hfiles : files k → a ≠ some .directory → files' k) : Change dirs' files' k a b := by
  cases h with
  | keep => exact .keep
  | make hk => exact .make (hdirs hk)
  | write hk ha => exact .write (hfiles hk ha) ha

/-- A directory stays a directory. -/
theorem eq_directory (h : Change dirs files k (some .directory) b) : b = some .directory := by
  cases h with
  | keep => rfl
  | write hk ha => exact absurd rfl ha

end Change

namespace Project

/-- One project comes from another by making directories and writing files at the given places. -/
structure Extends (dirs files : Location → Prop) (p q : Project) : Prop where
  cwd_eq : q.cwd = p.cwd
  change : ∀ k, Change dirs files k (p.tree.get? k) (q.tree.get? k)

variable {p q r : Project} {path : Path} {k l : Location}
  {dirs files dirs' files' : Location → Prop} {content : ByteArray} {problem : FileProblem}
  {node : Node}

namespace Extends

theorem refl (p : Project) : Extends dirs files p p := ⟨rfl, fun _ => .keep⟩

theorem trans (h : Extends dirs files p q) (h' : Extends dirs files q r) :
    Extends dirs files p r where
  cwd_eq := h'.cwd_eq.trans h.cwd_eq
  change := fun k => (h.change k).trans (h'.change k)

/-- Of the places where files may be written, those of directories do not count. -/
theorem mono (h : Extends dirs files p q) (hdirs : ∀ k, dirs k → dirs' k)
    (hfiles : ∀ k, files k → p.tree.get? k ≠ some .directory → files' k) :
    Extends dirs' files' p q where
  cwd_eq := h.cwd_eq
  change := fun k => (h.change k).mono (hdirs k) (hfiles k)

theorem start_eq (h : Extends dirs files p q) (path : Path) : q.start path = p.start path := by
  rw [start, start, h.cwd_eq]

theorem place_eq (h : Extends dirs files p q) (path : Path) : q.place path = p.place path := by
  rw [place, place, h.start_eq]

theorem way_eq (h : Extends dirs files p q) (path : Path) : q.way path = p.way path := by
  rw [way, way, h.start_eq]

theorem directory (h : Extends dirs files p q) (hk : p.tree.get? k = some .directory) :
    q.tree.get? k = some .directory := by
  have hchange := h.change k
  rw [hk] at hchange
  exact hchange.eq_directory

/-- A directory was there before or was made. -/
theorem directory_or (h : Extends dirs files p q) (hk : q.tree.get? k = some .directory) :
    p.tree.get? k = some .directory ∨ dirs k := by
  have hchange := h.change k
  rw [hk] at hchange
  generalize p.tree.get? k = a at hchange
  cases hchange with
  | keep => exact .inl rfl
  | make hdir => exact .inr hdir

/-- Where no file is written, what is there stays. -/
theorem get?_eq_some (h : Extends dirs files p q) (hk : ¬ files k)
    (hnode : p.tree.get? k = some node) : q.tree.get? k = some node := by
  have hchange := h.change k
  rw [hnode] at hchange
  generalize q.tree.get? k = b at hchange
  cases hchange with
  | keep => rfl
  | write hfile hne => exact absurd hfile hk

/-- Away from the given places nothing changes. -/
theorem get?_eq (h : Extends dirs files p q) (hdirs : ¬ dirs k) (hfiles : ¬ files k) :
    q.tree.get? k = p.tree.get? k := by
  have hchange := h.change k
  generalize q.tree.get? k = b at hchange
  generalize p.tree.get? k = a at hchange
  cases hchange with
  | keep => rfl
  | make hk => exact absurd hk hdirs
  | write hk ha => exact absurd hk hfiles

/-- A place is as it was, or a directory was made where nothing was, or a file was written. -/
theorem get?_cases (h : Extends dirs files p q) (k : Location) :
    q.tree.get? k = p.tree.get? k ∨
      (dirs k ∧ p.tree.get? k = none ∧ q.tree.get? k = some .directory) ∨
      (files k ∧ ∃ content, q.tree.get? k = some (.file content)) := by
  have hchange := h.change k
  generalize p.tree.get? k = a at hchange
  generalize q.tree.get? k = b at hchange
  cases hchange with
  | keep => exact .inl rfl
  | make hk => exact .inr (.inl ⟨hk, rfl, rfl⟩)
  | write hk ha => exact .inr (.inr ⟨hk, _, rfl⟩)

/-- Nothing changes at all if the directories were there and the files stay the same. -/
theorem unchanged (h : Extends dirs files p q)
    (hdirs : ∀ k, dirs k → p.tree.get? k = some .directory)
    (hfiles : ∀ k, files k → q.tree.get? k = p.tree.get? k) :
    Extends (fun _ => False) (fun _ => False) p q := by
  refine ⟨h.cwd_eq, fun k => ?_⟩
  have heq : q.tree.get? k = p.tree.get? k := by
    by_cases hk : files k
    · exact hfiles k hk
    · by_cases hdir : dirs k
      · rw [hdirs k hdir, h.directory (hdirs k hdir)]
      · exact h.get?_eq hdir hk
  rw [heq]
  exact .keep

/-- A place that is clear afterwards was so before. -/
theorem isClear (h : Extends dirs files p q) (hk : q.tree.IsClear k) : p.tree.IsClear k := by
  have hchange := h.change k
  rw [Tree.IsClear] at hk ⊢
  generalize q.tree.get? k = b at hchange hk
  generalize p.tree.get? k = a at hchange
  cases hchange with
  | keep => exact hk
  | make hdir => exact .inl rfl
  | write hfile ha =>
    rcases hk with hk | hk
    · cases hk
    · cases hk

/-- A place where no file is written stays clear. -/
theorem isClear_of_not_file (h : Extends dirs files p q) (hfile : ¬ files k)
    (hk : p.tree.IsClear k) : q.tree.IsClear k := by
  have hchange := h.change k
  rw [Tree.IsClear] at hk ⊢
  generalize q.tree.get? k = b at hchange
  generalize p.tree.get? k = a at hchange hk
  cases hchange with
  | keep => exact hk
  | make hdir => exact .inr rfl
  | write hk' ha => exact absurd hk' hfile

end Extends

/-! ## What stands at a path -/

theorem stat_eq_ok_iff :
    p.stat path = .ok node ↔
      path.Fits ∧ (∀ m ∈ Tree.passed (p.start path) path.names, p.tree.get? m = some .directory) ∧
        p.tree.get? (p.place path) = some node := by
  have hresolve : p.stat path = .ok node ↔
      p.resolve path = .ok (p.place path) ∧ p.tree.get? (p.place path) = some node := by
    rw [stat]
    cases hr : p.resolve path with
    | error problem => simp
    | ok l =>
      obtain ⟨-, -, rfl⟩ := resolve_eq_ok_iff.1 hr
      cases hplace : p.tree.get? (p.place path) <;> simp [hplace]
  rw [hresolve, resolve_eq_ok_iff]
  simp [and_assoc]

/-- A path leads to a directory if there are directories all the way to it. -/
theorem stat_eq_directory_iff :
    p.stat path = .ok .directory ↔
      path.Fits ∧ ∀ m ∈ p.way path, p.tree.get? m = some .directory := by
  rw [stat_eq_ok_iff, way, Tree.way, List.forall_mem_append, List.forall_mem_singleton]
  rfl

/-- A path that leads to a directory leads to it ever after. -/
theorem Extends.stat_directory (h : Extends dirs files p q) (hstat : p.stat path = .ok .directory) :
    q.stat path = .ok .directory := by
  rw [stat_eq_directory_iff] at hstat ⊢
  rw [h.way_eq]
  exact ⟨hstat.1, fun m hm => h.directory (hstat.2 m hm)⟩

/-- So does a path that leads to a place where no file is written. -/
theorem Extends.stat_eq_ok (h : Extends dirs files p q) (hfile : ¬ files (p.place path))
    (hstat : p.stat path = .ok node) : q.stat path = .ok node := by
  rw [stat_eq_ok_iff] at hstat ⊢
  obtain ⟨hfits, hpassed, hnode⟩ := hstat
  rw [h.start_eq, h.place_eq]
  exact ⟨hfits, fun m hm => h.directory (hpassed m hm), h.get?_eq_some hfile hnode⟩

theorem isDirectory_eq_true_iff : p.isDirectory path = .ok true ↔ p.stat path = .ok .directory := by
  rw [isDirectory, isAt]
  cases hs : p.stat path with
  | error problem => cases problem <;> simp
  | ok node => cases node <;> simp

/-! ## Making a single directory -/

theorem putAt_eq_ok (h : p.putAt l node problem = .ok q) :
    q.cwd = p.cwd ∧ ∀ k, q.tree.get? k = if k = l then some node else p.tree.get? k := by
  rw [putAt] at h
  split at h
  · cases h
  · next n hn =>
    have hl : l = l.dropLast ++ [n] :=
      List.getLast?_eq_some_iff.1 hn |>.elim fun ys hys => by rw [hys, List.dropLast_concat]
    split at h
    · next tree hput =>
      cases h
      rw [Tree.put?] at hput
      split at hput
      · split at hput
        · cases hput
          refine ⟨rfl, fun k => ?_⟩
          rw [Tree.get?_put, ← hl]
        · cases hput
      · cases hput
    · cases h

/-- A node can be put below a directory, where it replaces no other directory. -/
theorem exists_putAt (hne : l ≠ []) (hdir : p.tree.get? l.dropLast = some .directory)
    (hnode : p.tree.get? l = some .directory → node = .directory) (problem : FileProblem) :
    ∃ q, p.putAt l node problem = .ok q := by
  have hl : l = l.dropLast ++ [l.getLast hne] := (List.dropLast_concat_getLast hne).symm
  have hnode' : p.tree.get? (l.dropLast ++ [l.getLast hne]) = some .directory → node = .directory :=
    fun h => hnode (hl ▸ h)
  refine ⟨{ p with tree := p.tree.put l.dropLast (l.getLast hne) node hdir hnode' }, ?_⟩
  rw [putAt, List.getLast?_eq_some_getLast hne]
  simp only [Tree.put?, dif_pos hdir, dif_pos hnode']

theorem makeDirectory_eq_ok (h : p.makeDirectory path = .ok q) :
    p.Extends (· = p.place path) (fun _ => False) q ∧ q.stat path = .ok .directory := by
  rw [makeDirectory] at h
  split at h
  · cases h
  · next l hl =>
    obtain ⟨hfits, hpassed, rfl⟩ := resolve_eq_ok_iff.1 hl
    split at h
    · cases h
    · next hnone =>
      obtain ⟨hcwd, hget⟩ := putAt_eq_ok h
      have hextends : p.Extends (· = p.place path) (fun _ => False) q := by
        refine ⟨hcwd, fun k => ?_⟩
        rw [hget]
        split
        · next hk =>
          rw [hk, hnone]
          exact .make rfl
        · exact .keep
      refine ⟨hextends, ?_⟩
      rw [stat_eq_ok_iff, hextends.start_eq, hextends.place_eq]
      exact ⟨hfits, fun m hm => hextends.directory (hpassed m hm), by rw [hget, if_pos rfl]⟩

/-- The parent of the place that a path leads to is a directory, if a name leads there and nothing
is there yet. -/
theorem directory_dropLast_place (hne : path.names ≠ [])
    (hpassed : ∀ m ∈ Tree.passed (p.start path) path.names, p.tree.get? m = some .directory)
    (hplace : p.tree.get? (p.place path) ≠ some .directory) :
    p.place path ≠ [] ∧ p.tree.get? (p.place path).dropLast = some .directory := by
  obtain ⟨ns, n, hnames⟩ : ∃ ns n, path.names = ns ++ [n] :=
    ⟨_, _, (List.dropLast_concat_getLast hne).symm⟩
  rw [hnames, Tree.passed_concat] at hpassed
  have hgoal : p.tree.get? (Tree.goal (p.start path) ns) = some .directory :=
    hpassed _ (Tree.goal_mem_way _ _)
  rw [place, hnames, Tree.goal_concat, Tree.next] at hplace ⊢
  split at hplace
  · exact absurd (Tree.get?_dropLast hgoal) hplace
  · next hup =>
    rw [if_neg hup, List.dropLast_concat]
    exact ⟨by simp, hgoal⟩

/-- If nothing is amiss on the way, a directory is made, or is there already, or its parent is
missing. -/
theorem makeDirectory_of_isClear (hstart : p.tree.get? (p.start path) = some .directory)
    (hfits : path.Fits) (hclear : ∀ m ∈ p.way path, p.tree.IsClear m) :
    (∃ q, p.makeDirectory path = .ok q) ∨
      (p.makeDirectory path = .error .alreadyExists ∧ p.stat path = .ok .directory) ∨
      (p.makeDirectory path = .error .notFound ∧ path.names ≠ [] ∧
        p.resolve path = .error .notFound) := by
  have hpassed : ∀ m ∈ Tree.passed (p.start path) path.names, p.tree.IsClear m :=
    fun m hm => hclear m (Tree.mem_way_of_mem_passed hm)
  rcases resolve_of_isClear hfits hpassed with hresolve | hresolve
  · obtain ⟨-, hdirs, -⟩ := resolve_eq_ok_iff.1 hresolve
    rcases hclear _ (p.place_mem_way path) with hplace | hplace
    · have hne : path.names ≠ [] := by
        intro hnil
        rw [place, hnil] at hplace
        exact absurd (hplace.symm.trans hstart) (by simp)
      obtain ⟨hroot, hparent⟩ := directory_dropLast_place hne hdirs (by rw [hplace]; simp)
      obtain ⟨q, hq⟩ : ∃ q, p.putAt (p.place path) .directory .notFound = .ok q :=
        exists_putAt hroot hparent (fun _ => rfl) .notFound
      exact .inl ⟨q, by simp only [makeDirectory, hresolve, hplace, hq]⟩
    · refine .inr (.inl ⟨by simp only [makeDirectory, hresolve, hplace], ?_⟩)
      exact stat_eq_ok_iff.2 ⟨hfits, hdirs, hplace⟩
  · refine .inr (.inr ⟨by simp only [makeDirectory, hresolve], ?_, hresolve⟩)
    intro hnil
    have hok : p.resolve path = .ok (p.place path) :=
      resolve_eq_ok_iff.2 ⟨hfits, by rw [hnil]; simp [Tree.passed], rfl⟩
    rw [hok] at hresolve
    cases hresolve

/-- If there is no fault, the directory is there. -/
theorem stat_of_directoryFault? (h : p.directoryFault? path problem = none) :
    p.stat path = .ok .directory := by
  unfold directoryFault? at h
  split at h
  · cases h
  · cases h
  · split at h
    · next htrue => exact isDirectory_eq_true_iff.1 htrue
    · cases h
    · cases h

theorem extends_ensureDirectory (p : Project) (path : Path) :
    p.Extends (· = p.place path) (fun _ => False) (p.ensureDirectory path).1 := by
  rw [ensureDirectory]
  split
  · next q hq => exact (makeDirectory_eq_ok hq).1
  · exact .refl p

theorem stat_ensureDirectory (h : (p.ensureDirectory path).2 = none) :
    (p.ensureDirectory path).1.stat path = .ok .directory := by
  rw [ensureDirectory] at h ⊢
  split
  · next q hq => exact (makeDirectory_eq_ok hq).2
  · next problem hproblem =>
    rw [hproblem] at h
    exact stat_of_directoryFault? h

/-- A single directory is made below directories if no file is in its place. -/
theorem ensureDirectory_eq_none (hstart : p.tree.get? (p.start path) = some .directory)
    (hfits : path.Fits)
    (hpassed : ∀ m ∈ Tree.passed (p.start path) path.names, p.tree.get? m = some .directory)
    (hplace : p.tree.IsClear (p.place path)) : (p.ensureDirectory path).2 = none := by
  have hclear : ∀ m ∈ p.way path, p.tree.IsClear m := by
    rw [way, Tree.way, List.forall_mem_append, List.forall_mem_singleton]
    exact ⟨fun m hm => Tree.isClear_of_directory (hpassed m hm), hplace⟩
  rcases makeDirectory_of_isClear hstart hfits hclear with
    ⟨q, hq⟩ | ⟨hmake, hstat⟩ | ⟨-, -, hresolve⟩
  · rw [ensureDirectory, hq]
  · have hdir : p.isDirectory path = .ok true := isDirectory_eq_true_iff.2 hstat
    simp only [ensureDirectory, hmake, directoryFault?, hdir]
  · rw [resolve_eq_ok_iff.2 ⟨hfits, hpassed, rfl⟩] at hresolve
    cases hresolve

/-! ## Making directories -/

/-- The way of a path goes on from that of its parent. -/
theorem way_eq_parent (hne : path.names ≠ []) :
    Tree.passed (p.start path) path.names = p.way path.parent ∧
      p.way path = p.way path.parent ++ [p.place path] := by
  have hnames : path.names = path.parent.names ++ [path.names.getLast hne] :=
    (List.dropLast_concat_getLast hne).symm
  have hpassed : Tree.passed (p.start path) path.names = p.way path.parent := by
    rw [hnames, Tree.passed_concat]
    rfl
  exact ⟨hpassed, by rw [way, Tree.way, hpassed]; rfl⟩

/-- Making a directory with those it is in makes directories on its way and does nothing else. -/
theorem extends_ensureDirectories (p : Project) (path : Path) :
    p.Extends (· ∈ p.way path) (fun _ => False) (p.ensureDirectories path).1 := by
  -- The directory is made at once; or something is missing, and there is no parent to make, or it
  -- cannot be made, or the directory is made in it; or there is another problem.
  fun_induction Project.ensureDirectories p path with
  | case1 path q hq =>
    refine (makeDirectory_eq_ok hq).1.mono ?_ fun _ h _ => h
    rintro k rfl
    exact p.place_mem_way path
  | case2 path _ _ => exact .refl p
  | case3 path _ hne q fault hq ih =>
    rw [hq] at ih
    refine ih.mono (fun k hk => ?_) fun _ h _ => h
    rw [(way_eq_parent hne).2]
    exact List.mem_append_left _ hk
  | case4 path _ hne q hq ih =>
    rw [hq] at ih
    have hway := (way_eq_parent (p := p) hne).2
    have hparent : p.Extends (· ∈ p.way path) (fun _ => False) q := by
      refine ih.mono (fun k hk => ?_) fun _ h _ => h
      rw [hway]
      exact List.mem_append_left _ hk
    refine hparent.trans ((extends_ensureDirectory q path).mono ?_ fun _ h _ => h)
    rintro k rfl
    rw [hparent.place_eq]
    exact p.place_mem_way path
  | case5 path problem _ _ => exact .refl p

/-- If it succeeds, the path leads to a directory. -/
theorem stat_ensureDirectories (h : (p.ensureDirectories path).2 = none) :
    (p.ensureDirectories path).1.stat path = .ok .directory := by
  fun_induction Project.ensureDirectories p path with
  | case1 path q hq => exact (makeDirectory_eq_ok hq).2
  | case2 path _ _ => cases h
  | case3 path _ _ q fault _ _ => cases h
  | case4 path _ _ q _ _ => exact stat_ensureDirectory h
  | case5 path problem _ _ => exact stat_of_directoryFault? h

/-- If the path fits and no file stands on its way, it succeeds. -/
theorem ensureDirectories_eq_none (hstart : p.tree.get? (p.start path) = some .directory)
    (hfits : path.Fits) (hclear : ∀ m ∈ p.way path, p.tree.IsClear m) :
    (p.ensureDirectories path).2 = none := by
  have hmake := makeDirectory_of_isClear hstart hfits hclear
  fun_induction Project.ensureDirectories p path with
  | case1 path q hq => rfl
  | case2 path herror hnil =>
    rw [herror] at hmake
    rcases hmake with ⟨q, hq⟩ | ⟨hq, -⟩ | ⟨-, hne, -⟩
    · cases hq
    · cases hq
    · exact absurd hnil hne
  | case3 path _ hne q fault hq ih =>
    obtain ⟨-, hway⟩ := way_eq_parent (p := p) hne
    have hparent : ∀ m ∈ p.way path.parent, p.tree.IsClear m := fun m hm =>
      hclear m (by rw [hway]; exact List.mem_append_left _ hm)
    have hnone := ih hstart hfits.parent hparent
      (makeDirectory_of_isClear hstart hfits.parent hparent)
    rw [hq] at hnone
    cases hnone
  | case4 path _ hne q hq ih =>
    -- The parent is there now, and still no file is in the place of the directory.
    have hextends := p.extends_ensureDirectories path.parent
    have hdirs := (stat_eq_directory_iff.1 (stat_ensureDirectories (by rw [hq]))).2
    rw [hq] at hextends hdirs
    apply ensureDirectory_eq_none
    · rw [hextends.start_eq]
      exact hextends.directory hstart
    · exact hfits
    · rwa [(way_eq_parent hne).1]
    · rw [hextends.place_eq]
      exact hextends.isClear_of_not_file (fun h => h) (hclear _ (p.place_mem_way path))
  | case5 path problem hne herror =>
    rw [herror] at hmake
    rcases hmake with ⟨q, hq⟩ | ⟨hq, hstat⟩ | ⟨hq, -⟩
    · cases hq
    · cases hq
      have hdir : p.isDirectory path = .ok true := isDirectory_eq_true_iff.2 hstat
      simp only [directoryFault?, hdir]
    · cases hq
      exact absurd rfl hne

/-- Making a directory with those it is in succeeds exactly if the path fits and no file stands on
its way. -/
theorem ensureDirectories_eq_none_iff (hstart : p.tree.get? (p.start path) = some .directory) :
    (p.ensureDirectories path).2 = none ↔ path.Fits ∧ ∀ m ∈ p.way path, p.tree.IsClear m := by
  constructor
  · intro h
    obtain ⟨hfits, hdirs⟩ := stat_eq_directory_iff.1 (stat_ensureDirectories h)
    have hextends := p.extends_ensureDirectories path
    rw [hextends.way_eq] at hdirs
    exact ⟨hfits, fun m hm => hextends.isClear (Tree.isClear_of_directory (hdirs m hm))⟩
  · rintro ⟨hfits, hclear⟩
    exact ensureDirectories_eq_none hstart hfits hclear

/-! ## Writing a file -/

/-- Either there is a fault and the project stays, or the file is put where the path leads. -/
theorem writeBytes_cases (p : Project) (path : Path) (content : ByteArray) :
    (∃ fault, p.writeBytes path content = (p, some fault)) ∨
      ∃ q, p.writeBytes path content = (q, none) ∧ p.resolve path = .ok (p.place path) ∧
        p.tree.get? (p.place path) ≠ some .directory ∧
        p.putAt (p.place path) (.file content) .notFound = .ok q := by
  rw [writeBytes]
  split
  · exact .inl ⟨_, rfl⟩
  · next l hl =>
    obtain ⟨-, -, rfl⟩ := resolve_eq_ok_iff.1 hl
    split
    · exact .inl ⟨_, rfl⟩
    · next hfile =>
      split
      · next q hq => exact .inr ⟨q, rfl, hl, hfile, hq⟩
      · exact .inl ⟨_, rfl⟩

theorem extends_writeBytes (p : Project) (path : Path) (content : ByteArray) :
    p.Extends (fun _ => False) (· = p.place path) (p.writeBytes path content).1 := by
  rcases p.writeBytes_cases path content with ⟨fault, he⟩ | ⟨q, he, -, hfile, hq⟩
  · rw [he]
    exact .refl p
  · rw [he]
    obtain ⟨hcwd, hget⟩ := putAt_eq_ok hq
    refine ⟨hcwd, fun k => ?_⟩
    rw [hget]
    split
    · next hk => exact .write hk (hk ▸ hfile)
    · exact .keep

theorem stat_writeBytes (h : (p.writeBytes path content).2 = none) :
    (p.writeBytes path content).1.stat path = .ok (.file content) := by
  have hextends := p.extends_writeBytes path content
  rcases p.writeBytes_cases path content with ⟨fault, he⟩ | ⟨q, he, hresolve, -, hq⟩
  · rw [he] at h
    cases h
  · rw [he] at hextends ⊢
    obtain ⟨hfits, hpassed, -⟩ := resolve_eq_ok_iff.1 hresolve
    rw [stat_eq_ok_iff, hextends.start_eq, hextends.place_eq]
    refine ⟨hfits, fun m hm => hextends.directory (hpassed m hm), ?_⟩
    rw [(putAt_eq_ok hq).2, if_pos rfl]

/-- A file is written below directories if no directory is in its place. -/
theorem writeBytes_eq_none (hne : path.names ≠ []) (hfits : path.Fits)
    (hpassed : ∀ m ∈ Tree.passed (p.start path) path.names, p.tree.get? m = some .directory)
    (hplace : p.tree.get? (p.place path) ≠ some .directory) :
    (p.writeBytes path content).2 = none := by
  have hresolve : p.resolve path = .ok (p.place path) := resolve_eq_ok_iff.2 ⟨hfits, hpassed, rfl⟩
  obtain ⟨hroot, hparent⟩ := directory_dropLast_place hne hpassed hplace
  obtain ⟨q, hq⟩ : ∃ q, p.putAt (p.place path) (.file content) .notFound = .ok q :=
    exists_putAt hroot hparent (fun hdir => absurd hdir hplace) .notFound
  simp only [writeBytes, hresolve, hq]

/-- Writing a file with the directories it is in makes directories on the way and writes the file,
and does nothing else. -/
theorem extends_writeFile (p : Project) (path : Path) (content : ByteArray) :
    p.Extends (· ∈ p.way path.parent) (fun k => k = p.place path ∧ k ∉ p.way path.parent)
      (p.writeFile path content).1 := by
  have hdirs := p.extends_ensureDirectories path.parent
  rw [writeFile]
  split
  · next q fault hq =>
    rw [hq] at hdirs
    exact hdirs.mono (fun _ h => h) fun _ h => h.elim
  · next q hq =>
    have hstat := stat_ensureDirectories (by rw [hq])
    rw [hq] at hdirs hstat
    refine (hdirs.mono (fun _ h => h) fun _ h => h.elim).trans
      ((q.extends_writeBytes path content).mono (fun _ h => h.elim) ?_)
    rintro k rfl hne
    refine ⟨hdirs.place_eq path, fun hway => hne ?_⟩
    rw [← hdirs.way_eq] at hway
    exact (stat_eq_directory_iff.1 hstat).2 _ hway

/-- If it succeeds, the directory of the file is there. -/
theorem stat_parent_writeFile (h : (p.writeFile path content).2 = none) :
    (p.writeFile path content).1.stat path.parent = .ok .directory := by
  rw [writeFile] at h ⊢
  split at h
  · cases h
  · next q hq =>
    have hstat := stat_ensureDirectories (by rw [hq])
    rw [hq] at hstat
    exact (q.extends_writeBytes path content).stat_directory hstat

/-- If it succeeds, the path leads to the file. -/
theorem stat_writeFile (h : (p.writeFile path content).2 = none) :
    (p.writeFile path content).1.stat path = .ok (.file content) := by
  rw [writeFile] at h ⊢
  split at h
  · cases h
  · exact stat_writeBytes h

/-- Writing a file with the directories it is in succeeds exactly if the path fits, no file stands
on its way, and no directory is in its place or gets there on the way. -/
theorem writeFile_eq_none_iff (hstart : p.tree.get? (p.start path) = some .directory) :
    (p.writeFile path content).2 = none ↔
      path.Fits ∧ (∀ m ∈ p.way path.parent, p.tree.IsClear m) ∧
        p.place path ∉ p.way path.parent ∧ p.tree.get? (p.place path) ≠ some .directory := by
  constructor
  · intro h
    have hextends := p.extends_writeFile path content
    obtain ⟨hfits, hpassed, hfile⟩ := stat_eq_ok_iff.1 (stat_writeFile h)
    rw [hextends.start_eq] at hpassed
    rw [hextends.place_eq] at hfile
    have hne : path.names ≠ [] := by
      intro hnil
      rw [place, hnil] at hfile
      exact absurd ((hextends.directory hstart).symm.trans hfile) (by simp)
    rw [(way_eq_parent hne).1] at hpassed
    refine ⟨hfits, fun m hm => hextends.isClear (Tree.isClear_of_directory (hpassed m hm)), ?_, ?_⟩
    · intro hway
      exact absurd ((hpassed _ hway).symm.trans hfile) (by simp)
    · intro hdir
      exact absurd ((hextends.directory hdir).symm.trans hfile) (by simp)
  · rintro ⟨hfits, hclear, hway, hplace⟩
    have hne : path.names ≠ [] := by
      intro hnil
      rw [place, hnil] at hplace
      exact hplace hstart
    have hnone : (p.ensureDirectories path.parent).2 = none :=
      ensureDirectories_eq_none hstart hfits.parent hclear
    have hextends := p.extends_ensureDirectories path.parent
    have hdirs := (stat_eq_directory_iff.1 (stat_ensureDirectories hnone)).2
    rw [writeFile]
    split
    · next q fault hq =>
      rw [hq] at hnone
      cases hnone
    · next q hq =>
      rw [hq] at hextends hdirs
      apply writeBytes_eq_none hne hfits
      · rwa [(way_eq_parent hne).1]
      · rw [hextends.place_eq, hextends.get?_eq hway (fun h => h)]
        exact hplace

/-! ## Faults

A path without null characters is never reported to hold one. -/

theorem putAt_eq_error {problem' : FileProblem} (h : p.putAt l node problem = .error problem') :
    problem' = problem := by
  rw [putAt] at h
  split at h
  · cases h
    rfl
  · split at h
    · cases h
    · cases h
      rfl

theorem problem_ne_of_resolve (hnull : ∀ n ∈ path.names, '\x00' ∉ n)
    (h : p.resolve path = .error problem) : problem ≠ .nullCharacter := by
  rintro rfl
  exact resolve_ne_nullCharacter hnull h

theorem problem_ne_of_makeDirectory (hnull : ∀ n ∈ path.names, '\x00' ∉ n)
    (h : p.makeDirectory path = .error problem) : problem ≠ .nullCharacter := by
  rw [makeDirectory] at h
  split at h
  · next hresolve =>
    cases h
    exact problem_ne_of_resolve hnull hresolve
  · split at h
    · cases h
      exact FileProblem.noConfusion
    · rw [putAt_eq_error h]
      exact FileProblem.noConfusion

theorem problem_ne_of_directoryFault? {fault : FileFault} (hne : problem ≠ .nullCharacter)
    (h : p.directoryFault? path problem = some fault) : fault.problem ≠ .nullCharacter := by
  unfold directoryFault? at h
  split at h
  · exact absurd rfl hne
  · cases h
    exact hne
  · split at h
    · cases h
    · cases h
      exact hne
    · next hdir =>
      cases h
      rw [isDirectory, isAt] at hdir
      split at hdir
      · cases hdir
      · cases hdir
        exact FileProblem.noConfusion
      · cases hdir

theorem problem_ne_of_ensureDirectory {fault : FileFault} (hnull : ∀ n ∈ path.names, '\x00' ∉ n)
    (h : (p.ensureDirectory path).2 = some fault) : fault.problem ≠ .nullCharacter := by
  rw [ensureDirectory] at h
  split at h
  · cases h
  · next hmake =>
    exact problem_ne_of_directoryFault? (problem_ne_of_makeDirectory hnull hmake) h

theorem problem_ne_of_ensureDirectories {fault : FileFault}
    (hnull : ∀ n ∈ path.names, '\x00' ∉ n) (h : (p.ensureDirectories path).2 = some fault) :
    fault.problem ≠ .nullCharacter := by
  have hparent : ∀ n ∈ path.parent.names, '\x00' ∉ n :=
    fun n hn => hnull n (List.dropLast_subset _ hn)
  fun_induction Project.ensureDirectories p path with
  | case1 path q hq => cases h
  | case2 path _ _ =>
    cases h
    exact FileProblem.noConfusion
  | case3 path _ _ q fault' hq ih =>
    cases h
    rw [hq] at ih
    exact ih hparent rfl fun n hn => hparent n (List.dropLast_subset _ hn)
  | case4 path _ _ q _ _ => exact problem_ne_of_ensureDirectory hnull h
  | case5 path problem _ hmake =>
    exact problem_ne_of_directoryFault? (problem_ne_of_makeDirectory hnull hmake) h

theorem problem_ne_of_writeBytes {fault : FileFault} (hnull : ∀ n ∈ path.names, '\x00' ∉ n)
    (h : (p.writeBytes path content).2 = some fault) : fault.problem ≠ .nullCharacter := by
  rw [writeBytes] at h
  split at h
  · next hresolve =>
    cases h
    exact problem_ne_of_resolve hnull hresolve
  · split at h
    · cases h
      exact FileProblem.noConfusion
    · split at h
      · cases h
      · next hput =>
        cases h
        rw [putAt_eq_error hput]
        exact FileProblem.noConfusion

theorem problem_ne_of_writeFile {fault : FileFault} (hnull : ∀ n ∈ path.names, '\x00' ∉ n)
    (h : (p.writeFile path content).2 = some fault) : fault.problem ≠ .nullCharacter := by
  rw [writeFile] at h
  split at h
  · next q fault' hq =>
    cases h
    have hparent : (p.ensureDirectories path.parent).2 = some fault := by rw [hq]
    exact problem_ne_of_ensureDirectories (fun n hn => hnull n (List.dropLast_subset _ hn)) hparent
  · exact problem_ne_of_writeBytes hnull h

end Project

end FeatureGen

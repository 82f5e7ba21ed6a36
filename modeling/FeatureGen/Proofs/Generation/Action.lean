import FeatureGen.Generation.Action
import FeatureGen.Proofs.Project.Write

/-!
# What a run of actions does

An action makes directories on the way of one path and writes at most one file
(`extends_perform`), and so does a run of actions for each of its actions, whether it succeeds or
not (`extends_performAll`).

The rest is about actions that write texts.  After a run that succeeds each action is *done*: its
directory is there, or its file with its text (`done_performAll`), provided that the actions lead to
different places.  Running actions that are done succeeds and changes nothing
(`performAll_of_done`).  A run succeeds exactly if the paths fit and nothing in the file tree is in
the way of any action (`performAll_eq_none_iff`).
-/

namespace FeatureGen.Generation

variable {p q : Project} {a : Action} {actions : List Action} {k : Location}

/-! ## Places of an action -/

/-- The path that an action is about. -/
def Action.path : Action → Path
  | .write path _ => path
  | .makeDirectories path => path

/-- The directory that an action makes, with those it is in. -/
def Action.directory : Action → Path
  | .write path _ => path.parent
  | .makeDirectories path => path

/-- The action may make a directory at this place. -/
def Action.Makes (p : Project) (a : Action) (k : Location) : Prop := k ∈ p.way a.directory

/-- The action may write a file at this place. -/
def Action.Writes (p : Project) (k : Location) : Action → Prop
  | .write path _ => k = p.place path ∧ k ∉ p.way path.parent
  | .makeDirectories _ => False

/-- One of the actions may make a directory at this place. -/
def Makes (p : Project) (actions : List Action) (k : Location) : Prop := ∃ a ∈ actions, a.Makes p k

/-- One of the actions may write a file at this place. -/
def Writes (p : Project) (actions : List Action) (k : Location) : Prop :=
  ∃ a ∈ actions, a.Writes p k

theorem Action.Writes.eq_place (h : a.Writes p k) : k = p.place a.path := by
  cases a with
  | write path content => exact h.1
  | makeDirectories path => exact h.elim

section Extends

variable {dirs files : Location → Prop} (h : p.Extends dirs files q)

include h

theorem Action.makes_iff : a.Makes q k ↔ a.Makes p k := by
  rw [Action.Makes, Action.Makes, h.way_eq]

theorem Action.writes_iff : a.Writes q k ↔ a.Writes p k := by
  cases a with
  | write path content => rw [Action.Writes, Action.Writes, h.way_eq, h.place_eq]
  | makeDirectories path => rfl

theorem makes_iff : Makes q actions k ↔ Makes p actions k := by
  simp only [Makes, Action.makes_iff h]

theorem writes_iff : Writes q actions k ↔ Writes p actions k := by
  simp only [Writes, Action.writes_iff h]

end Extends

/-! ## Running actions -/

/-- An action makes directories on the way of its directory, and writes its file. -/
theorem extends_perform (p : Project) (a : Action) :
    p.Extends (a.Makes p) (a.Writes p) (perform p a).1 := by
  cases a with
  | write path content =>
    rw [perform]
    split
    · exact .refl p
    · exact p.extends_writeFile path _
  | makeDirectories path =>
    exact (p.extends_ensureDirectories path).mono (fun _ h => h) fun _ h _ => h

theorem performAll_cons_of_none (h : (perform p a).2 = none) (rest : List Action) :
    performAll p (a :: rest) = performAll (perform p a).1 rest := by
  rw [performAll]
  split
  · next q hq => rw [hq]
  · next q fault hq =>
    rw [hq] at h
    cases h

theorem performAll_cons_of_some {fault : ActionFault} (h : (perform p a).2 = some fault)
    (rest : List Action) : performAll p (a :: rest) = perform p a := by
  rw [performAll]
  split
  · next q hq =>
    rw [hq] at h
    cases h
  · next q fault hq => exact hq.symm

/-- A run succeeds if its first action does, and the others do after it. -/
theorem performAll_cons_eq_none {rest : List Action} :
    (performAll p (a :: rest)).2 = none ↔
      (perform p a).2 = none ∧ (performAll (perform p a).1 rest).2 = none := by
  cases h : (perform p a).2 with
  | none => simp [performAll_cons_of_none h]
  | some fault => simp [performAll_cons_of_some h, h]

/-- A run makes directories and writes files where its actions do, and does nothing else. -/
theorem extends_performAll (p : Project) (actions : List Action) :
    p.Extends (Makes p actions) (Writes p actions) (performAll p actions).1 := by
  induction actions generalizing p with
  | nil => exact .refl p
  | cons a rest ih =>
    have hstep : p.Extends (Makes p (a :: rest)) (Writes p (a :: rest)) (perform p a).1 :=
      (extends_perform p a).mono (fun k hk => ⟨a, List.mem_cons_self, hk⟩)
        fun k hk _ => ⟨a, List.mem_cons_self, hk⟩
    cases h : (perform p a).2 with
    | some fault => rwa [performAll_cons_of_some h]
    | none =>
      rw [performAll_cons_of_none h]
      refine hstep.trans ((ih (perform p a).1).mono (fun k hk => ?_) fun k hk _ => ?_)
      · obtain ⟨b, hb, hk⟩ := (makes_iff hstep).1 hk
        exact ⟨b, List.mem_cons_of_mem a hb, hk⟩
      · obtain ⟨b, hb, hk⟩ := (writes_iff hstep).1 hk
        exact ⟨b, List.mem_cons_of_mem a hb, hk⟩

/-! ## Actions that are done -/

/-- The action writes a text or makes a directory. -/
inductive Action.IsText : Action → Prop
  | write (path : Path) (s : String) : IsText (.write path (.text s))
  | makeDirectories (path : Path) : IsText (.makeDirectories path)

/-- What the action is for is there: its directory, and its file with its text. -/
def Action.Done (p : Project) : Action → Prop
  | .write path (.text s) =>
    p.stat path.parent = .ok .directory ∧ p.stat path = .ok (.file s.toByteArray)
  | .write _ (.template _ _) => False
  | .makeDirectories path => p.stat path = .ok .directory

/-- After an action that succeeds it is done. -/
theorem done_perform (ha : a.IsText) (h : (perform p a).2 = none) : a.Done (perform p a).1 := by
  cases ha with
  | write path s =>
    have hnone := Option.map_eq_none_iff.1 h
    exact ⟨Project.stat_parent_writeFile hnone, Project.stat_writeFile hnone⟩
  | makeDirectories path => exact Project.stat_ensureDirectories (Option.map_eq_none_iff.1 h)

/-- An action stays done if no file is written where it leads. -/
theorem Action.Done.of_extends {dirs files : Location → Prop} (hdone : a.Done p)
    (h : p.Extends dirs files q) (hfile : ¬ files (p.place a.path)) : a.Done q := by
  match a, hdone with
  | .write path (.text s), ⟨hparent, hstat⟩ =>
    exact ⟨h.stat_directory hparent, h.stat_eq_ok hfile hstat⟩
  | .makeDirectories path, hdone => exact h.stat_directory hdone

/-- The directories of an action that is done are there. -/
theorem Action.Done.directory (hdone : a.Done p) (hk : a.Makes p k) :
    p.tree.get? k = some .directory := by
  match a, hdone with
  | .write path (.text s), ⟨hparent, _⟩ => exact (Project.stat_eq_directory_iff.1 hparent).2 k hk
  | .makeDirectories path, hdone => exact (Project.stat_eq_directory_iff.1 hdone).2 k hk

/-- An action that is done has found a directory where its path starts. -/
theorem Action.Done.start {a : Action} (h : a.Done p) :
    p.tree.get? (p.start a.path) = some .directory := by
  cases a with
  | write path content => exact h.directory (p.start_mem_way path.parent)
  | makeDirectories path => exact h.directory (p.start_mem_way path)

/-- The file of an action that is done is there. -/
theorem Action.Done.file {path : Path} {content : Content}
    (hdone : (Action.write path content).Done p) :
    ∃ bytes, p.tree.get? (p.place path) = some (.file bytes) := by
  match content, hdone with
  | .text s, ⟨_, hstat⟩ => exact ⟨_, (Project.stat_eq_ok_iff.1 hstat).2.2⟩

/-- After a run that succeeds each action is done, if they lead to different places. -/
theorem done_performAll (htext : ∀ a ∈ actions, a.IsText)
    (hplaces : (actions.map fun a => p.place a.path).Nodup)
    (h : (performAll p actions).2 = none) : ∀ a ∈ actions, a.Done (performAll p actions).1 := by
  induction actions generalizing p with
  | nil => exact fun a ha => absurd ha List.not_mem_nil
  | cons a rest ih =>
    obtain ⟨hfirst, hrest⟩ := performAll_cons_eq_none.1 h
    rw [List.forall_mem_cons] at htext
    rw [List.map_cons, List.nodup_cons] at hplaces
    have hstep := extends_perform p a
    have hplace (b : Action) : (perform p a).1.place b.path = p.place b.path :=
      hstep.place_eq b.path
    rw [performAll_cons_of_none hfirst, List.forall_mem_cons]
    constructor
    · -- No other action leads to the place of the first.
      refine (done_perform htext.1 hfirst).of_extends (extends_performAll _ rest) ?_
      rintro ⟨b, hb, hwrites⟩
      refine hplaces.1 (List.mem_map.2 ⟨b, hb, ?_⟩)
      have heq := hwrites.eq_place
      rw [hplace, hplace] at heq
      exact heq.symm
    · refine ih htext.2 ?_ hrest
      simpa only [hplace] using hplaces.2

/-- An action that is done succeeds and changes nothing. -/
theorem perform_of_done (hdone : a.Done p) :
    (perform p a).2 = none ∧ p.Extends (fun _ => False) (fun _ => False) (perform p a).1 := by
  match a, hdone with
  | .write path (.text s), ⟨hparent, hstat⟩ =>
    obtain ⟨hfits, -, hfile⟩ := Project.stat_eq_ok_iff.1 hstat
    have hdirs := (Project.stat_eq_directory_iff.1 hparent).2
    have hnot : p.place path ∉ p.way path.parent := fun hway =>
      absurd ((hdirs _ hway).symm.trans hfile) (by simp)
    have hstart : p.tree.get? (p.start path) = some .directory :=
      hdirs _ (p.start_mem_way path.parent)
    have hnone : (p.writeFile path s.toByteArray).2 = none := by
      refine (Project.writeFile_eq_none_iff hstart).2 ?_
      exact ⟨hfits, fun m hm => Tree.isClear_of_directory (hdirs m hm), hnot, by rw [hfile]; simp⟩
    refine ⟨Option.map_eq_none_iff.2 hnone, (p.extends_writeFile path _).unchanged hdirs ?_⟩
    rintro k ⟨rfl, -⟩
    have hwritten := (Project.stat_eq_ok_iff.1 (Project.stat_writeFile hnone)).2.2
    rw [(p.extends_writeFile path _).place_eq] at hwritten
    rw [hfile]
    exact hwritten
  | .makeDirectories path, hdone =>
    obtain ⟨hfits, hdirs⟩ := Project.stat_eq_directory_iff.1 hdone
    have hnone : (p.ensureDirectories path).2 = none := by
      refine (Project.ensureDirectories_eq_none_iff (hdirs _ (p.start_mem_way path))).2 ?_
      exact ⟨hfits, fun m hm => Tree.isClear_of_directory (hdirs m hm)⟩
    exact ⟨Option.map_eq_none_iff.2 hnone,
      (p.extends_ensureDirectories path).unchanged hdirs fun _ h => h.elim⟩

/-- Running actions that are done succeeds and changes nothing. -/
theorem performAll_of_done (hdone : ∀ a ∈ actions, a.Done p) :
    (performAll p actions).2 = none ∧
      p.Extends (fun _ => False) (fun _ => False) (performAll p actions).1 := by
  induction actions generalizing p with
  | nil => exact ⟨rfl, .refl p⟩
  | cons a rest ih =>
    rw [List.forall_mem_cons] at hdone
    obtain ⟨hnone, hsame⟩ := perform_of_done hdone.1
    obtain ⟨hrest, hextends⟩ := ih fun b hb => (hdone.2 b hb).of_extends hsame fun h => h
    rw [performAll_cons_of_none hnone]
    exact ⟨hrest, hsame.trans hextends⟩

/-! ## When actions succeed -/

/-- Nothing is in the way of the action: its path fits, no file is where it makes a directory, and
where it writes a file no directory is or will be. -/
structure Action.Feasible (p : Project) (a : Action) : Prop where
  fits : a.path.Fits
  clear : ∀ k, a.Makes p k → p.tree.IsClear k
  free : ∀ path content, a = .write path content →
    ¬ a.Makes p (p.place path) ∧ p.tree.get? (p.place path) ≠ some .directory

/-- Nothing is in the way of the actions, nor is any of them in the way of another. -/
structure Feasible (p : Project) (actions : List Action) : Prop where
  fits : ∀ a ∈ actions, a.path.Fits
  clear : ∀ k, Makes p actions k → p.tree.IsClear k
  free : ∀ path content, .write path content ∈ actions →
    ¬ Makes p actions (p.place path) ∧ p.tree.get? (p.place path) ≠ some .directory

/-- An action succeeds exactly if nothing is in its way. -/
theorem perform_eq_none_iff (ha : a.IsText)
    (hstart : p.tree.get? (p.start a.path) = some .directory) :
    (perform p a).2 = none ↔ a.Feasible p := by
  cases ha with
  | write path s =>
    refine Option.map_eq_none_iff.trans ((Project.writeFile_eq_none_iff hstart).trans ?_)
    constructor
    · rintro ⟨hfits, hclear, hplace⟩
      refine ⟨hfits, hclear, fun path' content h => ?_⟩
      cases h
      exact hplace
    · rintro ⟨hfits, hclear, hfree⟩
      exact ⟨hfits, hclear, hfree path _ rfl⟩
  | makeDirectories path =>
    refine Option.map_eq_none_iff.trans ((Project.ensureDirectories_eq_none_iff hstart).trans ?_)
    constructor
    · rintro ⟨hfits, hclear⟩
      exact ⟨hfits, hclear, fun _ _ h => nomatch h⟩
    · rintro ⟨hfits, hclear, -⟩
      exact ⟨hfits, hclear⟩

namespace Feasible

variable {rest : List Action}

/-- Where an action writes a file no other makes a directory. -/
theorem not_makes (h : Feasible p actions) (hk : Writes p actions k) : ¬ Makes p actions k := by
  obtain ⟨a, ha, hwrites⟩ := hk
  cases a with
  | write path content =>
    rw [hwrites.1]
    exact (h.free path content ha).1
  | makeDirectories path => exact hwrites.elim

theorem nil (p : Project) : Feasible p [] where
  fits := fun _ ha => absurd ha List.not_mem_nil
  clear := fun _ ⟨_, ha, _⟩ => absurd ha List.not_mem_nil
  free := fun _ _ ha => absurd ha List.not_mem_nil

/-- Nothing is in the way of the first action. -/
theorem head (h : Feasible p (a :: rest)) : a.Feasible p where
  fits := h.fits a List.mem_cons_self
  clear := fun k hk => h.clear k ⟨a, List.mem_cons_self, hk⟩
  free := by
    rintro path content rfl
    obtain ⟨hmakes, hdir⟩ := h.free path content List.mem_cons_self
    exact ⟨fun hk => hmakes ⟨_, List.mem_cons_self, hk⟩, hdir⟩

/-- The first action puts nothing in the way of the others. -/
theorem tail (h : Feasible p (a :: rest)) : Feasible (perform p a).1 rest := by
  have hstep := extends_perform p a
  have hcons {k : Location} (hk : Makes p rest k) : Makes p (a :: rest) k := by
    obtain ⟨b, hb, hk⟩ := hk
    exact ⟨b, List.mem_cons_of_mem a hb, hk⟩
  refine ⟨fun b hb => h.fits b (List.mem_cons_of_mem a hb), fun k hk => ?_, ?_⟩
  · have hmakes := hcons ((makes_iff hstep).1 hk)
    exact hstep.isClear_of_not_file
      (fun hwrites => h.not_makes ⟨a, List.mem_cons_self, hwrites⟩ hmakes) (h.clear k hmakes)
  · intro path content hmem
    obtain ⟨hmakes, hdir⟩ := h.free path content (List.mem_cons_of_mem a hmem)
    rw [hstep.place_eq, makes_iff hstep]
    refine ⟨fun hk => hmakes (hcons hk), fun hafter => ?_⟩
    rcases hstep.directory_or hafter with hbefore | hmade
    · exact hdir hbefore
    · exact hmakes ⟨a, List.mem_cons_self, hmade⟩

/-- If nothing is in the way of an action, nor in the way of others once it is done, then nothing
was in the way of them all. -/
theorem cons (hfirst : a.Feasible p) (hdone : a.Done (perform p a).1)
    (hrest : Feasible (perform p a).1 rest) : Feasible p (a :: rest) := by
  have hstep := extends_perform p a
  refine ⟨List.forall_mem_cons.2 ⟨hfirst.fits, hrest.fits⟩, ?_, ?_⟩
  · rintro k ⟨b, hb, hk⟩
    rcases List.mem_cons.1 hb with rfl | hb
    · exact hfirst.clear k hk
    · exact hstep.isClear (hrest.clear k ((makes_iff hstep).2 ⟨b, hb, hk⟩))
  · intro path content hmem
    rcases List.mem_cons.1 hmem with rfl | hmem
    · obtain ⟨hmakes, hdir⟩ := hfirst.free path content rfl
      refine ⟨?_, hdir⟩
      rintro ⟨b, hb, hk⟩
      rcases List.mem_cons.1 hb with rfl | hb
      · exact hmakes hk
      · -- The first action has put a file there, so no other can make a directory.
        obtain ⟨bytes, hfile⟩ := hdone.file
        rw [hstep.place_eq] at hfile
        have hclear := hrest.clear _ ((makes_iff hstep).2 ⟨b, hb, hk⟩)
        simp [Tree.IsClear, hfile] at hclear
    · obtain ⟨hmakes, hdir⟩ := hrest.free path content hmem
      rw [hstep.place_eq] at hmakes hdir
      refine ⟨?_, fun h => hdir (hstep.directory h)⟩
      rintro ⟨b, hb, hk⟩
      rcases List.mem_cons.1 hb with rfl | hb
      · exact hdir (hdone.directory ((Action.makes_iff hstep).2 hk))
      · exact hmakes ((makes_iff hstep).2 ⟨b, hb, hk⟩)

/-- What changes elsewhere is not in the way of actions: no file is written where they make a
directory, and no directory is made where they write a file. -/
theorem of_extends {dirs files : Location → Prop} (h : p.Extends dirs files q)
    (hclear : ∀ k, Makes p actions k → ¬ files k)
    (hfree : ∀ path content, .write path content ∈ actions →
      ¬ Makes p actions (p.place path) → ¬ dirs (p.place path)) :
    Feasible q actions ↔ Feasible p actions := by
  constructor
  · intro hq
    refine ⟨hq.fits, fun k hk => h.isClear (hq.clear k ((makes_iff h).2 hk)), ?_⟩
    intro path content hmem
    have hplace := hq.free path content hmem
    rw [h.place_eq, makes_iff h] at hplace
    exact ⟨hplace.1, fun hdir => hplace.2 (h.directory hdir)⟩
  · intro hp
    refine ⟨hp.fits, fun k hk => ?_, ?_⟩
    · rw [makes_iff h] at hk
      exact h.isClear_of_not_file (hclear k hk) (hp.clear k hk)
    · intro path content hmem
      obtain ⟨hmakes, hdir⟩ := hp.free path content hmem
      rw [h.place_eq, makes_iff h]
      refine ⟨hmakes, fun hafter => ?_⟩
      rcases h.directory_or hafter with hbefore | hmade
      · exact hdir hbefore
      · exact hfree path content hmem hmakes hmade

end Feasible

/-- Two actions do the same, but for what is written. -/
inductive Action.Alike : Action → Action → Prop
  | write (path : Path) (content content' : Content) :
    Alike (.write path content) (.write path content')
  | makeDirectories (path : Path) : Alike (.makeDirectories path) (.makeDirectories path)

/-- Whether anything is in the way of actions does not depend on what they write. -/
theorem Feasible.of_alike {actions others : List Action} (h : Feasible p actions)
    (halike : ∀ b ∈ others, ∃ a ∈ actions, a.Alike b) : Feasible p others := by
  have hmakes {k : Location} (hk : Makes p others k) : Makes p actions k := by
    obtain ⟨b, hb, hk⟩ := hk
    obtain ⟨a, ha, hab⟩ := halike b hb
    refine ⟨a, ha, ?_⟩
    cases hab <;> exact hk
  refine ⟨fun b hb => ?_, fun k hk => h.clear k (hmakes hk), fun path content hmem => ?_⟩
  · obtain ⟨a, ha, hab⟩ := halike b hb
    have hfits := h.fits a ha
    cases hab <;> exact hfits
  · obtain ⟨a, ha, hab⟩ := halike _ hmem
    cases hab
    obtain ⟨hnot, hdir⟩ := h.free path _ ha
    exact ⟨fun hk => hnot (hmakes hk), hdir⟩

/-- A run of actions that write texts succeeds exactly if nothing is in the way of any of them. -/
theorem performAll_eq_none_iff (htext : ∀ a ∈ actions, a.IsText)
    (hstart : ∀ a ∈ actions, p.tree.get? (p.start a.path) = some .directory) :
    (performAll p actions).2 = none ↔ Feasible p actions := by
  induction actions generalizing p with
  | nil => exact ⟨fun _ => .nil p, fun _ => rfl⟩
  | cons a rest ih =>
    rw [List.forall_mem_cons] at htext hstart
    have hstep := extends_perform p a
    have hstart' : ∀ b ∈ rest,
        (perform p a).1.tree.get? ((perform p a).1.start b.path) = some .directory := fun b hb => by
      rw [hstep.start_eq]
      exact hstep.directory (hstart.2 b hb)
    rw [performAll_cons_eq_none, ih htext.2 hstart']
    -- The others meet what the first action has left, so what is in the way has to be split there.
    have hiff := perform_eq_none_iff htext.1 hstart.1
    constructor
    · rintro ⟨hfirst, hrest⟩
      exact .cons (hiff.1 hfirst) (done_perform htext.1 hfirst) hrest
    · exact fun h => ⟨hiff.2 h.head, h.tail⟩

/-! ## Faults -/

/-- An action whose path holds no null character fails for the feature alone. -/
theorem isLocal_of_perform {fault : ActionFault} (ha : a.IsText)
    (hnull : ∀ n ∈ a.path.names, '\x00' ∉ n) (h : (perform p a).2 = some fault) :
    fault.isLocal = true := by
  cases ha with
  | write path s =>
    obtain ⟨f, hf, rfl⟩ := Option.map_eq_some_iff.1 h
    exact bne_iff_ne.2 (Project.problem_ne_of_writeFile hnull hf)
  | makeDirectories path =>
    obtain ⟨f, hf, rfl⟩ := Option.map_eq_some_iff.1 h
    exact bne_iff_ne.2 (Project.problem_ne_of_ensureDirectories hnull hf)

/-- So does a run of such actions. -/
theorem isLocal_of_performAll {fault : ActionFault} (htext : ∀ a ∈ actions, a.IsText)
    (hnull : ∀ a ∈ actions, ∀ n ∈ a.path.names, '\x00' ∉ n)
    (h : (performAll p actions).2 = some fault) : fault.isLocal = true := by
  induction actions generalizing p with
  | nil => cases h
  | cons a rest ih =>
    rw [List.forall_mem_cons] at htext hnull
    cases hfirst : (perform p a).2 with
    | none =>
      rw [performAll_cons_of_none hfirst] at h
      exact ih htext.2 hnull.2 h
    | some fault' =>
      rw [performAll_cons_of_some hfirst, hfirst] at h
      cases h
      exact isLocal_of_perform htext.1 hnull.1 hfirst

end FeatureGen.Generation

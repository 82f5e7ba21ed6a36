import FeatureGen.Proofs.Fallible
import FeatureGen.Proofs.Generation.Plan

/-!
# A feature is generated into its own directory

Whatever stands in the file tree, and whether generating a feature succeeds or not, nothing is
removed, no file outside the directory of the feature changes, and no directory is made outside but
those it is in.  If it succeeds, everything in the plan is there, and generating the feature again
changes nothing (`generateFrom_frame`).
-/

namespace FeatureGen.Generation

open FeatureGen.Text

variable {g : Generator} {config : Config} {p q : Project} {text name : String}
  {fallback : List String} {f : Feature} {source : FieldSource} {k : Location}

/-! ## The run of a plan -/

/-- What is said to be generated. -/
def Generator.outcome (g : Generator) (f : Feature) (source : FieldSource) : Generated where
  name := f.name
  path := featurePath g.config f.name
  files := FileKind.all.map (filePath g.config f.name)
  fieldCount := f.fields.length
  source := source

/-- The project afterwards is that of the run. -/
theorem write_fst : (g.write p f source).1 = (performAll p (plan g.config g.templates f)).1 := by
  rw [Generator.write]
  split
  · next q hq => exact (congrArg Prod.fst hq).symm
  · next q fault hq => exact (congrArg Prod.fst hq).symm

/-- A feature is written if its actions succeed. -/
theorem write_of_none (h : (performAll p (plan g.config g.templates f)).2 = none)
    (source : FieldSource) : (g.write p f source).2 = .ok (g.outcome f source) := by
  rw [Generator.write]
  split
  · rfl
  · next q fault hq =>
    rw [hq] at h
    cases h

/-- It is not written if one of them fails. -/
theorem write_of_some {fault : ActionFault}
    (h : (performAll p (plan g.config g.templates f)).2 = some fault) (source : FieldSource) :
    (g.write p f source).2 =
      .error (if fault.isLocal then .feature f.name fault else .run fault) := by
  rw [Generator.write]
  split
  · next q hq =>
    rw [hq] at h
    cases h
  · next q fault' hq =>
    rw [hq] at h
    cases h
    rfl

/-- What is written does not depend on the file tree. -/
theorem write_eq_ok {r : Generated} (h : (g.write p f source).2 = .ok r) :
    (performAll p (plan g.config g.templates f)).2 = none ∧ r = g.outcome f source := by
  cases hrun : (performAll p (plan g.config g.templates f)).2 with
  | none =>
    rw [write_of_none hrun] at h
    cases h
    exact ⟨rfl, rfl⟩
  | some fault =>
    rw [write_of_some hrun] at h
    cases h

/-! ## Finding the feature -/

/-- A feature has the name that it was found by. -/
theorem name_of_ofSchema {settings : Schema.Settings}
    (h : Feature.ofSchema text name fallback settings = .ok (f, source)) : f.name = name := by
  rw [Feature.ofSchema] at h
  split at h
  · cases h
  · obtain ⟨managed, -, he⟩ := exists_of_map_eq_ok h
    cases he
    rfl

/-- A feature that is found is written. -/
theorem generateFrom_of_ok
    (h : Feature.ofSchema text name fallback g.config.schema = .ok (f, source)) :
    g.generateFrom p text name fallback = g.write p f source := by
  rw [Generator.generateFrom, h]

/-- Nothing is written if none is found. -/
theorem generateFrom_of_error {fault : DigitFault}
    (h : Feature.ofSchema text name fallback g.config.schema = .error fault) :
    g.generateFrom p text name fallback = (p, .error (.digits fault)) := by
  rw [Generator.generateFrom, h]

/-- What is generated was found, and its actions succeeded. -/
theorem generateFrom_eq_ok {r : Generated} (h : (g.generateFrom p text name fallback).2 = .ok r) :
    ∃ f source, Feature.ofSchema text name fallback g.config.schema = .ok (f, source) ∧
      g.generateFrom p text name fallback = g.write p f source ∧
      (performAll p (plan g.config g.templates f)).2 = none ∧ r = g.outcome f source := by
  cases hfeature : Feature.ofSchema text name fallback g.config.schema with
  | error fault =>
    rw [generateFrom_of_error hfeature] at h
    cases h
  | ok found =>
    obtain ⟨f, source⟩ := found
    have hwrite := generateFrom_of_ok (p := p) hfeature
    rw [hwrite] at h
    obtain ⟨hrun, rfl⟩ := write_eq_ok h
    exact ⟨f, source, rfl, hwrite, hrun, rfl⟩

/-! ## Where the tree changes -/

section Word

variable (hname : IsWordText f.name.toList)

include hname

/-- Writing a feature makes directories on the way of its directory and its own ones, and writes
its own files. -/
theorem extends_write (config : Config) (p : Project) (source : FieldSource) :
    p.Extends
      (fun k => k ∈ p.way (featurePath config f.name) ∨
        ∃ e ∈ ownDirectories, k = p.place (featurePath config f.name) ++ e)
      (fun k => k ∉ p.way (featurePath config f.name) ∧
        ∃ e ∈ ownFiles (lower f.name.toList), k = p.place (featurePath config f.name) ++ e)
      (Generator.write { config := config } p f source).1 := by
  rw [write_fst]
  exact (extends_performAll p _).mono (fun k hk => exists_of_makes_plan hname rfl hk)
    fun k hk _ => exists_of_writes_plan hname rfl hk

/-- Everything in the plan of a feature that was written is there. -/
theorem done_write (h : (performAll p (plan config .shipped f)).2 = none) (source : FieldSource) :
    ∀ a ∈ plan config .shipped f,
      a.Done (Generator.write { config := config } p f source).1 := by
  rw [write_fst]
  exact done_performAll (isText_plan hname rfl) (nodup_places_plan hname rfl) h

end Word

/-- So it is when the feature is found first. -/
theorem extends_generateFrom (hname : IsWordText name.toList) (config : Config) (p : Project)
    (text : String) (fallback : List String) :
    p.Extends
      (fun k => k ∈ p.way (featurePath config name) ∨
        ∃ e ∈ ownDirectories, k = p.place (featurePath config name) ++ e)
      (fun k => k ∉ p.way (featurePath config name) ∧
        ∃ e ∈ ownFiles (lower name.toList), k = p.place (featurePath config name) ++ e)
      (Generator.generateFrom { config := config } p text name fallback).1 := by
  cases hfeature : Feature.ofSchema text name fallback config.schema with
  | error fault =>
    rw [generateFrom_of_error hfeature]
    exact .refl p
  | ok found =>
    obtain ⟨f, source⟩ := found
    obtain rfl := name_of_ofSchema hfeature
    rw [generateFrom_of_ok hfeature]
    exact extends_write hname config p source

/-- Generating a feature changes its own directory and nothing else, whatever stands in the file
tree and whether it succeeds or not; if it succeeds, generating the feature again changes
nothing. -/
theorem generateFrom_frame (config : Config) (p : Project) (text name : String)
    (fallback : List String) (hname : IsWordText name.toList) :
    let g : Generator := { config := config }
    let root := featurePath config name
    let home := p.place root
    let q := (g.generateFrom p text name fallback).1
    -- Directories and files stay what they are.
    (∀ k, p.tree.get? k = some .directory → q.tree.get? k = some .directory) ∧
    (∀ k content, p.tree.get? k = some (.file content) →
      ∃ content', q.tree.get? k = some (.file content')) ∧
    -- Outside the directory of the feature only the missing directories that it is in are made.
    (∀ k, ¬ home <+: k → q.tree.get? k = p.tree.get? k ∨
      (p.tree.get? k = none ∧ q.tree.get? k = some .directory ∧
        ∃ a : Path, a.root = root.root ∧ a.names <+: root.names ∧ k = p.place a)) ∧
    -- Inside, directories are made as well, and only its own files are written.
    (∀ e, q.tree.get? (home ++ e) = p.tree.get? (home ++ e) ∨
      (p.tree.get? (home ++ e) = none ∧ q.tree.get? (home ++ e) = some .directory ∧
        (e ∈ ownDirectories ∨
          ∃ a : Path, a.root = root.root ∧ a.names <+: root.names ∧ home ++ e = p.place a)) ∨
      (e ∈ ownFiles (lower name.toList) ∧
        ∃ content, q.tree.get? (home ++ e) = some (.file content))) ∧
    -- If the feature is generated, everything is there, and generating it again changes nothing.
    ∀ r, (g.generateFrom p text name fallback).2 = .ok r → ∃ f source,
      Feature.ofSchema text name fallback config.schema = .ok (f, source) ∧
      r.files = [root / "index.ts", root / (lowercase name ++ ".interface.ts"),
        root / ("controllers/" ++ lowercase name ++ ".controller.ts"),
        root / ("procedures/" ++ lowercase name ++ ".procedure.ts")] ∧
      (∀ kind : FileKind, q.stat (filePath config name kind) =
        .ok (.file (kind.module f).render.toByteArray)) ∧
      (∀ d ∈ presentationDirs, q.stat (root / "presentation" / d / ".gitkeep") =
        .ok (.file "".toByteArray)) ∧
      (∀ d ∈ codeDirs, q.stat (root / d) = .ok .directory) ∧
      (g.generateFrom q text name fallback).2 = .ok r ∧
      (g.generateFrom q text name fallback).1.cwd = q.cwd ∧
      ∀ k, (g.generateFrom q text name fallback).1.tree.get? k = q.tree.get? k := by
  intro g root home q
  have hextends := extends_generateFrom hname config p text fallback
  refine ⟨fun k => hextends.directory, fun k content hk => ?_, fun k hk => ?_, fun e => ?_,
    fun r hr => ?_⟩
  · rcases hextends.get?_cases k with heq | ⟨-, hnone, -⟩ | ⟨-, hfile⟩
    · exact ⟨content, heq.trans hk⟩
    · rw [hk] at hnone
      cases hnone
    · exact hfile
  · rcases hextends.get?_cases k with
      heq | ⟨hway | ⟨e, -, hbelow⟩, hnone, hdir⟩ | ⟨⟨-, e, -, hbelow⟩, -⟩
    · exact .inl heq
    · exact .inr ⟨hnone, hdir, Project.exists_of_mem_way hway⟩
    · exact absurd ⟨e, hbelow.symm⟩ hk
    · exact absurd ⟨e, hbelow.symm⟩ hk
  · rcases hextends.get?_cases (home ++ e) with
      heq | ⟨hdirs, hnone, hdir⟩ | ⟨⟨-, e', he', heq⟩, hfile⟩
    · exact .inl heq
    · refine .inr (.inl ⟨hnone, hdir, ?_⟩)
      rcases hdirs with hway | ⟨e', he', heq⟩
      · exact .inr (Project.exists_of_mem_way hway)
      · exact .inl (List.append_cancel_left heq ▸ he')
    · exact .inr (.inr ⟨List.append_cancel_left heq ▸ he', hfile⟩)
  · obtain ⟨f, source, hfeature, hwrite, hrun, rfl⟩ := generateFrom_eq_ok hr
    obtain rfl := name_of_ofSchema hfeature
    have hdone : ∀ a ∈ plan config .shipped f, a.Done q := by
      show ∀ a ∈ plan config .shipped f, a.Done (g.generateFrom p text f.name fallback).1
      rw [hwrite]
      exact done_write hname hrun source
    obtain ⟨hagain, hsame⟩ := performAll_of_done hdone
    have hwrite' : g.generateFrom q text f.name fallback = g.write q f source :=
      generateFrom_of_ok hfeature
    have hfst : (g.generateFrom q text f.name fallback).1 =
        (performAll q (plan config .shipped f)).1 := (congrArg Prod.fst hwrite').trans write_fst
    refine ⟨f, source, hfeature, ?_, fun kind => ?_, fun d hd => ?_, fun d hd => ?_, ?_, ?_, ?_⟩
    · simp [g, root, Generator.outcome, FileKind.all, filePath, FileKind.target, fileStem_eq hname]
    · exact (hdone _ (List.mem_append_right _ (List.mem_map_of_mem (mem_all kind)))).2
    · exact (hdone _ (List.mem_append_left _ (List.mem_append_left _ (List.mem_map_of_mem hd)))).2
    · exact hdone _ (List.mem_append_left _ (List.mem_append_right _ (List.mem_map_of_mem hd)))
    · rw [hwrite']
      exact write_of_none (g := g) hagain source
    · rw [hfst]
      exact hsame.cwd_eq
    · intro k
      rw [hfst]
      exact hsame.get?_eq (fun h => h) fun h => h

/-- A feature is generated in an empty project, and once more. -/
theorem generateFrom_frame_post :
    let config : Config := {}
    let g : Generator := { config := config }
    let p : Project := { tree := .empty, cwd := [] }
    let text := "model Post \x7b\n  id Int @id\n  title String\n\x7d\n"
    let q := (g.generateFrom p text "Post" []).1
    IsWordText "Post".toList ∧ ∃ r, (g.generateFrom p text "Post" []).2 = .ok r ∧
      q.stat (featurePath config "Post" / "controllers") = .ok .directory ∧
      q.stat (featurePath config "Post" / "presentation" / "hooks" / ".gitkeep") =
        .ok (.file "".toByteArray) ∧
      (g.generateFrom q text "Post" []).2 = .ok r := by
  intro config g p text q
  have hname : IsWordText "Post".toList := ⟨by decide, by decide⟩
  have hok : (g.generateFrom p text "Post" []).2.isOk = true := by decide +kernel
  obtain ⟨r, hr⟩ := exists_eq_ok_of_isOk hok
  obtain ⟨-, -, -, -, hgenerated⟩ := generateFrom_frame config p text "Post" [] hname
  obtain ⟨f, source, -, -, -, hkeep, hcode, hagain, -, -⟩ := hgenerated r hr
  exact ⟨hname, r, hr, hcode "controllers" (by decide), hkeep "hooks" (by decide), hagain⟩

end FeatureGen.Generation

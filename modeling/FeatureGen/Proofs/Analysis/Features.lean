import FeatureGen.Analysis.Basic
import FeatureGen.Proofs.Generation.Features

/-!
# The analysis of features that were generated

The analysis counts the directories it finds below the directory of all features, asks each for the
directories that a feature should have, and adds up the lines of all files in it.  After features
were generated it finds each of them once under its name in lowercase, complete, with the lines of
the four files that were last written for it (`featureStats_of_generates`): the empty files in the
presentation have no lines.
-/

namespace FeatureGen.Analysis

open FeatureGen.Generation FeatureGen.Number FeatureGen.Text

variable {config : Config} {p q : Project} {f : Feature} {fs : List Feature} {path : Path}
  {paths : List Path}

/-! ## Lines -/

/-- The number of lines of a text, where a line break of any kind counts as one. -/
def textLines (s : String) : Nat := (splitLines (unifyNewlines s.toList)).length

/-- The lines of a file with a text are those of the text. -/
theorem lineCount_toByteArray (s : String) : lineCount s.toByteArray = textLines s := by
  rw [lineCount, decodeUtf8Lossy_toByteArray, textLines]

/-- The number of lines of the four files of a feature. -/
def featureLines (f : Feature) : Nat :=
  total (FileKind.all.map fun kind => textLines (kind.module f).render)

/-- The empty files of a feature have no lines. -/
theorem total_ownContents (f : Feature) :
    total ((ownContents f).map fun file => lineCount file.2) = featureLines f := by
  have hempty : lineCount "".toByteArray = 0 := lineCount_toByteArray ""
  rw [ownContents, List.map_append, total_append, List.map_map, List.map_map]
  have hkeep : total (presentationDirs.map
      ((fun file : Location × ByteArray => lineCount file.2) ∘
        fun d => (keepNames d, "".toByteArray))) = 0 := by
    simp only [Function.comp_def, hempty]
    rfl
  rw [hkeep, Nat.zero_add]
  simp only [Function.comp_def, lineCount_toByteArray]
  rfl

/-! ## Adding up features -/

/-- A feature with all the directories is complete. -/
theorem isComplete_of_forall {ds : List String}
    (h : ∀ d ∈ ds, p.stat (path / d) = .ok .directory) : isComplete p path ds = .ok true := by
  induction ds with
  | nil => rfl
  | cons d ds ih =>
    rw [List.forall_mem_cons] at h
    rw [isComplete, Project.isDirectory_eq_true_iff.2 h.1]
    exact ih h.2

/-- The analysis finds a feature complete, with this number of lines. -/
structure Finds (config : Config) (p : Project) (path : Path) (lines : Nat) : Prop where
  complete : isComplete p path config.analysis.requiredFeatureDirs = .ok true
  files : ∃ files, p.files path = .ok files ∧
    total (files.map fun file => lineCount file.2) = lines

theorem add_of_finds {lines : Nat} (h : Finds config p path lines) (stats : FeatureStats) :
    stats.add config p path = .ok { stats with
      count := stats.count + 1
      complexity := stats.complexity ++ [(path.name, lines)] } := by
  obtain ⟨files, hfiles, rfl⟩ := h.files
  rw [FeatureStats.add, h.complete, hfiles]
  rfl

/-- Each feature that is found counts once. -/
theorem addAll_of_finds {lines : Path → Nat}
    (h : ∀ path ∈ paths, Finds config p path (lines path)) (stats : FeatureStats) :
    stats.addAll config p paths = .ok { stats with
      count := stats.count + paths.length
      complexity := stats.complexity ++ paths.map fun path => (path.name, lines path) } := by
  induction paths generalizing stats with
  | nil => simp [FeatureStats.addAll]
  | cons path paths ih =>
    rw [List.forall_mem_cons] at h
    rw [FeatureStats.addAll, add_of_finds h.1]
    simp only [ih h.2, List.length_cons, List.map_cons, List.append_assoc, List.singleton_append,
      Nat.add_assoc, Nat.add_comm 1]

/-! ## Features that were generated -/

/-- The statistics are those of the features that were generated last under each name. -/
structure FeatureStats.Describes (stats : FeatureStats) (fs : List Feature) : Prop where
  count : stats.count = (firsts (fs.map Feature.stem)).length
  incomplete : stats.incomplete = []
  names : (stats.complexity.map (·.1)).Perm (firsts (fs.map Feature.stem))
  lines : ∀ n, stats.complexity.lookup n = (latest fs n).map featureLines

theorem describes_nil : FeatureStats.Describes {} [] := ⟨rfl, rfl, .refl _, fun _ => rfl⟩

/-- Without a directory of all features there is nothing to describe. -/
theorem featureStats_of_absent (hfits : config.featuresPath.Fits)
    (habsent : ∀ node, p.stat config.featuresPath ≠ .ok node) : featureStats config p = .ok {} := by
  rw [featureStats, Project.directories_of_absent hfits habsent]
  rfl

/-- The number of lines that are expected under a name. -/
def linesUnder (fs : List Feature) (n : String) : Nat := ((latest fs n).map featureLines).getD 0

theorem linesUnder_of_latest {n : String} (h : latest fs n = some f) :
    linesUnder fs n = featureLines f := by
  rw [linesUnder, h]
  rfl

section Built

variable (hbuilt : Built config fs q)

include hbuilt

theorem name_of_mem_stems {n : String} (hn : n ∈ fs.map Feature.stem) :
    (config.featuresPath / n).name = n := by
  obtain ⟨f, hf, rfl⟩ := List.mem_map.1 hn
  exact Path.name_join (isName_stem (hbuilt.words f hf))

/-- Each feature is found complete, with the lines of its last files. -/
theorem finds_of_built (hdirs : ∀ d ∈ config.analysis.requiredFeatureDirs, d ∈ codeDirs)
    {n : String} (hn : n ∈ fs.map Feature.stem) :
    Finds config q (config.featuresPath / n) (linesUnder fs n) := by
  cases hlatest : latest fs n with
  | none => exact absurd hn (latest_eq_none_iff.1 hlatest)
  | some f =>
    obtain ⟨hf, rfl⟩ := mem_of_latest hlatest
    obtain ⟨files, hfiles, hperm⟩ := hbuilt.exists_files hlatest
    refine ⟨isComplete_of_forall fun d hd => hbuilt.complete f hf d (hdirs d hd), files, hfiles, ?_⟩
    have hlines := total_perm (hperm.map lineCount)
    rw [List.map_map, List.map_map] at hlines
    rw [linesUnder_of_latest hlatest, ← total_ownContents]
    exact hlines

/-- The statistics that add up the features describe them. -/
theorem describes_of_perm
    (hperm : paths.Perm ((firsts (fs.map Feature.stem)).map (config.featuresPath / ·))) :
    FeatureStats.Describes {
      count := paths.length
      complexity := paths.map fun path => (path.name, linesUnder fs path.name) } fs := by
  have hkeys : ((paths.map fun path => (path.name, linesUnder fs path.name)).map (·.1)).Perm
      (firsts (fs.map Feature.stem)) := by
    have hself : ((firsts (fs.map Feature.stem)).map (config.featuresPath / ·)).map Path.name =
        firsts (fs.map Feature.stem) := by
      rw [List.map_map]
      exact (List.map_congr_left fun n hn => name_of_mem_stems hbuilt (mem_firsts.1 hn)).trans
        (List.map_id' _)
    have hnames := hperm.map Path.name
    rw [hself] at hnames
    rwa [List.map_map]
  refine ⟨by rw [hperm.length_eq, List.length_map], rfl, hkeys, fun n => ?_⟩
  cases hlatest : latest fs n with
  | none =>
    refine List.lookup_eq_none_iff.2 fun entry hentry => ?_
    have hmem := mem_firsts.1 (hkeys.mem_iff.1 (List.mem_map_of_mem hentry))
    have hne : n ≠ entry.1 := fun heq => latest_eq_none_iff.1 hlatest (heq ▸ hmem)
    simpa using hne
  | some f =>
    have hn : n ∈ fs.map Feature.stem := by
      obtain ⟨hf, rfl⟩ := mem_of_latest hlatest
      exact List.mem_map_of_mem hf
    refine lookup_eq_some_of_mem (hkeys.nodup_iff.2 (nodup_firsts _)) ?_
    have hpath := hperm.mem_iff.2 (List.mem_map_of_mem (mem_firsts.2 hn))
    refine List.mem_map.2 ⟨_, hpath, ?_⟩
    rw [name_of_mem_stems hbuilt hn, linesUnder_of_latest hlatest]

/-- The analysis describes what was generated, if it asks for no other directories than those for
code. -/
theorem featureStats_of_built
    (hdirs : ∀ d ∈ config.analysis.requiredFeatureDirs, d ∈ codeDirs) (hne : fs ≠ []) :
    ∃ stats, featureStats config q = .ok stats ∧ stats.Describes fs := by
  obtain ⟨paths, hpaths, hperm⟩ := hbuilt.exists_directories hne
  have hfinds : ∀ path ∈ paths, Finds config q path (linesUnder fs path.name) := by
    intro path hpath
    obtain ⟨n, hn, rfl⟩ := List.mem_map.1 (hperm.mem_iff.1 hpath)
    rw [name_of_mem_stems hbuilt (mem_firsts.1 hn)]
    exact finds_of_built hbuilt hdirs (mem_firsts.1 hn)
  refine ⟨_, ?_, describes_of_perm hbuilt hperm⟩
  rw [featureStats, hpaths]
  show FeatureStats.addAll {} config q paths = _
  rw [addAll_of_finds hfinds]
  simp

end Built

/-- If the directory of all features is not there at first, then however many features are generated
one after the other, the analysis counts each name in lowercase once, finds no feature incomplete,
and gives for each name the number of lines of the four files that were last written for it. -/
theorem featureStats_of_generates (habsent : ∀ node, p.stat ({} : Config).featuresPath ≠ .ok node)
    (h : Generates {} p fs q) :
    ∃ stats, featureStats {} q = .ok stats ∧
      stats.count = (firsts (fs.map fun f => lowercase f.name)).length ∧
      stats.incomplete = [] ∧
      (stats.complexity.map (·.1)).Perm (firsts (fs.map fun f => lowercase f.name)) ∧
      ∀ n, stats.complexity.lookup n = (latest fs n).map featureLines := by
  have hfits : ({} : Config).featuresPath.Fits := ⟨by decide, by decide, by decide⟩
  have hdown : Tree.Downward ({} : Config).featuresPath.names := by decide
  have hdirs : ∀ d ∈ ({} : Config).analysis.requiredFeatureDirs, d ∈ codeDirs := by decide
  obtain ⟨stats, hstats, hdescribes⟩ :
      ∃ stats, featureStats {} q = .ok stats ∧ stats.Describes fs := by
    by_cases hne : fs = []
    · subst hne
      rw [h.eq_of_nil rfl]
      exact ⟨_, featureStats_of_absent hfits habsent, describes_nil⟩
    · exact featureStats_of_built (h.built hfits hdown habsent) hdirs hne
  exact ⟨stats, hstats, hdescribes.count, hdescribes.incomplete, hdescribes.names, hdescribes.lines⟩

/-- A feature is generated in an empty project, and another one in its place. -/
theorem featureStats_of_generates_post :
    let config : Config := {}
    let p : Project := { tree := .empty, cwd := [] }
    let text := "model Post \x7b\n  id Int @id\n  title String\n\x7d\n"
    (∀ node, p.stat config.featuresPath ≠ .ok node) ∧ ∃ fs q stats f source,
      Generates config p fs q ∧ fs.map (·.name) = ["Post", "POST"] ∧
      featureStats config q = .ok stats ∧ stats.count = 1 ∧ stats.incomplete = [] ∧
      Feature.ofSchema text "POST" [] config.schema = .ok (f, source) ∧
      stats.complexity.lookup "post" = some (featureLines f) := by
  intro config p text
  have hpost : IsWordText "Post".toList := ⟨by decide, by decide⟩
  have hagain : IsWordText "POST".toList := ⟨by decide, by decide⟩
  have habsent : ∀ node, p.stat config.featuresPath ≠ .ok node := by
    have hnone : (p.stat config.featuresPath).isOk = false := by decide
    intro node hnode
    rw [hnode] at hnone
    cases hnone
  have hok : (Generator.generateFrom { config := config } p text "Post" []).2.isOk = true := by
    decide +kernel
  have hfound : (Feature.ofSchema text "POST" [] config.schema).isOk = true := by
    have htext : text.toList = _ := String.toList_ofList
    rw [Feature.ofSchema, Feature.resolveFields, Schema.compile_of_toList htext]
    with_unfolding_all decide
  obtain ⟨result, hresult⟩ := exists_eq_ok_of_isOk hok
  obtain ⟨f, source, hf, -, hrun, -⟩ := generateFrom_eq_ok hresult
  obtain ⟨⟨f', source'⟩, hf'⟩ := exists_eq_ok_of_isOk hfound
  have hname := name_of_ofSchema hf
  have hname' := name_of_ofSchema hf'
  have hstem : f.stem = "post" := by
    rw [Feature.stem, hname]
    decide
  have hstem' : f'.stem = "post" := by
    rw [Feature.stem, hname']
    decide
  have hrun' := run_again (hname.symm ▸ hpost) (hname'.symm ▸ hagain) (hstem.trans hstem'.symm)
    hrun source
  have hcalls := (Generates.start.call (.of_run hpost hf hrun)).call (.of_run hagain hf' hrun')
  obtain ⟨stats, hstats, hcount, hincomplete, -, hlines⟩ := featureStats_of_generates habsent hcalls
  refine ⟨habsent, _, _, stats, f', source', hcalls, ?_, hstats, ?_, hincomplete, hf', ?_⟩
  · rw [List.nil_append, List.singleton_append, List.map_cons, List.map_singleton, hname, hname']
  · have hone : (firsts ["post", "post"]).length = 1 := by decide
    have hstems : ([] ++ [f] ++ [f']).map Feature.stem = ["post", "post"] := by
      rw [List.nil_append, List.singleton_append, List.map_cons, List.map_singleton, hstem, hstem']
    exact hcount.trans (hstems ▸ hone)
  · rw [hlines, latest_concat, if_pos hstem']
    rfl

end FeatureGen.Analysis

import FeatureGen.Generation.Basic
import FeatureGen.Proofs.Generation.Action
import FeatureGen.Proofs.Text.Lower

/-!
# What a plan writes

All paths in the plan of a feature go on from the directory of the feature by a few names
(`plan_eq`), provided that the name of the feature is a word.  So the plan makes directories on the
way of that directory and writes files below it: its own ones, which `ownFiles` and `ownDirectories`
list (`exists_of_makes_plan`, `exists_of_writes_plan`), each at a place of its own
(`nodup_places_plan`).
-/

namespace FeatureGen.Generation

open FeatureGen.Text

variable {config : Config} {name : String} {p : Project} {k : Location}

/-! ## Names below the directory of a feature -/

/-- The names that lead to the directory of a file from that of the feature. -/
def fileDirectory : FileKind → List (List Char)
  | .index => []
  | .interface => []
  | .controller => ["controllers".toList]
  | .procedure => ["procedures".toList]

/-- What the name of a file starts with, where the name of the feature is given in lowercase. -/
def fileStart (stem : List Char) : FileKind → List Char
  | .index => []
  | _ => stem

/-- What the name of a file ends with. -/
def fileEnd : FileKind → List Char
  | .index => "index.ts".toList
  | .interface => ".interface.ts".toList
  | .controller => ".controller.ts".toList
  | .procedure => ".procedure.ts".toList

/-- The name of a file. -/
def fileName (stem : List Char) (kind : FileKind) : List Char := fileStart stem kind ++ fileEnd kind

/-- The names that lead to a file of a feature from its directory. -/
def fileNames (stem : List Char) (kind : FileKind) : List (List Char) :=
  fileDirectory kind ++ [fileName stem kind]

/-- The names that lead to the directory of a presentation. -/
def keepDirectory (d : String) : List (List Char) := ["presentation".toList, d.toList]

/-- The names that lead to the empty file in it. -/
def keepNames (d : String) : List (List Char) := keepDirectory d ++ [".gitkeep".toList]

/-- The files of a feature. -/
def ownFiles (stem : List Char) : List (List (List Char)) :=
  presentationDirs.map keepNames ++ FileKind.all.map (fileNames stem)

/-- The directories of a feature, below its own one. -/
def ownDirectories : List (List (List Char)) :=
  ["presentation".toList] :: presentationDirs.map keepDirectory ++ codeDirs.map fun d => [d.toList]

theorem mem_all (kind : FileKind) : kind ∈ FileKind.all := by cases kind <;> decide

/-- A text without slashes that is long enough is a name that does not lead back. -/
theorem isName_of_length {n : List Char} (hslash : '/' ∉ n) (hlength : 2 < n.length) :
    Path.isName n = true ∧ n ≠ ['.', '.'] := by
  refine ⟨Path.isName_iff.2 ⟨?_, ?_, hslash⟩, ?_⟩
  all_goals
    rintro rfl
    simp at hlength

/-- The name of a file is long enough whatever the name of the feature is. -/
theorem lt_length_fileName (stem : List Char) (kind : FileKind) :
    2 < (fileName stem kind).length := by
  have hend : 2 < (fileEnd kind).length := by cases kind <;> decide
  rw [fileName, List.length_append]
  omega

/-- A character that is neither in the name of the feature nor in the end of the name of a file is
not in that name. -/
theorem not_mem_fileName {c : Char} {stem : List Char} {kind : FileKind} (hstem : c ∉ stem)
    (hend : c ∉ fileEnd kind) : c ∉ fileName stem kind := by
  have hstart : c ∉ fileStart stem kind := by
    cases kind with
    | index => exact List.not_mem_nil
    | interface => exact hstem
    | controller => exact hstem
    | procedure => exact hstem
  exact fun h => (List.mem_append.1 h).elim hstart hend

/-- The names of a file lead down. -/
theorem leadsDown_fileNames {stem : List Char} (hslash : '/' ∉ stem) (kind : FileKind) :
    Path.LeadsDown (fileNames stem kind) := by
  have hdir : Path.LeadsDown (fileDirectory kind) := by cases kind <;> decide
  have hend : '/' ∉ fileEnd kind := by cases kind <;> decide
  intro n hn
  rcases List.mem_append.1 hn with hn | hn
  · exact hdir n hn
  · rw [List.mem_singleton.1 hn]
    exact isName_of_length (not_mem_fileName hslash hend) (lt_length_fileName stem kind)

theorem leadsDown_keepNames : ∀ d ∈ presentationDirs, Path.LeadsDown (keepNames d) := by
  decide

theorem leadsDown_codeDirs : ∀ d ∈ codeDirs, Path.LeadsDown [d.toList] := by
  decide

/-- Below the directory of a feature its own directories are on the way. -/
theorem exists_of_mem_way {root : Path} {ds : List (List Char)} (hdown : Path.LeadsDown ds)
    (hown : ∀ n ≤ ds.length, ds.take n = [] ∨ ds.take n ∈ ownDirectories)
    (hk : k ∈ p.way (root.descend ds)) :
    k ∈ p.way root ∨ ∃ e ∈ ownDirectories, k = p.place root ++ e := by
  rcases (Project.mem_way_descend hdown).1 hk with hk | ⟨e, he, rfl⟩
  · exact .inl hk
  · have htake := hown e.length he.length_le
    rw [← List.prefix_iff_eq_take.1 he] at htake
    rcases htake with rfl | hmem
    · rw [List.append_nil]
      exact .inl (p.place_mem_way root)
    · exact .inr ⟨e, hmem, rfl⟩

theorem own_keepDirectory : ∀ d ∈ presentationDirs, ∀ n ≤ (keepDirectory d).length,
    (keepDirectory d).take n = [] ∨ (keepDirectory d).take n ∈ ownDirectories := by
  decide

theorem own_codeDirs : ∀ d ∈ codeDirs, ∀ n ≤ [d.toList].length,
    [d.toList].take n = [] ∨ [d.toList].take n ∈ ownDirectories := by
  decide

theorem own_fileDirectory (kind : FileKind) : ∀ n ≤ (fileDirectory kind).length,
    (fileDirectory kind).take n = [] ∨ (fileDirectory kind).take n ∈ ownDirectories := by
  cases kind <;> decide

/-- The way of the directory of the feature is made for each file. -/
theorem mem_way_parent {root : Path} {ns : List (List Char)} {n : List Char}
    (hdown : Path.LeadsDown (ns ++ [n])) (hk : k ∈ p.way root) :
    k ∈ p.way (root.descend (ns ++ [n])).parent := by
  have hlast := (hdown n (List.mem_append_right _ List.mem_cons_self)).1
  rw [Path.parent_descend hlast]
  exact (Project.mem_way_descend fun m hm => hdown m (List.mem_append_left _ hm)).2 (.inl hk)

/-- The interface is named like nothing with a short name. -/
theorem ne_fileName_interface (stem : List Char) {n : List Char} (hn : n.length < 13) :
    n ≠ fileName stem .interface := by
  have hend : (fileEnd .interface).length = 13 := by decide
  rintro rfl
  rw [fileName, List.length_append] at hn
  omega

theorem fileName_index_ne (stem : List Char) : fileName stem .index ≠ fileName stem .interface :=
  ne_fileName_interface stem (show "index.ts".toList.length < 13 by decide)

/-- Different files have different names. -/
theorem fileNames_injective (stem : List Char) {kind kind' : FileKind}
    (h : fileNames stem kind = fileNames stem kind') : kind = kind' := by
  obtain ⟨hdir, hname⟩ := List.append_inj' h rfl
  have hname := List.head_eq_of_cons_eq hname
  cases kind <;> cases kind'
  all_goals first
    | rfl
    | exact absurd hdir (by decide)
    | exact absurd hname (fileName_index_ne stem)
    | exact absurd hname.symm (fileName_index_ne stem)

/-- The names of the empty files and of the directories for code. -/
def plainNames : List (List (List Char)) :=
  presentationDirs.map keepNames ++ codeDirs.map fun d => [d.toList]

/-- No file is where an empty file or a directory for code is. -/
theorem fileNames_not_mem (stem : List Char) (kind : FileKind) :
    fileNames stem kind ∉ plainNames := by
  intro h
  cases kind with
  | index => exact absurd h (show ["index.ts".toList] ∉ plainNames by decide)
  | interface =>
    have hshort : ∀ ns ∈ plainNames, ∀ n ∈ ns, n.length < 13 := by decide
    exact ne_fileName_interface stem (hshort _ h _ List.mem_cons_self) rfl
  | controller =>
    have hdir : ∀ ns ∈ plainNames, ns.dropLast ≠ fileDirectory .controller := by decide
    exact hdir _ h List.dropLast_concat
  | procedure =>
    have hdir : ∀ ns ∈ plainNames, ns.dropLast ≠ fileDirectory .procedure := by decide
    exact hdir _ h List.dropLast_concat

/-- The names to which the actions of a plan lead are different. -/
theorem nodup_names (stem : List Char) :
    (plainNames ++ FileKind.all.map (fileNames stem)).Nodup := by
  rw [List.nodup_append]
  refine ⟨by decide, ?_, ?_⟩
  · rw [List.Nodup, List.pairwise_map]
    have hall : FileKind.all.Nodup := by decide
    exact hall.imp fun hne h => hne (fileNames_injective stem h)
  · rintro ns hns ms hms rfl
    obtain ⟨kind, -, rfl⟩ := List.mem_map.1 hms
    exact fileNames_not_mem stem kind hns

/-! ## Paths of a plan -/

/-- Plain characters are written as they are in a page. -/
theorem escapeForPage_of_isPlain {c : Char} (h : isPlain c = true) : escapeForPage c = [c] := by
  have hne {d : Char} (hd : isPlain d = false) : c ≠ d := by
    rintro rfl
    rw [h] at hd
    cases hd
  rw [escapeForPage, if_neg (hne (by decide)), if_neg (hne (by decide)), if_neg (hne (by decide)),
    if_neg (hne (by decide)), if_neg (hne (by decide))]

/-- A name without characters that have a meaning in a page stands in the names of its files. -/
theorem fileStem_of_escape (h : ∀ c ∈ lower name.toList, escapeForPage c = [c]) :
    Feature.fileStem name = lowercase name := by
  rw [Feature.fileStem, lowercase, String.toList_ofList]
  congr 1
  generalize lower name.toList = s at h
  induction s with
  | nil => rfl
  | cons c s ih =>
    rw [List.flatMap_cons, h c List.mem_cons_self, ih fun d hd => h d (List.mem_cons_of_mem c hd),
      List.singleton_append]

/-- The target of a file is its names with slashes between them. -/
theorem toList_target_fileStem (name : String) (kind : FileKind) :
    (kind.target name).toList =
      joinPieces '/' (fileNames (Feature.fileStem name).toList kind) := by
  cases kind with
  | index => rfl
  | interface =>
    rw [FileKind.target, String.toList_append]
    generalize (Feature.fileStem name).toList = stem
    rfl
  | controller =>
    rw [FileKind.target, String.toList_append, String.toList_append, List.append_assoc]
    generalize (Feature.fileStem name).toList = stem
    rfl
  | procedure =>
    rw [FileKind.target, String.toList_append, String.toList_append, List.append_assoc]
    generalize (Feature.fileStem name).toList = stem
    rfl

/-- The path of an empty file goes on from the directory of the feature. -/
theorem keepPath_eq (root : Path) {d : String} (hd : d ∈ presentationDirs) :
    root / "presentation" / d / ".gitkeep" = root.descend (keepNames d) := by
  have hname : Path.isName d.toList = true :=
    (leadsDown_keepNames d hd d.toList (List.mem_cons_of_mem _ List.mem_cons_self)).1
  rw [Path.join_name (by decide), Path.join_name hname, Path.join_name (by decide),
    Path.descend_descend, Path.descend_descend]
  rfl

section Word

variable (hname : IsWordText name.toList)

include hname

/-- A word in lowercase is a name. -/
theorem isName_lower : Path.isName (lower name.toList) = true := by
  have hdot : '.' ∉ lower name.toList := not_mem_lower hname.2 (by decide)
  refine Path.isName_iff.2 ⟨lower_ne_nil hname.1, ?_, not_mem_lower hname.2 (by decide)⟩
  intro h
  rw [h] at hdot
  exact hdot List.mem_cons_self

/-- The directory of a feature is named for it. -/
theorem featurePath_eq (config : Config) :
    featurePath config name = config.featuresPath.descend [lower name.toList] := by
  rw [featurePath, Path.join_name] <;> rw [lowercase, String.toList_ofList]
  exact isName_lower hname

/-- The files of a feature are named for it. -/
theorem fileStem_eq : Feature.fileStem name = lowercase name :=
  fileStem_of_escape fun c hc => escapeForPage_of_isPlain (every_lower hname.2 c hc)

theorem toList_target (kind : FileKind) :
    (kind.target name).toList = joinPieces '/' (fileNames (lower name.toList) kind) := by
  rw [toList_target_fileStem, fileStem_eq hname, lowercase, String.toList_ofList]

/-- The names of a file lead down. -/
theorem leadsDown_file (kind : FileKind) : Path.LeadsDown (fileNames (lower name.toList) kind) :=
  leadsDown_fileNames (not_mem_lower hname.2 (by decide)) kind

/-- The path of a file goes on from the directory of the feature. -/
theorem filePath_eq (config : Config) (kind : FileKind) :
    filePath config name kind =
      (featurePath config name).descend (fileNames (lower name.toList) kind) := by
  have hnames := fun n hn => (leadsDown_file hname kind n hn).1
  have hne : fileNames (lower name.toList) kind ≠ [] := by simp [fileNames]
  rw [filePath, Path.join_eq_descend] <;> rw [toList_target hname]
  · rw [pieces_joinPieces hne fun n hn => (Path.isName_iff.1 (hnames n hn)).2.2]
  · exact Path.head?_joinPieces_ne hnames

/-- The plan of a feature, with the names that lead to its files and directories. -/
theorem plan_eq {f : Feature} (hf : f.name = name) (config : Config) :
    plan config .shipped f =
      (presentationDirs.map fun d =>
        .write ((featurePath config name).descend (keepNames d)) (.text "")) ++
      (codeDirs.map fun d => .makeDirectories ((featurePath config name).descend [d.toList])) ++
      (FileKind.all.map fun kind =>
        .write ((featurePath config name).descend (fileNames (lower name.toList) kind))
          (.text (kind.module f).render)) := by
  subst hf
  have hkeep : (presentationDirs.map fun d => Action.write
      (featurePath config f.name / "presentation" / d / ".gitkeep") (.text "")) =
      presentationDirs.map fun d =>
        .write ((featurePath config f.name).descend (keepNames d)) (.text "") :=
    List.map_congr_left fun d hd => by rw [keepPath_eq _ hd]
  have hcode : (codeDirs.map fun d => Action.makeDirectories (featurePath config f.name / d)) =
      codeDirs.map fun d => .makeDirectories ((featurePath config f.name).descend [d.toList]) :=
    List.map_congr_left fun d hd => by
      rw [Path.join_name (leadsDown_codeDirs d hd d.toList List.mem_cons_self).1]
  have hfile : (FileKind.all.map fun kind => Action.write (filePath config f.name kind)
      (Templates.shipped.content f kind)) =
      FileKind.all.map fun kind =>
        .write ((featurePath config f.name).descend (fileNames (lower f.name.toList) kind))
          (.text (kind.module f).render) :=
    List.map_congr_left fun kind _ => by rw [filePath_eq hname, Templates.content]
  rw [← hkeep, ← hcode, ← hfile, plan]

/-- What holds for the three sorts of actions holds for all actions of the plan. -/
theorem forall_mem_plan {f : Feature} (hf : f.name = name) {motive : Action → Prop}
    (hkeep : ∀ d ∈ presentationDirs,
      motive (.write ((featurePath config name).descend (keepNames d)) (.text "")))
    (hcode : ∀ d ∈ codeDirs,
      motive (.makeDirectories ((featurePath config name).descend [d.toList])))
    (hfile : ∀ kind : FileKind,
      motive (.write ((featurePath config name).descend (fileNames (lower name.toList) kind))
        (.text (kind.module f).render))) :
    ∀ a ∈ plan config .shipped f, motive a := by
  intro a ha
  rw [plan_eq hname hf, List.mem_append, List.mem_append] at ha
  rcases ha with (ha | ha) | ha
  · obtain ⟨d, hd, rfl⟩ := List.mem_map.1 ha
    exact hkeep d hd
  · obtain ⟨d, hd, rfl⟩ := List.mem_map.1 ha
    exact hcode d hd
  · obtain ⟨kind, -, rfl⟩ := List.mem_map.1 ha
    exact hfile kind

/-- The plan writes texts. -/
theorem isText_plan {f : Feature} (hf : f.name = name) :
    ∀ a ∈ plan config .shipped f, a.IsText :=
  forall_mem_plan hname hf (fun _ _ => .write _ _) (fun _ _ => .makeDirectories _)
    fun _ => .write _ _

/-! ## Places of a plan -/

/-- The plan makes directories on the way of the directory of the feature, and its own ones. -/
theorem exists_of_makes_plan {f : Feature} (hf : f.name = name)
    (hk : Makes p (plan config .shipped f) k) :
    k ∈ p.way (featurePath config name) ∨
      ∃ e ∈ ownDirectories, k = p.place (featurePath config name) ++ e := by
  obtain ⟨a, ha, hk⟩ := hk
  revert hk
  refine forall_mem_plan hname hf (motive := fun a => a.Makes p k → _)
    (fun d hd hk => ?_) (fun d hd hk => ?_) (fun kind hk => ?_) a ha
  · rw [Action.Makes, Action.directory, keepNames, Path.parent_descend (by decide)] at hk
    exact exists_of_mem_way (fun n hn => leadsDown_keepNames d hd n (List.mem_append_left _ hn))
      (own_keepDirectory d hd) hk
  · exact exists_of_mem_way (leadsDown_codeDirs d hd) (own_codeDirs d hd) hk
  · have hdown := leadsDown_file hname kind
    have hlast := (hdown _ (List.mem_append_right _ List.mem_cons_self)).1
    rw [Action.Makes, Action.directory, fileNames, Path.parent_descend hlast] at hk
    exact exists_of_mem_way (fun n hn => hdown n (List.mem_append_left _ hn))
      (own_fileDirectory kind) hk

/-- The plan makes all directories on the way of the directory of the feature. -/
theorem makes_plan_of_mem_way {f : Feature} (hf : f.name = name)
    (hk : k ∈ p.way (featurePath config name)) : Makes p (plan config .shipped f) k := by
  rw [plan_eq hname hf]
  refine ⟨_, List.mem_append_right _ (List.mem_map_of_mem (mem_all .index)), ?_⟩
  exact mem_way_parent (leadsDown_file hname .index) hk

/-- All actions of the plan lead below the directory of the feature. -/
theorem prefix_place_plan {f : Feature} (hf : f.name = name) :
    ∀ a ∈ plan config .shipped f, p.place (featurePath config name) <+: p.place a.path := by
  have hbelow {ns : List (List Char)} (hdown : Path.LeadsDown ns) :
      p.place (featurePath config name) <+: p.place ((featurePath config name).descend ns) := by
    rw [Project.place_descend hdown]
    exact List.prefix_append _ ns
  exact forall_mem_plan hname hf (fun d hd => hbelow (leadsDown_keepNames d hd))
    (fun d hd => hbelow (leadsDown_codeDirs d hd)) fun kind => hbelow (leadsDown_file hname kind)

/-- The plan writes its own files, none of them on the way of the directory of the feature. -/
theorem exists_of_writes_plan {f : Feature} (hf : f.name = name)
    (hk : Writes p (plan config .shipped f) k) :
    k ∉ p.way (featurePath config name) ∧
      ∃ e ∈ ownFiles (lower name.toList), k = p.place (featurePath config name) ++ e := by
  obtain ⟨a, ha, hk⟩ := hk
  revert hk
  refine forall_mem_plan hname hf (motive := fun a => a.Writes p k → _)
    (fun d hd hk => ?_) (fun d hd hk => ?_) (fun kind hk => ?_) a ha
  · obtain ⟨heq, hway⟩ := hk
    have hdown := leadsDown_keepNames d hd
    refine ⟨fun hmem => hway (mem_way_parent hdown hmem), _, ?_,
      heq.trans (Project.place_descend hdown)⟩
    exact List.mem_append_left _ (List.mem_map_of_mem hd)
  · exact hk.elim
  · obtain ⟨heq, hway⟩ := hk
    have hdown := leadsDown_file hname kind
    refine ⟨fun hmem => hway (mem_way_parent hdown hmem), _, ?_,
      heq.trans (Project.place_descend hdown)⟩
    exact List.mem_append_right _ (List.mem_map_of_mem (mem_all kind))

/-- All actions of the plan lead to different places. -/
theorem nodup_places_plan {f : Feature} (hf : f.name = name) :
    ((plan config .shipped f).map fun a => p.place a.path).Nodup := by
  have hplaces : ((plan config .shipped f).map fun a => p.place a.path) =
      (plainNames ++ FileKind.all.map (fileNames (lower name.toList))).map
        (p.place (featurePath config name) ++ ·) := by
    have hplace {ns : List (List Char)} (hdown : Path.LeadsDown ns) :
        p.place ((featurePath config name).descend ns) = p.place (featurePath config name) ++ ns :=
      Project.place_descend hdown
    simp only [plan_eq hname hf, plainNames, List.map_append, List.map_map, Function.comp_def,
      Action.path]
    rw [List.map_congr_left fun d hd => hplace (leadsDown_keepNames d hd),
      List.map_congr_left fun d hd => hplace (leadsDown_codeDirs d hd),
      List.map_congr_left fun kind _ => hplace (leadsDown_file hname kind)]
  rw [hplaces, List.Nodup, List.pairwise_map]
  exact (nodup_names _).imp fun hne h => hne (List.append_cancel_left h)

end Word

end FeatureGen.Generation

import FeatureGen.Proofs.Generation.Batch
import FeatureGen.Proofs.Generation.Imports
import FeatureGen.Proofs.Project.Listing

/-!
# Where features were generated

A directory *holds* a feature if the directories and the files of the feature stand in it and
nothing else does (`Holds`).  Generating a feature makes its directory hold it, whether there was
nothing before or another feature of the same name in lowercase, and leaves all others as they are.
Where one feature was generated, another one of this name can be generated in its place
(`run_again`).

So however many features are generated one after the other (`Generates`) in a project without a
directory of all features, that directory holds under each name the feature that was generated last
under it, and nothing under any other name (`Generates.built`).
-/

namespace FeatureGen.Generation

open FeatureGen.Text

variable {g : Generator} {config : Config} {p q r : Project} {text name n : String}
  {fallback : List String} {home : Location} {stem : List Char} {f : Feature} {fs : List Feature}
  {source : FieldSource} {e : List (List Char)} {content : ByteArray}

/-! ## Runs put nodes into the tree -/

theorem puts_perform (p : Project) (a : Action) : p.tree.Puts (perform p a).1.tree := by
  cases a with
  | write path content =>
    rw [perform]
    split
    · exact .refl
    · exact p.puts_writeFile path _
  | makeDirectories path => exact p.puts_ensureDirectories path

theorem puts_performAll (p : Project) (actions : List Action) :
    p.tree.Puts (performAll p actions).1.tree := by
  induction actions generalizing p with
  | nil => exact .refl
  | cons a rest ih =>
    cases h : (perform p a).2 with
    | none =>
      rw [performAll_cons_of_none h]
      exact (puts_perform p a).trans (ih _)
    | some fault =>
      rw [performAll_cons_of_some h]
      exact puts_perform p a

theorem puts_write (g : Generator) (p : Project) (f : Feature) (source : FieldSource) :
    p.tree.Puts (g.write p f source).1.tree := by
  rw [write_fst]
  exact puts_performAll p _

/-! ## A directory that holds a feature -/

/-- The files of a feature with what is in them, by the names that lead there from its
directory. -/
def ownContents (f : Feature) : List (Location × ByteArray) :=
  (presentationDirs.map fun d => (keepNames d, "".toByteArray)) ++
  FileKind.all.map fun kind =>
    (fileNames (lower f.name.toList) kind, (kind.module f).render.toByteArray)

theorem map_fst_ownContents (f : Feature) :
    (ownContents f).map (·.1) = ownFiles (lower f.name.toList) := by
  rw [ownContents, List.map_append, List.map_map, List.map_map]
  rfl

theorem nodup_ownContents (f : Feature) : (ownContents f).Nodup := by
  have hnames := nodup_names (lower f.name.toList)
  refine List.Nodup.of_map (·.1) ?_
  rw [map_fst_ownContents, ownFiles]
  exact hnames.sublist ((List.sublist_append_left _ _).append_right _)

theorem isName_ownDirectories : ∀ e ∈ ownDirectories, ∀ n ∈ e, Path.isName n = true := by decide

theorem isName_ownFiles (hname : IsWordText name.toList) :
    ∀ e ∈ ownFiles (lower name.toList), ∀ n ∈ e, Path.isName n = true := by
  intro e he n hn
  rcases List.mem_append.1 he with he | he
  · obtain ⟨d, hd, rfl⟩ := List.mem_map.1 he
    exact (leadsDown_keepNames d hd n hn).1
  · obtain ⟨kind, -, rfl⟩ := List.mem_map.1 he
    exact (leadsDown_file hname kind n hn).1

/-- A feature is named by a name. -/
theorem isName_stem (hname : IsWordText f.name.toList) : Path.isName f.stem.toList = true := by
  rw [Feature.stem, lowercase, String.toList_ofList]
  exact isName_lower hname

/-- At a place and below it nothing stands but what belongs to features whose name in lowercase is
given. -/
def Admits (p : Project) (home : Location) (stem : List Char) : Prop :=
  ∀ e, (p.tree.get? (home ++ e)).isSome → e = [] ∨ e ∈ ownDirectories ∨ e ∈ ownFiles stem

/-- A directory holds a feature and nothing else. -/
structure Holds (p : Project) (home : Location) (f : Feature) : Prop where
  directory : ∀ e, e = [] ∨ e ∈ ownDirectories → p.tree.get? (home ++ e) = some .directory
  file : ∀ e content, (e, content) ∈ ownContents f →
    p.tree.get? (home ++ e) = some (.file content)
  only : Admits p home (lower f.name.toList)

namespace Holds

/-- A file of the feature has its own content. -/
theorem exists_of_mem_ownFiles (h : Holds p home f) (he : e ∈ ownFiles (lower f.name.toList)) :
    ∃ content, (e, content) ∈ ownContents f ∧ p.tree.get? (home ++ e) = some (.file content) := by
  rw [← map_fst_ownContents] at he
  obtain ⟨⟨e, content⟩, hmem, rfl⟩ := List.mem_map.1 he
  exact ⟨content, hmem, h.file e content hmem⟩

/-- The files are those of the feature. -/
theorem file_iff (h : Holds p home f) :
    p.tree.get? (home ++ e) = some (.file content) ↔ (e, content) ∈ ownContents f := by
  refine ⟨fun hget => ?_, h.file e content⟩
  have hnot : ¬ (e = [] ∨ e ∈ ownDirectories) := fun hdir => by
    rw [h.directory e hdir] at hget
    cases hget
  rw [not_or] at hnot
  rcases h.only e (by rw [hget]; rfl) with hnil | hown | hfile
  · exact absurd hnil hnot.1
  · exact absurd hown hnot.2
  · obtain ⟨content', hmem, hcontent⟩ := h.exists_of_mem_ownFiles hfile
    rw [hcontent] at hget
    cases hget
    exact hmem

/-- A directory holds what it held if nothing in it changes. -/
theorem congr (h : Holds p home f)
    (hsame : ∀ e, q.tree.get? (home ++ e) = p.tree.get? (home ++ e)) : Holds q home f where
  directory := fun e he => (hsame e).trans (h.directory e he)
  file := fun e content he => (hsame e).trans (h.file e content he)
  only := fun e he => h.only e (hsame e ▸ he)

end Holds

/-! ## Writing one feature -/

/-- The directories of a feature are made for its empty files and for its code. -/
theorem prefix_of_mem_ownDirectories : ∀ e ∈ [] :: ownDirectories,
    (∃ d ∈ presentationDirs, e <+: keepDirectory d) ∨ ∃ d ∈ codeDirs, e <+: [d.toList] := by
  decide

section Word

variable (hname : IsWordText f.name.toList)

include hname

/-- What was done for a feature is in its directory. -/
theorem holds_of_done (hdone : ∀ a ∈ plan config .shipped f, a.Done q)
    (honly : Admits q (q.place (featurePath config f.name)) (lower f.name.toList)) :
    Holds q (q.place (featurePath config f.name)) f := by
  rw [plan_eq hname rfl] at hdone
  simp only [List.forall_mem_append, List.forall_mem_map] at hdone
  obtain ⟨⟨hkeep, hcode⟩, hfile⟩ := hdone
  have hplace {ns : List (List Char)} {content : ByteArray} (hdown : Path.LeadsDown ns)
      (h : q.stat ((featurePath config f.name).descend ns) = .ok (.file content)) :
      q.tree.get? (q.place (featurePath config f.name) ++ ns) = some (.file content) := by
    rw [← Project.place_descend hdown]
    exact (Project.stat_eq_ok_iff.1 h).2.2
  refine ⟨fun e he => ?_, fun e content he => ?_, honly⟩
  · rcases prefix_of_mem_ownDirectories e (List.mem_cons.2 he) with ⟨d, hd, hpre⟩ | ⟨d, hd, hpre⟩
    · have hparent := (hkeep d hd).1
      have hdown := leadsDown_keepNames d hd
      rw [keepNames, Path.parent_descend (by decide)] at hparent
      exact Project.directory_of_prefix (fun n hn => hdown n (List.mem_append_left _ hn)) hparent hpre
    · exact Project.directory_of_prefix (leadsDown_codeDirs d hd) (hcode d hd) hpre
  · rcases List.mem_append.1 he with he | he
    · obtain ⟨d, hd, heq⟩ := List.mem_map.1 he
      cases heq
      exact hplace (leadsDown_keepNames d hd) (hkeep d hd).2
    · obtain ⟨kind, hkind, heq⟩ := List.mem_map.1 he
      cases heq
      exact hplace (leadsDown_file hname kind) (hfile kind hkind).2

variable (hdown : Tree.Downward config.featuresPath.names)

include hdown

/-- Writing a feature leaves what is below the directory of all features under other names. -/
theorem get?_write_of_ne (p : Project) (source : FieldSource) (hstem : stem ≠ lower f.name.toList)
    (e : List (List Char)) :
    (Generator.write { config := config } p f source).1.tree.get?
        (p.place config.featuresPath ++ stem :: e) =
      p.tree.get? (p.place config.featuresPath ++ stem :: e) := by
  have hne (e' : List (List Char)) :
      p.place config.featuresPath ++ stem :: e ≠ p.place (featurePath config f.name) ++ e' := by
    rw [place_featurePath hname, List.append_assoc]
    exact fun heq => hstem (List.head_eq_of_cons_eq (List.append_cancel_left heq))
  refine (extends_write hname config p source).get?_eq ?_ ?_
  · rintro (hway | ⟨e', -, heq⟩)
    · rcases (mem_way_featurePath hname).1 hway with hway | heq
      · exact Project.not_mem_way_append hdown (List.cons_ne_nil stem e) hway
      · exact hne [] (heq.trans (List.append_nil _).symm)
    · exact hne e' heq
  · rintro ⟨-, e', -, heq⟩
    exact hne e' heq

/-- It puts nothing into the directory of the feature that does not belong there. -/
theorem admits_write (source : FieldSource)
    (h : Admits p (p.place (featurePath config f.name)) (lower f.name.toList)) :
    Admits (Generator.write { config := config } p f source).1
      (p.place (featurePath config f.name)) (lower f.name.toList) := by
  intro e he
  rcases (extends_write hname config p source).get?_cases
      (p.place (featurePath config f.name) ++ e) with
    heq | ⟨hmade | ⟨e', he', heq⟩, -, -⟩ | ⟨⟨-, e', he', heq⟩, -⟩
  · exact h e (heq ▸ he)
  · rcases (mem_way_featurePath hname).1 hmade with hway | hself
    · rw [place_featurePath hname, List.append_assoc] at hway
      exact absurd hway (Project.not_mem_way_append hdown (by simp))
    · exact .inl (List.append_right_eq_self.1 hself)
  · exact .inr (.inl (List.append_cancel_left heq ▸ he'))
  · exact .inr (.inr (List.append_cancel_left heq ▸ he'))

/-- Its directory holds a feature that was written. -/
theorem holds_write (source : FieldSource)
    (h : Admits p (p.place (featurePath config f.name)) (lower f.name.toList))
    (hrun : (performAll p (plan config .shipped f)).2 = none) :
    Holds (Generator.write { config := config } p f source).1
      (p.place (featurePath config f.name)) f := by
  have hplace := (extends_write hname config p source).place_eq (featurePath config f.name)
  have honly := admits_write hname hdown source h
  rw [← hplace] at honly ⊢
  exact holds_of_done hname (done_write hname hrun source) honly

end Word

/-! ## Writing a feature again -/

/-- The plans of features whose names are the same in lowercase differ in what they write alone. -/
theorem exists_alike_plan {f f' : Feature} (hname : IsWordText f.name.toList)
    (hname' : IsWordText f'.name.toList) (hstem : f.stem = f'.stem) :
    ∀ b ∈ plan config .shipped f', ∃ a ∈ plan config .shipped f, a.Alike b := by
  have hpath : featurePath config f'.name = featurePath config f.name :=
    congrArg (config.featuresPath / ·) hstem.symm
  have hlower : lower f'.name.toList = lower f.name.toList := String.ofList_injective hstem.symm
  rw [plan_eq hname rfl]
  refine forall_mem_plan hname' rfl (fun d hd => ?_) (fun d hd => ?_) fun kind => ?_
  · rw [hpath]
    exact ⟨_, List.mem_append_left _ (List.mem_append_left _ (List.mem_map_of_mem hd)), .write ..⟩
  · rw [hpath]
    exact ⟨_, List.mem_append_left _ (List.mem_append_right _ (List.mem_map_of_mem hd)),
      .makeDirectories _⟩
  · rw [hpath, hlower]
    exact ⟨_, List.mem_append_right _ (List.mem_map_of_mem (mem_all kind)), .write ..⟩

/-- Once a feature was written, any feature whose name is the same in lowercase can be written in
its place. -/
theorem run_again {f' : Feature} (hname : IsWordText f.name.toList)
    (hname' : IsWordText f'.name.toList) (hstem : f.stem = f'.stem)
    (h : (performAll p (plan config .shipped f)).2 = none) (source : FieldSource) :
    (performAll (Generator.write { config := config } p f source).1
      (plan config .shipped f')).2 = none := by
  have hdone := done_write hname h source
  generalize (Generator.write { config := config } p f source).1 = q at hdone ⊢
  -- All paths start at one place, and an action that is done has found a directory there.
  have hroot : q.tree.get? (q.start config.featuresPath) = some .directory := by
    obtain ⟨a, ha⟩ := List.exists_mem_of_ne_nil (plan config .shipped f) (by simp [plan, codeDirs])
    rw [← start_plan hname rfl a ha]
    exact (hdone a ha).start
  have hstart {f : Feature} (hn : IsWordText f.name.toList) :
      ∀ a ∈ plan config .shipped f, q.tree.get? (q.start a.path) = some .directory := by
    intro a ha
    rw [start_plan hn rfl a ha]
    exact hroot
  have hfeasible := (performAll_eq_none_iff (isText_plan hname rfl) (hstart hname)).1
    (performAll_of_done hdone).1
  exact (performAll_eq_none_iff (isText_plan hname' rfl) (hstart hname')).2
    (hfeasible.of_alike (exists_alike_plan hname hname' hstem))

/-! ## Generating features one after the other -/

/-- A feature whose name is a word is generated, from a schema text or from the schema file as it is
then. -/
inductive Call (config : Config) (p : Project) : Feature → Project → Prop
  /-- The text is given. -/
  | fromText {q : Project} {text name : String} {fallback : List String} {f : Feature}
    {source : FieldSource} {result : Generated} (hname : IsWordText name.toList)
    (hfeature : Feature.ofSchema text name fallback config.schema = .ok (f, source))
    (hrun : Generator.generateFrom { config := config } p text name fallback = (q, .ok result)) :
    Call config p f q
  /-- The text is read. -/
  | fromFile {q : Project} {text name : String} {fallback : List String} {f : Feature}
    {source : FieldSource} {result : Generated} (hname : IsWordText name.toList)
    (hread : p.readSchema config = .ok text)
    (hfeature : Feature.ofSchema text name fallback config.schema = .ok (f, source))
    (hrun : Generator.generate { config := config } p name fallback = (q, .ok result)) :
    Call config p f q

/-- Features are generated one after the other. -/
inductive Generates (config : Config) (p : Project) : List Feature → Project → Prop
  /-- None is generated. -/
  | start : Generates config p [] p
  /-- One more is generated. -/
  | call {fs : List Feature} {f : Feature} {q r : Project} (h : Generates config p fs q)
    (hcall : Call config q f r) : Generates config p (fs ++ [f]) r

/-- A feature that is found is generated if its actions succeed. -/
theorem Call.of_run (hname : IsWordText name.toList)
    (hfeature : Feature.ofSchema text name fallback config.schema = .ok (f, source))
    (h : (performAll p (plan config .shipped f)).2 = none) :
    Call config p f (Generator.write { config := config } p f source).1 := by
  have hwrite := generateFrom_of_ok (g := { config := config }) (p := p) hfeature
  exact .fromText hname hfeature
    (hwrite.trans (Prod.ext rfl (write_of_none (g := { config := config }) h source)))

/-- Where no feature is generated nothing changes. -/
theorem Generates.eq_of_nil (h : Generates config p fs q) (hfs : fs = []) : q = p := by
  cases h with
  | start => rfl
  | call h hcall => simp at hfs

/-- The feature that was generated last under a name in lowercase. -/
def latest (fs : List Feature) (n : String) : Option Feature :=
  (fs.filter fun f => f.stem = n).getLast?

theorem latest_concat (fs : List Feature) (f : Feature) (n : String) :
    latest (fs ++ [f]) n = if f.stem = n then some f else latest fs n := by
  rw [latest, List.filter_append, List.filter_singleton]
  by_cases hn : f.stem = n
  · simp [hn]
  · simp [hn, latest]

theorem latest_eq_none_iff : latest fs n = none ↔ n ∉ fs.map Feature.stem := by
  simp [latest]

theorem mem_of_latest (h : latest fs n = some f) : f ∈ fs ∧ f.stem = n := by
  have hmem := List.mem_filter.1 (List.mem_of_getLast? h)
  exact ⟨hmem.1, of_decide_eq_true hmem.2⟩

/-- The directory of all features holds exactly what was generated last under each name. -/
structure Built (config : Config) (fs : List Feature) (q : Project) : Prop where
  words : ∀ f ∈ fs, IsWordText f.name.toList
  distinct : q.tree.Distinct (q.place config.featuresPath)
  /-- Under the name of a feature is the last feature of this name. -/
  holds : ∀ n f, latest fs n = some f → Holds q (q.place config.featuresPath ++ [n.toList]) f
  /-- Under any other name is nothing. -/
  free : ∀ n, latest fs n = none →
    ∀ e, q.tree.get? (q.place config.featuresPath ++ n.toList :: e) = none
  /-- The paths to the directories for code lead there. -/
  complete : ∀ f ∈ fs, ∀ d ∈ codeDirs,
    q.stat (featurePath config f.name / d) = .ok .directory

namespace Built

/-- Nothing is generated yet. -/
theorem start (hfits : config.featuresPath.Fits) (hdown : Tree.Downward config.featuresPath.names)
    (habsent : ∀ node, p.stat config.featuresPath ≠ .ok node) : Built config [] p := by
  have hnone := Project.get?_place_eq_none hfits hdown habsent
  refine ⟨nofun, Tree.distinct_of_none hnone, nofun, fun n _ e => ?_, nofun⟩
  rw [Option.eq_none_iff_forall_ne_some]
  intro node hnode
  rw [Tree.get?_of_append (List.cons_ne_nil n.toList e) (by rw [hnode]; rfl)] at hnone
  cases hnone

/-- The directory of a feature has room for it. -/
theorem admits (h : Built config fs q) (hname : IsWordText name.toList) :
    Admits q (q.place (featurePath config name)) (lower name.toList) := by
  intro e he
  have hstem : (lowercase name).toList = lower name.toList := String.toList_ofList
  rw [place_featurePath hname, ← hstem] at he
  cases hlatest : latest fs (lowercase name) with
  | none =>
    rw [List.append_assoc, List.singleton_append, h.free _ hlatest] at he
    cases he
  | some f =>
    have honly := (h.holds _ f hlatest).only e he
    have heq : lower f.name.toList = lower name.toList :=
      String.ofList_injective (mem_of_latest hlatest).2
    rwa [heq] at honly

/-- One more feature is written. -/
theorem write (h : Built config fs q) (hdown : Tree.Downward config.featuresPath.names)
    (hname : IsWordText f.name.toList) (hrun : (performAll q (plan config .shipped f)).2 = none)
    (source : FieldSource) :
    Built config (fs ++ [f]) (Generator.write { config := config } q f source).1 := by
  have hextends := extends_write hname config q source
  have hlast (n : String) := latest_concat fs f n
  have hstem : f.stem.toList = lower f.name.toList := String.toList_ofList
  have hsame {n : String} (hn : f.stem ≠ n) (e : List (List Char)) :
      (Generator.write { config := config } q f source).1.tree.get?
          (q.place config.featuresPath ++ n.toList :: e) =
        q.tree.get? (q.place config.featuresPath ++ n.toList :: e) := by
    apply get?_write_of_ne hname hdown
    intro heq
    exact hn (String.toList_inj.1 (hstem.trans heq.symm))
  constructor
  · rw [List.forall_mem_append, List.forall_mem_singleton]
    exact ⟨h.words, hname⟩
  · rw [hextends.place_eq]
    exact h.distinct.of_puts (puts_write _ q f source)
  · intro n f' hlatest
    rw [hlast] at hlatest
    rw [hextends.place_eq]
    split at hlatest
    · next heq =>
      cases hlatest
      rw [← heq, hstem, ← place_featurePath hname]
      exact holds_write hname hdown source (h.admits hname) hrun
    · next hne =>
      refine (h.holds n f' hlatest).congr fun e => ?_
      rw [List.append_assoc]
      exact hsame hne e
  · intro n hlatest e
    rw [hlast] at hlatest
    rw [hextends.place_eq]
    split at hlatest
    · cases hlatest
    · next hne => exact (hsame hne e).trans (h.free n hlatest e)
  · rw [List.forall_mem_append, List.forall_mem_singleton]
    refine ⟨fun f' hmem d hd => hextends.stat_directory (h.complete f' hmem d hd), ?_⟩
    intro d hd
    exact done_write hname hrun source _
      (List.mem_append_left _ (List.mem_append_right _ (List.mem_map_of_mem hd)))

/-- One more feature is generated from a text. -/
theorem fromText {result : Generated} (h : Built config fs q)
    (hdown : Tree.Downward config.featuresPath.names) (hname : IsWordText name.toList)
    (hfeature : Feature.ofSchema text name fallback config.schema = .ok (f, source))
    (hrun : Generator.generateFrom { config := config } q text name fallback =
      (r, .ok result)) :
    Built config (fs ++ [f]) r := by
  obtain rfl := name_of_ofSchema hfeature
  rw [generateFrom_of_ok (g := { config := config }) hfeature] at hrun
  have hok : (Generator.write { config := config } q f source).2 = .ok result := by rw [hrun]
  have hbuilt := h.write hdown hname (write_eq_ok hok).1 source
  rwa [hrun] at hbuilt

/-- One more feature is generated. -/
theorem call (h : Built config fs q) (hdown : Tree.Downward config.featuresPath.names)
    (hcall : Call config q f r) : Built config (fs ++ [f]) r := by
  cases hcall with
  | fromText hname hfeature hrun => exact h.fromText hdown hname hfeature hrun
  | fromFile hname hread hfeature hrun =>
    rw [Generator.generate, hread] at hrun
    exact h.fromText hdown hname hfeature hrun

/-! ### Listings -/

/-- The directory of a feature is there. -/
theorem stat_featurePath (h : Built config fs q) (hf : f ∈ fs) :
    q.stat (featurePath config f.name) = .ok .directory := by
  have hname : Path.isName "controllers".toList = true := by decide
  have hparent := Project.stat_parent (Path.names_join_ne_nil hname)
    (h.complete f hf "controllers" (by decide))
  rwa [Path.parent_join hname] at hparent

/-- So the directory of all features is there. -/
theorem stat_featuresPath (h : Built config fs q) (hne : fs ≠ []) :
    q.stat config.featuresPath = .ok .directory := by
  obtain ⟨f, hf⟩ := List.exists_mem_of_ne_nil fs hne
  have hname := isName_stem (h.words f hf)
  have hparent := Project.stat_parent (Path.names_join_ne_nil hname) (h.stat_featurePath hf)
  rwa [Path.parent_join hname] at hparent

/-- What is in a directory of the features belongs to one. -/
theorem exists_latest {e : List (List Char)} {s : List Char}
    (h : Built config fs q) (hsome : (q.tree.get? (q.place config.featuresPath ++ s :: e)).isSome) :
    ∃ f ∈ fs, latest fs f.stem = some f ∧ f.stem.toList = s := by
  have hs : (String.ofList s).toList = s := String.toList_ofList
  cases hlatest : latest fs (String.ofList s) with
  | none =>
    have hfree := h.free _ hlatest e
    rw [hs] at hfree
    rw [hfree] at hsome
    cases hsome
  | some f =>
    obtain ⟨hf, heq⟩ := mem_of_latest hlatest
    exact ⟨f, hf, heq ▸ hlatest, heq ▸ hs⟩

/-- Everything there has a name. -/
theorem isName_of_mem {node : Node} (h : Built config fs q)
    (hnode : q.tree.get? (q.place config.featuresPath ++ e) = some node) :
    ∀ n ∈ e, Path.isName n = true := by
  cases e with
  | nil => exact nofun
  | cons s e =>
    obtain ⟨f, hf, hlatest, rfl⟩ := h.exists_latest (by rw [hnode]; rfl)
    have honly := (h.holds _ f hlatest).only e (by
      rw [List.append_assoc, List.singleton_append, hnode]
      rfl)
    have hname := h.words f hf
    refine List.forall_mem_cons.2 ⟨isName_stem hname, fun n hn => ?_⟩
    rcases honly with rfl | hown | hfile
    · exact absurd hn List.not_mem_nil
    · exact isName_ownDirectories e hown n hn
    · exact isName_ownFiles hname e hfile n hn

/-- The directories of the features are listed. -/
theorem exists_directories (h : Built config fs q) (hne : fs ≠ []) :
    ∃ directories : List Path, q.directories config.featuresPath = .ok directories ∧
      directories.Perm ((firsts (fs.map Feature.stem)).map (config.featuresPath / ·)) := by
  have hnames : (firsts (fs.map Feature.stem)).map (config.featuresPath / ·) =
      ((firsts (fs.map Feature.stem)).map String.toList).map
        fun n => config.featuresPath.descend [n] := by
    rw [List.map_map]
    apply List.map_congr_left
    intro n hn
    obtain ⟨f, hf, rfl⟩ := List.mem_map.1 (mem_firsts.1 hn)
    exact Path.join_name (isName_stem (h.words f hf))
  rw [hnames]
  apply Project.exists_directories (h.stat_featuresPath hne) h.distinct
  · exact fun e node hnode => h.isName_of_mem hnode
  · exact (nodup_firsts _).map fun a b hab => String.toList_injective hab
  · intro s
    rw [List.mem_map]
    constructor
    · rintro ⟨n, hn, rfl⟩
      cases hlatest : latest fs n with
      | none => exact absurd (mem_firsts.1 hn) (latest_eq_none_iff.1 hlatest)
      | some f =>
        have hself := (h.holds n f hlatest).directory [] (.inl rfl)
        rwa [List.append_nil] at hself
    · intro hdir
      obtain ⟨f, hf, -, rfl⟩ := h.exists_latest (by rw [hdir]; rfl)
      exact ⟨f.stem, mem_firsts.2 (List.mem_map_of_mem hf), rfl⟩

/-- The files of a feature are listed. -/
theorem exists_files (h : Built config fs q) (hlatest : latest fs n = some f) :
    ∃ files : List (Path × ByteArray), q.files (config.featuresPath / n) = .ok files ∧
      (files.map (·.2)).Perm ((ownContents f).map (·.2)) := by
  obtain ⟨hf, rfl⟩ := mem_of_latest hlatest
  have hplace : q.place (config.featuresPath / f.stem) =
      q.place config.featuresPath ++ [f.stem.toList] := by
    rw [Feature.stem, lowercase, String.toList_ofList]
    exact place_featurePath (h.words f hf) q config
  apply Project.exists_files (h.stat_featurePath hf)
  · show q.tree.Distinct (q.place (config.featuresPath / f.stem))
    rw [hplace]
    exact h.distinct.append _
  · exact nodup_ownContents f
  · intro e content
    show _ ↔ q.tree.get? (q.place (config.featuresPath / f.stem) ++ e) = _
    rw [hplace]
    exact (h.holds _ f hlatest).file_iff.symm

end Built

/-- However many features are generated, the directory of all features holds exactly the last ones
of each name. -/
theorem Generates.built (hfits : config.featuresPath.Fits)
    (hdown : Tree.Downward config.featuresPath.names)
    (habsent : ∀ node, p.stat config.featuresPath ≠ .ok node) (h : Generates config p fs q) :
    Built config fs q := by
  induction h with
  | start => exact .start hfits hdown habsent
  | call h hcall ih => exact ih.call hdown hcall

end FeatureGen.Generation

import FeatureGen.Generation.Batch
import FeatureGen.Proofs.Generation.Frame
import FeatureGen.Proofs.Schema.Ledger
import FeatureGen.Proofs.Schema.Lookup
import FeatureGen.Proofs.Text.Lines
import Mathlib.Data.List.Basic

/-!
# Features do not get in each other's way

When several features are generated one after the other, each finds the project as those before it
have left it.  What they can have left is little (`Grows`): directories on the way of the directory
of all features, and whatever is in their own directories.  Neither is in the way of a feature of
another name, so it is generated exactly if it could be generated alone (`isOk_of_grows`), and what
was generated stays (`Grows.stat_file`).

A batch goes through all names, whatever becomes of each (`generateAllFrom_spec`), and so each name
fares as it would alone (`generateAll_independent`).
-/

namespace FeatureGen.Generation

open FeatureGen.Text

variable {config : Config} {p q r : Project} {text name : String} {names done : List String}
  {f : Feature} {source : FieldSource} {k : Location}

/-! ## What features may change -/

/-- The place is in the directory of one of the features. -/
def InFeature (p : Project) (config : Config) (names : List String) (k : Location) : Prop :=
  ∃ name ∈ names, p.place (featurePath config name) <+: k

/-- Features of the given names were generated, or failed midway. -/
def Grows (p : Project) (config : Config) (names : List String) (q : Project) : Prop :=
  p.Extends (fun k => k ∈ p.way config.featuresPath ∨ InFeature p config names k)
    (fun k => k ∉ p.way config.featuresPath ∧ InFeature p config names k) q

theorem InFeature.mono {names' : List String} (h : InFeature p config names k)
    (hsub : ∀ name ∈ names, name ∈ names') : InFeature p config names' k := by
  obtain ⟨name, hname, hk⟩ := h
  exact ⟨name, hsub name hname, hk⟩

namespace Grows

theorem refl (p : Project) (config : Config) : Grows p config [] p := Project.Extends.refl p

theorem inFeature_iff (h : Grows p config done q) :
    InFeature q config names k ↔ InFeature p config names k := by
  simp only [InFeature, h.place_eq]

theorem trans (h : Grows p config done q) (h' : Grows q config names r) :
    Grows p config (done ++ names) r := by
  have hleft {k : Location} (hk : InFeature p config done k) :
      InFeature p config (done ++ names) k := hk.mono fun _ => List.mem_append_left names
  have hright {k : Location} (hk : InFeature q config names k) :
      InFeature p config (done ++ names) k :=
    (h.inFeature_iff.1 hk).mono fun _ => List.mem_append_right done
  refine Project.Extends.trans
    (Project.Extends.mono h (fun k hk => hk.imp_right hleft) fun k hk _ => hk.imp_right hleft)
    (Project.Extends.mono h' (fun k hk => ?_) fun k hk _ => ?_)
  · exact hk.imp (fun hway => h.way_eq config.featuresPath ▸ hway) hright
  · exact hk.imp (fun hway => h.way_eq config.featuresPath ▸ hway) hright

end Grows

/-! ## Features of words -/

section Word

variable (hname : IsWordText name.toList)

include hname

theorem leadsDown_lower : Path.LeadsDown [lower name.toList] := by
  have hdot : '.' ∉ lower name.toList := not_mem_lower hname.2 (by decide)
  refine List.forall_mem_singleton.2 ⟨isName_lower hname, fun h => ?_⟩
  rw [h] at hdot
  exact hdot List.mem_cons_self

/-- The directory of a feature is in that of all features. -/
theorem place_featurePath (p : Project) (config : Config) :
    p.place (featurePath config name) = p.place config.featuresPath ++ [lower name.toList] := by
  rw [featurePath_eq hname, Project.place_descend (leadsDown_lower hname)]

theorem mem_way_featurePath :
    k ∈ p.way (featurePath config name) ↔
      k ∈ p.way config.featuresPath ∨ k = p.place (featurePath config name) := by
  rw [place_featurePath hname, featurePath_eq hname,
    Project.mem_way_descend (leadsDown_lower hname)]
  constructor
  · rintro (hk | ⟨e, he, rfl⟩)
    · exact .inl hk
    · rcases List.prefix_cons_iff.1 he with rfl | ⟨t, rfl, ht⟩
      · rw [List.append_nil]
        exact .inl (p.place_mem_way _)
      · rw [List.prefix_nil.1 ht]
        exact .inr rfl
  · rintro (hk | rfl)
    · exact .inl hk
    · exact .inr ⟨_, List.prefix_rfl, rfl⟩

/-- Generating a feature is a change of the kind that features make. -/
theorem grows_generateFrom (config : Config) (p : Project) (text : String)
    (fallback : List String) :
    Grows p config [name]
      (Generator.generateFrom { config := config } p text name fallback).1 := by
  have hself (e : Location) : InFeature p config [name] (p.place (featurePath config name) ++ e) :=
    ⟨name, List.mem_cons_self, List.prefix_append _ e⟩
  refine (extends_generateFrom hname config p text fallback).mono ?_ ?_
  · rintro k (hway | ⟨e, -, heq⟩)
    · rcases (mem_way_featurePath hname).1 hway with hk | heq
      · exact .inl hk
      · rw [heq, ← List.append_nil (p.place (featurePath config name))]
        exact .inr (hself [])
    · rw [heq]
      exact .inr (hself e)
  · rintro k ⟨hway, e, -, heq⟩ -
    refine ⟨fun hk => hway ((mem_way_featurePath hname).2 (.inl hk)), ?_⟩
    rw [heq]
    exact hself e

/-- The directories of features whose names differ in lowercase have nothing in common. -/
theorem not_inFeature (hwords : ∀ n ∈ names, IsWordText n.toList)
    (hnew : lowercase name ∉ names.map lowercase)
    (hk : p.place (featurePath config name) <+: k) : ¬ InFeature p config names k := by
  rintro ⟨other, hother, hk'⟩
  rw [place_featurePath hname] at hk
  rw [place_featurePath (hwords other hother)] at hk'
  have habove := List.prefix_of_prefix_length_le hk hk' (by simp)
  have heq := List.append_cancel_left (habove.eq_of_length (by simp))
  refine hnew (List.mem_map.2 ⟨other, hother, ?_⟩)
  rw [lowercase, lowercase, List.head_eq_of_cons_eq heq]

/-- The file of a feature stays when others are generated. -/
theorem Grows.stat_file (h : Grows p config names q) (hwords : ∀ n ∈ names, IsWordText n.toList)
    (hnew : lowercase name ∉ names.map lowercase) (kind : FileKind) {node : Node}
    (hstat : p.stat (filePath config name kind) = .ok node) :
    q.stat (filePath config name kind) = .ok node := by
  refine Project.Extends.stat_eq_ok h (fun hfile => ?_) hstat
  refine not_inFeature hname hwords hnew ?_ hfile.2
  rw [filePath_eq hname, Project.place_descend (leadsDown_file hname kind)]
  exact List.prefix_append _ _

/-! ## A feature among others -/

/-- The directory from which the paths of features are followed is there, and they hold no null
character. -/
structure Ready (p : Project) (config : Config) : Prop where
  start : p.tree.get? (p.start config.featuresPath) = some .directory
  nullFree : ∀ n ∈ config.featuresPath.names, '\x00' ∉ n

omit hname in
theorem Ready.of_grows (hready : Ready p config) (h : Grows p config done q) : Ready q config where
  start := by
    rw [h.start_eq]
    exact Project.Extends.directory h hready.start
  nullFree := hready.nullFree

/-- The actions of a feature start where the directory of all features starts. -/
theorem start_plan {f : Feature} (hf : f.name = name) :
    ∀ a ∈ plan config .shipped f, p.start a.path = p.start config.featuresPath := by
  have hstart (ns : List (List Char)) :
      p.start ((featurePath config name).descend ns) = p.start config.featuresPath := by
    rw [featurePath_eq hname]
    rfl
  exact forall_mem_plan hname hf (fun _ _ => hstart _) (fun _ _ => hstart _) fun _ => hstart _

/-- The paths of a feature hold no null character. -/
theorem nullFree_plan (hready : Ready p config) {f : Feature} (hf : f.name = name) :
    ∀ a ∈ plan config .shipped f, ∀ n ∈ a.path.names, '\x00' ∉ n := by
  have hstem : '\x00' ∉ lower name.toList := not_mem_lower hname.2 (by decide)
  have hdescend {ns : List (List Char)} (hdown : Path.LeadsDown ns) (hns : ∀ n ∈ ns, '\x00' ∉ n) :
      ∀ n ∈ ((featurePath config name).descend ns).names, '\x00' ∉ n := by
    intro n hn
    rw [Path.names_descend fun n hn => (hdown n hn).1, featurePath_eq hname,
      Path.names_descend fun n hn => (leadsDown_lower hname n hn).1] at hn
    rcases List.mem_append.1 hn with hn | hn
    · rcases List.mem_append.1 hn with hn | hn
      · exact hready.nullFree n hn
      · rwa [List.mem_singleton.1 hn]
    · exact hns n hn
  have hkeep : ∀ d ∈ presentationDirs, ∀ n ∈ keepNames d, '\x00' ∉ n := by decide
  have hcode : ∀ d ∈ codeDirs, ∀ n ∈ [d.toList], '\x00' ∉ n := by decide
  refine forall_mem_plan hname hf (fun d hd => hdescend (leadsDown_keepNames d hd) (hkeep d hd))
    (fun d hd => hdescend (leadsDown_codeDirs d hd) (hcode d hd)) fun kind => ?_
  refine hdescend (leadsDown_file hname kind) fun n hn => ?_
  have hdir : ∀ n ∈ fileDirectory kind, '\x00' ∉ n := by cases kind <;> decide
  have hend : '\x00' ∉ fileEnd kind := by cases kind <;> decide
  rcases List.mem_append.1 hn with hn | hn
  · exact hdir n hn
  · rw [List.mem_singleton.1 hn]
    exact not_mem_fileName hstem hend

/-- A feature that is found fails for itself alone. -/
theorem isOk_or_feature (hready : Ready p config)
    (hfeature : Feature.ofSchema text name [] config.schema = .ok (f, source)) :
    (Generator.generateFrom { config := config } p text name []).2.isOk = true ∨
      ∃ fault, (Generator.generateFrom { config := config } p text name []).2 =
        .error (.feature name fault) := by
  obtain rfl := name_of_ofSchema hfeature
  rw [generateFrom_of_ok hfeature]
  cases h : (performAll p (plan config .shipped f)).2 with
  | none =>
    rw [write_of_none (g := { config := config }) h]
    exact .inl rfl
  | some fault =>
    have hlocal := isLocal_of_performAll (isText_plan hname rfl) (nullFree_plan hname hready rfl) h
    rw [write_of_some (g := { config := config }) h, if_pos hlocal]
    exact .inr ⟨fault, rfl⟩

/-- A feature that is found is generated exactly if nothing is in the way of its actions. -/
theorem isOk_generateFrom_iff (hready : Ready p config)
    (hfeature : Feature.ofSchema text name [] config.schema = .ok (f, source)) :
    (Generator.generateFrom { config := config } p text name []).2.isOk = true ↔
      Feasible p (plan config .shipped f) := by
  obtain rfl := name_of_ofSchema hfeature
  have hstart : ∀ a ∈ plan config .shipped f,
      p.tree.get? (p.start a.path) = some .directory := fun a ha => by
    rw [start_plan hname rfl a ha]
    exact hready.start
  rw [← performAll_eq_none_iff (isText_plan hname rfl) hstart, generateFrom_of_ok hfeature]
  cases h : (performAll p (plan config .shipped f)).2 with
  | none => simp [write_of_none (g := { config := config }) h, Except.isOk, Except.toBool]
  | some fault => simp [write_of_some (g := { config := config }) h, Except.isOk, Except.toBool]

/-- Features of other names are not in the way of a feature. -/
theorem isOk_of_grows (hready : Ready p config) (h : Grows p config done q)
    (hwords : ∀ n ∈ done, IsWordText n.toList) (hnew : lowercase name ∉ done.map lowercase) :
    (Generator.generateFrom { config := config } q text name []).2.isOk =
      (Generator.generateFrom { config := config } p text name []).2.isOk := by
  cases hfeature : Feature.ofSchema text name [] config.schema with
  | error fault => rw [generateFrom_of_error hfeature, generateFrom_of_error hfeature]
  | ok found =>
    obtain ⟨f, source⟩ := found
    rw [Bool.eq_iff_iff, isOk_generateFrom_iff hname hready hfeature,
      isOk_generateFrom_iff hname (hready.of_grows h) hfeature]
    obtain rfl := name_of_ofSchema hfeature
    refine Feasible.of_extends h ?_ ?_
    · rintro k hmakes ⟨hway, hin⟩
      rcases exists_of_makes_plan hname rfl hmakes with hk | ⟨e, -, heq⟩
      · rcases (mem_way_featurePath hname).1 hk with hk | heq
        · exact hway hk
        · rw [heq] at hin
          exact not_inFeature hname hwords hnew List.prefix_rfl hin
      · rw [heq] at hin
        exact not_inFeature hname hwords hnew (List.prefix_append _ e) hin
    · rintro path content hmem hmakes (hway | hin)
      · exact hmakes (makes_plan_of_mem_way hname rfl ((mem_way_featurePath hname).2 (.inl hway)))
      · exact not_inFeature hname hwords hnew (prefix_place_plan hname rfl _ hmem) hin

end Word

/-! ## Accounts of a batch -/

/-- A name without a message gets one at the end. -/
theorem Batch.setMessage_of_not_mem {message : String} {ms : List (String × String)}
    (h : name ∉ ms.map (·.1)) : setMessage name message ms = ms ++ [(name, message)] := by
  induction ms with
  | nil => rfl
  | cons m ms ih =>
    obtain ⟨n, text⟩ := m
    rw [List.map_cons, List.mem_cons, not_or] at h
    rw [setMessage, if_neg (Ne.symm h.1), ih h.2, List.cons_append]

/-- One batch comes from another by more names, some of which were generated. -/
structure Batch.Adds (ok : String → Bool) (names : List String) (b b' : Batch) : Prop where
  progress : b'.progress = b.progress ++ names.map fun name => (name, ok name)
  generated : b'.generated.map (·.name) = b.generated.map (·.name) ++ names.filter ok
  failed : b'.failed.map (·.1) = b.failed.map (·.1) ++ names.filter (!ok ·)

namespace Batch.Adds

variable {ok : String → Bool} {b b' b'' : Batch}

theorem refl (ok : String → Bool) (b : Batch) : b.Adds ok [] b := ⟨by simp, by simp, by simp⟩

theorem trans (h : b.Adds ok done b') (h' : b'.Adds ok names b'') :
    b.Adds ok (done ++ names) b'' where
  progress := by rw [h'.progress, h.progress, List.map_append, List.append_assoc]
  generated := by rw [h'.generated, h.generated, List.filter_append, List.append_assoc]
  failed := by rw [h'.failed, h.failed, List.filter_append, List.append_assoc]

theorem addGenerated {result : Generated} (hok : ok name = true) (hresult : result.name = name) :
    b.Adds ok [name] (b.addGenerated name result) := by
  constructor <;> simp [Batch.addGenerated, hok, hresult]

theorem addFailed (hok : ok name = false) (hnew : name ∉ b.failed.map (·.1)) (message : String) :
    b.Adds ok [name] (b.addFailed name message) := by
  constructor <;> simp [Batch.addFailed, hok, setMessage_of_not_mem hnew]

end Batch.Adds

/-! ## Runs of a batch -/

/-- After a feature that is generated come the others. -/
theorem generateAllFrom_cons_of_ok {g : Generator} {b : Batch} {result : Generated}
    (h : (g.generateFrom q text name []).2 = .ok result) :
    g.generateAllFrom text q b (name :: names) =
      g.generateAllFrom text (g.generateFrom q text name []).1 (b.addGenerated name result)
        names := by
  have hrun : g.generateFrom q text name [] = ((g.generateFrom q text name []).1, .ok result) :=
    Prod.ext rfl h
  rw [Generator.generateAllFrom, hrun]

/-- So they do after one that fails for itself alone. -/
theorem generateAllFrom_cons_of_feature {g : Generator} {b : Batch} {fault : ActionFault}
    (h : (g.generateFrom q text name []).2 = .error (.feature name fault)) :
    g.generateAllFrom text q b (name :: names) =
      g.generateAllFrom text (g.generateFrom q text name []).1
        (b.addFailed name (GenerationFault.feature name fault).message) names := by
  have hrun : g.generateFrom q text name [] =
      ((g.generateFrom q text name []).1, .error (.feature name fault)) := Prod.ext rfl h
  rw [Generator.generateAllFrom, hrun]

/-- It ends with a feature that cannot be found. -/
theorem generateAllFrom_cons_of_error {g : Generator} {b : Batch} {fault : DigitFault}
    (h : Feature.ofSchema text name [] g.config.schema = .error fault) (names : List String) :
    g.generateAllFrom text q b (name :: names) = (q, .error (.digits fault)) := by
  rw [Generator.generateAllFrom, generateFrom_of_error h]

/-- The first features of a batch are a batch of their own. -/
theorem generateAllFrom_append {g : Generator} {b b' : Batch}
    (h : g.generateAllFrom text q b done = (r, .ok b')) (names : List String) :
    g.generateAllFrom text q b (done ++ names) = g.generateAllFrom text r b' names := by
  induction done generalizing q b with
  | nil =>
    cases h
    rfl
  | cons name done ih =>
    rw [Generator.generateAllFrom] at h
    rw [List.cons_append, Generator.generateAllFrom]
    split at h
    · exact ih h
    · cases h
    · cases h
    · exact ih h

/-- All features of these names are found in the schema. -/
def AllFound (config : Config) (text : String) (names : List String) : Prop :=
  ∀ n ∈ names, ∃ f source, Feature.ofSchema text n [] config.schema = .ok (f, source)

/-- A batch goes on after each name, with that name in its accounts. -/
theorem exists_generateAllFrom_cons {ok : String → Bool} {b : Batch}
    (hname : IsWordText name.toList) (hready : Ready q config)
    (hfeature : Feature.ofSchema text name [] config.schema = .ok (f, source))
    (hok : (Generator.generateFrom { config := config } q text name []).2.isOk = ok name)
    (hnew : name ∉ b.failed.map (·.1)) (names : List String) :
    ∃ b', b.Adds ok [name] b' ∧
      Generator.generateAllFrom { config := config } text q b (name :: names) =
        Generator.generateAllFrom { config := config } text
          (Generator.generateFrom { config := config } q text name []).1 b' names := by
  cases hresult : (Generator.generateFrom { config := config } q text name []).2 with
  | ok result =>
    rw [hresult] at hok
    obtain ⟨f, source, hfound, -, -, rfl⟩ := generateFrom_eq_ok hresult
    exact ⟨_, .addGenerated hok.symm (name_of_ofSchema hfound), generateAllFrom_cons_of_ok hresult⟩
  | error fault =>
    rcases isOk_or_feature hname hready hfeature with htrue | ⟨f, hf⟩
    · rw [hresult] at htrue
      cases htrue
    · rw [hf] at hok
      exact ⟨_, .addFailed hok.symm hnew _, generateAllFrom_cons_of_feature hf⟩

/-- Whether a feature is generated when it is generated alone. -/
def aloneOk (config : Config) (p : Project) (text name : String) : Bool :=
  (Generator.generateFrom { config := config } p text name []).2.isOk

/-- A feature that is generated was found and has its files. -/
theorem files_of_isOk (hname : IsWordText name.toList)
    (h : (Generator.generateFrom { config := config } p text name []).2.isOk = true) :
    ∃ f source, Feature.ofSchema text name [] config.schema = .ok (f, source) ∧
      ∀ kind : FileKind, (Generator.generateFrom { config := config } p text name []).1.stat
          (filePath config name kind) = .ok (.file (kind.module f).render.toByteArray) := by
  obtain ⟨result, hresult⟩ := exists_eq_ok_of_isOk h
  obtain ⟨f, source, hfeature, hwrite, hrun, -⟩ := generateFrom_eq_ok hresult
  obtain rfl := name_of_ofSchema hfeature
  refine ⟨f, source, hfeature, fun kind => ?_⟩
  rw [hwrite]
  exact (done_write hname hrun source _
    (List.mem_append_right _ (List.mem_map_of_mem (mem_all kind)))).2

/-- From a project in which other features were generated a batch goes through all names that are
found: each feature is generated exactly if it could be generated alone from the first project `p`,
and those that are generated have their files at last. -/
theorem generateAllFrom_spec (text : String) (b : Batch) (names : List String)
    (hready : Ready p config) (hgrows : Grows p config done q)
    (hwords : ∀ n ∈ done ++ names, IsWordText n.toList)
    (hdistinct : ((done ++ names).map lowercase).Nodup) (hfound : AllFound config text names)
    (hfailed : ∀ n ∈ b.failed.map (·.1), n ∈ done) :
    ∃ q' b', Generator.generateAllFrom { config := config } text q b names = (q', .ok b') ∧
      Grows q config names q' ∧ b.Adds (aloneOk config p text) names b' ∧
      ∀ n ∈ names, aloneOk config p text n = true → ∃ f source,
        Feature.ofSchema text n [] config.schema = .ok (f, source) ∧
        ∀ kind : FileKind, q'.stat (filePath config n kind) =
          .ok (.file (kind.module f).render.toByteArray) := by
  induction names generalizing done q b with
  | nil => exact ⟨q, b, rfl, .refl q config, .refl _ b, fun n hn => absurd hn List.not_mem_nil⟩
  | cons name names ih =>
    have hname := hwords name (List.mem_append_right done List.mem_cons_self)
    obtain ⟨f, source, hfeature⟩ := hfound name List.mem_cons_self
    have hfound' : AllFound config text names := fun n hn => hfound n (List.mem_cons_of_mem _ hn)
    have hwords' : ∀ n ∈ (done ++ [name]) ++ names, IsWordText n.toList := by
      rwa [List.append_assoc]
    have hdistinct' : (((done ++ [name]) ++ names).map lowercase).Nodup := by
      rwa [List.append_assoc]
    have hdone : ∀ n ∈ done, IsWordText n.toList := fun n hn => hwords n (List.mem_append_left _ hn)
    rw [List.map_append, List.map_cons, List.nodup_append, List.nodup_cons] at hdistinct
    obtain ⟨-, ⟨hlater, -⟩, hcross⟩ := hdistinct
    have hearlier : lowercase name ∉ done.map lowercase := fun h =>
      hcross _ h _ List.mem_cons_self rfl
    have hnew : name ∉ b.failed.map (·.1) := fun h =>
      hearlier (List.mem_map_of_mem (hfailed name h))
    -- The feature fares as it would alone.
    have hok : (Generator.generateFrom { config := config } q text name []).2.isOk =
        aloneOk config p text name := isOk_of_grows hname hready hgrows hdone hearlier
    have hstep := grows_generateFrom hname config q text []
    obtain ⟨b₁, hadds, hcons⟩ :=
      exists_generateAllFrom_cons hname (hready.of_grows hgrows) hfeature hok hnew names
    have hfailed' : ∀ n ∈ b₁.failed.map (·.1), n ∈ done ++ [name] := by
      rw [hadds.failed]
      intro n hn
      rcases List.mem_append.1 hn with hn | hn
      · exact List.mem_append_left _ (hfailed n hn)
      · exact List.mem_append_right _ (List.mem_filter.1 hn).1
    obtain ⟨q', b', hrun, hrest, hadds', hfiles⟩ :=
      ih b₁ (hgrows.trans hstep) hwords' hdistinct' hfound' hfailed'
    refine ⟨q', b', hcons.trans hrun, hstep.trans hrest, hadds.trans hadds', ?_⟩
    intro n hn hn_ok
    rcases List.mem_cons.1 hn with rfl | hn
    · -- Its files are there after its own turn, and stay when the others take theirs.
      have hothers : ∀ m ∈ names, IsWordText m.toList := fun m hm =>
        hwords m (List.mem_append_right done (List.mem_cons_of_mem _ hm))
      obtain ⟨g, origin, hg, hfiles⟩ := files_of_isOk hname (hok.trans hn_ok)
      exact ⟨g, origin, hg, fun kind => hrest.stat_file hname hothers hlater kind (hfiles kind)⟩
    · exact hfiles n hn hn_ok

/-! ## The whole batch -/

/-- A schema that can be read is read once for all features. -/
theorem generateAll_eq {g : Generator} (hread : p.readSchema g.config = .ok text)
    (names : List String) : g.generateAll p names = g.generateAllFrom text p {} names := by
  rw [Generator.generateAll, hread]

theorem exists_of_isFile {path : Path} (h : p.isFile path = .ok true) :
    ∃ content, p.stat path = .ok (.file content) := by
  rw [Project.isFile, Project.isAt] at h
  split at h
  · next node hnode =>
    cases node with
    | file content => exact ⟨content, hnode⟩
    | directory => cases h
  · cases h
  · cases h

/-- If the schema can be read from its usual place, features can be generated to theirs. -/
theorem ready_of_readSchema (hschema : config.schema.path = "prisma/schema.prisma")
    (hfeatures : config.featuresDir = "src/features") (h : p.readSchema config = .ok text) :
    Ready p config := by
  have hfile : p.isFile config.schemaPath = .ok true := by
    rw [Project.readSchema] at h
    split at h
    · cases h
    · cases h
    · assumption
  obtain ⟨content, hstat⟩ := exists_of_isFile hfile
  obtain ⟨hfits, hpassed, -⟩ := Project.stat_eq_ok_iff.1 hstat
  have hpath : config.schemaPath =
      config.basePath.descend ["prisma".toList, "schema.prisma".toList] := by
    rw [Config.schemaPath, hschema, Path.join_eq_descend (by decide)]
    rfl
  have hfeaturesPath : config.featuresPath =
      config.basePath.descend ["src".toList, "features".toList] := by
    rw [Config.featuresPath, hfeatures, Path.join_eq_descend (by decide)]
    rfl
  have hnames : config.schemaPath.names =
      config.basePath.names ++ ["prisma".toList, "schema.prisma".toList] := by
    rw [hpath, Path.names_descend (by decide)]
  constructor
  · have hstart : p.start config.featuresPath = p.start config.schemaPath := by
      rw [hpath, hfeaturesPath]
      rfl
    have hne : config.schemaPath.names ≠ [] := by simp [hnames]
    rw [hstart]
    apply hpassed
    rw [(Project.way_eq_parent hne).1]
    exact p.start_mem_way config.schemaPath.parent
  · intro n hn
    rw [hfeaturesPath, Path.names_descend (by decide)] at hn
    rcases List.mem_append.1 hn with hn | hn
    · exact hfits.nullFree n (hnames ▸ List.mem_append_left _ hn)
    · have hplain : ∀ n ∈ ["src".toList, "features".toList], '\x00' ∉ n := by decide
      exact hplain n hn

/-- A schema that is stored without carriage returns is read as it is. -/
theorem readSchema_of_stat (hstat : p.stat config.schemaPath = .ok (.file text.toByteArray))
    (hreturn : '\r' ∉ text.toList) : p.readSchema config = .ok text := by
  have hfile : p.isFile config.schemaPath = .ok true := by
    rw [Project.isFile, Project.isAt, hstat]
  have hbytes : p.readBytes config.schemaPath = .ok text.toByteArray := by
    rw [Project.readBytes, hstat]
  have hstored : p.readStored config.schemaPath = .ok text := by
    rw [Project.readStored, hbytes]
    show (decodeUtf8 text.toByteArray).mapError _ = _
    rw [decodeUtf8_toByteArray]
    rfl
  rw [Project.readSchema, hfile, Project.readText, hstored]
  show Except.ok (Project.unified text) = .ok text
  rw [Project.unified, unifyNewlines_of_not_mem hreturn, String.ofList_toList]

/-- A project that holds a schema alone. -/
def schemaProject (text : String) : Project :=
  (Project.writeFile { tree := .empty, cwd := [] } (Path.ofString "prisma/schema.prisma")
    text.toByteArray).1

theorem readSchema_schemaProject (hreturn : '\r' ∉ text.toList) :
    (schemaProject text).readSchema {} = .ok text := by
  have hpath : ({} : Config).schemaPath = Path.ofString "prisma/schema.prisma" := by decide
  refine readSchema_of_stat ?_ hreturn
  rw [hpath]
  exact Project.stat_writeFile (by with_unfolding_all rfl)

/-- If all features are found in the schema, generating them never gives up, accounts for each name
in order, and each feature fares as it would alone: it is generated if and only if it would be, and
with the same files.  The first feature that is not found ends the run, and those before it have
fared as they would alone. -/
theorem generateAll_independent (config : Config)
    (hschema : config.schema.path = "prisma/schema.prisma")
    (hfeatures : config.featuresDir = "src/features") (p : Project) (text : String)
    (hread : p.readSchema config = .ok text) (names : List String)
    (hwords : ∀ n ∈ names, IsWordText n.toList) (hdistinct : (names.map lowercase).Nodup) :
    let g : Generator := { config := config }
    (AllFound config text names → ∃ q b, g.generateAll p names = (q, .ok b) ∧
      b.progress = names.map (fun n => (n, (g.generateFrom p text n []).2.isOk)) ∧
      b.generated.map (·.name) = (b.progress.filter (·.2)).map (·.1) ∧
      b.failed.map (·.1) = (b.progress.filter (!·.2)).map (·.1) ∧
      b.total = names.length ∧
      (b.succeeded = true ↔ ∀ r ∈ b.progress, r.2 = true) ∧
      ∀ n ∈ names, (g.generateFrom p text n []).2.isOk = true → ∀ kind : FileKind,
        ∃ content, q.stat (filePath config n kind) = .ok (.file content) ∧
          (g.generateFrom p text n []).1.stat (filePath config n kind) = .ok (.file content)) ∧
    ∀ done name later fault, names = done ++ name :: later → AllFound config text done →
      Feature.ofSchema text name [] config.schema = .error fault →
      ∃ q, g.generateAll p names = (q, .error (.digits fault)) ∧
        ∀ n ∈ done, (g.generateFrom p text n []).2.isOk = true → ∀ kind : FileKind,
          ∃ content, q.stat (filePath config n kind) = .ok (.file content) ∧
            (g.generateFrom p text n []).1.stat (filePath config n kind) =
              .ok (.file content) := by
  intro g
  have hready := ready_of_readSchema hschema hfeatures hread
  have hsame {q : Project} {n : String} (hn : IsWordText n.toList)
      (hok : (g.generateFrom p text n []).2.isOk = true)
      (hfiles : ∃ f source, Feature.ofSchema text n [] config.schema = .ok (f, source) ∧
        ∀ kind : FileKind, q.stat (filePath config n kind) =
          .ok (.file (kind.module f).render.toByteArray)) (kind : FileKind) :
      ∃ content, q.stat (filePath config n kind) = .ok (.file content) ∧
        (g.generateFrom p text n []).1.stat (filePath config n kind) = .ok (.file content) := by
    obtain ⟨f, source, hfeature, hstat⟩ := hfiles
    obtain ⟨f', source', hfeature', hstat'⟩ := files_of_isOk hn hok
    obtain ⟨rfl, -⟩ := Prod.mk.inj (Except.ok.inj (hfeature.symm.trans hfeature'))
    exact ⟨_, hstat kind, hstat' kind⟩
  constructor
  · intro hfound
    obtain ⟨q, b, hrun, -, hadds, hfiles⟩ := generateAllFrom_spec text {} names hready
      (.refl p config) hwords hdistinct hfound fun n hn => absurd hn List.not_mem_nil
    have hprogress : b.progress = names.map fun n => (n, aloneOk config p text n) := hadds.progress
    have hgenerated : b.generated.map (·.name) = names.filter (aloneOk config p text) :=
      hadds.generated
    have hfailed : b.failed.map (·.1) = names.filter (!aloneOk config p text ·) := hadds.failed
    refine ⟨q, b, (generateAll_eq (g := g) hread names).trans hrun, hprogress, ?_, ?_, ?_, ?_, ?_⟩
    · rw [hgenerated, hprogress, List.filter_map, List.map_map]
      simp [Function.comp_def]
    · rw [hfailed, hprogress, List.filter_map, List.map_map]
      simp [Function.comp_def]
    · have hgeneratedLength := congrArg List.length hgenerated
      have hfailedLength := congrArg List.length hfailed
      rw [List.length_map] at hgeneratedLength hfailedLength
      rw [Batch.total, hgeneratedLength, hfailedLength]
      exact (List.length_eq_length_filter_add _).symm
    · have hempty : b.succeeded = true ↔ names.filter (!aloneOk config p text ·) = [] := by
        rw [Batch.succeeded, List.isEmpty_iff, ← hfailed, List.map_eq_nil_iff]
      rw [hempty, hprogress]
      simp [List.filter_eq_nil_iff]
    · intro n hn hok
      exact hsame (hwords n hn) hok (hfiles n hn hok)
  · intro done name later fault hnames hfound hfault
    subst hnames
    have hdone : ∀ n ∈ done, IsWordText n.toList := fun n hn => hwords n (List.mem_append_left _ hn)
    have hdistinct' : (done.map lowercase).Nodup := by
      rw [List.map_append, List.nodup_append] at hdistinct
      exact hdistinct.1
    obtain ⟨q, b, hrun, -, -, hfiles⟩ := generateAllFrom_spec text {} done hready
      (.refl p config) hdone hdistinct' hfound fun n hn => absurd hn List.not_mem_nil
    refine ⟨q, ?_, fun n hn hok => hsame (hdone n hn) hok (hfiles n hn hok)⟩
    rw [generateAll_eq (g := g) hread, generateAllFrom_append hrun]
    exact generateAllFrom_cons_of_error hfault later

/-- A file where the directory of the second feature would be stops that feature alone. -/
theorem generateAll_independent_blocked :
    let config : Config := {}
    let g : Generator := { config := config }
    let text := "model Post \x7b\n  id Int @id\n\x7d\nmodel User \x7b\n  id Int @id\n\x7d\n"
    let start : Project := { tree := .empty, cwd := [] }
    let withSchema := (start.writeFile (Path.ofString "prisma/schema.prisma") text.toByteArray).1
    let p := (withSchema.writeFile (Path.ofString "src/features/user") "".toByteArray).1
    p.readSchema config = .ok text ∧
      ∃ q b, g.generateAll p ["User", "Post"] = (q, .ok b) ∧
        b.progress = [("User", false), ("Post", true)] ∧ b.generated.map (·.name) = ["Post"] ∧
        ∃ content, q.stat (filePath config "Post" .index) = .ok (.file content) := by
  intro config g text start withSchema p
  have hread : p.readSchema config = .ok text := by decide +kernel
  have hwords : ∀ n ∈ ["User", "Post"], IsWordText n.toList := by
    simp only [List.forall_mem_cons]
    exact ⟨⟨by decide, by decide⟩, ⟨by decide, by decide⟩, List.forall_mem_nil _⟩
  have hblocked : (g.generateFrom p text "User" []).2.isOk = false := by decide +kernel
  have hfree : (g.generateFrom p text "Post" []).2.isOk = true := by decide +kernel
  have hfeatures : ∀ n ∈ ["User", "Post"],
      (Feature.ofSchema text n [] config.schema).isOk = true := by decide +kernel
  have hfound : AllFound config text ["User", "Post"] := fun n hn => by
    obtain ⟨⟨f, source⟩, hf⟩ := exists_eq_ok_of_isOk (hfeatures n hn)
    exact ⟨f, source, hf⟩
  obtain ⟨q, b, hrun, hprogress, hgenerated, -, -, -, hfiles⟩ :=
    (generateAll_independent config rfl rfl p text hread _ hwords (by decide)).1 hfound
  rw [List.map_cons, List.map_cons, List.map_nil, hblocked, hfree] at hprogress
  obtain ⟨content, hcontent, -⟩ := hfiles "Post" (by decide) hfree .index
  refine ⟨hread, q, b, hrun, hprogress, ?_, content, hcontent⟩
  rw [hgenerated, hprogress]
  rfl

/-- The schema of `longDocument`. -/
def longText : String := String.ofList Schema.longDocument.text

theorem readSchema_longText : (schemaProject longText).readSchema {} = .ok longText := by
  apply readSchema_schemaProject
  rw [longText, String.toList_ofList]
  exact fun h => absurd (Schema.text_longDocument_subset h) (by decide)

theorem ofSchema_longText : Feature.ofSchema longText "Post" [] {} = .error ⟨4301⟩ := by
  have hcompile : Schema.compile longText "Post" {} = .error ⟨4301⟩ :=
    Schema.compile_eq_error String.toList_ofList Schema.modelBody?_longDocument
      Schema.ofText_longDocument {}
  rw [Feature.ofSchema, Feature.resolveFields, hcompile]
  rfl

/-- A feature that cannot be found ends the run, though nothing is in the way of its files. -/
theorem generateAll_longText :
    (schemaProject longText).readSchema {} = .ok longText ∧ IsWordText "Post".toList ∧
      (Generator.generateAll { config := {} } (schemaProject longText) ["Post"]).2 =
        .error (.digits ⟨4301⟩) := by
  refine ⟨readSchema_longText, ⟨by decide, by decide⟩, ?_⟩
  rw [generateAll_eq (g := { config := {} }) readSchema_longText,
    generateAllFrom_cons_of_error (g := { config := {} }) ofSchema_longText]

end FeatureGen.Generation

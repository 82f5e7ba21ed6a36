import FeatureGen.Proofs.Feature.Reading
import FeatureGen.Proofs.Generation.Batch
import FeatureGen.Proofs.Schema.Ledger
import FeatureGen.Proofs.Schema.Lookup
import FeatureGen.Proofs.Text.Lines

/-!
# Imports between features

The interface of a feature imports the types of the entities that its fields lead to.  An import
names a model as the schema spells it, and leads to the directory that is named for the model in
lowercase.  After a batch without failures that directory is there, and the interface in it declares
the type of the model (`imports_lead_to_features`).

It does so under the name that `pascalCase` makes of the spelling in the schema, which is the name
that is imported only for a model that is spelled in that style.  For a model `blog_user` the
interface declares `BlogUser`, and no file declares what the others import
(`import_without_declaration`).
-/

namespace FeatureGen.Schema

open FeatureGen.Text

/-- Models have words for names. -/
theorem isWordText_of_mem_modelNames {text n : List Char} (h : n ∈ modelNames text) :
    IsWordText n := by
  rw [modelNames] at h
  obtain ⟨a, ha, rfl⟩ := List.mem_map.1 (mem_of_mem_firstsBy h).1
  obtain ⟨p, t, -, hstep⟩ := mem_searchAll_iff.1 ha
  obtain ⟨-, w, w', -, -, -, hword, -⟩ := exists_of_namedHeaderAt? hstep
  exact hword

end FeatureGen.Schema

namespace FeatureGen.Feature

open FeatureGen.Text

variable {f : Feature} {target directory : String}

/-! ## The imports of an interface -/

/-- An import of a type leads to the directory that its name has in lowercase. -/
theorem directory_of_import
    (h : .importTypes [target] ("@/features/" ++ directory) ∈ f.interfaceFile) :
    directory = lowercase target := by
  rw [interfaceFile, List.mem_append, List.mem_append] at h
  rcases h with (h | h) | h
  · cases List.mem_singleton.1 h
  · obtain ⟨related, -, heq⟩ := List.mem_map.1 h
    rw [Statement.importTypes.injEq] at heq
    obtain ⟨hnames, hspecifier⟩ := heq
    rw [List.head_eq_of_cons_eq hnames] at hspecifier
    have hchars := congrArg String.toList hspecifier
    rw [String.toList_append, String.toList_append] at hchars
    exact (String.toList_inj.1 (List.append_cancel_left hchars)).symm
  · simp at h

theorem import_mem_interfaceFile (h : target ∈ f.relatedModels) :
    .importTypes [target] ("@/features/" ++ lowercase target) ∈ f.interfaceFile := by
  rw [interfaceFile, List.mem_append, List.mem_append]
  exact Or.inl (Or.inr (List.mem_map.2 ⟨target, h, rfl⟩))

/-- The interface of a feature declares the type of its entity. -/
theorem model_mem_interfaceNames (f : Feature) :
    f.model ∈ interfaceNames f.interfaceFile.render := by
  have hmem : .interface f.model f.entityMembers ∈ f.interfaceFile := by simp [interfaceFile]
  exact mem_interfaceNames hmem (not_mem_model f (by decide) (by decide))
    (not_mem_model f (by decide) (by decide))

end FeatureGen.Feature

namespace FeatureGen.Generation

open FeatureGen.Text

variable {config : Config} {p q q' : Project} {text name : String} {names : List String}
  {b b' : Batch}

/-! ## A batch without failures -/

theorem setMessage_ne_nil (name message : String) (ms : List (String × String)) :
    Batch.setMessage name message ms ≠ [] := by
  cases ms with
  | nil => exact List.cons_ne_nil _ _
  | cons m ms =>
    rw [Batch.setMessage]
    split <;> exact List.cons_ne_nil _ _

/-- A failure is never forgotten. -/
theorem failed_ne_nil_of_generateAllFrom {g : Generator} (hb : b.failed ≠ [])
    (hrun : g.generateAllFrom text q b names = (q', .ok b')) : b'.failed ≠ [] := by
  induction names generalizing q b with
  | nil =>
    cases hrun
    exact hb
  | cons name names ih =>
    rw [Generator.generateAllFrom] at hrun
    split at hrun
    · next result _ =>
      have hkept : (b.addGenerated name result).failed ≠ [] := hb
      exact ih hkept hrun
    · cases hrun
    · cases hrun
    · next fault _ _ _ =>
      have hadded : (b.addFailed name fault.message).failed ≠ [] := setMessage_ne_nil _ _ _
      exact ih hadded hrun

/-- In a batch without failures the first feature is generated, and then the others. -/
theorem exists_of_generateAllFrom_cons {g : Generator}
    (hrun : g.generateAllFrom text q b (name :: names) = (q', .ok b')) (hok : b'.failed = []) :
    ∃ result, (g.generateFrom q text name []).2 = .ok result ∧
      g.generateAllFrom text (g.generateFrom q text name []).1 (b.addGenerated name result) names =
        (q', .ok b') := by
  rw [Generator.generateAllFrom] at hrun
  split at hrun
  · next r result hresult =>
    rw [hresult]
    exact ⟨result, rfl, hrun⟩
  · cases hrun
  · cases hrun
  · next fault _ _ _ =>
    have hadded : (b.addFailed name fault.message).failed ≠ [] := setMessage_ne_nil _ _ _
    exact absurd hok (failed_ne_nil_of_generateAllFrom hadded hrun)

/-- In a batch without failures every feature is generated to its directory, and its files are there
at last. -/
theorem generated_of_succeeded (hwords : ∀ n ∈ names, IsWordText n.toList)
    (hdistinct : (names.map lowercase).Nodup)
    (hrun : Generator.generateAllFrom { config := config } text q b names = (q', .ok b'))
    (hok : b'.failed = []) :
    Grows q config names q' ∧ (∀ r ∈ b.generated, r ∈ b'.generated) ∧ ∀ n ∈ names,
      (∃ r ∈ b'.generated, r.name = n ∧ r.path = featurePath config n) ∧
      ∃ f source, Feature.ofSchema text n [] config.schema = .ok (f, source) ∧
        ∀ kind : FileKind, q'.stat (filePath config n kind) =
          .ok (.file (kind.module f).render.toByteArray) := by
  induction names generalizing q b with
  | nil =>
    cases hrun
    exact ⟨.refl q' config, fun r hr => hr, fun n hn => by cases hn⟩
  | cons name names ih =>
    have hname := hwords name List.mem_cons_self
    have hothers : ∀ n ∈ names, IsWordText n.toList := fun n hn =>
      hwords n (List.mem_cons_of_mem name hn)
    rw [List.map_cons, List.nodup_cons] at hdistinct
    obtain ⟨result, hresult, hrest⟩ := exists_of_generateAllFrom_cons hrun hok
    obtain ⟨hgrows, hkept, hall⟩ := ih hothers hdistinct.2 hrest
    have hisOk : (Generator.generateFrom { config := config } q text name []).2.isOk = true := by
      rw [hresult]
      rfl
    obtain ⟨f, source, hfeature, -, -, houtcome⟩ := generateFrom_eq_ok hresult
    have hfname := name_of_ofSchema hfeature
    refine ⟨(grows_generateFrom hname config q text []).trans hgrows, ?_, ?_⟩
    · intro r hr
      exact hkept r (List.mem_append_left _ hr)
    · intro n hn
      rcases List.mem_cons.1 hn with rfl | hn
      · refine ⟨⟨result, hkept result (List.mem_append_right _ List.mem_cons_self), ?_, ?_⟩, ?_⟩
        · rw [houtcome]
          exact hfname
        · rw [houtcome]
          exact congrArg (featurePath config) hfname
        · -- Its files are there after its own turn, and stay when the others take theirs.
          obtain ⟨f, source, hfeature, hfiles⟩ := files_of_isOk hname hisOk
          exact ⟨f, source, hfeature, fun kind =>
            hgrows.stat_file hname hothers hdistinct.1 kind (hfiles kind)⟩
      · exact hall n hn

/-- After a batch without failures over all models of a schema, an import of a declared model leads
to the directory of the feature that was generated for it, and the interface there declares the
model, under the name in the style of the generated code. -/
theorem imports_lead_to_features (hread : p.readSchema config = .ok text)
    (hnames : names = (Schema.modelNames text.toList).map String.ofList)
    (hdistinct : (names.map lowercase).Nodup)
    (hrun : Generator.generateAll { config := config } p names = (q, .ok b))
    (hok : b.succeeded = true) :
    ∀ name ∈ names, ∃ f source,
      Feature.ofSchema text name [] config.schema = .ok (f, source) ∧
      q.stat (filePath config name .interface) =
        .ok (.file f.interfaceFile.render.toByteArray) ∧
      ∀ target ∈ names, ∀ directory,
        .importTypes [target] ("@/features/" ++ directory) ∈ f.interfaceFile →
        (∃ r ∈ b.generated, r.name = target ∧ r.path = config.featuresPath / directory) ∧
        ∃ code, q.stat (filePath config target .interface) = .ok (.file code.toByteArray) ∧
          Feature.pascalCase target ∈ Feature.interfaceNames code := by
  have hwords : ∀ n ∈ names, IsWordText n.toList := by
    intro n hn
    rw [hnames] at hn
    obtain ⟨m, hm, rfl⟩ := List.mem_map.1 hn
    rw [String.toList_ofList]
    exact Schema.isWordText_of_mem_modelNames hm
  rw [generateAll_eq (g := { config := config }) hread] at hrun
  obtain ⟨-, -, hall⟩ :=
    generated_of_succeeded hwords hdistinct hrun (List.isEmpty_iff.1 hok)
  intro name hname
  obtain ⟨-, f, source, hfeature, hstat⟩ := hall name hname
  refine ⟨f, source, hfeature, hstat .interface, ?_⟩
  intro target htarget directory himport
  obtain ⟨⟨r, hr, hrname, hrpath⟩, f', source', hfeature', hfiles⟩ := hall target htarget
  have hdeclared := Feature.model_mem_interfaceNames f'
  rw [Feature.model, name_of_ofSchema hfeature'] at hdeclared
  refine ⟨⟨r, hr, hrname, ?_⟩, _, hfiles .interface, hdeclared⟩
  rw [hrpath, Feature.directory_of_import himport]
  rfl

/-- A batch has no failures if each feature can be generated alone. -/
theorem exists_run_of_alone (hschema : config.schema.path = "prisma/schema.prisma")
    (hfeatures : config.featuresDir = "src/features") (hread : p.readSchema config = .ok text)
    (hwords : ∀ n ∈ names, IsWordText n.toList) (hdistinct : (names.map lowercase).Nodup)
    (halone : ∀ n ∈ names, aloneOk config p text n = true) :
    ∃ q b, Generator.generateAll { config := config } p names = (q, .ok b) ∧
      b.succeeded = true := by
  have hfound : AllFound config text names := fun n hn => by
    obtain ⟨f, source, hfeature, -⟩ := files_of_isOk (hwords n hn) (halone n hn)
    exact ⟨f, source, hfeature⟩
  obtain ⟨q, b, hrun, -, hadds, -⟩ := generateAllFrom_spec text {} names
    (ready_of_readSchema hschema hfeatures hread) (.refl p config) hwords hdistinct hfound
    fun n hn => absurd hn List.not_mem_nil
  have hnone : names.filter (!aloneOk config p text ·) = [] := by
    rw [List.filter_eq_nil_iff]
    intro n hn
    simp [halone n hn]
  have hfailed : b.failed.map (·.1) = names.filter (!aloneOk config p text ·) := hadds.failed
  rw [hnone, List.map_eq_nil_iff] at hfailed
  exact ⟨q, b, (generateAll_eq (g := { config := config }) hread names).trans hrun,
    List.isEmpty_iff.2 hfailed⟩

/-! ## A model in another style -/

/-- A schema in which a model leads to one that is spelled in small letters. -/
def blogText : String := "model blog_user \x7b\n name String\n\x7d\nmodel Post \x7b\n author blog_user\n\x7d"

theorem readSchema_blogText : (schemaProject blogText).readSchema {} = .ok blogText :=
  readSchema_schemaProject (not_mem_literal (by decide))

theorem modelNames_blogText :
    (Schema.modelNames blogText.toList).map String.ofList = ["blog_user", "Post"] := by
  rw [blogText, String.toList_ofList]
  decide

theorem nodup_lowercase_blog : (["blog_user", "Post"].map lowercase).Nodup := by decide

theorem isWordText_blog : ∀ n ∈ ["blog_user", "Post"], IsWordText n.toList := by
  simp only [List.forall_mem_cons]
  exact ⟨⟨by decide, by decide⟩, ⟨by decide, by decide⟩, List.forall_mem_nil _⟩

/-- The batch over `blogText` has no failures. -/
theorem exists_run_blogText : ∃ q b,
    Generator.generateAll { config := {} } (schemaProject blogText) ["blog_user", "Post"] =
      (q, .ok b) ∧ b.succeeded = true := by
  have halone : ∀ n ∈ ["blog_user", "Post"],
      aloneOk {} (schemaProject blogText) blogText n = true := by decide +kernel
  exact exists_run_of_alone rfl rfl readSchema_blogText isWordText_blog nodup_lowercase_blog halone

theorem import_mem_blogText {f : Feature} {source : FieldSource}
    (h : Feature.ofSchema blogText "Post" [] {} = .ok (f, source)) :
    .importTypes ["blog_user"] ("@/features/" ++ "blog_user") ∈ f.interfaceFile := by
  have hrelated : (Feature.ofSchema blogText "Post" [] {}).map (·.1.relatedModels) =
      .ok ["blog_user"] := by
    have htext : blogText.toList = _ := String.toList_ofList
    rw [Feature.ofSchema, Feature.resolveFields, Schema.compile_of_toList htext]
    with_unfolding_all decide
  have hlower : lowercase "blog_user" = "blog_user" := by decide
  rw [h] at hrelated
  have hmem : "blog_user" ∈ f.relatedModels := by
    rw [show f.relatedModels = ["blog_user"] from Except.ok.inj hrelated]
    exact List.mem_cons_self
  have himport := Feature.import_mem_interfaceFile hmem
  rwa [hlower] at himport

theorem interfaceNames_blogText {f : Feature} {source : FieldSource}
    (h : Feature.ofSchema blogText "blog_user" [] {} = .ok (f, source)) :
    Feature.interfaceNames f.interfaceFile.render = ["BlogUser"] := by
  have hnames : (Feature.ofSchema blogText "blog_user" [] {}).map (fun r =>
      ((r.1.interfaceFile.flatMap Feature.Statement.lines).flatMap Feature.codeLines ++
        [[]]).filterMap (Feature.nameAfter? "export interface ")) = .ok ["BlogUser"] := by
    have htext : blogText.toList = _ := String.toList_ofList
    rw [Feature.ofSchema, Feature.resolveFields, Schema.compile_of_toList htext]
    with_unfolding_all decide
  rw [h] at hnames
  rw [Feature.interfaceNames, Feature.codeLines_render]
  exact Except.ok.inj hnames

/-- The import of `blog_user` leads to its feature, where `BlogUser` is declared. -/
theorem imports_lead_to_features_blog : ∃ q b,
    Generator.generateAll { config := {} } (schemaProject blogText) ["blog_user", "Post"] =
      (q, .ok b) ∧
    (∃ r ∈ b.generated, r.name = "blog_user" ∧
      r.path = ({} : Config).featuresPath / "blog_user") ∧
    ∃ code, q.stat (filePath {} "blog_user" .interface) = .ok (.file code.toByteArray) ∧
      "BlogUser" ∈ Feature.interfaceNames code := by
  obtain ⟨q, b, hrun, hok⟩ := exists_run_blogText
  obtain ⟨f, source, hfeature, -, hall⟩ := imports_lead_to_features readSchema_blogText
    modelNames_blogText.symm nodup_lowercase_blog hrun hok "Post" (by decide)
  obtain ⟨hgenerated, code, hcode, hmem⟩ :=
    hall "blog_user" (by decide) "blog_user" (import_mem_blogText hfeature)
  have hname : Feature.pascalCase "blog_user" = "BlogUser" := by decide
  rw [hname] at hmem
  exact ⟨q, b, hrun, hgenerated, code, hcode, hmem⟩

/-- What the interface of `Post` imports is not what the interface of `blog_user` declares. -/
theorem import_without_declaration :
    (Schema.modelNames blogText.toList).map String.ofList = ["blog_user", "Post"] ∧
    (["blog_user", "Post"].map lowercase).Nodup ∧ ∃ q b,
      Generator.generateAll { config := {} } (schemaProject blogText) ["blog_user", "Post"] =
        (q, .ok b) ∧
      b.succeeded = true ∧
      (∃ code, q.stat (filePath {} "Post" .interface) = .ok (.file code.toByteArray) ∧
        "import type \x7b blog_user \x7d from '@/features/blog_user'".toList ∈
          Feature.codeLines code) ∧
      ∃ code, q.stat (filePath {} "blog_user" .interface) = .ok (.file code.toByteArray) ∧
        Feature.interfaceNames code = ["BlogUser"] := by
  obtain ⟨q, b, hrun, hok⟩ := exists_run_blogText
  have hsteps := hrun
  rw [generateAll_eq (g := { config := {} }) readSchema_blogText] at hsteps
  obtain ⟨-, -, hall⟩ :=
    generated_of_succeeded isWordText_blog nodup_lowercase_blog hsteps (List.isEmpty_iff.1 hok)
  refine ⟨modelNames_blogText, nodup_lowercase_blog, q, b, hrun, hok, ?_, ?_⟩
  · obtain ⟨-, f, source, hfeature, hfiles⟩ := hall "Post" (by decide)
    refine ⟨_, hfiles .interface, ?_⟩
    exact Feature.toList_mem_codeLines (import_mem_blogText hfeature) List.mem_cons_self (by decide)
  · obtain ⟨-, f, source, hfeature, hfiles⟩ := hall "blog_user" (by decide)
    exact ⟨_, hfiles .interface, interfaceNames_blogText hfeature⟩

end FeatureGen.Generation

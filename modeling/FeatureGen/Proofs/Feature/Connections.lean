import FeatureGen.Proofs.Feature.Specifier
import FeatureGen.Proofs.Generation.Plan

/-!
# How the files of a feature fit together

The index, the controller and the procedure of a feature take names from its other files.  Each file
spells the names and the way to the other file on its own.  What they say agrees with what is there
(`files_fit`): a relative specifier, followed from the directory of the file it stands in, leads to
one of the four files, and that file declares the names that are taken from it.

All relative specifiers that are written by the files themselves stand at their heads.  But the
primary key is printed into the controller and the procedure as it is given, and so are its type and
the names of the fields in the procedure (`printed`).  If one of them has a relative specifier of
its own, the text has it too, and it may lead anywhere (`stray_specifier`).
-/

namespace FeatureGen.Feature

open FeatureGen.Text
open FeatureGen.Generation (fileDirectory fileName fileNames leadsDown_fileNames
  fileStem_of_escape escapeForPage_of_isPlain toList_target_fileStem)

variable {f : Feature} {kind target : FileKind} {specifier : String} {c : List String × String}

/-! ## Following a specifier -/

/-- Where names lead from a directory, if they do not lead out of the outermost one. -/
def follow (directory : List (List Char)) : List (List Char) → Option (List (List Char))
  | [] => some directory
  | name :: names =>
    if name = ['.'] then follow directory names
    else if name = ['.', '.'] then
      if directory = [] then none else follow directory.dropLast names
    else follow (directory ++ [name]) names

/-- The file to which a specifier leads from another one. -/
def destination? (file specifier : String) : Option (List (List Char)) :=
  follow (pieces '/' file.toList).dropLast (pieces '/' (specifier ++ ".ts").toList)

theorem follow_of_leadsDown {names : List (List Char)} (h : Path.LeadsDown names)
    (directory : List (List Char)) : follow directory names = some (directory ++ names) := by
  induction names generalizing directory with
  | nil => rw [follow, List.append_nil]
  | cons name names ih =>
    obtain ⟨hname, hup⟩ := h name List.mem_cons_self
    have hdot := (Path.isName_iff.1 hname).2.1
    rw [follow, if_neg hdot, if_neg hup, ih fun n hn => h n (List.mem_cons_of_mem name hn),
      List.append_assoc, List.singleton_append]

/-- The name that leads from the directory of a file to that of the feature. -/
def upward : FileKind → List Char
  | .index => ['.']
  | .interface => ['.']
  | .controller => ['.', '.']
  | .procedure => ['.', '.']

theorem follow_upward (kind : FileKind) (names : List (List Char)) :
    follow (fileDirectory kind) (upward kind :: names) = follow [] names := by
  cases kind <;> rfl

section Spelling

variable (hname : Every isSpelling f.name.toList)

include hname

theorem fileStem_eq_stem : fileStem f.name = f.stem := by
  refine fileStem_of_escape fun c hc => ?_
  have hmem : c ∈ f.stem.toList := by rwa [stem, lowercase, String.toList_ofList]
  rcases isPlain_or_eq_of_mem_stem hname hmem with hplain | rfl
  · exact escapeForPage_of_isPlain hplain
  · rfl

/-- The names on the way to a file of the feature. -/
theorem pieces_target (kind : FileKind) :
    pieces '/' (kind.target f.name).toList = fileNames f.stem.toList kind := by
  have hslash : '/' ∉ f.stem.toList := not_mem_stem hname (by decide) (by decide)
  have hnames := leadsDown_fileNames hslash kind
  rw [toList_target_fileStem, fileStem_eq_stem hname, pieces_joinPieces (by simp [fileNames])]
  exact fun n hn => (Path.isName_iff.1 (hnames n hn).1).2.2

/-- A specifier that goes up to the directory of the feature and down to a file leads there. -/
theorem destination?_eq {directory ending : String}
    (hdirectory : directory.toList =
      upward kind ++ '/' :: (fileDirectory target).flatMap (· ++ ['/']))
    (hending : (ending ++ ".ts").toList = Generation.fileEnd target) (htarget : target ≠ .index) :
    destination? (kind.target f.name) (directory ++ (f.stem ++ ending)) =
      some (pieces '/' (target.target f.name).toList) := by
  have hslash : '/' ∉ f.stem.toList := not_mem_stem hname (by decide) (by decide)
  have hup : '/' ∉ upward kind := by cases kind <;> decide
  have hdown := leadsDown_fileNames hslash target
  have hspecifier : (directory ++ (f.stem ++ ending) ++ ".ts").toList =
      upward kind ++ '/' :: joinPieces '/' (fileNames f.stem.toList target) := by
    have hname : f.stem.toList ++ (ending ++ ".ts").toList = fileName f.stem.toList target := by
      rw [hending, fileName]
      cases target with
      | index => exact absurd rfl htarget
      | _ => rfl
    have hjoin : joinPieces '/' (fileNames f.stem.toList target) =
        (fileDirectory target).flatMap (· ++ ['/']) ++ fileName f.stem.toList target := by
      rw [fileNames]
      generalize fileName f.stem.toList target = last
      cases target <;> simp [fileDirectory, joinPieces]
    rw [hjoin, ← hname]
    simp only [String.toList_append, hdirectory, List.append_assoc, List.cons_append]
  have hpieces : pieces '/' (joinPieces '/' (fileNames f.stem.toList target)) =
      fileNames f.stem.toList target := by
    rw [pieces_joinPieces (by simp [fileNames])]
    exact fun n hn => (Path.isName_iff.1 (hdown n hn).1).2.2
  have hlast : (fileNames f.stem.toList kind).dropLast = fileDirectory kind :=
    List.dropLast_concat
  rw [destination?, hspecifier, pieces_append_cons hup, hpieces, pieces_target hname,
    pieces_target hname, hlast, follow_upward, follow_of_leadsDown hdown, List.nil_append]

end Spelling

/-! ## The connections of each file -/

/-- The names that the interface exports. -/
theorem exports_interfaceFile (f : Feature) :
    f.interfaceFile.exports = [f.schemaConstant, f.model, f.createType, f.updateType] := by
  have himports : (f.relatedModels.map fun target =>
      Statement.importTypes [target] ("@/features/" ++ lowercase target)).filterMap
        Module.exported? = [] := by
    rw [List.filterMap_eq_nil_iff]
    intro s hs
    obtain ⟨target, -, rfl⟩ := List.mem_map.1 hs
    rfl
  rw [Module.exports, interfaceFile, List.filterMap_append, List.filterMap_append, himports]
  rfl

/-- A connection of a file leads to another file, which exports what is taken. -/
def Leads (f : Feature) (kind : FileKind) (c : List String × String) : Prop :=
  ∃ target : FileKind,
    destination? (kind.target f.name) c.2 = some (pieces '/' (target.target f.name).toList) ∧
    ∀ n ∈ c.1, n ∈ (target.module f).exports

section Spelling

variable (hname : Every isSpelling f.name.toList)

include hname

theorem leads_of_index (h : c ∈ f.indexFile.connections) : f.Leads .index c := by
  have hconnections : f.indexFile.connections =
      [([], "./" ++ f.interfaceSpecifier),
        ([f.controllerConstant], "./controllers/" ++ f.controllerSpecifier),
        ([f.procedureConstant], "./procedures/" ++ f.procedureSpecifier)] := rfl
  simp only [hconnections, List.mem_cons, List.not_mem_nil, or_false] at h
  rcases h with rfl | rfl | rfl
  · refine ⟨.interface, destination?_eq hname rfl rfl (by decide), ?_⟩
    intro n hn
    cases hn
  · refine ⟨.controller, destination?_eq hname rfl rfl (by decide), ?_⟩
    intro n hn
    exact hn
  · refine ⟨.procedure, destination?_eq hname rfl rfl (by decide), ?_⟩
    intro n hn
    exact hn

theorem leads_of_controller (h : c ∈ f.controllerFile.connections)
    (hc : isRelative c.2.toList = true) : f.Leads .controller c := by
  have hconnections : f.controllerFile.connections =
      [(["igniter"], "@/igniter"), (["z"], "zod"),
        ([f.entity ++ "Schema"], "../" ++ f.interfaceSpecifier),
        ([f.procedureConstant], "../procedures/" ++ f.procedureSpecifier)] := rfl
  simp only [hconnections, List.mem_cons, List.not_mem_nil, or_false] at h
  rcases h with rfl | rfl | rfl | rfl
  · cases hc
  · cases hc
  · refine ⟨.interface, destination?_eq hname rfl rfl (by decide), ?_⟩
    intro n hn
    have hconstant : n = f.schemaConstant := List.mem_singleton.1 hn
    show n ∈ f.interfaceFile.exports
    rw [exports_interfaceFile, hconstant]
    exact List.mem_cons_self
  · refine ⟨.procedure, destination?_eq hname rfl rfl (by decide), ?_⟩
    intro n hn
    exact hn

theorem leads_of_procedure (h : c ∈ f.procedureFile.connections)
    (hc : isRelative c.2.toList = true) : f.Leads .procedure c := by
  have hconnections : f.procedureFile.connections =
      [(["igniter"], "@/igniter"),
        ([f.createType, f.updateType], "../" ++ f.interfaceSpecifier)] := rfl
  simp only [hconnections, List.mem_cons, List.not_mem_nil, or_false] at h
  rcases h with rfl | rfl
  · cases hc
  · refine ⟨.interface, destination?_eq hname rfl rfl (by decide), ?_⟩
    intro n hn
    show n ∈ f.interfaceFile.exports
    rw [exports_interfaceFile]
    exact List.mem_cons_of_mem _ (List.mem_cons_of_mem _ hn)

/-- A connection within the feature can be read. -/
theorem legible_own {s : Statement} {names : List String} {directory ending : String}
    (hs : Module.connection? s = some (names, directory ++ (f.stem ++ ending)))
    (hplain : ∀ n ∈ names, Every isPlain n.toList)
    (hlisted : names = [] → s = .exportAll (directory ++ (f.stem ++ ending)))
    (hdirectory : Without isMark directory.toList) (hending : Without isMark ending.toList) :
    Legible s (names, directory ++ (f.stem ++ ending)) := by
  refine ⟨hs, hplain, hlisted, fun c hc => ?_⟩
  rw [String.toList_append, String.toList_append, List.mem_append, List.mem_append] at hc
  rcases hc with hc | hc | hc
  · exact hdirectory c hc
  · rcases isPlain_or_eq_of_mem_stem hname hc with hplain | rfl
    · exact isMark_of_isPlain hplain
    · rfl
  · exact hending c hc

end Spelling

theorem legible_igniter :
    Legible (.importNames ["igniter"] "@/igniter") (["igniter"], "@/igniter") where
  connection := rfl
  plain := by decide
  listed h := by cases h
  specifier := by decide

theorem legible_z : Legible (.importNames ["z"] "zod") (["z"], "zod") where
  connection := rfl
  plain := by decide
  listed h := by cases h
  specifier := by decide

/-- The pieces of text that the index, the controller and the procedure print as they are given,
besides names that are derived from that of the feature.  What the interface prints is not read. -/
def printed (f : Feature) : FileKind → List String
  | .index => []
  | .interface => []
  | .controller => [f.primaryKey]
  | .procedure => f.primaryKey :: ProcedureFile.keyType f :: f.inputFields.map (·.name)

/-- A module that takes names from others at its head alone. -/
structure Headed (m heads rest : Module) : Prop where
  split : m = heads ++ rest
  legible : ∀ s ∈ heads, ∃ c, Legible s c
  connections : Module.connections rest = []
  clear : ∀ line ∈ rest.flatMap Statement.lines, Clear line

/-- A head that an empty line and one declaration follow. -/
theorem headed_of_constant {m heads : Module} {name callee : String} {body : List Code}
    (hsplit : m = heads ++ [.blank, .constant name callee body])
    (hheads : ∀ s ∈ heads, ∃ c, Legible s c) (hplain : Every isPlain name.toList)
    (hcallee : Closed callee) (hbody : AllClear body) :
    Headed m heads [.blank, .constant name callee body] := by
  refine ⟨hsplit, hheads, rfl, ?_⟩
  have hname : Closed ("export const " ++ name) :=
    (closed_literal (by decide)).append (closed_of_every_isPlain hplain)
  intro line hline
  rw [List.flatMap_cons, List.flatMap_singleton] at hline
  rcases List.mem_append.1 hline with hline | hline
  · rw [List.mem_singleton.1 hline]
    exact clear_literal rfl
  · rw [Statement.lines, List.mem_append, List.mem_cons, List.mem_singleton] at hline
    rcases hline with (rfl | hline) | rfl
    · exact ((hname.append_literal (by decide)).append hcallee).clear.append_literal (by decide)
    · exact clear_linesOf 1 body hbody line hline
    · exact clear_literal (by decide)

/-! ## The parts of the files are clear -/

/-- A name in marks. -/
theorem clear_marked {u : String} (h : Every isPlain u.toList) : Clear ("'" ++ u ++ "'") := by
  have hsplit : ("'" ++ u ++ "'").toList = '\'' :: (u.toList ++ ['\'']) := by simp
  have hdot : '.' ∉ u.toList ++ ['\''] := by
    rw [List.mem_append, not_or]
    exact ⟨fun hmem => (by cases h _ hmem), by decide⟩
  have hrelative : isRelative (u.toList ++ ['\'']) = false := by
    rw [Bool.eq_false_iff, ne_eq, isRelative_iff]
    rintro (hp | hp)
    · exact hdot (hp.subset List.mem_cons_self)
    · exact hdot (hp.subset List.mem_cons_self)
  have hrest : isClear (u.toList ++ ['\'']) = true :=
    isClear_append_of_isClosed (closed_of_every_isPlain h) rfl
  rw [Clear, hsplit, isClear, noMarkBefore, hrelative, Bool.and_false]
  exact hrest

section Parts

variable {name kind method path parameters call : String} {parts code : List Code}

theorem clear_action (hname : Closed name) (hkind : Closed kind) (hparts : AllClear parts) :
    (action name kind parts).Clear :=
  ⟨(((hname.append_literal (by decide)).append hkind).append_literal (by decide)).clear, hparts,
    clear_literal (by decide)⟩

theorem allClear_route (hmethod : Every isPlain method.toList) (hpath : Clear path)
    (hparts : AllClear parts) : AllClear (route method path ++ parts) :=
  ⟨⟨clear_literal (by decide), clear_marked hmethod⟩, ⟨clear_literal (by decide), hpath⟩, hparts⟩

theorem clear_handler {lines : List String} (hparameters : Closed parameters)
    (hlines : ∀ line ∈ lines, Clear line) : (handler parameters lines).Clear :=
  ⟨(((closed_literal (by decide)).append hparameters).append_literal (by decide)).clear,
    allClear_map hlines, clear_literal (by decide)⟩

theorem clear_returning (hentity : Closed f.entity) (hparameters : Closed parameters)
    (hcall : Closed call) : (ControllerFile.returning f parameters call).Clear := by
  refine clear_handler hparameters (List.forall_mem_cons.2 ⟨?_, List.forall_mem_singleton.2 ?_⟩)
  · exact ((((closed_literal (by decide)).append hentity).append_literal (by decide)).append
      hcall).clear
  · exact clear_literal (by decide)

theorem clear_operation (hname : Closed name) (hparameters : Clear parameters)
    (hcode : AllClear code) : (ProcedureFile.operation name parameters code).Clear :=
  ⟨((hname.append_literal (by decide)).append_clear hparameters).append_literal (by decide), hcode,
    clear_literal (by decide)⟩

theorem clear_call (hentity : Closed f.entity) (hmethod : Closed method) (hcode : AllClear code) :
    (ProcedureFile.call f method code).Clear :=
  ⟨(((((closed_literal (by decide)).append hentity).append_literal (by decide)).append
    hmethod).append_literal (by decide)).clear, hcode, clear_literal (by decide)⟩

end Parts

section Spelling

variable (hname : Every isSpelling f.name.toList)

include hname

theorem every_isPlain_constants : Every isPlain f.schemaConstant.toList ∧
    Every isPlain f.controllerConstant.toList ∧ Every isPlain f.procedureConstant.toList ∧
    Every isPlain f.createType.toList ∧ Every isPlain f.updateType.toList := by
  have hmodel := every_isPlain_model hname
  have hentity := every_isPlain_entity hname
  refine ⟨?_, ?_, ?_, ?_, ?_⟩
  · have hschema : f.schemaConstant = f.entity ++ "Schema" := rfl
    rw [hschema, String.toList_append]
    exact every_isPlain_append hentity (by decide)
  · rw [controllerConstant, String.toList_append]
    exact every_isPlain_append hentity (by decide)
  · rw [procedureConstant, String.toList_append]
    exact every_isPlain_append hmodel (by decide)
  · rw [createType, String.toList_append, String.toList_append]
    exact every_isPlain_append (every_isPlain_append (by decide) hmodel) (by decide)
  · rw [updateType, String.toList_append, String.toList_append]
    exact every_isPlain_append (every_isPlain_append (by decide) hmodel) (by decide)

theorem headed_index : Headed f.indexFile f.indexFile [] := by
  obtain ⟨-, hcontroller, hprocedure, -, -⟩ := every_isPlain_constants hname
  refine ⟨(List.append_nil _).symm, ?_, rfl, fun line hline => by cases hline⟩
  intro s hs
  simp only [indexFile, List.mem_cons, List.not_mem_nil, or_false] at hs
  rcases hs with rfl | rfl | rfl
  · exact ⟨_, legible_own hname rfl (by simp) (fun _ => rfl) (by decide) (by decide)⟩
  · exact ⟨_, legible_own hname rfl (by simpa using hcontroller) (by simp) (by decide) (by decide)⟩
  · exact ⟨_, legible_own hname rfl (by simpa using hprocedure) (by simp) (by decide) (by decide)⟩

/-- A line feed is in no name that is derived from that of the feature. -/
theorem not_mem_derived : '\n' ∉ f.entity.toList ∧ '\n' ∉ f.procedureConstant.toList ∧
    '\n' ∉ f.createType.toList ∧ '\n' ∉ f.updateType.toList ∧
    '\n' ∉ (kebabCase f.name).toList := by
  have hfeed : isPlain '\n' = false := by decide
  have hplain {s : List Char} (hs : Every isPlain s) : '\n' ∉ s := by
    intro hmem
    rw [hs _ hmem] at hfeed
    cases hfeed
  obtain ⟨-, -, hprocedure, hcreate, hupdate⟩ := every_isPlain_constants hname
  refine ⟨hplain (every_isPlain_entity hname), hplain hprocedure, hplain hcreate, hplain hupdate,
    ?_⟩
  intro hmem
  rcases isPlain_or_eq_or_mem_of_mem_kebabCase hmem with h | h | h
  · rw [hfeed] at h
    cases h
  · cases h
  · cases hname _ h

theorem closed_kebabCase : Closed (kebabCase f.name) := by
  refine isClosed_of_without fun c hc => ?_
  rcases isPlain_or_eq_or_mem_of_mem_kebabCase hc with h | rfl | h
  · exact isMark_of_isPlain h
  · rfl
  · have hspelling := hname c h
    rw [isSpelling, Bool.or_eq_true, beq_iff_eq] at hspelling
    rcases hspelling with hword | rfl
    · exact isMark_of_isPlain (isPlain_of_isWord hword)
    · rfl

/-- The controller names the primary key in its paths. -/
theorem allClear_controllerFile (hkey : Clear f.primaryKey) :
    AllClear
      [.entry "path" ("'/" ++ kebabCase f.name ++ "'"),
        .block "actions: \x7b"
          [ControllerFile.findMany f, .blank, ControllerFile.findOne f, .blank,
            ControllerFile.create f, .blank, ControllerFile.update f, .blank,
            ControllerFile.delete f] "\x7d,"] := by
  obtain ⟨-, -, hprocedure, -, -⟩ := every_isPlain_constants hname
  have hentity := closed_of_every_isPlain (every_isPlain_entity hname)
  have hkebab : Clear ("'/" ++ kebabCase f.name ++ "'") :=
    ((closed_literal (by decide)).append (closed_kebabCase hname)).clear.append_literal (by decide)
  have hkeyPath : Clear (ControllerFile.keyPath f) :=
    ((closed_literal (by decide)).append_clear hkey).append_literal (by decide)
  have huses : (ControllerFile.uses f).Clear :=
    ⟨clear_literal (by decide), (((closed_literal (by decide)).append
      (closed_of_every_isPlain hprocedure)).append_literal (by decide)).clear⟩
  have hroot : Clear "'/'" := clear_literal (by decide)
  have hcontext : Closed "\x7b request, response, context \x7d" := closed_literal (by decide)
  have hbody {s : List Char} (h : isClosed s = true) :
      (Code.entry "body" (f.entity ++ String.ofList s)).Clear :=
    ⟨clear_literal (by decide), (hentity.append_literal h).clear⟩
  have hreturning {s : List Char} (h : isClosed s = true) :
      (ControllerFile.returning f "\x7b request, response, context \x7d" (String.ofList s)).Clear :=
    clear_returning hentity hcontext (closed_literal h)
  have hfindMany : (ControllerFile.findMany f).Clear := by
    refine clear_action (closed_literal (by decide)) (closed_literal (by decide))
      (allClear_route (by decide) hroot ⟨huses, ⟨?_, ?_, ?_⟩, ?_, trivial⟩)
    · exact clear_literal (by decide)
    · refine ⟨⟨?_, ?_⟩, ⟨?_, ?_⟩, trivial⟩ <;> exact clear_literal (by decide)
    · exact clear_literal (by decide)
    · exact clear_returning hentity (closed_literal (by decide)) (closed_literal (by decide))
  have hfindOne : (ControllerFile.findOne f).Clear :=
    clear_action (closed_literal (by decide)) (closed_literal (by decide))
      (allClear_route (by decide) hkeyPath ⟨huses, hreturning (by decide), trivial⟩)
  have hcreate : (ControllerFile.create f).Clear :=
    clear_action (closed_literal (by decide)) (closed_literal (by decide))
      (allClear_route (by decide) hroot
        ⟨huses, hbody (by decide), hreturning (by decide), trivial⟩)
  have hupdate : (ControllerFile.update f).Clear :=
    clear_action (closed_literal (by decide)) (closed_literal (by decide))
      (allClear_route (by decide) hkeyPath
        ⟨huses, hbody (by decide), hreturning (by decide), trivial⟩)
  have hdelete : (ControllerFile.delete f).Clear := by
    refine clear_action (closed_literal (by decide)) (closed_literal (by decide))
      (allClear_route (by decide) hkeyPath
        ⟨huses, clear_handler hcontext (List.forall_mem_cons.2 ⟨?_, ?_⟩), trivial⟩)
    · exact (((closed_literal (by decide)).append hentity).append_literal (by decide)).clear
    · exact List.forall_mem_singleton.2 (clear_literal (by decide))
  exact ⟨⟨clear_literal (by decide), hkebab⟩, ⟨clear_literal (by decide),
    ⟨hfindMany, trivial, hfindOne, trivial, hcreate, trivial, hupdate, trivial, hdelete, trivial⟩,
    clear_literal (by decide)⟩, trivial⟩

/-- The procedure names the fields that a client gives as well, and the type of the primary key. -/
theorem allClear_procedureFile (hkey : Clear f.primaryKey) (htype : Clear (ProcedureFile.keyType f))
    (hfields : ∀ i ∈ f.inputFields, Clear i.name) :
    AllClear
      [.entry "name" ("'" ++ f.procedureConstant ++ "'"),
        .block "handler: async (_, \x7b context \x7d) => \x7b"
          [.block "return \x7b"
            [.block (f.entity ++ ": \x7b")
              [ProcedureFile.findMany f, .blank, ProcedureFile.findOne f, .blank,
                ProcedureFile.create f, .blank, ProcedureFile.update f, .blank,
                ProcedureFile.delete f] "\x7d,"] "\x7d"] "\x7d,"] := by
  obtain ⟨-, -, hprocedure, hcreateType, hupdateType⟩ := every_isPlain_constants hname
  have hentity := closed_of_every_isPlain (every_isPlain_entity hname)
  have hparameter : Clear (ProcedureFile.keyParameter f) :=
    ((((closed_literal (by decide)).append_clear hkey).closed_append_literal
      (by decide)).append_clear htype).append_literal (by decide)
  have hwhere : AllClear [ProcedureFile.whereKey f] :=
    ⟨⟨clear_literal (by decide), ((((closed_literal (by decide)).append_clear
      hkey).closed_append_literal (by decide)).append_clear hkey).append_literal (by decide)⟩,
      trivial⟩
  have hdata : AllClear (ProcedureFile.dataEntries f) :=
    allClear_map fun i hi =>
      ⟨hfields i hi, (closed_literal (by decide)).append_clear (hfields i hi)⟩
  have hfindMany : (ProcedureFile.findMany f).Clear := by
    refine clear_operation (closed_literal (by decide)) (clear_literal (by decide))
      ⟨clear_call hentity (closed_literal (by decide)) ⟨⟨?_, ?_⟩, ⟨?_, ?_⟩, trivial⟩, trivial⟩ <;>
      exact clear_literal (by decide)
  have hfindOne : (ProcedureFile.findOne f).Clear :=
    clear_operation (closed_literal (by decide)) hparameter
      ⟨clear_call hentity (closed_literal (by decide)) hwhere, trivial⟩
  have hcreate : (ProcedureFile.create f).Clear := by
    have hinput : Clear ("input: " ++ f.createType) :=
      ((closed_literal (by decide)).append (closed_of_every_isPlain hcreateType)).clear
    exact clear_operation (closed_literal (by decide)) hinput
      ⟨clear_call hentity (closed_literal (by decide))
        ⟨⟨clear_literal (by decide), hdata, clear_literal (by decide)⟩, trivial⟩, trivial⟩
  have hupdate : (ProcedureFile.update f).Clear := by
    have hparameters : Clear (ProcedureFile.keyParameter f ++ " & " ++ f.updateType) :=
      ((hparameter.closed_append_literal (by decide)).append
        (closed_of_every_isPlain hupdateType)).clear
    have hrest : Clear ("const \x7b " ++ f.primaryKey ++ ", ...data \x7d = params") :=
      ((closed_literal (by decide)).append_clear hkey).append_literal (by decide)
    have hkeyOnly : Clear ("\x7b " ++ f.primaryKey ++ " \x7d") :=
      ((closed_literal (by decide)).append_clear hkey).append_literal (by decide)
    exact clear_operation (closed_literal (by decide)) hparameters
      ⟨hrest, clear_call hentity (closed_literal (by decide))
        ⟨⟨clear_literal (by decide), hkeyOnly⟩, clear_literal (by decide), trivial⟩, trivial⟩
  have hdelete : (ProcedureFile.delete f).Clear :=
    clear_operation (closed_literal (by decide)) hparameter
      ⟨clear_call hentity (closed_literal (by decide)) hwhere, trivial⟩
  refine ⟨⟨clear_literal (by decide), clear_marked hprocedure⟩,
    ⟨?_, ⟨⟨?_, ⟨⟨(hentity.append_literal (by decide)).clear,
      ⟨hfindMany, trivial, hfindOne, trivial, hcreate, trivial, hupdate, trivial, hdelete,
        trivial⟩, ?_⟩, trivial⟩, ?_⟩, trivial⟩, ?_⟩, trivial⟩ <;>
    exact clear_literal (by decide)

theorem headed_controller (hkey : Clear f.primaryKey) :
    ∃ heads rest, Headed f.controllerFile heads rest := by
  obtain ⟨hschema, hcontroller, hprocedure, -, -⟩ := every_isPlain_constants hname
  refine ⟨f.controllerFile.take 4, _, headed_of_constant rfl ?_ hcontroller
    (closed_literal (by decide)) (allClear_controllerFile hname hkey)⟩
  intro s hs
  simp only [controllerFile, List.take_succ_cons, List.take_zero, List.mem_cons, List.not_mem_nil,
    or_false] at hs
  rcases hs with rfl | rfl | rfl | rfl
  · exact ⟨_, legible_igniter⟩
  · exact ⟨_, legible_z⟩
  · refine ⟨_, legible_own hname rfl ?_ (by simp) (by decide) (by decide)⟩
    exact List.forall_mem_singleton.2 hschema
  · refine ⟨_, legible_own hname rfl ?_ (by simp) (by decide) (by decide)⟩
    exact List.forall_mem_singleton.2 hprocedure

theorem headed_procedure (hkey : Clear f.primaryKey) (htype : Clear (ProcedureFile.keyType f))
    (hfields : ∀ i ∈ f.inputFields, Clear i.name) :
    ∃ heads rest, Headed f.procedureFile heads rest := by
  obtain ⟨-, -, hprocedure, hcreate, hupdate⟩ := every_isPlain_constants hname
  refine ⟨f.procedureFile.take 2, _, headed_of_constant rfl ?_ hprocedure
    (closed_literal (by decide)) (allClear_procedureFile hname hkey htype hfields)⟩
  intro s hs
  simp only [procedureFile, List.take_succ_cons, List.take_zero, List.mem_cons, List.not_mem_nil,
    or_false] at hs
  rcases hs with rfl | rfl
  · exact ⟨_, legible_igniter⟩
  · refine ⟨_, legible_own hname rfl ?_ (by simp) (by decide) (by decide)⟩
    exact List.forall_mem_cons.2 ⟨hcreate, List.forall_mem_singleton.2 hupdate⟩

theorem exists_headed (hkind : kind ≠ .interface) (hprinted : ∀ s ∈ f.printed kind, Clear s) :
    ∃ heads rest, Headed (kind.module f) heads rest := by
  cases kind with
  | index => exact ⟨_, _, headed_index hname⟩
  | interface => exact absurd rfl hkind
  | controller => exact headed_controller hname (hprinted _ List.mem_cons_self)
  | procedure =>
    obtain ⟨hkey, hrest⟩ := List.forall_mem_cons.1 hprinted
    obtain ⟨htype, hnames⟩ := List.forall_mem_cons.1 hrest
    exact headed_procedure hname hkey htype (List.forall_mem_map.1 hnames)

theorem leads_of_connection (hkind : kind ≠ .interface) (h : c ∈ (kind.module f).connections)
    (hc : isRelative c.2.toList = true) : f.Leads kind c := by
  cases kind with
  | index => exact leads_of_index hname h
  | interface => exact absurd rfl hkind
  | controller => exact leads_of_controller hname h hc
  | procedure => exact leads_of_procedure hname h hc

/-- The names that a file exports are declared in its text. -/
theorem mem_declaredNames_of_exports {n : String} (h : n ∈ (target.module f).exports) :
    n ∈ declaredNames (target.module f).render := by
  obtain ⟨hschema, hcontroller, hprocedure, hcreate, hupdate⟩ := every_isPlain_constants hname
  have hplain : Every isPlain n.toList := by
    cases target with
    | index => cases h
    | interface =>
      have h : n ∈ f.interfaceFile.exports := h
      rw [exports_interfaceFile] at h
      simp only [List.mem_cons, List.not_mem_nil, or_false] at h
      rcases h with rfl | rfl | rfl | rfl
      · exact hschema
      · exact every_isPlain_model hname
      · exact hcreate
      · exact hupdate
    | controller => exact List.mem_singleton.1 h ▸ hcontroller
    | procedure => exact List.mem_singleton.1 h ▸ hprocedure
  obtain ⟨s, hs, hexported⟩ := List.mem_filterMap.1 h
  refine mem_declaredNames hs hexported ?_ ?_
  · intro hmem
    cases hplain _ hmem
  · intro hmem
    cases hplain _ hmem

end Spelling

/-- The files of a feature fit together.  The relative specifiers are read from the whole text of
the index, the controller or the procedure.  If no piece of text that is printed as it is given has
one of its own, they are those of the file, each of them leads to one of the four files, and the
names that are listed before it are declared there. -/
theorem files_fit (hname : Every isSpelling f.name.toList) {code : FileKind → String}
    (hcode : ∀ kind, (Draft.ofFeature f).render kind = .ok (code kind))
    (hkind : kind ≠ .interface) (hprinted : ∀ s ∈ f.printed kind, relativeImports s = []) :
    relativeImports (code kind) =
        (kind.module f).connections.filter (isRelative ·.2.toList) ∧
      ∀ c ∈ relativeImports (code kind), ∃ target : FileKind,
        destination? (kind.target f.name) c.2 =
          some (pieces '/' (target.target f.name).toList) ∧
        ∀ n ∈ c.1, n ∈ declaredNames (code target) := by
  have hrender : ∀ kind, code kind = (kind.module f).render := by
    intro kind
    have hok := hcode kind
    rw [render_ofFeature] at hok
    split at hok
    · cases hok
    · exact (Except.ok.inj hok).symm
  obtain ⟨heads, rest, hheaded⟩ := exists_headed hname hkind fun s hs =>
    (relativeImports_eq_nil_iff s).1 (hprinted s hs)
  have hconnections : (kind.module f).connections = Module.connections heads := by
    rw [hheaded.split, Module.connections, List.filterMap_append]
    show _ ++ Module.connections rest = _
    rw [hheaded.connections, List.append_nil]
    rfl
  have hread : relativeImports (code kind) =
      (kind.module f).connections.filter (isRelative ·.2.toList) := by
    rw [hconnections, hrender, hheaded.split, relativeImports_render hheaded.legible hheaded.clear]
  refine ⟨hread, ?_⟩
  intro c hc
  rw [hread, List.mem_filter] at hc
  obtain ⟨target, hdestination, hexports⟩ := leads_of_connection hname hkind hc.1 hc.2
  refine ⟨target, hdestination, ?_⟩
  intro n hn
  rw [hrender]
  exact mem_declaredNames_of_exports hname (hexports n hn)

/-- A feature whose name starts with a letter that has two capitals. -/
def sharpFeature : Feature := ⟨"ß-post", [], [], "id"⟩

/-- The controller of `sharpFeature` takes the constant that its interface declares. -/
theorem files_fit_sharp : ∃ target : FileKind,
    destination? (FileKind.controller.target "ß-post") "../ß-post.interface" =
      some (pieces '/' (target.target "ß-post").toList) ∧
    "sSPostSchema" ∈ declaredNames (target.module sharpFeature).render := by
  have hname : Every isSpelling sharpFeature.name.toList := by decide
  have hcode : ∀ kind, (Draft.ofFeature sharpFeature).render kind =
      .ok (kind.module sharpFeature).render := by
    intro kind
    cases kind <;> rfl
  have hkind : FileKind.controller ≠ .interface := by decide
  have hprinted : ∀ s ∈ sharpFeature.printed .controller, relativeImports s = [] := by decide
  obtain ⟨hread, hfit⟩ := files_fit hname hcode hkind hprinted
  have hmem : (["sSPostSchema"], "../ß-post.interface") ∈
      (FileKind.controller.module sharpFeature).connections.filter (isRelative ·.2.toList) := by
    decide
  rw [← hread] at hmem
  obtain ⟨target, hdestination, hnames⟩ := hfit _ hmem
  exact ⟨target, hdestination, hnames _ List.mem_cons_self⟩

/-- The primary key stands in the text of the controller. -/
theorem exists_controllerFile_eq (f : Feature) :
    ∃ before after, f.controllerFile.render = before ++ (f.primaryKey ++ after) := by
  have hline : indentation 3 ++ "path" ++ ": " ++ ControllerFile.keyPath f ++ "," ∈
      f.controllerFile.flatMap Statement.lines := by
    simp [controllerFile, Statement.lines, linesOf, Code.lines, ControllerFile.findOne, action,
      route]
  obtain ⟨lines, rest, hsplit⟩ := List.append_of_mem hline
  refine ⟨textOfLines lines ++ (indentation 3 ++ "path: '/:"), "' as const,\n" ++ textOfLines rest,
    ?_⟩
  have hrender : f.controllerFile.render =
      textOfLines (f.controllerFile.flatMap Statement.lines) := rfl
  rw [hrender, hsplit, textOfLines_append, ← String.toList_inj]
  simp [textOfLines, String.join_cons, ControllerFile.keyPath]

/-- A feature whose primary key is printed as an import from a file that is not there. -/
def strayFeature : Feature :=
  ⟨"post", [], [], "\nimport \x7b Foo \x7d from './nowhere'\n"⟩

/-- The controller of `strayFeature` takes `Foo` from none of the files of the feature. -/
theorem stray_specifier : Every isSpelling strayFeature.name.toList ∧
    (∀ kind : FileKind, (Draft.ofFeature strayFeature).render kind =
      .ok (kind.module strayFeature).render) ∧
    (["Foo"], "./nowhere") ∈ relativeImports (FileKind.controller.module strayFeature).render ∧
    ∀ target : FileKind, destination? (FileKind.controller.target "post") "./nowhere" ≠
      some (pieces '/' (target.target "post").toList) := by
  refine ⟨by decide, fun kind => by cases kind <;> rfl, ?_,
    fun target => by cases target <;> decide⟩
  obtain ⟨before, after, hcode⟩ := exists_controllerFile_eq strayFeature
  show _ ∈ relativeImports strayFeature.controllerFile.render
  have hkey : (strayFeature.primaryKey ++ after).toList =
      ("\nimport " ++ braced ["Foo"] ++ " from ").toList ++
        '\'' :: ("./nowhere".toList ++ '\'' :: '\n' :: after.toList) := by
    simp [strayFeature, braced]
  rw [relativeImports, hcode, String.toList_append, hkey]
  refine (relativeImportsFrom_sublist [] _ _).subset ?_
  rw [relativeImportsFrom_append (by decide), relativeImportsFrom]
  refine List.mem_cons.2 (.inl ?_)
  rw [namesBefore_braced (by decide) (by decide)]
  rfl

end FeatureGen.Feature

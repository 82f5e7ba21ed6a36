import FeatureGen.Config.Stored
import FeatureGen.Proofs.Json.Value
import FeatureGen.Proofs.Project.Write
import FeatureGen.Proofs.Text.Lines

/-!
# A configuration is loaded as it was saved

The document of a configuration is checked without a violation and gives the configuration back
(`Config.ofJson_toJson`): its base path is read back from its text, and every other member is taken
as it is.  So saving a configuration to a file and loading it from there loses nothing
(`Config.load_save`), as long as the number in it can be read.
-/

namespace FeatureGen

open FeatureGen.Validation

namespace Validation

/-- Strings pass as strings. -/
theorem items_string (index : Nat) (items : List String) :
    Checked.items string index (items.map .str) = .ok items := by
  induction items generalizing index with
  | nil => rfl
  | cons s items ih => rw [List.map_cons, Checked.items, ih]; rfl

theorem strings_ofStrings (source : Source) (items : List String) :
    strings source (.ofStrings items) = .ok items := items_string 0 items

theorem natural_ofNat (n : Nat) : natural (.ofNat n) = .ok n := rfl

end Validation

/-! ## The document of a configuration -/

theorem Path.ofJson_toString (p : Path) : Path.ofJson (.str p.toString) = .ok p := by
  rw [Path.ofJson, Path.ofString_toString]

theorem Schema.Settings.ofJson_toJson (source : Source) (s : Schema.Settings) :
    Schema.Settings.ofJson source s.toJson = .ok s := by
  simp [Schema.Settings.toJson, Schema.Settings.ofJson, Checked.of, Checked.and, Checked.optional,
    Checked.under, Except.mapError, List.lookup_cons, string, strings_ofStrings]

theorem AnalysisSettings.ofJson_toJson (source : Source) (s : AnalysisSettings) :
    AnalysisSettings.ofJson source s.toJson = .ok s := by
  simp [AnalysisSettings.toJson, AnalysisSettings.ofJson, Checked.of, Checked.and, Checked.optional,
    Checked.under, Except.mapError, List.lookup_cons, natural_ofNat, strings_ofStrings]

namespace Config

/-- The document of a configuration is that configuration. -/
theorem ofJson_toJson (source : Source) (c : Config) : ofJson source c.toJson = .ok c := by
  simp [toJson, ofJson, Checked.of, Checked.and, Checked.optional, Checked.under, Except.mapError,
    List.lookup_cons, string, Path.ofJson_toString, Schema.Settings.ofJson_toJson,
    AnalysisSettings.ofJson_toJson]

/-- The number in the document of a configuration is short enough to be read. -/
def HasReadableThreshold (c : Config) : Prop :=
  (Nat.toDigits 10 c.analysis.complexModelThreshold).length ≤ Text.digitLimit

theorem readable_ofStrings (items : List String) : (Json.ofStrings items).Readable := by
  refine .arr fun v hv => ?_
  obtain ⟨s, -, rfl⟩ := List.mem_map.1 hv
  exact .str s

theorem readable_schema (s : Schema.Settings) : s.toJson.Readable := by
  refine .obj (by simp) ?_
  simp only [List.forall_mem_cons]
  exact ⟨.str _, .str _, .str _, readable_ofStrings _, List.forall_mem_nil _⟩

theorem readable_toJson {c : Config} (h : c.HasReadableThreshold) : c.toJson.Readable := by
  have hanalysis : c.analysis.toJson.Readable := by
    refine .obj (by simp) ?_
    simp only [List.forall_mem_cons]
    exact ⟨.int h, readable_ofStrings _, List.forall_mem_nil _⟩
  refine .obj (by simp) ?_
  simp only [List.forall_mem_cons]
  exact ⟨.str _, .str _, .str _, .str _, readable_schema _, hanalysis, List.forall_mem_nil _⟩

/-- The document of a configuration is read as that configuration. -/
theorem read_render {c : Config} (h : c.HasReadableThreshold) : read c.render = .ok c := by
  simp [read, render, Json.read?_pretty (readable_toJson h), ofJson_toJson, Except.mapError]

/-- All line breaks in the document of a configuration are line feeds. -/
theorem unified_render {c : Config} (h : c.HasReadableThreshold) :
    Project.unified c.render = c.render := by
  rw [Project.unified, render, Json.pretty, String.toList_ofList,
    Text.unifyNewlines_of_not_mem ((readable_toJson h).not_mem_prettyChars 0)]

/-! ## Saving and loading -/

/-- The file to which a configuration was saved holds its document. -/
theorem readBytes_save {c : Config} {p q : Project} {path : Path} (h : c.save p path = (q, none)) :
    q.readBytes path = .ok c.render.toByteArray := by
  have hnone : (p.writeFile path c.render.toByteArray).2 = none := by rw [← save, h]
  have hstat := Project.stat_writeFile hnone
  rw [← save, h] at hstat
  rw [Project.readBytes, hstat]

/-- Saving and loading a configuration is lossless: the octets of its document are read as the
configuration itself, and so is any file of a project to which it was saved.  Hence the parts of the
project lie where they did. -/
theorem load_save (c : Config)
    (h : (Nat.toDigits 10 c.analysis.complexModelThreshold).length ≤ 4300) :
    (∃ text, Text.decodeUtf8 c.render.toByteArray = .ok text ∧
      read (Project.unified text) = .ok c) ∧
    ∀ (p q : Project) (path : Path), c.save p path = (q, none) →
      q.readBytes path = .ok c.render.toByteArray ∧ load q path = .ok c ∧
        (load q path).map parts = .ok c.parts := by
  have hread : read (Project.unified c.render) = .ok c := by
    rw [unified_render h, read_render h]
  refine ⟨⟨c.render, Text.decodeUtf8_toByteArray _, hread⟩, fun p q path hsave => ?_⟩
  have hbytes := readBytes_save hsave
  have hload : load q path = .ok c := by
    rw [load, Project.readText, Project.readStored, hbytes]
    simp [Text.decodeUtf8_toByteArray, Except.mapError, Except.map, hread]
  exact ⟨hbytes, hload, by rw [hload]; rfl⟩

/-- A configuration whose strings are hard to write is saved below a new directory and loaded. -/
theorem load_save_escaped :
    let c : Config := {
      basePath := Path.ofString "../päth"
      featuresDir := "a\"b\\c\r\n\t\x01"
      apiDir := ""
      buildDir := "\u2028😀\x7f"
      schema := { path := "/", reserved := [] }
      analysis := {
        complexModelThreshold := 123456789012345678901234567890
        requiredFeatureDirs := ["..", "", "\x00"] } }
    let p : Project := { tree := .empty, cwd := [] }
    let path := Path.ofString "conf/igniter.json"
    (Nat.toDigits 10 c.analysis.complexModelThreshold).length ≤ 4300 ∧
      ∃ q, c.save p path = (q, none) ∧ load q path = .ok c := by
  intro c p path
  have hthreshold : (Nat.toDigits 10 c.analysis.complexModelThreshold).length ≤ 4300 := by decide
  have hsave : (c.save p path).2 = none := by
    refine (Project.writeFile_eq_none_iff rfl).2 ⟨⟨?_, ?_, ?_⟩, fun m _ => ?_, ?_, ?_⟩
    · decide
    · decide
    · decide
    · rcases Decidable.em (m = []) with hroot | hroot
      · exact .inr (if_pos hroot)
      · exact .inl (if_neg hroot)
    · decide
    · decide
  refine ⟨hthreshold, (c.save p path).1, ?_⟩
  have hpair : c.save p path = ((c.save p path).1, none) := Prod.ext rfl hsave
  exact ⟨hpair, ((load_save c hthreshold).2 p _ path hpair).2.1⟩

end Config

end FeatureGen

import FeatureGen.Proofs.Schema.Body
import FeatureGen.Proofs.Schema.Ledger
import FeatureGen.Proofs.Schema.Lookup

/-!
# Compiling a printed model

Compiling a model of a printed document gives back what was printed: one field for each declaration
that is not reserved and whose name was not declared before, in the order of the body
(`compile_document`).  The field is that of the declaration (`Declaration.toField`), read with the
models and the enumerations of the document (`Document.index`).  All enumerations are read, those
too that the model does not name: where one cannot be read there are no fields
(`compile_longDocument`).
-/

namespace FeatureGen.Schema

open FeatureGen.Text

/-- The declarations that are not reserved, of those with one name the first. -/
def keptDeclarations (settings : Settings) (ds : List Declaration) : List Declaration :=
  firstsBy Declaration.name []
    (ds.filter fun d => !settings.reserved.contains (String.ofList d.name))

/-- Lines that are declarations give the fields of those that are not reserved. -/
theorem acceptedFields_map_text (index : Index) (settings : Settings) (ds : List Declaration) :
    acceptedFields index settings (ds.map Declaration.text) =
      (ds.filter fun d => !settings.reserved.contains (String.ofList d.name)).map
        (·.toField index settings) := by
  induction ds with
  | nil => rfl
  | cons d ds ih =>
    rw [List.map_cons, acceptedFields_cons, d.classify_text, ih, List.filter_cons]
    cases settings.reserved.contains (String.ofList d.name) with
    | true => rfl
    | false => rfl

/-- Of the fields of declarations those with the first declarations of their names count. -/
theorem firstsBy_map_toField (index : Index) (settings : Settings) (ds : List Declaration) :
    firstsBy Field.name [] (ds.map (·.toField index settings)) =
      (firstsBy Declaration.name [] ds).map (·.toField index settings) := by
  have hname : ∀ d : Declaration, (d.toField index settings).name = String.ofList d.name :=
    fun _ => rfl
  exact firstsBy_map (g := String.ofList) (fun _ _ => String.ofList_injective) hname [] ds

/-- A model whose body holds declarations compiles to the fields of those that are kept, if the
document has an index, and fails with it otherwise. -/
theorem compile_document (doc : Document) (h : doc.Distinct) {b : Block}
    (hb : b ∈ doc.blocksOf .model) {ds : List Declaration} (hbody : BodyText ds b.body)
    {n : List Char} (hn : SameUpToCase n b.name) (settings : Settings) :
    compile (String.ofList doc.text) (String.ofList n) settings =
      doc.index.map fun index =>
        (keptDeclarations settings ds).map (·.toField index settings) := by
  have hindex : Index.ofText doc.text = doc.index := h.ofText_text
  have hmodel :
      modelBody? (String.ofList doc.text).toList (String.ofList n).toList = some b.body := by
    rw [String.toList_ofList, String.toList_ofList]
    exact h.modelBody?_text hb hn
  rw [compile_eq_map, indexFor_of_eq_some hmodel, String.toList_ofList, hindex]
  congr 1
  funext index
  rw [declaredFields_of_eq_some hmodel, hbody.fieldLines, acceptedFields_map_text,
    firstsBy_map_toField]
  rfl

/-- Arguments with slashes and a parenthesis in a string. -/
def linkArguments : List Char := "(\"a//b (\"), c".toList

theorem argumentText_linkArguments : ArgumentText linkArguments := by
  have hrest : ArgumentText ", c".toList :=
    ArgumentText.append_left (p := ", c".toList) (by decide) .nil
  have hstring : ArgumentText "\"a//b (\"".toList := .quoted (q := "a//b (".toList) (by decide) .nil
  exact .parens hstring hrest

/-- A declaration with an attribute that has these arguments. -/
def urlDeclaration : Declaration where
  name := "url".toList
  type := "String".toList
  attributes :=
    [{ name := "db.Link".toList, args := some linkArguments
       argumentText_args := by rintro s ⟨⟩; exact argumentText_linkArguments
       isArgumentChar_args := by rintro s ⟨⟩; decide }]

/-- A declaration of a list with a default value. -/
def tagsDeclaration : Declaration where
  name := "tags".toList
  type := "Tag".toList
  modifier := .list
  attributes := [{ name := "default".toList }]

/-- A declaration of a name that stands before it. -/
def repeatedDeclaration : Declaration where
  name := "url".toList
  type := "Int".toList
  modifier := .optional

/-- A body with two declarations on one line, comments and a block attribute. -/
def linkBody : List Char :=
  (" url String @db.Link((\"a//b (\"), c)  tags Tag[] @default // two\r\n" ++
    "\n @@index([url])\n url Int? \n// end").toList

theorem bodyText_linkBody :
    BodyText [urlDeclaration, tagsDeclaration, repeatedDeclaration] linkBody := by
  have hfirst : FieldsText [urlDeclaration, tagsDeclaration]
      ([' '] ++ (urlDeclaration.text ++ ([' ', ' '] ++ (tagsDeclaration.text ++ [' '])))) :=
    .cons (by decide) (.cons (by decide) (.nil (by decide)) (notStarting_cons.2 (by decide)))
      (notStarting_cons.2 (by decide))
  have hcomment : LineText [urlDeclaration, tagsDeclaration]
      ([' '] ++ (urlDeclaration.text ++ ([' ', ' '] ++ (tagsDeclaration.text ++ [' ']))) ++
        '/' :: '/' :: " two".toList) :=
    .comment hfirst (by decide)
  have hrepeated :
      FieldsText [repeatedDeclaration] ([' '] ++ (repeatedDeclaration.text ++ [' '])) :=
    .cons (by decide) (.nil (by decide)) (notStarting_cons.2 (by decide))
  have hblank : LineText [] [] := .fields (.nil (by decide))
  have hblock : LineText [] ([' '] ++ '@' :: '@' :: "index([url])".toList) :=
    .block (by decide) (by decide)
  have hend : LineText [] ([] ++ '/' :: '/' :: " end".toList) :=
    .comment (.nil (by decide)) (by decide)
  have hbody := BodyText.line (c := '\r') hcomment (by decide)
    (.line (c := '\n') hblank (by decide) (.line (c := '\n') hblank (by decide)
      (.line (c := '\n') hblock (by decide) (.line (c := '\n') (.fields hrepeated) (by decide)
        (.last hend)))))
  refine Eq.mp (congrArg (BodyText _) ?_) hbody
  decide

/-- A document with that body. -/
def linkDocument : Document where
  blocks :=
    [{ kind := .enumeration, name := "Tag".toList, body := " A B ".toList },
     { kind := .model, name := "Link".toList, body := linkBody }]

/-- What the model `Link` declares is what it compiles to, but for the name that is repeated. -/
theorem compile_document_link :
    linkDocument.Distinct ∧
      (compile (String.ofList linkDocument.text) "LINK" {}).map
          (List.map fun f => (f.name, f.type, f.isOptional, f.isList, f.enumValues)) =
        .ok [("url", "String", false, false, []), ("tags", "Tag", true, true, ["A", "B"])] := by
  have h : linkDocument.Distinct := ⟨by decide, by decide⟩
  have hmem : ∃ b ∈ linkDocument.blocksOf .model, b.name = "Link".toList ∧ b.body = linkBody := by
    decide
  obtain ⟨b, hb, hname, hbody⟩ := hmem
  have hcompile := compile_document linkDocument h hb (hbody ▸ bodyText_linkBody)
    (n := "LINK".toList) (by rw [hname]; decide) {}
  refine ⟨h, ?_⟩
  have hindex : linkDocument.index =
      .ok ⟨["Link"], [("Tag", ["A", "B"])], uuidVersion? linkDocument.text⟩ := rfl
  rw [String.ofList_toList, hindex] at hcompile
  rw [hcompile]
  exact congrArg Except.ok (by decide)

/-- The declaration of the model in `longDocument`. -/
def titleDeclaration : Declaration where
  name := "title".toList
  type := "String".toList

theorem bodyText_title : BodyText [titleDeclaration] " title String ".toList :=
  .last (.fields (.cons (w := [' ']) (by decide) (.nil (by decide))
    (notStarting_cons.2 (by decide))))

/-- The model declares one field and has none, because of an enumeration that it does not name. -/
theorem compile_longDocument :
    longDocument.Distinct ∧ "Post".toList ∈ longDocument.names .model ∧
      modelBody? longDocument.text "Post".toList = some " title String ".toList ∧
      BodyText [titleDeclaration] " title String ".toList ∧
      compile (String.ofList longDocument.text) "Post" {} = .error ⟨4301⟩ := by
  have hbody : modelBody? longDocument.text "Post".toList = some " title String ".toList :=
    modelBody?_longDocument
  exact ⟨distinct_longDocument, .head _, hbody, bodyText_title,
    compile_eq_error String.toList_ofList hbody ofText_longDocument {}⟩

end FeatureGen.Schema

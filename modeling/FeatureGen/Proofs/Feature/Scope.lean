import FeatureGen.Proofs.Feature.Members
import FeatureGen.Proofs.Generation.Imports
import FeatureGen.Proofs.Schema.Relation

/-!
# Names in scope in an interface

The members of an interface are written with the types of the schema, and the imports above them
with the models that the relations lead to.  The two are the same name for a field whose type is a
declared model (`targetOf_of_isModel`).  A relation to a type that no model declares may lead to the
model that its attribute or its key is named after, and then the import brings in that name while
the member is written with the type (`person_out_of_scope`).

Where the names agree, the type of a member is the entity's own or imported, unless the import is
missing because another one differs from it in case alone (`relation_types_in_scope`).
-/

namespace FeatureGen.Schema

/-- The relation of a field whose type is a model leads to that model. -/
theorem model_of_classify {line : List Char} {index : Index} {settings : Settings} {f : Field}
    {r : Relation} (h : (classify line index settings).field? = some f)
    (hrelation : f.relation = some r) (hmodel : index.isModel f.type = true) :
    r.model = f.type := by
  obtain ⟨shape, attr, -, -, -, hr⟩ := exists_wellFormed_of_classify h hrelation
  exact hr.model_of_mem (isModel_iff.1 hmodel)

end FeatureGen.Schema

namespace FeatureGen.Feature

open FeatureGen.Text
open FeatureGen.Schema (Field Index Settings compile)

variable {f : Feature} {i : Field} {target : String}

/-! ## Imports of types -/

/-- The names that a text imports as types, one a line. -/
def importedTypes (code : String) : List String :=
  (codeLines code).filterMap (nameAfter? "import type \x7b ")

/-- A related model that is spelled as a word is imported. -/
theorem mem_importedTypes (h : target ∈ f.relatedModels) (hword : IsWordText target.toList) :
    target ∈ importedTypes f.interfaceFile.render := by
  have hblank : ' ' ∉ target.toList := hword.not_mem (by decide)
  have hfeed : '\n' ∉ target.toList := hword.not_mem (by decide)
  have hfirst : '\n' ∉ "import type \x7b ".toList ++ (target.toList ++ [' ']) := by simp [hfeed]
  have hsplit : ("import type " ++ braced [target] ++
      source ("@/features/" ++ lowercase target)).toList =
        ("import type \x7b ".toList ++ (target.toList ++ [' '])) ++
          ('\x7d' :: (source ("@/features/" ++ lowercase target)).toList) := by
    simp [braced]
  obtain ⟨p, hp⟩ := exists_mem_codeLines (import_mem_interfaceFile h) rfl hsplit hfirst
  refine List.mem_filterMap.2 ⟨_, hp, ?_⟩
  rw [List.append_assoc, List.append_assoc]
  exact nameAfter?_append _ hblank p

/-- A model that a relation leads to is imported up to case, unless it is the entity itself. -/
theorem exists_mem_relatedModels (hi : i ∈ f.fields) (hrelation : i.isRelation = true)
    (htarget : targetOf i ≠ "") (hown : targetOf i ≠ f.model) :
    ∃ t ∈ f.relatedModels, lowercase t = lowercase (targetOf i) := by
  have hmem : targetOf i ∈ ((f.fields.filter (·.isRelation)).map targetOf).filter
      fun t => !t.isEmpty && t != f.model := by
    rw [List.mem_filter]
    refine ⟨List.mem_map_of_mem (List.mem_filter.2 ⟨hi, hrelation⟩), ?_⟩
    simp [htarget, hown]
  exact exists_mem_firstsBy hmem List.not_mem_nil

theorem exists_of_mem_relatedModels (h : target ∈ f.relatedModels) :
    ∃ i ∈ f.fields, targetOf i = target := by
  have hmem := (List.mem_filter.1 (mem_of_mem_firstsBy h).1).1
  obtain ⟨i, hi, heq⟩ := List.mem_map.1 hmem
  exact ⟨i, (List.mem_filter.1 hi).1, heq⟩

/-! ## Members -/

/-- A field is written on a line of its own. -/
theorem fieldMember_line_mem (hi : i ∈ f.fields) (hname : IsWordText i.name.toList)
    (htype : '\n' ∉ i.type.toList) :
    (fieldMember i).line.toList ∈ codeLines f.interfaceFile.render := by
  have hinterface : .interface f.model f.entityMembers ∈ f.interfaceFile := by simp [interfaceFile]
  have hmember : fieldMember i ∈ f.entityMembers := by
    rw [entityMembers, List.mem_append, List.mem_append]
    exact Or.inl (Or.inr (List.mem_map_of_mem hi))
  have hline : (fieldMember i).line ∈ (Statement.interface f.model f.entityMembers).lines := by
    refine List.mem_append_left _ (List.mem_cons_of_mem _ (List.mem_flatMap.2 ⟨_, hmember, ?_⟩))
    rw [Member.lines_eq]
    exact List.mem_append_right _ List.mem_cons_self
  exact toList_mem_codeLines hinterface hline (legible_members hname htype).2.1.not_mem_line

/-- A relation with a target is written with its type. -/
theorem type_fieldMember (hrelation : i.isRelation = true) (htarget : targetOf i ≠ "")
    (henum : i.isEnum = false) (htime : lowercase i.type ≠ "datetime") :
    (fieldMember i).type = i.type ++ (if i.isList then "[]" else "") := by
  simp [fieldMember, fieldType, typeName, hrelation, htarget, henum, htime]

/-! ## Compiled fields -/

section Compiled

variable {text name : String} {settings : Settings} {fields : List Field}
  (hfields : compile text name settings = .ok fields)

include hfields

theorem targetOf_of_isModel (hi : i ∈ fields) (hrelation : i.isRelation = true) :
    ∃ index, Index.ofText text.toList = .ok index ∧
      (index.isModel i.type = true → targetOf i = i.type) := by
  obtain ⟨index, line, hindex, hline⟩ := Schema.exists_classify_of_mem_compile hfields hi
  refine ⟨index, hindex, fun hmodel => ?_⟩
  obtain ⟨_, -, hconsistent, -⟩ := Schema.consistent_of_mem_compile hfields hi
  obtain ⟨r, hr⟩ := hconsistent.isRelation_iff.1 hrelation
  rw [targetOf, hr]
  exact Schema.model_of_classify hline hr hmodel

end Compiled

/-- In the interface for the fields of a model every relation with a known target has a line of its
own, and its target is the entity itself or imported up to case.  The target is the type of the
field if that is a declared model.  In that case the type is written, unless it stands for values or
a time, and it is the entity itself or imported, unless another target differs from it in case
alone. -/
theorem relation_types_in_scope (text name : String) (settings : Settings) (f : Feature)
    (hfields : compile text name settings = .ok f.fields) :
    ∃ code, (Draft.ofFeature f).render .interface = .ok code ∧
      ∀ i ∈ f.fields, i.isRelation = true → targetOf i ≠ "" →
        (fieldMember i).line.toList ∈ codeLines code ∧
        (targetOf i = f.model ∨ ∃ t, lowercase t = lowercase (targetOf i) ∧
          .importTypes [t] ("@/features/" ++ lowercase t) ∈ f.interfaceFile) ∧
        (∃ index, Index.ofText text.toList = .ok index ∧
          (index.isModel i.type = true → targetOf i = i.type)) ∧
        (targetOf i = i.type → i.isEnum = false → lowercase i.type ≠ "datetime" →
          (∀ j ∈ f.fields, lowercase (targetOf j) = lowercase i.type → targetOf j = i.type) →
          (fieldMember i).type = i.type ++ (if i.isList then "[]" else "") ∧
            (i.type = f.model ∨ i.type ∈ importedTypes code)) := by
  have hconsistent : ∀ i ∈ f.fields, ∃ index, i.Consistent index := by
    intro i hi
    obtain ⟨index, -, hi, -⟩ := Schema.consistent_of_mem_compile hfields hi
    exact ⟨index, hi⟩
  have hlacks : ∀ i ∈ f.fields, Draft.lacksRelation i = false := by
    intro i hi
    obtain ⟨index, hi⟩ := hconsistent i hi
    exact lacksRelation_eq_false hi
  refine ⟨f.interfaceFile.render, render_interface hlacks, ?_⟩
  intro i hi hrelation htarget
  obtain ⟨index, hconsistent⟩ := hconsistent i hi
  have hword := hconsistent.type_word
  refine ⟨?_, ?_, targetOf_of_isModel hfields hi hrelation, ?_⟩
  · exact fieldMember_line_mem hi hconsistent.name_word fun hmem => by cases hword.2 _ hmem
  · by_cases hown : targetOf i = f.model
    · exact Or.inl hown
    · obtain ⟨t, ht, hlower⟩ := exists_mem_relatedModels hi hrelation htarget hown
      exact Or.inr ⟨t, hlower, import_mem_interfaceFile ht⟩
  · intro htype henum htime hcase
    refine ⟨type_fieldMember hrelation htarget henum htime, ?_⟩
    by_cases hown : i.type = f.model
    · exact Or.inl hown
    · obtain ⟨t, ht, hlower⟩ := exists_mem_relatedModels hi hrelation htarget (htype ▸ hown)
      obtain ⟨j, hj, hjt⟩ := exists_of_mem_relatedModels ht
      -- The import that is kept under the lowercase name is spelled as the type is.
      rw [htype, ← hjt] at hlower
      rw [← hjt, hcase j hj hlower] at ht
      exact Or.inr (mem_importedTypes ht hword)

/-- A schema in which a post leads to a declared model. -/
def authorText : String := "model Author \x7b\n name String\n\x7d\nmodel Post \x7b\n author Author\n\x7d"

/-- A schema in which a post leads to a type that no model declares, under a key that is named after
another. -/
def personText : String :=
  "model Post \x7b\n  author Person @relation(fields: [authorId], references: [id])\n\x7d\n"

/-- A field of a post that leads to its author under the name of a type. -/
def authorField (type : String) : Field :=
  { name := "author"
    type := type
    validator := "z.string().min(1)"
    description := "author field"
    isRelation := true
    relation := some
      { cardinality := .oneToOne, model := "Author", fields := ["authorId"], references := ["id"] } }

/-- The author of a post is imported under the name that the member is written with. -/
theorem relation_types_in_scope_author : ∃ code,
    (Draft.ofFeature ⟨"Post", [authorField "Author"], [], "id"⟩).render .interface = .ok code ∧
      "  author: Author".toList ∈ codeLines code ∧ "Author" ∈ importedTypes code := by
  have htext : authorText.toList = _ := String.toList_ofList
  have hcompile : compile authorText "Post" {} = .ok [authorField "Author"] := by
    rw [Schema.compile_of_toList htext]
    with_unfolding_all decide
  obtain ⟨code, hcode, hall⟩ := relation_types_in_scope authorText "Post" {}
    ⟨"Post", [authorField "Author"], [], "id"⟩ hcompile
  obtain ⟨hline, -, -, hscope⟩ :=
    hall (authorField "Author") List.mem_cons_self rfl (by decide)
  have hcase : ∀ j ∈ [authorField "Author"],
      lowercase (targetOf j) = lowercase "Author" → targetOf j = "Author" := by decide
  have hmodel : "Author" ≠ pascalCase "Post" := by decide
  obtain ⟨-, himport⟩ := hscope rfl rfl (by decide) hcase
  exact ⟨code, hcode, hline, himport.resolve_left hmodel⟩

/-- The interface for `personText` imports `Author` and writes `Person`, which it does not
import. -/
theorem person_out_of_scope :
    ∃ f, ofSchema personText "Post" [] {} = .ok (f, .schema) ∧
      compile personText "Post" {} = .ok f.fields ∧
      (∃ i ∈ f.fields, i.isRelation = true ∧ targetOf i = "Author" ∧
        (fieldMember i).line = "  author: Person") ∧
      ∃ code, (Draft.ofFeature f).render .interface = .ok code ∧
        "  author: Person".toList ∈ codeLines code ∧ importedTypes code = ["Author"] ∧
        "Person" ≠ pascalCase "Post" := by
  have htext : personText.toList = _ := String.toList_ofList
  have hall : compile personText "Post" ({} : Settings).unreserved =
      .ok [authorField "Person"] := by
    rw [Schema.compile_of_toList htext]
    decide +kernel
  have hfields : compile personText "Post" {} = .ok [authorField "Person"] := by
    rw [Schema.compile_eq_filter, hall]
    decide
  have hmanaged : Schema.compileReserved personText "Post" {} = .ok [] := by
    rw [Schema.compileReserved, hall]
    decide
  have hfeature := ofSchema_of_ne_nil hfields (List.cons_ne_nil _ _) []
  rw [hmanaged] at hfeature
  refine ⟨_, hfeature, hfields, ?_⟩
  have hmember : (fieldMember (authorField "Person")).line = "  author: Person" := by decide
  have hline : (fieldMember (authorField "Person")).line.toList ∈
      codeLines (interfaceFile ⟨"Post", [authorField "Person"], [], "id"⟩).render :=
    fieldMember_line_mem List.mem_cons_self (by decide) (by decide)
  rw [hmember] at hline
  refine ⟨⟨authorField "Person", List.mem_cons_self, rfl, rfl, hmember⟩, _,
    render_interface (by decide), hline, ?_, by decide⟩
  rw [importedTypes, codeLines_render]
  decide

end FeatureGen.Feature

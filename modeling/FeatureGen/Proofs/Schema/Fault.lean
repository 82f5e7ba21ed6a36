import FeatureGen.Proofs.Schema.Raw

/-!
# Relation attributes that cannot be read

The attributes of a declaration may have an attribute `@relation` that cannot be read.  The field
then has no relation, and none of the conventions for a type that names a model gives it one.  All
else is as if the attribute were not there: `Field.WithoutRelation` says for each part of the field
what it is made of, and that the expression is the one for the marks the field ends up with.

`withoutRelation_of_fault` has no case for the ways in which an attribute cannot be read, since
whatever the fault is, the relation that the shape is given is none.
-/

namespace FeatureGen.Schema

open FeatureGen.Text

/-- The field of a declaration, where no attribute and no convention gives it a relation. -/
structure Field.WithoutRelation (d : RawDeclaration) (index : Index) (f : Field) : Prop where
  /-- It has the name as it is written. -/
  name_eq : f.name = String.ofList d.name
  /-- It has the type as it is written. -/
  type_eq : f.type = String.ofList d.type
  /-- It has no relation. -/
  relation_eq : f.relation = none
  /-- It is not marked as a relation. -/
  isRelation_eq : f.isRelation = false
  /-- The mark alone makes it a list. -/
  isList_iff : f.isList = true ↔ d.modifier = .list
  /-- It has a default if the attributes have the tag. -/
  hasDefault_iff : f.hasDefault = true ↔ HasTag "default" d.tail
  /-- The mark or a default makes it optional. -/
  isOptional_iff : f.isOptional = true ↔ d.modifier = .optional ∨ f.hasDefault = true
  /-- It is an enumeration if the index says so. -/
  isEnum_eq : f.isEnum = index.isEnum f.type
  /-- It has the values that the index gives. -/
  enumValues_eq : f.enumValues = index.enumValues f.type
  /-- The expression is that of the type with these marks. -/
  validator_eq : f.validator = (Expression.ofType f.type f.isOptional f.isList index).render

theorem RawDeclaration.withoutRelation_toField (d : RawDeclaration) (index : Index) :
    (d.shape.toField none index).WithoutRelation d index where
  name_eq := rfl
  type_eq := rfl
  relation_eq := rfl
  isRelation_eq := rfl
  isList_iff := show _ ↔ d.shape.modifier = .list by simp [FieldShape.toField, Field.normalize]
  hasDefault_iff := d.hasDefault_shape
  isOptional_iff :=
    show _ ↔ d.shape.modifier = .optional ∨ _ by simp [FieldShape.toField, Field.normalize]
  isEnum_eq := rfl
  enumValues_eq := rfl
  validator_eq := by simp [FieldShape.toField, Field.normalize]

/-- Whatever stands in its attributes, a declaration becomes a field unless its name is reserved;
and a relation attribute that cannot be read costs the field its relation and nothing else. -/
theorem withoutRelation_of_fault (d : RawDeclaration) (index : Index) (settings : Settings) :
    ((classify d.text index settings).field?.isSome = true ↔
        String.ofList d.name ∉ settings.reserved) ∧
      ∀ fault, RelationAttribute.parse (trim d.tail) = .error fault →
        ∀ f, (classify d.text index settings).field? = some f →
          f.WithoutRelation d index ∧
            classifyDiagnostics d.text index settings = [.relationIgnored f.name fault] := by
  refine ⟨d.isSome_classify_text index settings, ?_⟩
  intro fault hfault f hf
  obtain ⟨hreserved, rfl⟩ := d.field?_classify_text hf
  have hparse : RelationAttribute.parse d.shape.tail = .error fault := hfault
  have hrelation : d.shape.relation? index settings = none := by
    rw [FieldShape.relation?, hparse]
  have hname : settings.reserved.contains (String.ofList d.shape.name) = false := by
    rw [List.contains_eq_mem, decide_eq_false_iff_not]
    exact hreserved
  rw [hrelation]
  refine ⟨d.withoutRelation_toField index, ?_⟩
  rw [classifyDiagnostics, d.read?_text]
  simp only [hname, hparse]
  rfl

/-- A field whose type is a model, with one list of keys and not the other. -/
def oneSidedAuthor : RawDeclaration where
  name := "author".toList
  type := "User".toList
  tail := " @relation(fields: [authorId]) @default(1) ".toList

/-- The field of `oneSidedAuthor` has a default and no relation, though its type is a model. -/
theorem withoutRelation_oneSidedAuthor :
    ∃ f, (classify oneSidedAuthor.text { models := ["User"] } {}).field? = some f ∧
      f.hasDefault = true ∧ f.WithoutRelation oneSidedAuthor { models := ["User"] } := by
  have ⟨hfield, hfault⟩ := withoutRelation_of_fault oneSidedAuthor { models := ["User"] } {}
  obtain ⟨f, hf⟩ := Option.isSome_iff_exists.1 (hfield.2 (by decide))
  have hparse : RelationAttribute.parse (trim oneSidedAuthor.tail) = .error .oneSided := rfl
  have hwithout := (hfault .oneSided hparse f hf).1
  refine ⟨f, hf, hwithout.hasDefault_iff.2 ?_, hwithout⟩
  exact ⟨" @relation(fields: [authorId]) ".toList, "(1) ".toList, by decide,
    notStarting_cons.2 (by decide)⟩

end FeatureGen.Schema

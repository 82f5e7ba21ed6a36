import FeatureGen.Feature.Origin
import FeatureGen.Proofs.Schema.Ledger
import FeatureGen.Proofs.Text.Span

/-!
# Consistency of compiled fields

The marks of a field are derived from its modifier, its default and its relation, and its
expression is made once, before the field is normalized.  `Field.Consistent` says that all parts of
a field agree in the end: normalizing it changes nothing, so that the expression that was made
before is the one for the final marks.

A line that becomes a field gives a consistent one (`consistent_of_classify`).  `compile` only
drops fields, so what it returns is consistent as well, without repeated and without reserved names
(`compile_consistent`).
-/

namespace FeatureGen.Schema

open FeatureGen.Text

/-! ## Agreement of the parts of a field -/

/-- The parts of a field agree with each other and with the index of its schema. -/
structure Field.Consistent (index : Index) (f : Field) : Prop where
  /-- The name is a word. -/
  name_word : IsWordText f.name.toList
  /-- The type is a word. -/
  type_word : IsWordText f.type.toList
  /-- A field with a default value may be absent. -/
  optional_of_default : f.hasDefault = true → f.isOptional = true
  /-- A field with a relation to many holds a list. -/
  list_of_many : ∀ r, f.relation = some r →
    r.cardinality = .oneToMany ∨ r.cardinality = .manyToMany → f.isList = true
  /-- It is marked as a relation exactly if it has one. -/
  isRelation_iff : f.isRelation = true ↔ ∃ r, f.relation = some r
  /-- It is marked as an enumeration exactly if its type is declared as one. -/
  isEnum_iff : f.isEnum = true ↔ ∃ values, (f.type, values) ∈ index.enums
  /-- Its values are those of the enumeration. -/
  enumValues_of_mem : ∀ values, (f.type, values) ∈ index.enums → f.enumValues = values
  /-- A field of another type has no values. -/
  enumValues_of_not_enum : f.isEnum = false → f.enumValues = []
  /-- The expression is that of the type with the final marks. -/
  validator_eq : f.validator = (Expression.ofType f.type f.isOptional f.isList index).render
  /-- Normalizing changes nothing. -/
  normalize_eq : f.normalize = f

/-! ## The enumerations of an index -/

theorem isEnum_iff_mem {index : Index} {type : String} :
    index.isEnum type = true ↔ ∃ values, (type, values) ∈ index.enums := by
  simp only [Index.isEnum, List.lookup_isSome_iff]
  constructor
  · rintro ⟨⟨key, values⟩, hmem, hkey⟩
    obtain rfl : type = key := by simpa using hkey
    exact ⟨values, hmem⟩
  · rintro ⟨values, hmem⟩
    exact ⟨(type, values), hmem, by simp⟩

/-- No enumeration of an index occurs twice. -/
theorem nodup_enums {text : List Char} {index : Index} (h : Index.ofText text = .ok index) :
    (index.enums.map Prod.fst).Nodup := by
  obtain ⟨enums, -, rfl⟩ := exists_of_map_eq_ok h
  exact nodup_map_firstsBy Prod.fst [] enums

/-! ## Lines give consistent fields -/

/-- The name and the type of a declaration are words. -/
theorem isWordText_of_read? {s : List Char} {shape : FieldShape}
    (h : FieldShape.read? s = some shape) : IsWordText shape.name ∧ IsWordText shape.type := by
  simp only [FieldShape.read?, Option.bind_eq_bind, Option.bind_eq_some_iff] at h
  obtain ⟨⟨name, s₁⟩, hname, s₂, -, ⟨type, s₃⟩, htype, tail, -, he⟩ := h
  cases he
  exact ⟨⟨(append_of_spanSome? hname).2, forall_of_spanSome? hname⟩,
    ⟨(append_of_spanSome? htype).2, forall_of_spanSome? htype⟩⟩

/-- The field of a declaration is consistent. -/
theorem consistent_toField {index : Index} {shape : FieldShape} {relation : Option Relation}
    (hname : IsWordText shape.name) (htype : IsWordText shape.type)
    (hnodup : (index.enums.map Prod.fst).Nodup) :
    (shape.toField relation index).Consistent index where
  name_word := by simpa [FieldShape.toField, Field.normalize] using hname
  type_word := by simpa [FieldShape.toField, Field.normalize] using htype
  optional_of_default := by
    intro h
    simp only [FieldShape.toField, Field.normalize] at h ⊢
    simp [h]
  list_of_many := by
    intro r hr hmany
    have hr' : relation = some r := hr
    have hm : r.cardinality.isMany = true := by
      rcases hmany with hmany | hmany <;> rw [hmany] <;> rfl
    simp [FieldShape.toField, Field.normalize, hr', hm]
  isRelation_iff := by
    simp [FieldShape.toField, Field.normalize, Option.isSome_iff_exists]
  isEnum_iff := isEnum_iff_mem
  enumValues_of_mem := by
    intro values hmem
    have hlookup : index.enums.lookup (String.ofList shape.type) = some values :=
      lookup_eq_some_of_mem hnodup hmem
    show (index.enums.lookup (String.ofList shape.type)).getD [] = values
    rw [hlookup, Option.getD_some]
  enumValues_of_not_enum := by
    intro h
    have hnone : index.enums.lookup (String.ofList shape.type) = none := by
      simpa [FieldShape.toField, Field.normalize, Index.isEnum] using h
    show (index.enums.lookup (String.ofList shape.type)).getD [] = []
    rw [hnone, Option.getD_none]
  validator_eq := by
    simp [FieldShape.toField, Field.normalize]
  normalize_eq := Field.normalize_normalize _

/-- A line that becomes a field gives a consistent one, whose name is not reserved. -/
theorem consistent_of_classify {line : List Char} {index : Index} {settings : Settings} {f : Field}
    (hnodup : (index.enums.map Prod.fst).Nodup)
    (h : (classify line index settings).field? = some f) :
    f.Consistent index ∧ f.name ∉ settings.reserved := by
  obtain ⟨shape, hread, hr, rfl⟩ := exists_shape_of_classify h
  obtain ⟨hname, htype⟩ := isWordText_of_read? hread
  exact ⟨consistent_toField hname htype hnodup, hr⟩

/-! ## Compiled fields -/

/-- A compiled field agrees with the index that it was compiled with, and its name is not
reserved. -/
theorem consistent_of_mem_compile {text model : String} {settings : Settings} {fields : List Field}
    {f : Field} (h : compile text model settings = .ok fields) (hf : f ∈ fields) :
    ∃ index, Index.ofText text.toList = .ok index ∧ f.Consistent index ∧
      f.name ∉ settings.reserved := by
  obtain ⟨index, line, hindex, hline⟩ := exists_classify_of_mem_compile h hf
  exact ⟨index, hindex, consistent_of_classify (nodup_enums hindex) hline⟩

/-- Normalizing the fields of a model changes nothing. -/
theorem map_normalize_of_compile {text model : String} {settings : Settings} {fields : List Field}
    (h : compile text model settings = .ok fields) : fields.map Field.normalize = fields := by
  have hnormal : ∀ f ∈ fields, f.normalize = id f := fun f hf => by
    obtain ⟨index, -, hconsistent, -⟩ := consistent_of_mem_compile h hf
    exact hconsistent.normalize_eq
  rw [List.map_congr_left hnormal, List.map_id]

/-- A feature takes the fields of its model as they are, if there are any. -/
theorem resolveFields_of_ne_nil {text model : String} {settings : Settings} {fields : List Field}
    (h : compile text model settings = .ok fields) (hne : fields ≠ []) (fallback : List String) :
    Feature.resolveFields text model fallback settings = .ok (fields, .schema) := by
  have hsome : (!fields.isEmpty) = true := by simpa using hne
  rw [Feature.resolveFields, h]
  show Except.ok (if _ then _ else _) = _
  rw [if_pos hsome, map_normalize_of_compile h]

/-- Without fields of a model it takes those of the pairs. -/
theorem resolveFields_of_nil {text model : String} {settings : Settings}
    (h : compile text model settings = .ok []) (fallback : List String) :
    Feature.resolveFields text model fallback settings =
      .ok (fallbackFields fallback, if fallback.isEmpty then .none else .fallback) := by
  rw [Feature.resolveFields, h]
  cases fallback with
  | nil => rfl
  | cons pair pairs => rfl

/-- The fields of a model have distinct names, none of them reserved, and are consistent with the
index of the schema; normalizing them changes nothing, and a feature that takes its fields from the
model takes them as they are. -/
theorem compile_consistent {text model : String} {settings : Settings} {fields : List Field}
    (h : compile text model settings = .ok fields) :
    (fields.map Field.name).Nodup ∧
      (∀ f ∈ fields, f.name ∉ settings.reserved ∧
        ∃ index, Index.ofText text.toList = .ok index ∧ f.Consistent index) ∧
      fields.map Field.normalize = fields ∧
      ∀ fallback resolved,
        Feature.resolveFields text model fallback settings = .ok (resolved, .schema) →
          resolved = fields := by
  refine ⟨nodup_of_compile h, ?_, map_normalize_of_compile h, ?_⟩
  · intro f hf
    obtain ⟨index, hindex, hconsistent, hfree⟩ := consistent_of_mem_compile h hf
    exact ⟨hfree, index, hindex, hconsistent⟩
  · intro fallback resolved hresolved
    cases fields with
    | cons f fields =>
      rw [resolveFields_of_ne_nil h (List.cons_ne_nil f fields)] at hresolved
      cases hresolved
      rfl
    | nil =>
      rw [resolveFields_of_nil h] at hresolved
      cases fallback with
      | nil => cases hresolved
      | cons pair pairs => cases hresolved

/-- A model with an enumeration that has a default, and with a relation to several keys. -/
def postText : String :=
  "enum Role \x7b ADMIN USER \x7d\nmodel Post \x7b\n role Role @default(ADMIN)\n" ++
    " tags Tag @relation(fields: [a, b], references: [c, d])\n\x7d"

/-- Both fields of `postText` are consistent, and a feature takes them as they are. -/
theorem compile_consistent_post : ∃ index fields,
    Index.ofText postText.toList = .ok index ∧ compile postText "Post" {} = .ok fields ∧
      (∃ f ∈ fields, f.hasDefault = true ∧ f.isEnum = true ∧ f.Consistent index) ∧
      (∃ f ∈ fields, f.isRelation = true ∧ f.Consistent index) ∧
      Feature.resolveFields postText "Post" ["x"] {} = .ok (fields, .schema) := by
  have hmarks : (compile postText "Post" {}).map
      (List.map fun f => (f.hasDefault, f.isEnum, f.isRelation)) =
        .ok [(true, true, false), (false, false, true)] := by decide +kernel
  obtain ⟨fields, hcompile, hmap⟩ := exists_of_map_eq_ok hmarks
  obtain ⟨role, rest, rfl, hrole, hrest⟩ := List.map_eq_cons_iff.1 hmap
  obtain ⟨tags, rest, rfl, htags, -⟩ := List.map_eq_cons_iff.1 hrest
  have ⟨_, hfields, _, hsource⟩ := compile_consistent hcompile
  obtain ⟨-, index, hindex, hconsistent⟩ := hfields role (.head _)
  obtain ⟨-, index', hindex', hconsistent'⟩ := hfields tags (.tail _ (.head _))
  obtain rfl : index = index' := Except.ok.inj (hindex.symm.trans hindex')
  have hschema : (Feature.resolveFields postText "Post" ["x"] {}).map Prod.snd = .ok .schema := by
    decide +kernel
  obtain ⟨⟨resolved, _⟩, hresolved, rfl⟩ := exists_of_map_eq_ok hschema
  obtain rfl := hsource ["x"] resolved hresolved
  simp only [Prod.mk.injEq] at hrole htags
  exact ⟨index, _, hindex, hcompile, ⟨role, .head _, hrole.1, hrole.2.1, hconsistent⟩,
    ⟨tags, .tail _ (.head _), htags.2.2, hconsistent'⟩, hresolved⟩

end FeatureGen.Schema

import FeatureGen.Proofs.Feature.Reading
import FeatureGen.Proofs.Json.Value
import FeatureGen.Proofs.Schema.Consistency

/-!
# The members of an entity

The fields of a model are compiled twice, once without the reserved fields and once for them alone,
and the interface puts the two lists together again: the primary key goes to the front if it is
reserved, the other reserved fields to the end.  Nothing is lost in this and nothing is doubled
(`interface_members`), for each of the three parts is a filter of the fields that are compiled when
nothing is reserved.

The members are read from the text of the interface, so all their lines have to be single ones.  The
names of fields are words, and a line feed in a value of an enumeration is escaped
(`not_mem_fieldType`).
-/

namespace FeatureGen.Json

theorem not_mem_scriptChar {d : Char} (hd : d.toNat < 0x20) (c : Char) : d ∉ scriptChar c := by
  rw [scriptChar]
  split
  · exact not_mem_unitEscape hd _
  · rw [asciiChar]
    cases h : required? c with
    | some w => exact not_mem_of_required? hd h
    | none =>
      have hle := le_of_required?_eq_none h
      rw [Option.getD_none]
      split
      · rw [List.mem_singleton]
        rintro rfl
        omega
      · split
        · exact not_mem_unitEscape hd _
        · simp [not_mem_unitEscape hd]

/-- A string that is safe in a script stands on one line. -/
theorem not_mem_scriptSafe (s : String) : '\n' ∉ (scriptSafe s).toList := by
  have hfeed : ('\n' : Char).toNat < 0x20 := by decide
  simp [scriptSafe, quote, not_mem_scriptChar hfeed]

end FeatureGen.Json

namespace FeatureGen.Feature

open FeatureGen.Text
open FeatureGen.Schema (Field Settings compile compileReserved defaultReserved fallbackFields)

variable {f : Field} {d : Char}

/-! ## Lines of members -/

theorem not_mem_enumType (f : Field) : '\n' ∉ (enumType f).toList := by
  rw [enumType, String.toList_intercalate]
  induction f.enumValues with
  | nil => exact List.not_mem_nil
  | cons v values ih =>
    cases values with
    | nil => simpa using Json.not_mem_scriptSafe v
    | cons w values =>
      rw [List.map_cons, List.map_cons, List.map_cons, List.map_cons, List.intercalate_cons_cons,
        List.mem_append, List.mem_append, not_or, not_or]
      exact ⟨⟨Json.not_mem_scriptSafe v, by decide⟩, ih⟩

theorem not_mem_fieldType (h : '\n' ∉ f.type.toList) : '\n' ∉ (fieldType f).toList := by
  have henum := not_mem_enumType f
  have htype := not_mem_typeName h f.isRelation
  rw [fieldType]
  split
  · split
    · simp [henum]
    · exact henum
  · split <;> simp [htype]

/-- The members for a field with a word for its name and a type on one line can be read. -/
theorem legible_members (hname : IsWordText f.name.toList) (htype : '\n' ∉ f.type.toList) :
    (keyMember f).Legible ∧ (fieldMember f).Legible ∧ (managedMember f).Legible := by
  have hline : '\n' ∉ f.name.toList := hname.not_mem (by decide)
  have hwritten : '\n' ∉ (fieldType f).toList := not_mem_fieldType htype
  have hkey : (keyMember f).Legible := ⟨hname, by simp [keyMember], hwritten⟩
  have hmanaged : (managedMember f).Legible := ⟨hname, by simp [managedMember], hwritten⟩
  refine ⟨hkey, ?_, hmanaged⟩
  rw [fieldMember]
  split
  · refine ⟨hname, ?_, ?_⟩
    · simp [hline]
    · split <;> simp
  · exact ⟨hname, by simp, hwritten⟩

/-- The fields of a feature are named with words, and their types stand on single lines. -/
def LegibleFields (f : Feature) : Prop :=
  ∀ i ∈ f.fields ++ f.managed, IsWordText i.name.toList ∧ '\n' ∉ i.type.toList

/-! ## The feature of a name -/

section Model

variable {text name : String} {fallback : List String} {settings : Settings} {fields : List Field}
  {feature : Feature} {source : FieldSource}

/-- A feature takes the fields and the managed fields of its model as they are compiled, if there
are fields. -/
theorem ofSchema_of_ne_nil (h : compile text name settings = .ok fields) (hne : fields ≠ [])
    (fallback : List String) :
    ofSchema text name fallback settings =
      (compileReserved text name settings).map fun managed =>
        (⟨name, fields, managed, settings.primaryKey⟩, .schema) := by
  rw [ofSchema, Schema.resolveFields_of_ne_nil h hne]
  rfl

/-- The feature that pairs `name:type` give, with managed fields by convention. -/
def ofPairs (name : String) (fallback : List String) (settings : Settings) : Feature :=
  ⟨name, fallbackFields fallback, defaultReserved settings, settings.primaryKey⟩

/-- Without fields in the schema a feature has those of the pairs. -/
theorem ofSchema_of_nil (h : compile text name settings = .ok []) (fallback : List String) :
    ofSchema text name fallback settings =
      .ok (ofPairs name fallback settings, if fallback.isEmpty then .none else .fallback) := by
  rw [ofSchema, Schema.resolveFields_of_nil h]
  cases fallback with
  | nil => rfl
  | cons pair pairs => rfl

theorem ofSchema_of_error {fault : DigitFault} (h : compile text name settings = .error fault) :
    ofSchema text name fallback settings = .error fault := by
  rw [ofSchema, resolveFields, h]
  rfl

/-- The fields of a feature are those of its model or, where that has none, those of the pairs. -/
theorem ofSchema_cases (h : ofSchema text name fallback settings = .ok (feature, source)) :
    (∃ fields managed, compile text name settings = .ok fields ∧ fields ≠ [] ∧
      compileReserved text name settings = .ok managed ∧ source = .schema ∧
      feature = ⟨name, fields, managed, settings.primaryKey⟩) ∨
    (compile text name settings = .ok [] ∧
      source = (if fallback.isEmpty then .none else .fallback) ∧
      feature = ofPairs name fallback settings) := by
  cases hcompile : compile text name settings with
  | error fault =>
    rw [ofSchema_of_error hcompile] at h
    cases h
  | ok fields =>
    by_cases hne : fields = []
    · subst hne
      rw [ofSchema_of_nil hcompile] at h
      cases h
      exact .inr ⟨rfl, rfl, rfl⟩
    · rw [ofSchema_of_ne_nil hcompile hne] at h
      obtain ⟨managed, hmanaged, he⟩ := exists_of_map_eq_ok h
      cases he
      exact .inl ⟨fields, managed, rfl, hne, hmanaged, rfl, rfl⟩

/-- A feature whose fields come from the schema has those of its model. -/
theorem exists_of_ofSchema (h : ofSchema text name fallback settings = .ok (feature, .schema)) :
    ∃ fields managed, compile text name settings = .ok fields ∧ fields ≠ [] ∧
      compileReserved text name settings = .ok managed ∧
      feature = ⟨name, fields, managed, settings.primaryKey⟩ := by
  rcases ofSchema_cases h with ⟨fields, managed, hfields, hne, hmanaged, -, hfeature⟩ | ⟨-, hs, -⟩
  · exact ⟨fields, managed, hfields, hne, hmanaged, hfeature⟩
  · split at hs <;> cases hs

/-- What holds of all fields that are compiled when nothing is reserved holds of the fields and of
the managed fields. -/
theorem consistent_ofSchema (h : ofSchema text name fallback settings = .ok (feature, .schema)) :
    ∃ index, Schema.Index.ofText text.toList = .ok index ∧
      ∀ f ∈ feature.fields ++ feature.managed, f.Consistent index := by
  obtain ⟨fields, managed, hfields, hne, hmanaged, rfl⟩ := exists_of_ofSchema h
  obtain ⟨first, rest, rfl⟩ := List.exists_cons_of_ne_nil hne
  obtain ⟨index, hindex, -⟩ := Schema.consistent_of_mem_compile hfields List.mem_cons_self
  refine ⟨index, hindex, ?_⟩
  intro f hf
  rcases List.mem_append.1 hf with hf | hf
  · obtain ⟨index', hindex', hconsistent, -⟩ := Schema.consistent_of_mem_compile hfields hf
    exact Except.ok.inj (hindex'.symm.trans hindex) ▸ hconsistent
  · obtain ⟨all, hall, rfl⟩ := exists_of_map_eq_ok hmanaged
    obtain ⟨index', hindex', hconsistent, -⟩ :=
      Schema.consistent_of_mem_compile hall (List.mem_filter.1 hf).1
    exact Except.ok.inj (hindex'.symm.trans hindex) ▸ hconsistent

end Model

/-! ## The members of the interface -/

/-- The names of the members are those of the three parts. -/
theorem map_name_entityMembers (f : Feature) :
    f.entityMembers.map Member.name =
      ((f.managed.map Field.name).filter (· == f.primaryKey)) ++ f.fields.map Field.name ++
        ((f.managed.map Field.name).filter (· != f.primaryKey)) := by
  have hfield : ∀ i : Field, (fieldMember i).name = i.name := by
    intro i
    rw [fieldMember]
    split <;> rfl
  rw [entityMembers, List.map_append, List.map_append, List.map_map, List.map_map, List.map_map,
    List.filter_map, List.filter_map]
  congr 2
  exact List.map_congr_left fun i _ => hfield i

/-- The types of what a client gives, which follow the interface. -/
def clientTypes (f : Feature) : Module :=
  [.blank, .typeAlias f.createType ("z.infer<typeof " ++ f.schemaConstant ++ ">"),
    .typeAlias f.updateType ("Partial<" ++ f.createType ++ ">")]

theorem exists_interfaceFile_eq (f : Feature) : ∃ before : Module,
    f.interfaceFile = before ++ .interface f.model f.entityMembers :: f.clientTypes :=
  ⟨_ ++ [_, _, _, _, _], (List.append_assoc _ [_, _, _, _, _] _).symm⟩

/-- The members of a feature are read back from the text of its interface. -/
theorem lastInterface?_of_legibleFields {f : Feature} (h : f.LegibleFields) :
    lastInterface? (codeLines f.interfaceFile.render) =
      some (f.model, f.entityMembers.map Member.name) := by
  have hblank : ' ' ∉ f.model.toList := not_mem_model f (by decide) (by decide)
  have hfeed : '\n' ∉ f.model.toList := not_mem_model f (by decide) (by decide)
  have hconstant : '\n' ∉ f.schemaConstant.toList :=
    not_mem_schemaConstant f (by decide) (by decide) (by decide)
  have hmembers : ∀ member ∈ f.entityMembers, member.Legible := by
    intro member hmember
    rw [entityMembers, List.mem_append, List.mem_append] at hmember
    rcases hmember with (hmember | hmember) | hmember
    · obtain ⟨i, hi, rfl⟩ := List.mem_map.1 hmember
      obtain ⟨hname, htype⟩ := h i (List.mem_append_right _ (List.mem_filter.1 hi).1)
      exact (legible_members hname htype).1
    · obtain ⟨i, hi, rfl⟩ := List.mem_map.1 hmember
      obtain ⟨hname, htype⟩ := h i (List.mem_append_left _ hi)
      exact (legible_members hname htype).2.1
    · obtain ⟨i, hi, rfl⟩ := List.mem_map.1 hmember
      obtain ⟨hname, htype⟩ := h i (List.mem_append_right _ (List.mem_filter.1 hi).1)
      exact (legible_members hname htype).2.2
  have hcreate : '\n' ∉ ("export type " ++ f.createType ++ " = " ++
      ("z.infer<typeof " ++ f.schemaConstant ++ ">")).toList := by
    simp [createType, hfeed, hconstant]
  have hupdate : '\n' ∉ ("export type " ++ f.updateType ++ " = " ++
      ("Partial<" ++ f.createType ++ ">")).toList := by
    simp [createType, updateType, hfeed]
  obtain ⟨before, hsplit⟩ := exists_interfaceFile_eq f
  rw [hsplit]
  refine lastInterface?_render hblank hfeed hmembers ?_
  have hlines : (f.clientTypes.flatMap Statement.lines).flatMap codeLines =
      [[], ("export type " ++ f.createType ++ " = " ++
          ("z.infer<typeof " ++ f.schemaConstant ++ ">")).toList,
        ("export type " ++ f.updateType ++ " = " ++
          ("Partial<" ++ f.createType ++ ">")).toList] := by
    show codeLines "" ++ (codeLines _ ++ (codeLines _ ++ [])) = _
    rw [codeLines_of_not_mem hcreate, codeLines_of_not_mem hupdate]
    rfl
  rw [hlines, List.forall_mem_cons, List.forall_mem_cons, List.forall_mem_singleton]
  simp only [String.toList_append]
  exact ⟨rfl, rfl, rfl⟩

/-- The fields of a model can be read back. -/
theorem lastInterface?_interfaceFile {f : Feature} {index : Schema.Index}
    (h : ∀ i ∈ f.fields ++ f.managed, i.Consistent index) :
    lastInterface? (codeLines f.interfaceFile.render) =
      some (f.model, f.entityMembers.map Member.name) := by
  apply lastInterface?_of_legibleFields
  exact fun i hi => ⟨(h i hi).name_word, (h i hi).type_word.not_mem (by decide)⟩

/-- The members are the managed fields and the others, in another order. -/
theorem perm_map_name_entityMembers (f : Feature) :
    (f.entityMembers.map Member.name).Perm ((f.managed ++ f.fields).map Field.name) := by
  rw [map_name_entityMembers, List.map_append]
  generalize f.managed.map Field.name = managed
  generalize f.fields.map Field.name = fields
  have hswap : (managed.filter (· == f.primaryKey) ++ fields ++
      managed.filter (· != f.primaryKey)).Perm
        (managed.filter (· == f.primaryKey) ++ managed.filter (· != f.primaryKey) ++ fields) := by
    rw [List.append_assoc, List.append_assoc]
    exact List.perm_append_comm.append_left _
  exact hswap.trans ((List.filter_append_perm (· == f.primaryKey) managed).append_right fields)

/-- The interface is there if no field lacks its relation. -/
theorem render_interface {f : Feature} (h : ∀ i ∈ f.fields, Draft.lacksRelation i = false) :
    (Draft.ofFeature f).render .interface = .ok f.interfaceFile.render := by
  have hlacks : f.fields.any Draft.lacksRelation = false := by
    rw [List.any_eq_false]
    intro i hi
    rw [h i hi]
    exact Bool.false_ne_true
  rw [render_ofFeature, hlacks]
  rfl

theorem lacksRelation_eq_false {index : Schema.Index} (h : f.Consistent index) :
    Draft.lacksRelation f = false := by
  cases hmark : f.isRelation with
  | false => rw [Draft.lacksRelation, hmark, Bool.false_and]
  | true =>
    obtain ⟨r, hr⟩ := h.isRelation_iff.1 hmark
    rw [Draft.lacksRelation, hr, Option.isNone_some, Bool.and_false]

/-- The interface declares every field of the model once.  Its members are the primary key, if that
is a reserved field, the fields that are not reserved, in the order of their declarations, and the
other reserved fields; together they are what is compiled when nothing is reserved. -/
theorem interface_members {text name : String} {fallback : List String} {settings : Settings}
    {feature : Feature}
    (hsource : ofSchema text name fallback settings = .ok (feature, .schema)) :
    ∃ fields managed all code members,
      compile text name settings = .ok fields ∧ compileReserved text name settings = .ok managed ∧
      compile text name settings.unreserved = .ok all ∧
      (Draft.ofFeature feature).render .interface = .ok code ∧
      lastInterface? (codeLines code) = some (pascalCase name, members) ∧
      members =
        (if settings.primaryKey ∈ managed.map Field.name then [settings.primaryKey] else []) ++
        fields.map Field.name ++
        (managed.map Field.name).filter (· != settings.primaryKey) ∧
      members.Nodup ∧ members.Perm (all.map Field.name) := by
  obtain ⟨index, -, hconsistent⟩ := consistent_ofSchema hsource
  obtain ⟨fields, managed, hfields, -, hmanaged, rfl⟩ := exists_of_ofSchema hsource
  obtain ⟨all, hall, hreserved⟩ := exists_of_map_eq_ok hmanaged
  have hordinary : all.filter (fun f => !settings.reserved.contains f.name) = fields := by
    have hfilter := Schema.compile_eq_filter text name settings
    rw [hfields, hall] at hfilter
    exact (Except.ok.inj hfilter).symm
  have hnodup : (managed.map Field.name).Nodup := by
    rw [← hreserved]
    exact (List.filter_sublist.map Field.name).nodup (Schema.nodup_of_compile hall)
  have hfirst : (managed.map Field.name).filter (· == settings.primaryKey) =
      if settings.primaryKey ∈ managed.map Field.name then [settings.primaryKey] else [] := by
    rw [List.filter_beq, hnodup.count]
    split <;> rfl
  let feature : Feature := ⟨name, fields, managed, settings.primaryKey⟩
  have hperm : (feature.entityMembers.map Member.name).Perm (all.map Field.name) := by
    refine (perm_map_name_entityMembers feature).trans ?_
    rw [show feature.managed = managed from rfl, show feature.fields = fields from rfl,
      ← hordinary, ← hreserved]
    exact (List.filter_append_perm (fun f => settings.reserved.contains f.name) all).map Field.name
  refine ⟨fields, managed, all, feature.interfaceFile.render, _, hfields, hmanaged, hall,
    render_interface ?_, lastInterface?_interfaceFile hconsistent, ?_,
    hperm.nodup_iff.2 (Schema.nodup_of_compile hall), hperm⟩
  · exact fun i hi => lacksRelation_eq_false (hconsistent i (List.mem_append_left _ hi))
  · rw [map_name_entityMembers, ← hfirst]

/-- A model with a relation, which declares its reserved fields among the others and one name
twice. -/
def tagText : String :=
  "model Tag \x7b\n name String\n createdAt DateTime\n parent Tag?\n name Int\n id Int @id\n\x7d"

/-- The interface for `tagText` starts with the primary key and ends with the time. -/
theorem interface_members_tag : ∃ feature code,
    ofSchema tagText "tag" [] {} = .ok (feature, .schema) ∧
      (Draft.ofFeature feature).render .interface = .ok code ∧
      lastInterface? (codeLines code) = some ("Tag", ["id", "name", "parent", "createdAt"]) := by
  have htext : tagText.toList = _ := String.toList_ofList
  have hcompile := Schema.compile_of_toList htext "tag"
  have hnames : (compile tagText "tag" {}).map (List.map Field.name) = .ok ["name", "parent"] := by
    rw [hcompile]
    with_unfolding_all decide
  have hreserved : (compileReserved tagText "tag" {}).map (List.map Field.name) =
      .ok ["createdAt", "id"] := by
    rw [compileReserved, hcompile]
    with_unfolding_all decide
  obtain ⟨fields, hfields, hnames⟩ := exists_of_map_eq_ok hnames
  obtain ⟨managed, hmanaged, hreserved⟩ := exists_of_map_eq_ok hreserved
  have hfeature : ofSchema tagText "tag" [] {} = .ok (⟨"tag", fields, managed, "id"⟩, .schema) := by
    rw [ofSchema_of_ne_nil hfields (by rintro rfl; cases hnames), hmanaged]
    rfl
  obtain ⟨fields', managed', -, code, members, hfields', hmanaged', -, hcode, hread, hmembers, -⟩ :=
    interface_members hfeature
  obtain rfl := Except.ok.inj (hfields.symm.trans hfields')
  obtain rfl := Except.ok.inj (hmanaged.symm.trans hmanaged')
  have hname : pascalCase "tag" = "Tag" := by decide
  have hlist : members = ["id", "name", "parent", "createdAt"] := by
    rw [hmembers, hnames, hreserved]
    decide
  rw [hlist, hname] at hread
  exact ⟨_, code, hfeature, hcode, hread⟩

end FeatureGen.Feature

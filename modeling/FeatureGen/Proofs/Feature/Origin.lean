import FeatureGen.Proofs.Feature.Members
import FeatureGen.Proofs.Schema.Account

/-!
# The two lists of a feature

The fields and the managed fields of a feature are found apart from each other.  Both are compiled
from the model, which is right for a model with an ordinary field; but the question that decides
between the model and the conventions is whether *fields* were found.  A model that declares managed
fields alone has none, so that the conventions replace what it declares (`managed_ofSchema`).

Pairs `name:type` stand in for a model that is not declared.  Unlike its declarations they are not
looked up among the reserved names, so that a pair with a reserved name gives a field beside the
managed one.  Each list has every name once, and so has the interface exactly if no pair has a
reserved name (`fallback_members`).
-/

namespace FeatureGen.Schema

open FeatureGen.Text

variable {pairs : List String} {settings : Settings} {f : Field}

/-! ## Fields from pairs and fields by convention -/

/-- The names in pairs `name:type`, those without one left out. -/
def pairNames (pairs : List String) : List String :=
  ((pairs.map fun p => splitPair p.toList).filter (!·.1.isEmpty)).map fun p => String.ofList p.1

/-- No pair has a reserved name. -/
def AvoidsReserved (settings : Settings) (pairs : List String) : Prop :=
  ∀ n ∈ pairNames pairs, n ∉ settings.reserved

instance (settings : Settings) (pairs : List String) : Decidable (AvoidsReserved settings pairs) :=
  inferInstanceAs (Decidable (∀ n ∈ pairNames pairs, n ∉ settings.reserved))

theorem map_name_fallbackFields (pairs : List String) :
    (fallbackFields pairs).map Field.name = firsts (pairNames pairs) := by
  have hmap (named : List (List Char × List Char)) :=
    firstsBy_map (f := fun p : List Char × List Char => String.ofList p.1)
      (fun _ _ h => String.ofList_injective h) (fun p => (rfl : id _ = String.ofList p.1)) [] named
  rw [fallbackFields, pairNames, firsts, List.map_map]
  exact (hmap _).symm

theorem map_name_defaultReserved (settings : Settings) :
    (defaultReserved settings).map Field.name = firsts settings.reserved := by
  rw [defaultReserved, List.map_map]
  exact List.map_id _

theorem mem_pairNames_of_mem (h : f ∈ fallbackFields pairs) : f.name ∈ pairNames pairs := by
  rw [← mem_firsts, ← map_name_fallbackFields]
  exact List.mem_map_of_mem h

theorem mem_reserved_of_mem (h : f ∈ defaultReserved settings) : f.name ∈ settings.reserved := by
  rw [← mem_firsts, ← map_name_defaultReserved]
  exact List.mem_map_of_mem h

/-- A field from a pair is no relation. -/
theorem isRelation_eq_false_of_mem (h : f ∈ fallbackFields pairs) : f.isRelation = false := by
  rw [fallbackFields] at h
  obtain ⟨p, -, rfl⟩ := List.mem_map.1 h
  rfl

/-- The line breaks in the type of a field from a pair are those of the pair. -/
theorem exists_mem_of_mem_type (h : f ∈ fallbackFields pairs) (hfeed : '\n' ∈ f.type.toList) :
    ∃ p ∈ pairs, '\n' ∈ p.toList := by
  rw [fallbackFields] at h
  obtain ⟨⟨name, type⟩, hfirst, rfl⟩ := List.mem_map.1 h
  obtain ⟨p, hp, hsplit⟩ := List.mem_map.1 (List.mem_filter.1 (mem_of_mem_firstsBy hfirst).1).1
  have htype : type = trim ((p.toList.dropWhile (· != ':')).drop 1) :=
    (congrArg Prod.snd hsplit).symm
  refine ⟨p, hp, ?_⟩
  cases hempty : type.isEmpty with
  | true =>
    simp only [hempty, if_true] at hfeed
    exact absurd hfeed (by decide)
  | false =>
    simp only [hempty, Bool.false_eq_true, if_false, String.toList_ofList] at hfeed
    rw [htype] at hfeed
    exact List.dropWhile_subset _ (List.mem_of_mem_drop (mem_of_mem_trim hfeed))

/-- A field by convention is a time or a text. -/
theorem not_mem_type_of_mem (h : f ∈ defaultReserved settings) : '\n' ∉ f.type.toList := by
  rw [defaultReserved] at h
  obtain ⟨name, -, rfl⟩ := List.mem_map.1 h
  show '\n' ∉ (if _ then "DateTime" else "String").toList
  split <;> decide

end FeatureGen.Schema

namespace FeatureGen.Feature

open FeatureGen.Text
open FeatureGen.Schema (AvoidsReserved Field Index Settings acceptedNames compile compileReserved
  defaultReserved fallbackFields fieldLines modelBody? pairNames)

variable {text name : String} {fallback : List String} {settings : Settings} {f : Feature}
  {source : FieldSource}

/-! ## Managed fields -/

/-- A declared model gives no fields if no declaration of it has the shape of a field and an
ordinary name. -/
theorem eq_nil_iff_of_compile {body : List Char} {fields : List Field}
    (hbody : modelBody? text.toList name.toList = some body)
    (h : compile text name settings = .ok fields) :
    fields = [] ↔ acceptedNames settings (fieldLines body) = [] := by
  obtain ⟨index, -, rfl⟩ := Schema.exists_of_compile h
  rw [Schema.declaredFields_of_eq_some hbody, firstsBy_eq_nil_iff,
    ← Schema.map_name_acceptedFields index, List.map_eq_nil_iff]

theorem compile_of_modelBody?_eq_none (h : modelBody? text.toList name.toList = none) :
    compile text name settings = .ok [] := by
  rw [compile, Schema.ledger, h]
  rfl

/-- The managed fields are those that the model declares, if it is declared with an ordinary field
as well; else they are those of the conventions.  If the model is declared the schema has to have an
index in both cases. -/
theorem managed_ofSchema (text name : String) (fallback : List String) (settings : Settings) :
    (ofSchema text name fallback settings).map (·.1.managed) =
      match modelBody? text.toList name.toList with
      | some body =>
        if acceptedNames settings (fieldLines body) = [] then
          (Index.ofText text.toList).map fun _ => defaultReserved settings
        else compileReserved text name settings
      | none => .ok (defaultReserved settings) := by
  cases hbody : modelBody? text.toList name.toList with
  | none =>
    rw [ofSchema_of_nil (compile_of_modelBody?_eq_none hbody)]
    rfl
  | some body =>
    show _ = if _ then _ else _
    cases hcompile : compile text name settings with
    | error fault =>
      have hindex : Index.ofText text.toList = .error fault := by
        rw [Schema.compile_eq_map, Schema.indexFor_of_eq_some hbody] at hcompile
        exact map_eq_error_iff.1 hcompile
      have hreserved : compileReserved text name settings = .error fault := by
        rw [Schema.compileReserved_eq_map, Schema.indexFor_of_eq_some hbody, hindex]
        rfl
      rw [ofSchema_of_error hcompile, hindex, hreserved]
      split <;> rfl
    | ok fields =>
      obtain ⟨index, hindex, -⟩ := Schema.exists_of_compile hcompile
      rw [Schema.indexFor_of_eq_some hbody] at hindex
      by_cases hnames : acceptedNames settings (fieldLines body) = []
      · obtain rfl := (eq_nil_iff_of_compile hbody hcompile).2 hnames
        rw [if_pos hnames, ofSchema_of_nil hcompile, hindex]
        rfl
      · have hne : fields ≠ [] := fun h => hnames ((eq_nil_iff_of_compile hbody hcompile).1 h)
        rw [if_neg hnames, ofSchema_of_ne_nil hcompile hne, map_map_except]
        cases compileReserved text name settings <;> rfl

/-- A model with a number for a key and nothing else. -/
def keyText : String := "model Tag \x7b\n  id Int @id\n\x7d\n"

/-- The key of `keyText` is a number in the schema and a text in the feature. -/
theorem managed_without_ordinary_fields :
    modelBody? keyText.toList "Tag".toList = some "\n  id Int @id\n".toList ∧
      (compileReserved keyText "Tag" {}).map (List.map fun i => (i.name, i.type)) =
        .ok [("id", "Int")] ∧
      (ofSchema keyText "Tag" [] {}).map (fun f => f.1.managed.map fun i => (i.name, i.type)) =
        .ok [("id", "String"), ("createdAt", "DateTime"), ("updatedAt", "DateTime")] := by
  have htext : keyText.toList = _ := String.toList_ofList
  have hcompile := Schema.compile_of_toList htext "Tag"
  have hempty : compile keyText "Tag" {} = .ok [] := by
    rw [hcompile]
    with_unfolding_all decide
  refine ⟨?_, ?_, ?_⟩
  · rw [htext]
    decide
  · rw [compileReserved, hcompile]
    with_unfolding_all decide
  · rw [ofSchema_of_nil hempty]
    with_unfolding_all decide

/-! ## Names and types on single lines -/

/-- A field from a pair or by convention has what is given. -/
theorem legibleFields_ofPairs (name : String)
    (hwords : ∀ n ∈ pairNames fallback ++ settings.reserved, IsWordText n.toList)
    (hlines : ∀ p ∈ fallback, '\n' ∉ p.toList) :
    LegibleFields (ofPairs name fallback settings) := by
  intro i hi
  rcases List.mem_append.1 hi with hi | hi
  · refine ⟨hwords _ (List.mem_append_left _ (Schema.mem_pairNames_of_mem hi)), fun hfeed => ?_⟩
    obtain ⟨p, hp, hmem⟩ := Schema.exists_mem_of_mem_type hi hfeed
    exact hlines p hp hmem
  · exact ⟨hwords _ (List.mem_append_right _ (Schema.mem_reserved_of_mem hi)),
      Schema.not_mem_type_of_mem hi⟩

/-! ## Pairs for a model that is not declared -/

/-- The names of the two lists differ from each other if no pair has a reserved name. -/
theorem nodup_append_iff_avoidsReserved :
    (((ofPairs name fallback settings).fields ++
        (ofPairs name fallback settings).managed).map Field.name).Nodup ↔
      AvoidsReserved settings fallback := by
  rw [ofPairs, List.map_append, Schema.map_name_fallbackFields, Schema.map_name_defaultReserved,
    List.nodup_append]
  constructor
  · intro hnodup n hn hr
    exact hnodup.2.2 n (mem_firsts.2 hn) n (mem_firsts.2 hr) rfl
  · intro havoids
    refine ⟨nodup_firsts _, nodup_firsts _, ?_⟩
    intro n hn m hm heq
    exact havoids n (mem_firsts.1 hn) (heq ▸ mem_firsts.1 hm)

/-- All fields from pairs are given by the client. -/
theorem inputFields_ofPairs :
    (ofPairs name fallback settings).inputFields = fallbackFields fallback := by
  rw [inputFields, ofPairs, List.filter_eq_self]
  intro i hi
  rw [Schema.isRelation_eq_false_of_mem hi]
  rfl

theorem forall_inputFields_iff_avoidsReserved :
    (∀ i ∈ (ofPairs name fallback settings).inputFields, i.name ∉ settings.reserved) ↔
      AvoidsReserved settings fallback := by
  rw [inputFields_ofPairs]
  constructor
  · intro hfields n hn
    rw [← mem_firsts, ← Schema.map_name_fallbackFields] at hn
    obtain ⟨i, hi, rfl⟩ := List.mem_map.1 hn
    exact hfields i hi
  · intro havoids i hi
    exact havoids i.name (Schema.mem_pairNames_of_mem hi)

theorem render_interface_ofPairs :
    (Draft.ofFeature (ofPairs name fallback settings)).render .interface =
      .ok (ofPairs name fallback settings).interfaceFile.render := by
  apply render_interface
  intro i hi
  rw [Draft.lacksRelation, Schema.isRelation_eq_false_of_mem hi, Bool.false_and]

/-- A feature whose model is not declared is there, and it has no name twice among its fields, and
none twice among its managed fields.  No name is in both lists, and so no member is declared twice,
exactly if no pair has a reserved name; and then no reserved name is among what a client gives. -/
theorem fallback_members (text name : String) (fallback : List String) (settings : Settings)
    (h : modelBody? text.toList name.toList = none) :
    ∃ f source, ofSchema text name fallback settings = .ok (f, source) ∧
      (f.fields.map Field.name).Nodup ∧ (f.managed.map Field.name).Nodup ∧
      (((f.fields ++ f.managed).map Field.name).Nodup ↔ AvoidsReserved settings fallback) ∧
      ((∀ i ∈ f.inputFields, i.name ∉ settings.reserved) ↔ AvoidsReserved settings fallback) ∧
      ∃ code, (Draft.ofFeature f).render .interface = .ok code ∧
        ((∀ n ∈ pairNames fallback ++ settings.reserved, IsWordText n.toList) →
          (∀ p ∈ fallback, '\n' ∉ p.toList) →
          ∃ members, lastInterface? (codeLines code) = some (pascalCase name, members) ∧
            (members.Nodup ↔ AvoidsReserved settings fallback)) := by
  refine ⟨_, _, ofSchema_of_nil (compile_of_modelBody?_eq_none h) fallback, ?_, ?_,
    nodup_append_iff_avoidsReserved, forall_inputFields_iff_avoidsReserved,
    _, render_interface_ofPairs, ?_⟩
  · rw [ofPairs, Schema.map_name_fallbackFields]
    exact nodup_firsts _
  · rw [ofPairs, Schema.map_name_defaultReserved]
    exact nodup_firsts _
  · intro hwords hlines
    refine ⟨_, lastInterface?_of_legibleFields (legibleFields_ofPairs name hwords hlines), ?_⟩
    have hperm := (perm_map_name_entityMembers (ofPairs name fallback settings)).trans
      (List.perm_append_comm.map Field.name)
    rw [hperm.nodup_iff]
    exact nodup_append_iff_avoidsReserved

/-- With a title alone every member of a note is declared once. -/
theorem fallback_members_title : ∃ f source code members,
    ofSchema "" "Note" ["title:string"] {} = .ok (f, source) ∧
      (Draft.ofFeature f).render .interface = .ok code ∧
      lastInterface? (codeLines code) = some ("Note", members) ∧ members.Nodup := by
  have havoids : AvoidsReserved {} ["title:string"] := by decide
  have hwords : ∀ n ∈ pairNames ["title:string"] ++ ({} : Settings).reserved,
      IsWordText n.toList := by decide
  obtain ⟨f, source, hfeature, -, -, -, -, code, hcode, hread⟩ :=
    fallback_members "" "Note" ["title:string"] {} rfl
  obtain ⟨members, hmembers, hnodup⟩ := hread hwords (by decide)
  have hname : pascalCase "Note" = "Note" := by decide
  rw [hname] at hmembers
  exact ⟨f, source, code, members, hfeature, hcode, hmembers, hnodup.2 havoids⟩

/-- A pair for the key gives a second member `id`, and the client gives it. -/
theorem reserved_pair_declared_twice :
    modelBody? "".toList "Note".toList = none ∧ "id" ∈ ({} : Settings).reserved ∧
      ∃ f source code, ofSchema "" "Note" ["id:string", "title:string"] {} = .ok (f, source) ∧
        "id" ∈ f.inputFields.map Field.name ∧ (Draft.ofFeature f).render .interface = .ok code ∧
        lastInterface? (codeLines code) =
          some ("Note", ["id", "id", "title", "createdAt", "updatedAt"]) := by
  have hnone : modelBody? "".toList "Note".toList = none := rfl
  have hwords : ∀ n ∈ pairNames ["id:string", "title:string"] ++ ({} : Settings).reserved,
      IsWordText n.toList := by decide
  have hmembers : (ofPairs "Note" ["id:string", "title:string"] {}).entityMembers.map
      Member.name = ["id", "id", "title", "createdAt", "updatedAt"] := by
    rw [map_name_entityMembers]
    decide
  have hmodel : (ofPairs "Note" ["id:string", "title:string"] {}).model = "Note" := by decide
  have hread := lastInterface?_of_legibleFields
    (legibleFields_ofPairs "Note" hwords (by decide))
  rw [hmembers, hmodel] at hread
  refine ⟨hnone, by decide, _, _, _, ofSchema_of_nil (compile_of_modelBody?_eq_none hnone) _, ?_,
    render_interface_ofPairs, hread⟩
  rw [inputFields_ofPairs]
  decide

end FeatureGen.Feature

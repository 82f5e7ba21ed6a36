import FeatureGen.Proofs.Fallible
import FeatureGen.Proofs.Text.Span
import FeatureGen.Schema.FieldLine

/-!
# Relations are well formed

What is known of the relation of a field (`Relation.WellFormed`): it has keys on both sides, its
cardinality says how many and whether the field is a list, and its model is the first that the type,
the name of the relation and the first key give.

The keys of an attribute are texts without blanks and commas around them, and an attribute lists
them on both sides or on none.  That is an invariant of its arguments: a list that has been given is
a key list (`Arguments.Sound`), whatever an argument does (`Arguments.add_cases`), also one that
gives the same list again.  So it holds of all of them (`Arguments.Sound.addAll`) and of every
attribute that can be read (`sound_of_parse`).
-/

namespace FeatureGen.Schema

open FeatureGen.Text

variable {args args' : Arguments} {first : Bool} {key value argument tail : List Char}
  {keys : List String} {a : RelationAttribute} {field type : String} {isList : Bool}
  {attr : Option RelationAttribute} {index : Index} {settings : Settings} {r : Relation}

/-! ## Key lists -/

/-- A key of a key list: a text without commas and without blanks at its ends. -/
structure IsKey (k : String) : Prop where
  ne_nil : k.toList ≠ []
  notStarting : NotStarting isBlank k.toList
  notEnding : NotEnding isBlank k.toList
  comma_not_mem : ',' ∉ k.toList

/-- Keys of a key list, which is not empty. -/
structure AreKeys (keys : List String) : Prop where
  ne_nil : keys ≠ []
  isKey : ∀ k ∈ keys, IsKey k

/-- The keys are the pieces between the brackets, without the blanks around them. -/
theorem exists_piece_of_keyList (h : keyList key value = .ok keys) :
    keys ≠ [] ∧ ∀ k ∈ keys, ∃ piece ∈ pieces ',' ((trim value).drop 1).dropLast,
      trim piece ≠ [] ∧ k = String.ofList (trim piece) := by
  simp only [keyList] at h
  split at h
  · split at h
    · cases h
    · next hne =>
      cases h
      refine ⟨fun hnil => hne (List.map_eq_nil_iff.1 hnil), fun k hk => ?_⟩
      obtain ⟨chars, hchars, rfl⟩ := List.mem_map.1 hk
      obtain ⟨hmem, hempty⟩ := List.mem_filter.1 hchars
      obtain ⟨piece, hpiece, rfl⟩ := List.mem_map.1 hmem
      exact ⟨piece, hpiece, by simpa using hempty, rfl⟩
  · cases h

theorem areKeys_of_keyList (h : keyList key value = .ok keys) : AreKeys keys := by
  obtain ⟨hne, hkeys⟩ := exists_piece_of_keyList h
  refine ⟨hne, fun k hk => ?_⟩
  obtain ⟨piece, hpiece, hempty, rfl⟩ := hkeys k hk
  have hcomma : ',' ∉ trim piece := fun hc => not_mem_of_mem_pieces hpiece (mem_of_mem_trim hc)
  constructor <;> rw [String.toList_ofList]
  · exact hempty
  · exact notStarting_trim piece
  · exact notEnding_trim piece
  · exact hcomma

theorem subset_of_keyList (h : keyList key value = .ok keys) {k : String} (hk : k ∈ keys) :
    k.toList ⊆ value := by
  obtain ⟨piece, hpiece, -, rfl⟩ := (exists_piece_of_keyList h).2 k hk
  intro c hc
  rw [String.toList_ofList] at hc
  have hinner := mem_of_mem_pieces hpiece (mem_of_mem_trim hc)
  exact mem_of_mem_trim (List.mem_of_mem_drop (List.dropLast_subset _ hinner))

/-! ## Arguments -/

/-- The lists that have been given are key lists. -/
structure Arguments.Sound (args : Arguments) : Prop where
  fields : ∀ keys ∈ args.fields, AreKeys keys
  references : ∀ keys ∈ args.references, AreKeys keys

theorem Arguments.sound_nil : Arguments.Sound {} where
  fields := fun _ h => by cases h
  references := fun _ h => by cases h

theorem subset_of_keyword? (h : keyword? argument = some (key, value)) : value ⊆ argument := by
  simp only [keyword?, Option.bind_eq_bind, Option.bind_eq_some_iff] at h
  obtain ⟨⟨word, rest⟩, hword, after, hmark, he⟩ := h
  cases he
  obtain ⟨w, hw, -⟩ := exists_of_afterMark? hmark
  have hrest : rest = w ++ ':' :: after := hw
  rw [← (append_of_spanSome? hword).1, hrest]
  intro c hc
  have hafter : c ∈ after := List.dropWhile_subset _ hc
  refine List.mem_append_right word ?_
  exact List.mem_append_right w (List.mem_cons_of_mem ':' hafter)

theorem unquote_subset (s : List Char) : unquote s ⊆ s := by
  intro c hc
  have hstart := List.dropWhile_subset _ (List.mem_reverse.1 hc)
  exact mem_of_mem_trim (List.dropWhile_subset _ (List.mem_reverse.1 hstart))

/-- What an argument does: it gives the name or one of the lists, or it does not matter. -/
theorem Arguments.add_cases (h : args.add first argument = .ok args') :
    args' = args ∨ (∃ name, name ⊆ argument ∧ args' = { args with name := name }) ∨
      ∃ keys, AreKeys keys ∧ (∀ k ∈ keys, k.toList ⊆ argument) ∧
        (args' = { args with fields := some keys } ∨
          args' = { args with references := some keys }) := by
  rw [Arguments.add] at h
  split at h
  · -- There is no keyword: a name in front, or a fault.
    split at h
    · cases h
      exact Or.inr (Or.inl ⟨_, unquote_subset argument, rfl⟩)
    · cases h
  · next key value hkeyword =>
    have hvalue := subset_of_keyword? hkeyword
    split at h
    · cases h
      exact Or.inr (Or.inl ⟨_, List.Subset.trans (unquote_subset value) hvalue, rfl⟩)
    split at h
    · obtain ⟨keys, hkeys, he⟩ := exists_of_map_eq_ok h
      exact Or.inr (Or.inr ⟨keys, areKeys_of_keyList hkeys,
        fun k hk => List.Subset.trans (subset_of_keyList hkeys hk) hvalue, Or.inl he.symm⟩)
    split at h
    · obtain ⟨keys, hkeys, he⟩ := exists_of_map_eq_ok h
      exact Or.inr (Or.inr ⟨keys, areKeys_of_keyList hkeys,
        fun k hk => List.Subset.trans (subset_of_keyList hkeys hk) hvalue, Or.inr he.symm⟩)
    · cases h
      exact Or.inl rfl

theorem Arguments.Sound.add (hs : args.Sound) (h : args.add first argument = .ok args') :
    args'.Sound := by
  rcases Arguments.add_cases h with rfl | ⟨name, -, rfl⟩ | ⟨keys, hkeys, -, rfl | rfl⟩
  · exact hs
  · exact ⟨hs.fields, hs.references⟩
  · exact ⟨fun _ hmem => Option.some.inj hmem ▸ hkeys, hs.references⟩
  · exact ⟨hs.fields, fun _ hmem => Option.some.inj hmem ▸ hkeys⟩

theorem Arguments.Sound.addAll {arguments : List (List Char)} (hs : args.Sound)
    (h : args.addAll first arguments = .ok args') : args'.Sound := by
  induction arguments generalizing args first with
  | nil =>
    cases h
    exact hs
  | cons argument arguments ih =>
    rw [Arguments.addAll] at h
    split at h
    · next hadd => exact ih (hs.add hadd) h
    · cases h

/-! ## Attributes -/

/-- An attribute as it is read: it lists keys on both sides or on none, and it has no empty name. -/
structure RelationAttribute.Sound (a : RelationAttribute) : Prop where
  lists : a.fields = [] ∧ a.references = [] ∨ AreKeys a.fields ∧ AreKeys a.references
  name_ne : a.name ≠ some ""

theorem RelationAttribute.sound_nil : RelationAttribute.Sound {} where
  lists := Or.inl ⟨rfl, rfl⟩
  name_ne := nofun

theorem sound_of_toAttribute (hs : args.Sound) (h : args.toAttribute = .ok a) : a.Sound := by
  rw [Arguments.toAttribute] at h
  split at h
  · next hboth =>
    cases h
    constructor
    · cases hf : args.fields with
      | none =>
        cases hr : args.references with
        | none => exact Or.inl ⟨rfl, rfl⟩
        | some references => rw [hf, hr] at hboth; cases hboth
      | some fields =>
        cases hr : args.references with
        | none => rw [hf, hr] at hboth; cases hboth
        | some references => exact Or.inr ⟨hs.fields fields hf, hs.references references hr⟩
    · intro hname
      dsimp only at hname
      split at hname
      · cases hname
      · next hne =>
        have hnil : args.name = [] := String.ofList_injective (Option.some.inj hname)
        exact hne (by rw [hnil]; rfl)
  · cases h

theorem sound_of_parse (h : RelationAttribute.parse tail = .ok (some a)) : a.Sound := by
  rw [RelationAttribute.parse] at h
  split at h
  · cases h
  split at h
  · split at h
    · cases h
    split at h
    · next hargs =>
      obtain ⟨a', ha, he⟩ := exists_of_map_eq_ok h
      obtain rfl := Option.some.inj he
      exact sound_of_toAttribute (Arguments.sound_nil.addAll hargs) ha
    · cases h
  · cases h
    exact RelationAttribute.sound_nil

theorem RelationAttribute.Sound.fields_eq_nil_iff (hs : a.Sound) :
    a.fields = [] ↔ a.references = [] := by
  rcases hs.lists with ⟨hf, hr⟩ | ⟨hf, hr⟩
  · exact ⟨fun _ => hr, fun _ => hf⟩
  · exact ⟨fun h => absurd h hf.ne_nil, fun h => absurd h hr.ne_nil⟩

/-! ## Relations -/

/-- The key is named after the model: it is the name of the model, which may start with a small
letter there, with the suffix of foreign keys. -/
def NamedAfter (key suffix model : String) : Prop :=
  suffix ≠ "" ∧ ∃ stem, stem ≠ [] ∧ key.toList = stem ++ suffix.toList ∧
    model = String.ofList (upperFirst stem)

/-- The relation of a field to a model.  Its type, its name and its first key tell the model, in
this order, and its keys are those of its attribute or follow the naming conventions. -/
structure Relation.WellFormed (field type : String) (isList : Bool)
    (attr : Option RelationAttribute) (index : Index) (settings : Settings) (r : Relation) :
    Prop where
  fields_ne_nil : r.fields ≠ []
  references_ne_nil : r.references ≠ []
  manyToMany_iff : r.cardinality = .manyToMany ↔ 1 < r.fields.length ∨ 1 < r.references.length
  oneToMany_iff : r.cardinality = .oneToMany ↔
    r.fields.length = 1 ∧ r.references.length = 1 ∧ isList = true
  oneToOne_iff : r.cardinality = .oneToOne ↔
    r.fields.length = 1 ∧ r.references.length = 1 ∧ isList = false
  name_eq : r.name = attr.bind RelationAttribute.name
  /-- The type is a model. -/
  model_of_mem : type ∈ index.models → r.model = type
  /-- The relation has a name. -/
  model_of_name : type ∉ index.models → ∀ name, r.name = some name → r.model = name
  /-- The first key is named after a model. -/
  model_of_key : type ∉ index.models → r.name = none →
    ∀ key model, r.fields.head? = some key → NamedAfter key settings.foreignKeySuffix model →
      r.model = model
  /-- Nothing tells the model. -/
  model_unknown : type ∉ index.models → r.name = none →
    (∀ key model, r.fields.head? = some key → ¬ NamedAfter key settings.foreignKeySuffix model) →
      r.model = ""
  /-- An attribute with keys counts as it is written. -/
  keys_of_attribute : ∀ a, attr = some a → a.hasKeys = true →
    r.fields = a.fields ∧ r.references = a.references ∧ AreKeys r.fields ∧ AreKeys r.references
  /-- Without one the type is a model, and the names of the field and of the primary key count. -/
  keys_by_convention : (∀ a, attr = some a → a.hasKeys = false) →
    type ∈ index.models ∧ r.fields = [field ++ settings.foreignKeySuffix] ∧
      r.references = [settings.primaryKey]

theorem modelOfKey?_eq_some_iff {key suffix model : List Char} :
    modelOfKey? key suffix = some model ↔
      suffix ≠ [] ∧ ∃ stem, stem ≠ [] ∧ key = stem ++ suffix ∧ model = upperFirst stem := by
  constructor
  · intro h
    simp only [modelOfKey?] at h
    split at h
    · cases h
    · next hkey =>
      simp only [Bool.or_eq_true, List.isEmpty_iff, bne_iff_ne, not_or, Classical.not_not] at hkey
      cases h
      exact ⟨hkey.1.1, _, hkey.1.2, hkey.2, rfl⟩
  · rintro ⟨hsuffix, stem, hstem, rfl, rfl⟩
    simp [modelOfKey?, hsuffix, hstem]

theorem map_modelOfKey?_eq_some_iff {key suffix model : String} :
    (modelOfKey? key.toList suffix.toList).map String.ofList = some model ↔
      NamedAfter key suffix model := by
  rw [Option.map_eq_some_iff]
  constructor
  · rintro ⟨chars, h, rfl⟩
    obtain ⟨hsuffix, stem, hstem, hkey, rfl⟩ := modelOfKey?_eq_some_iff.1 h
    exact ⟨fun he => hsuffix (by rw [he]; rfl), stem, hstem, hkey, rfl⟩
  · rintro ⟨hsuffix, stem, hstem, hkey, rfl⟩
    refine ⟨_, modelOfKey?_eq_some_iff.2 ⟨fun he => hsuffix ?_, stem, hstem, hkey, rfl⟩, rfl⟩
    exact String.toList_injective he

theorem isModel_iff : index.isModel type = true ↔ type ∈ index.models := List.contains_iff_mem

/-- The type of a field is the model it leads to, if it is one. -/
theorem target?_of_mem {suffix : String} (h : type ∈ index.models) :
    target? type a index suffix = some type := by
  rw [target?, if_pos (isModel_iff.2 h)]

/-- A type that is no model leaves it to the name, and without a name to the first key. -/
theorem target?_of_not_mem {suffix : String} (h : type ∉ index.models) (ha : a.name ≠ some "") :
    (∀ name, a.name = some name → target? type a index suffix = some name) ∧
      (a.name = none → ∀ model, target? type a index suffix = some model ↔
        ∃ key, a.fields.head? = some key ∧ NamedAfter key suffix model) := by
  have htype : index.isModel type = false := Bool.eq_false_iff.2 fun hmem => h (isModel_iff.1 hmem)
  constructor
  · intro name hname
    have hne : name.isEmpty = false := by
      rw [Bool.eq_false_iff]
      intro hempty
      exact ha (by rw [hname, String.isEmpty_iff.1 hempty])
    rw [target?, htype, hname, Option.filter_some, hne]
    rfl
  · intro hname model
    rw [target?, htype, hname, Option.filter_none]
    simp only [Bool.false_eq_true, if_false, Option.bind_eq_some_iff, map_modelOfKey?_eq_some_iff]

/-- Several keys on a side tell the cardinality, and else it matters whether the field is a list. -/
theorem cardinality_cases (isList : Bool) {fields references : List String} (hf : fields ≠ [])
    (hr : references ≠ []) :
    (1 < fields.length ∨ 1 < references.length) ∧
        cardinality fields references isList = .manyToMany ∨
      (fields.length = 1 ∧ references.length = 1) ∧
        cardinality fields references isList = if isList then .oneToMany else .oneToOne := by
  have hfields := List.length_pos_iff.2 hf
  have hreferences := List.length_pos_iff.2 hr
  by_cases h : 1 < fields.length ∨ 1 < references.length
  · exact Or.inl ⟨h, if_pos h⟩
  · exact Or.inr ⟨by omega, if_neg h⟩

/-- Where the keys of a relation come from. -/
theorem relate_keys (h : relate field type isList attr index settings = some r) :
    (∃ a, attr = some a ∧ a.hasKeys = true ∧ r.fields = a.fields ∧ r.references = a.references) ∨
      (∀ a, attr = some a → a.hasKeys = false) ∧ type ∈ index.models ∧
        r.fields = [field ++ settings.foreignKeySuffix] ∧ r.references = [settings.primaryKey] := by
  rw [relate] at h
  split at h
  · next a ha =>
    cases h
    obtain ⟨hattr, hkeys⟩ := Option.filter_eq_some_iff.1 ha
    exact Or.inl ⟨a, hattr, hkeys, rfl, rfl⟩
  · next ha =>
    split at h
    · next htype =>
      cases h
      refine Or.inr ⟨fun a hattr => ?_, isModel_iff.1 htype, rfl, rfl⟩
      simpa using Option.filter_eq_none_iff.1 ha a hattr
    · cases h

/-- The rest of a relation is made of its keys, also where they follow the conventions. -/
theorem relate_eq (h : relate field type isList attr index settings = some r) :
    r.cardinality = cardinality r.fields r.references isList ∧
      r.name = attr.bind RelationAttribute.name ∧
      r.model = (target? type { name := r.name, fields := r.fields, references := r.references }
        index settings.foreignKeySuffix).getD "" := by
  rw [relate] at h
  split at h
  · next a ha =>
    cases h
    obtain ⟨rfl, -⟩ := Option.filter_eq_some_iff.1 ha
    exact ⟨rfl, rfl, rfl⟩
  · split at h
    · next htype =>
      cases h
      refine ⟨rfl, rfl, ?_⟩
      rw [target?_of_mem (isModel_iff.1 htype), Option.getD_some]
    · cases h

theorem wellFormed_of_relate (hs : ∀ a, attr = some a → a.Sound)
    (h : relate field type isList attr index settings = some r) :
    r.WellFormed field type isList attr index settings := by
  obtain ⟨hcardinality, hname, hmodel⟩ := relate_eq h
  have hne : r.fields ≠ [] ∧ r.references ≠ [] := by
    rcases relate_keys h with ⟨a, -, hkeys, hf, hr⟩ | ⟨-, -, hf, hr⟩
    · rw [hf, hr]
      simpa [RelationAttribute.hasKeys] using hkeys
    · simp [hf, hr]
  have hnamed : r.name ≠ some "" := by
    rw [hname]
    cases attr with
    | none => nofun
    | some a => exact (hs a rfl).name_ne
  have hkeys := relate_keys h
  have hcases := cardinality_cases isList hne.1 hne.2
  rw [← hcardinality] at hcases
  constructor
  case fields_ne_nil => exact hne.1
  case references_ne_nil => exact hne.2
  case name_eq => exact hname
  case manyToMany_iff | oneToMany_iff | oneToOne_iff =>
    rcases hcases with ⟨hseveral, hc⟩ | ⟨hone, hc⟩
    · simp [hc]; omega
    · cases isList <;> simp [hc, hone]
  case model_of_mem =>
    intro hmem
    rw [hmodel, target?_of_mem hmem, Option.getD_some]
  case model_of_name =>
    intro hmem name hsome
    rw [hmodel, (target?_of_not_mem hmem hnamed).1 name hsome, Option.getD_some]
  case model_of_key =>
    intro hmem hnone key model hkey hafter
    rw [hmodel, ((target?_of_not_mem hmem hnamed).2 hnone model).2 ⟨key, hkey, hafter⟩,
      Option.getD_some]
  case model_unknown =>
    intro hmem hnone hnot
    rw [hmodel]
    cases htarget : target? type { name := r.name, fields := r.fields, references := r.references }
        index settings.foreignKeySuffix with
    | none => rfl
    | some model =>
      obtain ⟨key, hkey, hafter⟩ := ((target?_of_not_mem hmem hnamed).2 hnone model).1 htarget
      exact absurd hafter (hnot key model hkey)
  case keys_of_attribute =>
    intro a hattr hlists
    rcases hkeys with ⟨a', hattr', -, hf, hr⟩ | ⟨hnone, -⟩
    · obtain rfl := Option.some.inj (hattr.symm.trans hattr')
      rcases (hs a hattr).lists with ⟨hnil, -⟩ | ⟨hfields, hreferences⟩
      · exact absurd (hf.trans hnil) hne.1
      · exact ⟨hf, hr, hf ▸ hfields, hr ▸ hreferences⟩
    · rw [hnone a hattr] at hlists
      cases hlists
  case keys_by_convention =>
    intro hnone
    rcases hkeys with ⟨a, hattr, hlists, -⟩ | ⟨-, hconvention⟩
    · rw [hnone a hattr] at hlists
      cases hlists
    · exact hconvention

/-! ## Fields -/

theorem exists_wellFormed_of_classify {line : List Char} {f : Field}
    (hf : (classify line index settings).field? = some f) (hr : f.relation = some r) :
    ∃ shape attr, FieldShape.read? (trim line) = some shape ∧
      f.type = String.ofList shape.type ∧ RelationAttribute.parse shape.tail = .ok attr ∧
        r.WellFormed f.name f.type (shape.modifier = .list) attr index settings := by
  obtain ⟨shape, hread, -, rfl⟩ := exists_shape_of_classify hf
  have hrelation : shape.relation? index settings = some r := hr
  rw [FieldShape.relation?] at hrelation
  split at hrelation
  · next attr hattr =>
    refine ⟨shape, attr, hread, rfl, hattr, wellFormed_of_relate ?_ hrelation⟩
    rintro a rfl
    exact sound_of_parse hattr
  · cases hrelation

/-- The relation of a field that a line gives is well formed, by the parts of the line and the
relation attribute among them; and whatever an attribute says, it lists keys on both sides or on
none. -/
theorem relation_wellFormed :
    (∀ (line : List Char) (index : Index) (settings : Settings) (f : Field) (r : Relation),
        (classify line index settings).field? = some f → f.relation = some r →
          ∃ shape attr, FieldShape.read? (trim line) = some shape ∧
            f.type = String.ofList shape.type ∧ RelationAttribute.parse shape.tail = .ok attr ∧
              r.WellFormed f.name f.type (shape.modifier = .list) attr index settings) ∧
      ∀ (tail : List Char) (a : RelationAttribute),
        RelationAttribute.parse tail = .ok (some a) → (a.fields = [] ↔ a.references = []) := by
  constructor
  · intro line index settings f r hf hr
    exact exists_wellFormed_of_classify hf hr
  · intro tail a h
    exact (sound_of_parse h).fields_eq_nil_iff

/-- A field with an attribute that gives a list twice and has an argument of no meaning. -/
def authorLine : List Char :=
  "author User? @relation(fields: [a, b], map: \"x\", references: [id], fields: [ authorId ])".toList

/-- The keys of `authorLine` are those of the last list, and an attribute without lists is read. -/
theorem relation_wellFormed_author :
    (∃ f r, (classify authorLine {} {}).field? = some f ∧ f.relation = some r ∧
        r.fields = ["authorId"] ∧ AreKeys r.fields ∧ AreKeys r.references ∧
          (r.cardinality = .manyToMany ↔ 1 < r.fields.length ∨ 1 < r.references.length)) ∧
      RelationAttribute.parse "@id @relation(\"T\")".toList = .ok (some ⟨some "T", [], []⟩) ∧
        ((⟨some "T", [], []⟩ : RelationAttribute).fields = [] ↔
          (⟨some "T", [], []⟩ : RelationAttribute).references = []) := by
  have ⟨hrelation, hlists⟩ := relation_wellFormed
  constructor
  · have hauthor : (classify authorLine {} {}).field?.bind Field.relation =
        some { cardinality := .oneToOne, model := "Author", fields := ["authorId"],
               references := ["id"] } := by decide +kernel
    obtain ⟨f, hf, hr⟩ := Option.bind_eq_some_iff.1 hauthor
    obtain ⟨shape, attr, -, -, -, hwf⟩ := hrelation _ _ _ f _ hf hr
    refine ⟨f, _, hf, hr, rfl, ?_⟩
    by_cases hkeys : ∀ a, attr = some a → a.hasKeys = false
    · exact absurd (hwf.keys_by_convention hkeys).1 List.not_mem_nil
    · simp only [Classical.not_forall, Bool.not_eq_false] at hkeys
      obtain ⟨a, ha, hlist⟩ := hkeys
      obtain ⟨-, -, hfields, hreferences⟩ := hwf.keys_of_attribute a ha hlist
      exact ⟨hfields, hreferences, hwf.manyToMany_iff⟩
  · have hparse : RelationAttribute.parse "@id @relation(\"T\")".toList =
        .ok (some ⟨some "T", [], []⟩) := by rfl
    exact ⟨hparse, hlists _ _ hparse⟩

end FeatureGen.Schema

import FeatureGen.Proofs.Feature.Naming
import FeatureGen.Proofs.Schema.Agreement
import FeatureGen.Proofs.Schema.Consistency
import FeatureGen.Proofs.Schema.Relation

/-!
# The text of a related model

The model that a relation leads to is the type of the field, the name of the relation, or the stem
of its first key with a capital.  Each of them is written on the line of the field: what an
attribute gives is made of the characters of its arguments (`Arguments.Within.addAll`), these of the
characters of the tail (`within_of_parse`), and a tail has no line feed.  So the model has none
(`not_mem_model_of_classify`), and stands on one line wherever it is written.
-/

namespace FeatureGen.Schema

open FeatureGen.Text

variable {args args' : Arguments} {first : Bool} {argument piece s t tail : List Char}
  {a : RelationAttribute} {field type : String} {isList : Bool} {attr : Option RelationAttribute}
  {index : Index} {settings : Settings} {r : Relation}

/-! ## Arguments -/

/-- The name and the keys that have been given are made of the characters of a text. -/
structure Arguments.Within (s : List Char) (args : Arguments) : Prop where
  name : args.name ⊆ s
  fields : ∀ keys ∈ args.fields, ∀ k ∈ keys, k.toList ⊆ s

theorem Arguments.within_nil (s : List Char) : Arguments.Within s {} where
  name := List.nil_subset s
  fields := fun _ h => by cases h

theorem Arguments.Within.add (hw : args.Within s) (hs : argument ⊆ s)
    (h : args.add first argument = .ok args') : args'.Within s := by
  rcases Arguments.add_cases h with
    rfl | ⟨name, hname, rfl⟩ | ⟨keys, -, hkeys, rfl | rfl⟩
  · exact hw
  · exact ⟨List.Subset.trans hname hs, hw.fields⟩
  · refine ⟨hw.name, fun _ hmem k hk => ?_⟩
    obtain rfl := Option.some.inj hmem
    exact List.Subset.trans (hkeys k hk) hs
  · exact ⟨hw.name, hw.fields⟩

theorem Arguments.Within.addAll {arguments : List (List Char)} (hw : args.Within s)
    (hs : ∀ argument ∈ arguments, argument ⊆ s) (h : args.addAll first arguments = .ok args') :
    args'.Within s := by
  induction arguments generalizing args first with
  | nil =>
    cases h
    exact hw
  | cons argument arguments ih =>
    rw [Arguments.addAll] at h
    split at h
    · next hadd =>
      exact ih (hw.add (hs argument List.mem_cons_self) hadd)
        (fun b hb => hs b (List.mem_cons_of_mem argument hb)) h
    · cases h

/-! ## Attributes -/

theorem trim_reverse_subset (h : piece ⊆ s) : trim piece.reverse ⊆ s :=
  fun _ hc => h (List.mem_reverse.1 (mem_of_mem_trim hc))

/-- An argument is made of what has been read of it and of the text that is left. -/
theorem subset_of_mem_splitArgumentsFrom {depth : Int} {inString : Bool}
    (h : argument ∈ splitArgumentsFrom depth inString piece t) (hpiece : piece ⊆ s) (ht : t ⊆ s) :
    argument ⊆ s := by
  induction t generalizing depth inString piece with
  | nil => exact List.mem_singleton.1 h ▸ trim_reverse_subset hpiece
  | cons c t ih =>
    obtain ⟨hc, ht⟩ := List.cons_subset.1 ht
    rcases splitArgumentsFrom_step depth inString c piece with ⟨-, -, -, hends⟩ | ⟨-, hgoes⟩
    · rw [hends] at h
      rcases List.mem_cons.1 h with rfl | h
      · exact trim_reverse_subset hpiece
      · exact ih h (List.nil_subset s) ht
    · rw [hgoes] at h
      exact ih h (List.cons_subset.2 ⟨hc, hpiece⟩) ht

theorem subset_of_mem_splitArguments (h : argument ∈ splitArguments s) : argument ⊆ s :=
  subset_of_mem_splitArgumentsFrom (List.mem_filter.1 h).1 (List.nil_subset s) (List.Subset.refl s)

/-- The name and the keys of an attribute are made of the characters of a text. -/
structure RelationAttribute.Within (s : List Char) (a : RelationAttribute) : Prop where
  name : ∀ name ∈ a.name, name.toList ⊆ s
  fields : ∀ k ∈ a.fields, k.toList ⊆ s

theorem RelationAttribute.within_nil (s : List Char) : RelationAttribute.Within s {} where
  name := fun _ h => by cases h
  fields := fun _ h => by cases h

theorem within_of_toAttribute (hw : args.Within s) (h : args.toAttribute = .ok a) : a.Within s := by
  rw [Arguments.toAttribute] at h
  split at h
  · cases h
    constructor
    · intro name hname
      dsimp only at hname
      split at hname
      · cases hname
      · obtain rfl := Option.some.inj hname
        rw [String.toList_ofList]
        exact hw.name
    · intro k hk
      cases hfields : args.fields with
      | none =>
        simp only [hfields, Option.getD_none] at hk
        cases hk
      | some keys =>
        simp only [hfields, Option.getD_some] at hk
        exact hw.fields keys hfields k hk
  · cases h

/-- What an attribute says is written in the tail. -/
theorem within_of_parse (h : RelationAttribute.parse tail = .ok (some a)) : a.Within tail := by
  cases hargs : relationArguments? tail with
  | some arguments =>
    obtain ⟨lead, rest, rfl, -⟩ := exists_of_relationArguments? hargs
    rw [parse_eq_of_relationArguments? hargs] at h
    cases hadd : Arguments.addAll {} true (splitArguments arguments) with
    | error fault =>
      rw [hadd] at h
      cases h
    | ok given =>
      rw [hadd] at h
      obtain ⟨a', ha, he⟩ := exists_of_map_eq_ok h
      obtain rfl := Option.some.inj he
      refine within_of_toAttribute ((Arguments.within_nil _).addAll ?_ hadd) ha
      intro argument hargument c hc
      have hmem := subset_of_mem_splitArguments hargument hc
      simp [hmem]
  | none =>
    -- Without arguments that close an attribute is empty or it cannot be read.
    rw [relationArguments?] at hargs
    rw [RelationAttribute.parse] at h
    split at h
    · cases h
    · next rest hsearch =>
      rw [hsearch] at hargs
      split at h
      · next hhead =>
        simp only [hhead, if_true, Option.map_eq_none_iff] at hargs
        rw [hargs] at h
        cases h
      · cases h
        exact RelationAttribute.within_nil tail

/-! ## Relations -/

/-- A character that is not plain is in a model only if it is in the type or in the attribute. -/
theorem mem_of_mem_target? {suffix model : String} {c : Char} (hw : a.Within s)
    (h : target? type a index suffix = some model) (hplain : Text.isPlain c = false)
    (hc : c ∈ model.toList) : c ∈ type.toList ∨ c ∈ s := by
  rw [target?] at h
  split at h
  · cases h
    exact Or.inl hc
  split at h
  · next name hname =>
    cases h
    exact Or.inr (hw.name _ (Option.filter_eq_some_iff.1 hname).1 hc)
  · obtain ⟨key, hkey, hmodel⟩ := Option.bind_eq_some_iff.1 h
    obtain ⟨-, stem, -, hstem, rfl⟩ := map_modelOfKey?_eq_some_iff.1 hmodel
    rw [String.toList_ofList] at hc
    rcases Feature.isPlain_or_mem_of_mem_upperFirst hc with hmark | hmem
    · rw [hplain] at hmark
      cases hmark
    · refine Or.inr (hw.fields key (List.mem_of_mem_head? hkey) ?_)
      rw [hstem]
      exact List.mem_append_left _ hmem

theorem mem_of_mem_model {c : Char} (hw : ∀ a, attr = some a → a.Within s)
    (h : relate field type isList attr index settings = some r) (hplain : Text.isPlain c = false)
    (hc : c ∈ r.model.toList) : c ∈ type.toList ∨ c ∈ s := by
  obtain ⟨-, hname, hmodel⟩ := relate_eq h
  rw [hmodel] at hc
  rcases relate_keys h with ⟨a, rfl, -, hfields, -⟩ | ⟨-, htype, -⟩
  · have hgiven : RelationAttribute.Within s
        { name := r.name, fields := r.fields, references := r.references } := by
      rw [hname, hfields]
      exact ⟨(hw a rfl).name, (hw a rfl).fields⟩
    cases htarget : target? type { name := r.name, fields := r.fields, references := r.references }
        index settings.foreignKeySuffix with
    | none =>
      rw [htarget] at hc
      cases hc
    | some model =>
      rw [htarget, Option.getD_some] at hc
      exact mem_of_mem_target? hgiven htarget hplain hc
  · rw [target?_of_mem htype] at hc
    exact Or.inl hc

/-! ## Lines -/

theorem not_mem_of_readTail? (h : readTail? s = some tail) : '\n' ∉ tail := by
  simp only [readTail?] at h
  split at h
  · cases h
    exact List.not_mem_nil
  split at h
  · next hline =>
    cases h
    rw [Bool.and_eq_true] at hline
    simpa using hline.2
  · cases h

/-- The attributes of a declaration stand on one line. -/
theorem not_mem_tail_of_read? {shape : FieldShape} (h : FieldShape.read? s = some shape) :
    '\n' ∉ shape.tail := by
  simp only [FieldShape.read?, Option.bind_eq_bind, Option.bind_eq_some_iff] at h
  obtain ⟨⟨name, s₁⟩, -, s₂, -, ⟨type, s₃⟩, -, tail, htail, he⟩ := h
  cases he
  exact not_mem_of_readTail? htail

/-- The model that a relation leads to stands on one line. -/
theorem not_mem_model_of_classify {line : List Char} {f : Field}
    (h : (classify line index settings).field? = some f) (hr : f.relation = some r) :
    '\n' ∉ r.model.toList := by
  obtain ⟨shape, hread, -, rfl⟩ := exists_shape_of_classify h
  have hrelation : shape.relation? index settings = some r := hr
  rw [FieldShape.relation?] at hrelation
  split at hrelation
  · next attr hattr =>
    intro hmem
    have hw : ∀ a, attr = some a → a.Within shape.tail := by
      rintro a rfl
      exact within_of_parse hattr
    rcases mem_of_mem_model hw hrelation (by decide) hmem with htype | htail
    · rw [String.toList_ofList] at htype
      exact (isWordText_of_read? hread).2.not_mem (by decide) htype
    · exact not_mem_tail_of_read? hread htail
  · cases hrelation

end FeatureGen.Schema

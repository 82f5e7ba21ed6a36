import FeatureGen.Feature.Basic
import FeatureGen.Proofs.Text.Lower

/-!
# The characters of derived names

The names in generated code are made from the name of a feature: the words between its separators
are joined and some letters change their case.  A change of case can bring in several characters and
characters outside ASCII, but none with a meaning in code.  So, whatever the name of the feature is,
no blank of ASCII occurs in the name of its type (`not_mem_model`), and if it is spelled with word
characters and hyphens, all derived names are plain (`every_isPlain_model`).
-/

namespace FeatureGen.Feature

open FeatureGen.Text

variable {c d : Char} {s word : List Char} {f : Feature}

/-! ## Words between separators -/

/-- The characters of a word stand in the text and separate nothing. -/
theorem mem_of_mem_wordsFrom {isSep : Char → Bool} {start : List Char}
    (hword : word ∈ wordsFrom isSep start s) (hd : d ∈ word) :
    d ∈ start ∨ (d ∈ s ∧ isSep d = false) := by
  induction s generalizing start with
  | nil =>
    rw [wordsFrom] at hword
    split at hword
    · cases hword
    · rw [List.mem_singleton.1 hword] at hd
      exact Or.inl (List.mem_reverse.1 hd)
  | cons c s ih =>
    have hrest : d ∈ s ∧ isSep d = false → d ∈ c :: s ∧ isSep d = false :=
      fun h => ⟨List.mem_cons_of_mem c h.1, h.2⟩
    rw [wordsFrom] at hword
    split at hword
    · split at hword
      · cases ih hword with
        | inl hnil => cases hnil
        | inr hmem => exact Or.inr (hrest hmem)
      · cases List.mem_cons.1 hword with
        | inl hfirst =>
          rw [hfirst] at hd
          exact Or.inl (List.mem_reverse.1 hd)
        | inr hword =>
          cases ih hword with
          | inl hnil => cases hnil
          | inr hmem => exact Or.inr (hrest hmem)
    · next hsep =>
      cases ih hword with
      | inl hstart =>
        cases List.mem_cons.1 hstart with
        | inl heq =>
          subst heq
          exact Or.inr ⟨List.mem_cons_self, by simpa using hsep⟩
        | inr hstart => exact Or.inl hstart
      | inr hmem => exact Or.inr (hrest hmem)

theorem isPlain_or_mem_of_mem_upperFirst (h : d ∈ upperFirst s) : isPlain d = true ∨ d ∈ s := by
  cases s with
  | nil => cases h
  | cons c s =>
    rcases List.mem_append.1 h with h | h
    · rcases isPlain_or_eq_of_mem_upperChar h with hplain | rfl
      · exact Or.inl hplain
      · exact Or.inr List.mem_cons_self
    · exact Or.inr (List.mem_cons_of_mem c h)

theorem isPlain_or_mem_of_mem_lowerFirst (h : d ∈ lowerFirst s) : isPlain d = true ∨ d ∈ s := by
  cases s with
  | nil => cases h
  | cons c s =>
    rcases List.mem_append.1 h with h | h
    · rcases isPlain_or_mem_of_mem_lowerFrom h with hplain | hmem
      · exact Or.inl hplain
      · exact Or.inr (List.mem_singleton.1 hmem ▸ List.mem_cons_self)
    · exact Or.inr (List.mem_cons_of_mem c h)

/-- What is in joined words is plain, or stood in the text and separates nothing. -/
theorem isPlain_or_mem_of_mem_pascalChars (h : d ∈ pascalChars s) :
    isPlain d = true ∨ (d ∈ s ∧ isSeparator d = false) := by
  obtain ⟨word, hword, hd⟩ := List.mem_flatMap.1 h
  rcases isPlain_or_mem_of_mem_upperFirst hd with hplain | hmem
  · exact Or.inl hplain
  · rcases mem_of_mem_wordsFrom hword hmem with hnil | hmem
    · cases hnil
    · exact Or.inr hmem

theorem mem_of_mem_squeeze {test : Char → Bool} {mark : Char} {inRun : Bool}
    (h : d ∈ squeeze test mark inRun s) : d = mark ∨ d ∈ s := by
  induction s generalizing inRun with
  | nil => cases h
  | cons c s ih =>
    have hrest : d = mark ∨ d ∈ s → d = mark ∨ d ∈ c :: s := fun h =>
      h.imp_right (List.mem_cons_of_mem c)
    rw [squeeze] at h
    split at h
    · split at h
      · exact hrest (ih h)
      · rcases List.mem_cons.1 h with rfl | h
        · exact Or.inl rfl
        · exact hrest (ih h)
    · rcases List.mem_cons.1 h with rfl | h
      · exact Or.inr List.mem_cons_self
      · exact hrest (ih h)

theorem mem_of_mem_markCapitals {mark : Char} (h : d ∈ markCapitals mark s) :
    d = mark ∨ d ∈ s := by
  induction s with
  | nil => cases h
  | cons c s ih =>
    have hrest : d = mark ∨ d ∈ s → d = mark ∨ d ∈ c :: s := fun h =>
      h.imp_right (List.mem_cons_of_mem c)
    rw [markCapitals] at h
    split at h
    · rcases List.mem_cons.1 h with rfl | h
      · exact Or.inr List.mem_cons_self
      · rcases List.mem_cons.1 h with rfl | h
        · exact Or.inl rfl
        · exact hrest (ih h)
    · rcases List.mem_cons.1 h with rfl | h
      · exact Or.inr List.mem_cons_self
      · exact hrest (ih h)

theorem isPlain_or_eq_or_mem_of_mem_kebabCase {name : String} (h : d ∈ (kebabCase name).toList) :
    isPlain d = true ∨ d = '-' ∨ d ∈ name.toList := by
  rw [kebabCase, String.toList_ofList] at h
  rcases isPlain_or_mem_of_mem_lowerFrom h with hplain | h
  · exact Or.inl hplain
  · rcases mem_of_mem_squeeze h with hmark | h
    · exact Or.inr (Or.inl hmark)
    · exact Or.inr (mem_of_mem_markCapitals h)

/-- The type in generated code is one of a few, or as the schema has it. -/
theorem not_mem_typeName {type : String} (h : '\n' ∉ type.toList) (isRelation : Bool) :
    '\n' ∉ (typeName type isRelation).toList := by
  have hrenamed : ∀ p ∈ renamedTypes, '\n' ∉ p.2.toList := by decide
  have hbasic : ∀ n ∈ basicTypes, '\n' ∉ n.toList := by decide
  rw [typeName]
  split
  · decide
  split
  · exact h
  split
  · next name hname =>
    obtain ⟨l₁, l₂, htable, -⟩ := List.lookup_eq_some_iff.1 hname
    refine hrenamed (lowercase type, name) ?_
    rw [htable]
    exact List.mem_append_right l₁ List.mem_cons_self
  · split
    · next hname => exact hbasic _ (List.contains_iff_mem.1 hname)
    · exact h

/-! ## Names of any feature -/

/-- A separator that is not plain does not occur in the name of the type. -/
theorem not_mem_model (f : Feature) (hplain : isPlain d = false) (hsep : isSeparator d = true) :
    d ∉ f.model.toList := by
  intro hd
  rw [model, pascalCase, String.toList_ofList] at hd
  rcases isPlain_or_mem_of_mem_pascalChars hd with h | ⟨-, h⟩
  · rw [hplain] at h
    cases h
  · rw [hsep] at h
    cases h

theorem not_mem_schemaConstant (f : Feature) (hplain : isPlain d = false)
    (hsep : isSeparator d = true) (hend : d ∉ "Schema".toList) : d ∉ f.schemaConstant.toList := by
  intro hd
  rw [schemaConstant, smallFirst, String.toList_append, String.toList_ofList] at hd
  rcases List.mem_append.1 hd with hd | hd
  · rcases isPlain_or_mem_of_mem_lowerFirst hd with h | h
    · rw [hplain] at h
      cases h
    · exact not_mem_model f hplain hsep h
  · exact hend hd

/-! ## Names of features that are spelled with words and hyphens -/

/-- Word characters and hyphens. -/
def isSpelling (c : Char) : Bool := isWord c || c == '-'

theorem isPlain_of_isWord (h : isWord c = true) : isPlain c = true := by
  rw [isPlain, h, Bool.true_or]

theorem every_isPlain_append {t : List Char} (hs : Every isPlain s) (ht : Every isPlain t) :
    Every isPlain (s ++ t) :=
  fun c hc => (List.mem_append.1 hc).elim (hs c) (ht c)

section Spelling

variable (hname : Every isSpelling f.name.toList)

include hname

theorem every_isPlain_model : Every isPlain f.model.toList := by
  intro d hd
  rw [model, pascalCase, String.toList_ofList] at hd
  rcases isPlain_or_mem_of_mem_pascalChars hd with hplain | ⟨hmem, hsep⟩
  · exact hplain
  · have hspelling := hname d hmem
    rw [isSpelling, Bool.or_eq_true, beq_iff_eq] at hspelling
    rcases hspelling with hword | rfl
    · exact isPlain_of_isWord hword
    · cases hsep

theorem every_isPlain_entity : Every isPlain f.entity.toList := by
  intro d hd
  rw [entity, camelCase, smallFirst, String.toList_ofList] at hd
  rcases isPlain_or_mem_of_mem_lowerFirst hd with hplain | hmem
  · exact hplain
  · exact every_isPlain_model hname d hmem

theorem isPlain_or_eq_of_mem_stem {d : Char} (hd : d ∈ f.stem.toList) :
    isPlain d = true ∨ d = '-' := by
  rw [stem, lowercase, String.toList_ofList] at hd
  rcases isPlain_or_mem_of_mem_lowerFrom hd with hplain | hmem
  · exact Or.inl hplain
  · have hspelling := hname d hmem
    rw [isSpelling, Bool.or_eq_true, beq_iff_eq] at hspelling
    exact hspelling.imp_left isPlain_of_isWord

/-- A character that is neither plain nor a hyphen is not in the name of the files. -/
theorem not_mem_stem (hplain : isPlain d = false) (hhyphen : d ≠ '-') : d ∉ f.stem.toList := by
  intro hd
  rcases isPlain_or_eq_of_mem_stem hname hd with h | h
  · rw [hplain] at h
    cases h
  · exact hhyphen h

end Spelling

end FeatureGen.Feature

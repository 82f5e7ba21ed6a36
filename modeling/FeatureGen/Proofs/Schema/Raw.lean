import FeatureGen.Proofs.Schema.Declaration

/-!
# Declarations with any attributes

A `RawDeclaration` is a name, a type, a mark and, from a sign on, any text on one line.  Its parts
are read off its text (`RawDeclaration.read?_text`), and it becomes a field unless its name is
reserved (`RawDeclaration.classify_text`), so that what is left to say of the field is what the
searches for tags find in the attributes.
-/

namespace FeatureGen.Schema

open FeatureGen.Text

variable {s : List Char}

theorem hasTag_trimStart_iff {tag : String} : HasTag tag (trimStart s) ↔ HasTag tag s := by
  rw [← isSome_search?_afterTag?_iff none, search?_trimStart,
    isSome_search?_afterTag?_iff]

/-- Nothing before a sign is cut from the end. -/
theorem trimEnd_append_sign (w r : List Char) : trimEnd (w ++ '@' :: r) = w ++ '@' :: trimEnd r := by
  have hend : NotEnding isBlank (w ++ ['@']) :=
    notEnding_append (notEnding_of_without (by decide)) fun he => by cases he
  have hsplit := trimEnd_append_of_notEnding hend r
  simpa using hsplit

theorem trim_append_sign {w : List Char} (hw : Every isBlank w) (r : List Char) :
    trim (w ++ '@' :: r) = '@' :: trimEnd r := by
  rw [trim, trimStart_append hw (notStarting_cons.2 (by decide))]
  exact trimEnd_append_sign [] r

/-- A declaration whose attributes are any text on one line. -/
structure RawDeclaration where
  /-- The name. -/
  name : List Char
  /-- The type. -/
  type : List Char
  /-- The mark after the type. -/
  modifier : Modifier := .single
  /-- The attributes, with the blanks around them. -/
  tail : List Char
  /-- The blanks between the name and the type. -/
  gap : NonemptyRun isBlank := oneSpace
  isWordText_name : IsWordText name := by decide
  isWordText_type : IsWordText type := by decide
  head?_tail : (trim tail).head? = some '@' := by decide
  feed_not_mem_tail : '\n' ∉ trim tail := by decide

namespace RawDeclaration

variable (d : RawDeclaration)

/-- The text up to the mark after the type. -/
def head : List Char := d.name ++ (d.gap.chars ++ (d.type ++ d.modifier.text))

/-- The text of a declaration. -/
def text : List Char := d.head ++ d.tail

/-- The shape of a declaration. -/
def shape : FieldShape where
  name := d.name
  type := d.type
  modifier := d.modifier
  tail := trim d.tail

/-- The attributes are blanks, a sign and more; trimming cuts these blanks and the end. -/
theorem exists_tail_eq : ∃ w r, Every isBlank w ∧ d.tail = w ++ '@' :: r ∧
    trimEnd d.tail = w ++ '@' :: trimEnd r ∧ trim d.tail = '@' :: trimEnd r := by
  obtain ⟨w, hw, hblank⟩ := exists_append_trimStart d.tail
  obtain ⟨v, hv, -⟩ := trimEnd_append_blanks (trimStart d.tail)
  obtain ⟨t, ht⟩ := List.head?_eq_some_iff.1 d.head?_tail
  have hstart : trimStart d.tail = '@' :: (t ++ v) := by
    rw [trim] at ht
    rw [← hv, ht, List.cons_append]
  rw [hstart] at hw
  exact ⟨w, t ++ v, hblank, hw, by rw [hw, trimEnd_append_sign], by rw [hw, trim_append_sign hblank]⟩

theorem notEnding_head : NotEnding isBlank d.head := by
  have hparts : d.head = d.name ++ d.gap.chars ++ (d.type ++ d.modifier.text) := by simp [head]
  rw [hparts]
  apply notEnding_append (d.modifier.notEnding_append_text d.isWordText_type)
  intro he
  exact absurd (List.append_eq_nil_iff.1 he).1 d.isWordText_type.1

/-- Only the end of the attributes is trimmed. -/
theorem trim_text : trim d.text = d.head ++ trimEnd d.tail := by
  have hstart : trimStart d.text = d.text := by
    rw [text, head, List.append_assoc]
    exact trimStart_of_notStarting (d.isWordText_name.notStarting_isBlank _)
  rw [trim, hstart, text, trimEnd_append_of_notEnding d.notEnding_head]

/-- The shape is read off the text. -/
theorem read?_text : FieldShape.read? (trim d.text) = some d.shape := by
  obtain ⟨w, r, hblank, -, hend, htrim⟩ := d.exists_tail_eq
  have hstart : trimStart (w ++ '@' :: trimEnd r) = '@' :: trimEnd r :=
    trimStart_append hblank (notStarting_cons.2 (by decide))
  have hfeed : ('@' :: trimEnd r).contains '\n' = false := by
    rw [← htrim, List.contains_eq_mem, decide_eq_false_iff_not]
    exact d.feed_not_mem_tail
  have htail : readTail? (trimEnd d.tail) = some (trim d.tail) := by
    rw [hend, htrim, readTail?, if_neg (by simp)]
    simp only [hstart, hfeed]
    rfl
  have hended : Ended (trimEnd d.tail) := by
    rw [hend]
    exact ended_append_sign hblank _
  rw [trim_text]
  simp only [head, List.append_assoc]
  exact FieldShape.read?_append d.isWordText_name d.gap.ne_nil d.gap.every d.isWordText_type
    d.modifier hended htail

/-- Whatever the attributes are, a declaration becomes a field unless its name is reserved. -/
theorem classify_text (index : Index) (settings : Settings) :
    classify d.text index settings =
      if settings.reserved.contains (String.ofList d.name) then .reserved (String.ofList d.name)
      else .field (d.shape.toField (d.shape.relation? index settings) index) := by
  rw [classify, d.read?_text]
  rfl

theorem isSome_classify_text (index : Index) (settings : Settings) :
    (classify d.text index settings).field?.isSome = true ↔
      String.ofList d.name ∉ settings.reserved := by
  rw [classify_text]
  split
  · next h => simpa [Verdict.field?] using h
  · next h => simpa [Verdict.field?] using h

/-- The field that a declaration becomes. -/
theorem field?_classify_text {index : Index} {settings : Settings} {f : Field}
    (h : (classify d.text index settings).field? = some f) :
    String.ofList d.name ∉ settings.reserved ∧
      f = d.shape.toField (d.shape.relation? index settings) index := by
  obtain ⟨shape, hread, hreserved, rfl⟩ := exists_shape_of_classify h
  obtain rfl : d.shape = shape := Option.some.inj (d.read?_text.symm.trans hread)
  exact ⟨hreserved, rfl⟩

/-- A default is found if the attributes have its tag. -/
theorem hasDefault_shape : d.shape.hasDefault = true ↔ HasTag "default" d.tail := by
  rw [FieldShape.hasDefault, isSome_search?_afterTag?_iff, shape, trim,
    hasTag_trimEnd_iff (by decide), hasTag_trimStart_iff]

/-- The blanks before the attributes do not matter to the relation attribute. -/
theorem parse_shape :
    RelationAttribute.parse d.shape.tail = RelationAttribute.parse (trimEnd d.tail) := by
  obtain ⟨w, r, hblank, -, hend, htrim⟩ := d.exists_tail_eq
  have hstart : trimStart (trimEnd d.tail) = d.shape.tail := by
    rw [shape, htrim, hend]
    exact trimStart_append hblank (notStarting_cons.2 (by decide))
  rw [← hstart, RelationAttribute.parse, search?_trimStart]
  rfl

end RawDeclaration

end FeatureGen.Schema

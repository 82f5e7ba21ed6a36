import FeatureGen.Proofs.Schema.Attribute
import FeatureGen.Proofs.Text.Lines
import FeatureGen.Schema.FieldLine

/-!
# Printed declarations

A `Declaration` is printed as `name Type`, a mark `?` or `[]` if there is one, and attributes.  It
is taken whole from the start of a line (`Declaration.declaration?_text`), and classifying it gives
the field that it stands for (`Declaration.classify_text`).

The field is made of the parts of the declaration (`Declaration.toField`): the mark and the
attributes named `default` and `relation` decide the marks of the field, and of several attributes
with such a name the first counts.
-/

namespace FeatureGen.Schema

open FeatureGen.Text

variable {s rest line : List Char}

/-- A mark after a type, as it is printed. -/
def Modifier.text : Modifier → List Char
  | .single => []
  | .optional => ['?']
  | .list => ['[', ']']

/-- A declaration of a field. -/
structure Declaration where
  /-- The name. -/
  name : List Char
  /-- The type. -/
  type : List Char
  /-- The mark after the type. -/
  modifier : Modifier := .single
  /-- The attributes. -/
  attributes : List Attribute := []
  /-- The blanks between the name and the type. -/
  gap : NonemptyRun isGap := oneGap
  isWordText_name : IsWordText name := by decide
  isWordText_type : IsWordText type := by decide

namespace Declaration

variable (d : Declaration)

/-- The text up to the mark after the type. -/
def head : List Char := d.name ++ d.gap.chars ++ d.type ++ d.modifier.text

/-- The text of a declaration. -/
def text : List Char := d.head ++ attributesText d.attributes

/-! ## The field of a declaration -/

/-- The first attribute with a name. -/
def attribute? (name : String) : Option Attribute :=
  d.attributes.find? fun a => a.name = name.toList

/-- Whether a default value is among the attributes. -/
def hasDefault : Bool := (d.attribute? "default").isSome

/-- What the first relation attribute says. -/
def relationAttribute : Except RelationFault (Option RelationAttribute) :=
  match d.attribute? "relation" with
  | none => .ok none
  | some a =>
    match a.args with
    | none => .ok (some {})
    | some s =>
      match Arguments.addAll {} true (splitArguments s) with
      | .ok args => args.toAttribute.map some
      | .error fault => .error fault

/-- The relation of the field; an attribute that cannot be read leaves it none. -/
def relation? (index : Index) (settings : Settings) : Option Relation :=
  match d.relationAttribute with
  | .ok attr =>
    relate (String.ofList d.name) (String.ofList d.type) (d.modifier = .list) attr index settings
  | .error _ => none

/-- Whether the field holds a list. -/
def isList (index : Index) (settings : Settings) : Bool :=
  d.modifier = .list || (d.relation? index settings).any (·.cardinality.isMany)

/-- Whether the field may be absent. -/
def isOptional : Bool := d.modifier = .optional || d.hasDefault

/-- The field that the declaration stands for. -/
def toField (index : Index) (settings : Settings) : Field where
  name := String.ofList d.name
  type := String.ofList d.type
  validator :=
    (Expression.ofType (String.ofList d.type) d.isOptional (d.isList index settings) index).render
  description := String.ofList d.name ++ " field"
  isOptional := d.isOptional
  isList := d.isList index settings
  hasDefault := d.hasDefault
  isEnum := index.isEnum (String.ofList d.type)
  enumValues := index.enumValues (String.ofList d.type)
  isRelation := (d.relation? index settings).isSome
  relation := d.relation? index settings

end Declaration

/-! ## The shape of a declaration -/

/-- A mark is read off the text after a type, and so is that there is none. -/
theorem readModifier_text (m : Modifier) (h : Ended s) : readModifier (m.text ++ s) = (m, s) := by
  cases m with
  | optional => rfl
  | list => rfl
  | single =>
    rw [Modifier.text, List.nil_append, readModifier.eq_def]
    split
    · exact absurd (notStarting_cons.1 h) (by decide)
    · exact absurd (notStarting_cons.1 h) (by decide)
    · rfl

/-- The scan for a mark takes the one that is read. -/
theorem spanModifier_eq (s : List Char) :
    spanModifier s = ((readModifier s).1.text, (readModifier s).2) := by
  fun_cases readModifier s with
  | case1 => rfl
  | case2 => rfl
  | case3 _ hoptional hlist => rw [spanModifier.eq_3 s hoptional hlist]; rfl

/-- A mark or what follows it ends a type. -/
theorem Modifier.notStarting_isWord (m : Modifier) (h : Ended s) :
    NotStarting isWord (m.text ++ s) := by
  cases m with
  | optional => exact notStarting_cons.2 (by decide)
  | list => exact notStarting_cons.2 (by decide)
  | single => exact h.notStarting (fun c hc => isWord_eq_false_of_isBlank hc) (by decide)

/-- Text that starts with a blank, or an attribute, ends a declaration. -/
theorem ended_of_notStarting (h : NotStarting (fun c => !isBlank c) rest) : Ended rest :=
  h.mono fun c hc => by
    rw [Bool.not_eq_false'] at hc
    simp [hc]

namespace Declaration

variable (d : Declaration)

theorem isBlank_gap : Every isBlank d.gap.chars := fun c hc => isBlank_of_isGap (d.gap.every c hc)

theorem spanSome?_name (s : List Char) :
    spanSome? isWord (d.name ++ (d.gap.chars ++ (d.type ++ s))) =
      some (d.name, d.gap.chars ++ (d.type ++ s)) := by
  apply spanSome?_append d.isWordText_name.1 d.isWordText_name.2
  exact notStarting_append (fun c hc => isWord_eq_false_of_isBlank (d.isBlank_gap c hc)) fun he =>
    absurd he d.gap.ne_nil

/-- The start of a declaration is taken up to its attributes. -/
theorem declarationHead?_head (h : Ended s) :
    declarationHead? (d.head ++ s) = some (d.head, s) := by
  have hgap : spanSome? isGap (d.gap.chars ++ (d.type ++ (d.modifier.text ++ s))) =
      some (d.gap.chars, d.type ++ (d.modifier.text ++ s)) := by
    apply spanSome?_append d.gap.ne_nil d.gap.every
    exact notStarting_append (fun c hc => isGap_eq_false_of_isWord (d.isWordText_type.2 c hc))
      fun he => absurd he d.isWordText_type.1
  have htype : spanSome? isWord (d.type ++ (d.modifier.text ++ s)) =
      some (d.type, d.modifier.text ++ s) :=
    spanSome?_append d.isWordText_type.1 d.isWordText_type.2 (d.modifier.notStarting_isWord h)
  have htext : d.head ++ s = d.name ++ (d.gap.chars ++ (d.type ++ (d.modifier.text ++ s))) := by
    simp [head]
  rw [htext, declarationHead?, d.spanSome?_name]
  simp only [Option.bind_eq_bind, Option.bind_some, hgap, htype, spanModifier_eq,
    readModifier_text d.modifier h]
  rfl

/-- A printed declaration is taken whole. -/
theorem declaration?_text (hrest : Ended rest) (hnone : attributeName? rest = none) :
    declaration? (d.text ++ rest) = some (d.text, rest) := by
  rw [text, List.append_assoc, declaration?,
    d.declarationHead?_head (ended_attributesText_append d.attributes hrest)]
  simp only [Option.bind_eq_bind, Option.bind_some,
    spanAttributes_attributesText d.attributes hrest hnone]
  rfl

end Declaration

/-! ## Line breaks and ends -/

theorem isLineBreak_eq_false_of_isWord {c : Char} (h : isWord c = true) : isLineBreak c = false :=
  isLineBreak_eq_false_of_isBlank (isBlank_eq_false_of_isWord h)

theorem isLineBreak_eq_false_of_isGap {c : Char} (h : isGap c = true) : isLineBreak c = false := by
  simp only [isGap, Bool.or_eq_true, decide_eq_true_eq] at h
  rcases h with rfl | rfl
  · decide
  · decide

/-- An attribute stands on one line. -/
theorem Attribute.without_isLineBreak (a : Attribute) : Without isLineBreak a.text := by
  intro c hc
  simp only [Attribute.text, List.mem_append, List.mem_cons] at hc
  rcases hc with hc | rfl | hc | hc
  · exact isLineBreak_eq_false_of_isGap (a.gap.every c hc)
  · decide
  · exact isLineBreak_eq_false_of_isBlank (isBlank_eq_false_of_isNameChar (a.isNameChar_name c hc))
  · rw [Attribute.argsText] at hc
    cases hargs : a.args with
    | none =>
      rw [hargs] at hc
      cases hc
    | some s =>
      simp only [hargs, List.mem_cons, List.mem_append, List.not_mem_nil, or_false] at hc
      rcases hc with rfl | hc | rfl
      · decide
      · have hchar := a.isArgumentChar_args s hargs c hc
        simp only [isArgumentChar, Bool.and_eq_true, Bool.not_eq_true'] at hchar
        exact hchar.2
      · decide

theorem without_isLineBreak_attributesText (as : List Attribute) :
    Without isLineBreak (attributesText as) := by
  intro c hc
  obtain ⟨a, -, ha⟩ := List.mem_flatMap.1 hc
  exact a.without_isLineBreak c ha

/-- A declaration stands on one line. -/
theorem Declaration.without_isLineBreak (d : Declaration) : Without isLineBreak d.text := by
  intro c hc
  simp only [Declaration.text, Declaration.head, List.mem_append] at hc
  rcases hc with (((hc | hc) | hc) | hc) | hc
  · exact isLineBreak_eq_false_of_isWord (d.isWordText_name.2 c hc)
  · exact isLineBreak_eq_false_of_isGap (d.gap.every c hc)
  · exact isLineBreak_eq_false_of_isWord (d.isWordText_type.2 c hc)
  · cases hm : d.modifier with
    | single => rw [hm] at hc; cases hc
    | optional =>
      have hmark : Without isLineBreak ['?'] := by decide
      rw [hm] at hc
      exact hmark c hc
    | list =>
      have hmark : Without isLineBreak ['[', ']'] := by decide
      rw [hm] at hc
      exact hmark c hc
  · exact without_isLineBreak_attributesText d.attributes c hc

/-- A type with its mark does not end with a blank. -/
theorem Modifier.notEnding_append_text (m : Modifier) (h : IsWordText s) :
    NotEnding isBlank (s ++ m.text) := by
  have hmark : NotEnding isBlank m.text := by
    cases m with
    | single => exact notEnding_of_without (by decide)
    | optional => exact notEnding_of_without (by decide)
    | list => exact notEnding_of_without (by decide)
  exact notEnding_append hmark fun _ =>
    notEnding_of_without fun c hc => isBlank_eq_false_of_isWord (h.2 c hc)

/-- An attribute does not end with a blank. -/
theorem Attribute.notEnding_text (a : Attribute) : NotEnding isBlank a.text := by
  have hname : NotEnding isBlank a.name :=
    notEnding_of_without fun c hc => isBlank_eq_false_of_isNameChar (a.isNameChar_name c hc)
  have hargs : NotEnding isBlank a.argsText := by
    rw [Attribute.argsText]
    cases a.args with
    | none => exact notEnding_nil
    | some s =>
      exact notEnding_append (s := '(' :: s) (notEnding_of_without (by decide))
        fun he => by cases he
  have htext : a.text = (a.gap.chars ++ ['@']) ++ (a.name ++ a.argsText) := by simp [Attribute.text]
  rw [htext]
  apply notEnding_append
  · exact notEnding_append hargs fun _ => hname
  · intro he
    exact absurd (List.append_eq_nil_iff.1 he).1 a.name_ne_nil

theorem notEnding_attributesText (as : List Attribute) : NotEnding isBlank (attributesText as) := by
  induction as with
  | nil => exact notEnding_nil
  | cons a as ih => exact notEnding_append ih fun _ => a.notEnding_text

namespace Declaration

variable (d : Declaration)

/-- A declaration does not end with a blank. -/
theorem notEnding_text : NotEnding isBlank d.text := by
  have hparts : d.head = d.name ++ d.gap.chars ++ (d.type ++ d.modifier.text) := by simp [head]
  rw [text, hparts]
  apply notEnding_append (notEnding_attributesText d.attributes)
  intro _
  apply notEnding_append (d.modifier.notEnding_append_text d.isWordText_type)
  intro he
  exact absurd (List.append_eq_nil_iff.1 he).1 d.isWordText_type.1

/-- A declaration starts with a word. -/
theorem exists_text_eq_cons : ∃ c r, d.text = c :: r ∧ isWord c = true := by
  cases hname : d.name with
  | nil => exact absurd hname d.isWordText_name.1
  | cons c n =>
    refine ⟨c, n ++ d.gap.chars ++ d.type ++ d.modifier.text ++ attributesText d.attributes, ?_,
      d.isWordText_name.2 c (by simp [hname])⟩
    simp [text, head, hname]

theorem notStarting_text (s : List Char) : NotStarting isBlank (d.text ++ s) := by
  simp only [text, head, List.append_assoc]
  exact d.isWordText_name.notStarting_isBlank _

/-- There is nothing to trim at a declaration. -/
theorem trim_text : trim d.text = d.text := by
  have hstart := d.notStarting_text []
  rw [List.append_nil] at hstart
  exact trim_of_notStarting hstart d.notEnding_text

end Declaration

/-! ## Comments -/

/-- No comment starts in an attribute. -/
theorem Attribute.uncommented_text (a : Attribute) : Uncommented a.text := by
  have hgap := uncommented_of_isBlank fun c hc => isBlank_of_isGap (a.gap.every c hc)
  have hsign : Uncommented ['@'] := uncommented_of_isPlain (by decide)
  have hname : Uncommented a.name := uncommented_of_every a.isNameChar_name (by decide)
  have hargs : Uncommented a.argsText := by
    rw [Attribute.argsText]
    cases hargs : a.args with
    | none => exact uncommented_nil
    | some s =>
      exact (a.argumentText_args s hargs).uncommented_parens (a.backslash_not_mem hargs)
  exact hgap.append (hsign.append (hname.append hargs))

/-- No comment starts in a declaration. -/
theorem Declaration.uncommented_text (d : Declaration) : Uncommented d.text := by
  have hmodifier : Uncommented d.modifier.text := by
    cases d.modifier with
    | single => exact uncommented_nil
    | optional => exact uncommented_of_isPlain (by decide)
    | list => exact uncommented_of_isPlain (by decide)
  have hname := uncommented_of_isWord d.isWordText_name.2
  have hgap := uncommented_of_isBlank d.isBlank_gap
  have htype := uncommented_of_isWord d.isWordText_type.2
  apply (((hname.append hgap).append htype).append hmodifier).append
  induction d.attributes with
  | nil => exact uncommented_nil
  | cons a as ih => exact a.uncommented_text.append ih

/-! ## Classifying a declaration -/

/-- The attributes are the tail of the shape, less the blanks before them. -/
theorem readTail?_attributesText (as : List Attribute) :
    readTail? (attributesText as) = some (trimStart (attributesText as)) := by
  have hbreak : (trimStart (attributesText as)).contains '\n' = false := by
    rw [List.contains_eq_mem, decide_eq_false_iff_not]
    intro hm
    have hall := without_isLineBreak_attributesText as '\n' ((List.dropWhile_suffix isBlank).mem hm)
    exact absurd hall (by decide)
  cases as with
  | nil => rfl
  | cons a as =>
    have hhead : (trimStart (attributesText (a :: as))).head? = some '@' := by
      rw [attributesText_cons, Attribute.text, List.append_assoc, List.cons_append,
        trimStart_append (fun c hc => isBlank_of_isGap (a.gap.every c hc))
          (notStarting_cons.2 (by decide))]
      rfl
    have hne : (attributesText (a :: as)).isEmpty = false := by simp [Attribute.text]
    rw [readTail?, hne]
    simp only [hhead, hbreak]
    rfl

/-- A search for a tag does not depend on the blanks before the attributes. -/
theorem search?_trimStart (tag : String) (s : List Char) :
    search? (fun _ => afterTag? tag) none (trimStart s) =
      search? (fun _ => afterTag? tag) none s := by
  obtain ⟨w, hs, hblank⟩ := exists_append_trimStart s
  have hsign : '@' ∉ w := fun hm => absurd (hblank _ hm) (by decide)
  rw [hs, search?_append (passes_afterTag? hsign), ← hs]
  exact search?_before (afterTag? tag) _ _ _

/-- The parts of a declaration are read off a text that is put together from them. -/
theorem FieldShape.read?_append {name gap type tail : List Char} (hname : IsWordText name)
    (hne : gap ≠ []) (hgap : Every isBlank gap) (htype : IsWordText type) (m : Modifier)
    (hs : Ended s) (htail : readTail? s = some tail) :
    FieldShape.read? (name ++ (gap ++ (type ++ (m.text ++ s)))) =
      some { name := name, type := type, modifier := m, tail := tail } := by
  have hfirst : spanSome? isWord (name ++ (gap ++ (type ++ (m.text ++ s)))) =
      some (name, gap ++ (type ++ (m.text ++ s))) := by
    apply spanSome?_append hname.1 hname.2
    exact notStarting_append (fun c hc => isWord_eq_false_of_isBlank (hgap c hc)) fun he =>
      absurd he hne
  have hskip : afterBlanks? (gap ++ (type ++ (m.text ++ s))) = some (type ++ (m.text ++ s)) :=
    afterBlanks?_append hne hgap (htype.notStarting_isBlank _)
  have hsecond : spanSome? isWord (type ++ (m.text ++ s)) = some (type, m.text ++ s) :=
    spanSome?_append htype.1 htype.2 (m.notStarting_isWord hs)
  rw [FieldShape.read?, hfirst]
  simp only [Option.bind_eq_bind, Option.bind_some, hskip, hsecond, readModifier_text m hs, htail]
  rfl

namespace Declaration

variable (d : Declaration)

/-- The shape of a declaration. -/
def shape : FieldShape where
  name := d.name
  type := d.type
  modifier := d.modifier
  tail := trimStart (attributesText d.attributes)

/-- The shape is read off the text. -/
theorem read?_text : FieldShape.read? d.text = some d.shape := by
  simp only [text, head, List.append_assoc]
  exact FieldShape.read?_append d.isWordText_name d.gap.ne_nil d.isBlank_gap d.isWordText_type
    d.modifier (ended_attributesText d.attributes) (readTail?_attributesText d.attributes)

/-- A default is found if an attribute has its name. -/
theorem hasDefault_shape : d.shape.hasDefault = d.hasDefault := by
  obtain ⟨rest, -, hsearch⟩ :=
    exists_search?_afterTag? "default" (by decide) none d.attributes
  rw [FieldShape.hasDefault, shape, search?_trimStart, hsearch, Option.isSome_map]
  rfl

/-- The relation attribute is read off the text. -/
theorem parse_shape : RelationAttribute.parse d.shape.tail = d.relationAttribute := by
  obtain ⟨rest, hrest, hsearch⟩ :=
    exists_search?_afterTag? "relation" (by decide) none d.attributes
  have hfound : search? (fun _ => afterTag? "relation") none d.shape.tail =
      (d.attribute? "relation").map fun a => a.argsText ++ rest := by
    rw [shape, search?_trimStart, hsearch]
    rfl
  rw [RelationAttribute.parse, hfound, relationAttribute]
  cases d.attribute? "relation" with
  | none => rfl
  | some a =>
    rw [Option.map_some]
    cases hargs : a.args with
    | none =>
      have htext : a.argsText ++ rest = rest := by simp [Attribute.argsText, hargs]
      simp only [htext, hrest.head?_ne, if_false, hargs]
    | some s =>
      have htake : (('(' :: (s ++ ')' :: rest)).take (s.length + 1)).drop 1 = s := by
        rw [List.take_succ_cons, List.drop_one, List.tail_cons, List.take_left' rfl]
      cases hadd : Arguments.addAll {} true (splitArguments s) with
      | ok args =>
        simp only [a.argsText_append hargs, List.head?_cons, if_true, a.closeOffset?_args hargs,
          htake, hargs, hadd]
      | error fault =>
        simp only [a.argsText_append hargs, List.head?_cons, if_true, a.closeOffset?_args hargs,
          htake, hargs, hadd]

/-- What becomes of a declaration. -/
theorem classify_text (index : Index) (settings : Settings) :
    classify d.text index settings =
      if settings.reserved.contains (String.ofList d.name) then .reserved (String.ofList d.name)
      else .field (d.toField index settings) := by
  have hrelation : d.shape.relation? index settings = d.relation? index settings := by
    rw [FieldShape.relation?, d.parse_shape]
    rfl
  have hfield : d.shape.toField (d.relation? index settings) index = d.toField index settings := by
    rw [FieldShape.toField, d.hasDefault_shape]
    simp only [Field.normalize, Bool.or_assoc, Bool.or_self]
    rfl
  rw [classify, d.trim_text, d.read?_text]
  simp only [hrelation, hfield]
  rfl

end Declaration

end FeatureGen.Schema

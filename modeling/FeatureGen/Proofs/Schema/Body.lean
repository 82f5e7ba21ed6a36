import FeatureGen.Proofs.Schema.Taken
import FeatureGen.Schema.Line

/-!
# Printed bodies of models

`FieldsText ds s` says that the line `s` holds the declarations `ds` with blanks between and around
them.  A line may have a comment at its end, and it may be a block attribute (`LineText`), and a
body is a list of lines (`BodyText`).  A carriage return and a line feed end a line and the empty
line after it, so that no rule of its own is needed for the pair.

However the declarations are laid out, they are found one by one in their order
(`BodyText.fieldLines`).
-/

namespace FeatureGen.Schema

open FeatureGen.Text

variable {c : Char} {s t w comment : List Char} {ds es : List Declaration}

/-- Blanks that end no line. -/
def Spaces (w : List Char) : Prop := Every isBlank w ∧ Without isLineBreak w

instance (w : List Char) : Decidable (Spaces w) :=
  inferInstanceAs (Decidable (Every isBlank w ∧ Without isLineBreak w))

/-- Declarations side by side on a line. -/
inductive FieldsText : List Declaration → List Char → Prop
  | nil {w : List Char} (hw : Spaces w) : FieldsText [] w
  | cons {w : List Char} {d : Declaration} {ds : List Declaration} {s : List Char} (hw : Spaces w)
    (hs : FieldsText ds s) (hsep : NotStarting (fun c => !isBlank c) s) :
    FieldsText (d :: ds) (w ++ (d.text ++ s))

/-- The declarations on a line. -/
inductive LineText : List Declaration → List Char → Prop
  | fields {ds : List Declaration} {s : List Char} (hs : FieldsText ds s) : LineText ds s
  /-- A comment at the end, or a line that is a comment. -/
  | comment {ds : List Declaration} {s comment : List Char} (hs : FieldsText ds s)
    (hcomment : Without isLineBreak comment) : LineText ds (s ++ '/' :: '/' :: comment)
  /-- An attribute of the model. -/
  | block {w s : List Char} (hw : Spaces w) (hs : Without isLineBreak s) :
    LineText [] (w ++ '@' :: '@' :: s)

/-- The declarations in a body. -/
inductive BodyText : List Declaration → List Char → Prop
  | last {ds : List Declaration} {s : List Char} (hs : LineText ds s) : BodyText ds s
  | line {ds es : List Declaration} {s t : List Char} {c : Char} (hs : LineText ds s)
    (hc : isLineBreak c = true) (ht : BodyText es t) : BodyText (ds ++ es) (s ++ c :: t)

/-! ## Declarations on one line -/

theorem Spaces.isBlank (h : Spaces w) : Every Text.isBlank w := h.1

namespace FieldsText

/-- What blanks are followed by is not the sign of an attribute. -/
theorem attributeName?_eq_none (h : FieldsText ds s) : attributeName? s = none := by
  apply Schema.attributeName?_eq_none
  cases h with
  | nil hw => simp [trimStart_eq_nil_of_blank hw.isBlank]
  | @cons w d ds s hw hs hsep =>
    obtain ⟨c, r, htext, hc⟩ := d.exists_text_eq_cons
    rw [trimStart_append hw.isBlank (d.notStarting_text s), htext]
    intro he
    have hsign : c = '@' := Option.some.inj he
    rw [hsign] at hc
    exact absurd hc (by decide)

end FieldsText

/-- A line is divided after its first declaration. -/
theorem splitDeclarations_of_declaration? {line d rest : List Char}
    (h : declaration? (trimStart line) = some (d, rest))
    (hrest : NotStarting (fun c => !isBlank c) rest) :
    splitDeclarations line = trim d :: splitDeclarations rest := by
  have hne : (trimStart line).isEmpty = false := by
    cases hline : trimStart line with
    | nil =>
      rw [hline] at h
      cases h
    | cons c s => rfl
  rw [splitDeclarations, hne, if_neg (by decide)]
  split
  · next hnone =>
    rw [h] at hnone
    cases hnone
  · next d' hd =>
    rw [h] at hd
    cases hd
    rw [splitDeclarations]
    rfl
  · next d' c r hd =>
    rw [h] at hd
    cases hd
    rw [if_pos (by simpa using notStarting_cons.1 hrest)]

namespace FieldsText

/-- The declarations on a line are found in their order. -/
theorem splitDeclarations (h : FieldsText ds s) :
    Schema.splitDeclarations s = ds.map Declaration.text := by
  induction h with
  | nil hw =>
    rw [Schema.splitDeclarations, trimStart_eq_nil_of_blank hw.isBlank]
    rfl
  | @cons w d ds s hw hs hsep ih =>
    have hd : declaration? (trimStart (w ++ (d.text ++ s))) = some (d.text, s) := by
      rw [trimStart_append hw.isBlank (d.notStarting_text s)]
      exact d.declaration?_text (ended_of_notStarting hsep) hs.attributeName?_eq_none
    rw [splitDeclarations_of_declaration? hd hsep, d.trim_text, ih]
    rfl

theorem uncommented (h : FieldsText ds s) : Uncommented s := by
  induction h with
  | nil hw => exact uncommented_of_isBlank hw.isBlank
  | @cons w d ds s hw hs hsep ih =>
    exact (uncommented_of_isBlank hw.isBlank).append (d.uncommented_text.append ih)

theorem without_isLineBreak (h : FieldsText ds s) : Without Text.isLineBreak s := by
  induction h with
  | nil hw => exact hw.2
  | @cons w d ds s hw hs hsep ih =>
    intro c hc
    rcases List.mem_append.1 hc with hc | hc
    · exact hw.2 c hc
    · rcases List.mem_append.1 hc with hc | hc
      · exact d.without_isLineBreak c hc
      · exact ih c hc

/-- Blanks at the end do not count. -/
theorem trimEnd (h : FieldsText ds s) : FieldsText ds (Text.trimEnd s) := by
  induction h with
  | nil hw =>
    rw [trimEnd_eq_nil_of_blank hw.isBlank]
    exact .nil (by decide)
  | @cons w d ds s hw hs hsep ih =>
    have hend : NotEnding Text.isBlank (w ++ d.text) :=
      notEnding_append d.notEnding_text fun he => by
        have hname := d.isWordText_name.1
        simp [Declaration.text, Declaration.head, hname] at he
    rw [← List.append_assoc, trimEnd_append_of_notEnding hend, List.append_assoc]
    apply FieldsText.cons hw ih
    obtain ⟨w', hw', -⟩ := trimEnd_append_blanks s
    cases hs : Text.trimEnd s with
    | nil => exact notStarting_nil
    | cons c r =>
      rw [← hw', hs] at hsep
      exact notStarting_cons.2 (notStarting_cons.1 hsep)

end FieldsText

/-! ## One line -/

/-- The declarations of a line. -/
def lineDeclarations (raw : List Char) : List (List Char) :=
  let line := trim raw
  if line.isEmpty || ['/', '/'].isPrefixOf line || ['@', '@'].isPrefixOf line then []
  else
    (splitDeclarations (stripComment line)).filter fun d =>
      !d.isEmpty && !(['@', '@'].isPrefixOf d)

theorem fieldLines_eq (body : List Char) :
    fieldLines body = (splitLines body).flatMap lineDeclarations := rfl

/-- A text that starts with a word is no comment and no block attribute. -/
theorem not_isPrefixOf_of_isWord (h : isWord c = true) (s : List Char) :
    ['/', '/'].isPrefixOf (c :: s) = false ∧ ['@', '@'].isPrefixOf (c :: s) = false := by
  have hslash : ('/' == c) = false := by
    rw [beq_eq_false_iff_ne]
    rintro rfl
    exact absurd h (by decide)
  have hsign : ('@' == c) = false := by
    rw [beq_eq_false_iff_ne]
    rintro rfl
    exact absurd h (by decide)
  simp [List.isPrefixOf, hslash, hsign]

/-- Declarations are kept. -/
theorem filter_map_text (ds : List Declaration) :
    ((ds.map Declaration.text).filter fun d => !d.isEmpty && !(['@', '@'].isPrefixOf d)) =
      ds.map Declaration.text := by
  apply List.filter_eq_self.2
  intro t ht
  obtain ⟨d, -, rfl⟩ := List.mem_map.1 ht
  obtain ⟨c, r, htext, hc⟩ := d.exists_text_eq_cons
  rw [htext, (not_isPrefixOf_of_isWord hc r).2]
  rfl

/-- A line that starts with a declaration has the declarations that stand before its comment. -/
theorem lineDeclarations_of_stripComment (d : Declaration) (hline : trim s = d.text ++ t)
    (h : FieldsText ds (stripComment (d.text ++ t))) :
    lineDeclarations s = ds.map Declaration.text := by
  obtain ⟨c, r, htext, hc⟩ := d.exists_text_eq_cons
  have ⟨hslash, hsign⟩ := not_isPrefixOf_of_isWord hc (r ++ t)
  rw [htext, List.cons_append] at hline h
  rw [lineDeclarations, hline]
  simp only [hslash, hsign, List.isEmpty_cons, Bool.or_self, Bool.false_eq_true, if_false]
  rw [h.splitDeclarations, filter_map_text]

namespace FieldsText

/-- A line of declarations has these. -/
theorem lineDeclarations (h : FieldsText ds s) :
    Schema.lineDeclarations s = ds.map Declaration.text := by
  cases h with
  | nil hw =>
    rw [Schema.lineDeclarations, trim, trimStart_eq_nil_of_blank hw.isBlank]
    rfl
  | @cons w d ds s hw hs hsep =>
    have htrim : trim (w ++ (d.text ++ s)) = d.text ++ Text.trimEnd s := by
      rw [trim, trimStart_append hw.isBlank (d.notStarting_text s),
        trimEnd_append_of_notEnding d.notEnding_text]
    have hline : FieldsText (d :: ds) (d.text ++ Text.trimEnd s) := by
      have hfields : FieldsText (d :: ds) (d.text ++ s) := .cons (w := []) (by decide) hs hsep
      have hend := hfields.trimEnd
      rwa [trimEnd_append_of_notEnding d.notEnding_text] at hend
    apply lineDeclarations_of_stripComment d htrim
    rwa [stripComment_of_uncommented hline.uncommented]

/-- A comment after the declarations does not count. -/
theorem lineDeclarations_comment (h : FieldsText ds s) (comment : List Char) :
    Schema.lineDeclarations (s ++ '/' :: '/' :: comment) = ds.map Declaration.text := by
  have hslash : NotEnding Text.isBlank ['/', '/'] := notEnding_of_without (by decide)
  cases h with
  | nil hw =>
    have htrim : trim (s ++ '/' :: '/' :: comment) = '/' :: '/' :: Text.trimEnd comment := by
      rw [trim, trimStart_append hw.isBlank (notStarting_cons.2 (by decide))]
      exact trimEnd_append_of_notEnding hslash comment
    rw [Schema.lineDeclarations, htrim]
    simp
  | @cons w d ds s hw hs hsep =>
    have htrim : trim (w ++ (d.text ++ s) ++ '/' :: '/' :: comment) =
        d.text ++ (s ++ '/' :: '/' :: Text.trimEnd comment) := by
      have hsplit : d.text ++ (s ++ '/' :: '/' :: comment) =
          d.text ++ s ++ ['/', '/'] ++ comment := by simp
      rw [trim, List.append_assoc, List.append_assoc,
        trimStart_append hw.isBlank (d.notStarting_text _), hsplit,
        trimEnd_append_of_notEnding (notEnding_append hslash fun he => by cases he)]
      simp
    have hfields : FieldsText (d :: ds) (d.text ++ s) := .cons (w := []) (by decide) hs hsep
    apply lineDeclarations_of_stripComment d htrim
    rw [← List.append_assoc, stripComment_append hfields.uncommented]
    exact hfields.trimEnd

end FieldsText

namespace LineText

/-- The declarations of a line are found in their order. -/
theorem lineDeclarations (h : LineText ds s) :
    Schema.lineDeclarations s = ds.map Declaration.text := by
  cases h with
  | fields hs => exact hs.lineDeclarations
  | comment hs hcomment => exact hs.lineDeclarations_comment _
  | @block w s hw hs =>
    have hsign : NotEnding Text.isBlank ['@', '@'] := notEnding_of_without (by decide)
    have htrim : trim (w ++ '@' :: '@' :: s) = '@' :: '@' :: trimEnd s := by
      rw [trim, trimStart_append hw.isBlank (notStarting_cons.2 (by decide))]
      exact trimEnd_append_of_notEnding hsign s
    rw [Schema.lineDeclarations, htrim]
    simp

theorem without_isLineBreak (h : LineText ds s) : Without Text.isLineBreak s := by
  cases h with
  | fields hs => exact hs.without_isLineBreak
  | @comment ds s comment hs hcomment =>
    intro c hc
    simp only [List.mem_append, List.mem_cons] at hc
    rcases hc with hc | rfl | rfl | hc
    · exact hs.without_isLineBreak c hc
    · decide
    · decide
    · exact hcomment c hc
  | @block w s hw hs =>
    intro c hc
    simp only [List.mem_append, List.mem_cons] at hc
    rcases hc with hc | rfl | rfl | hc
    · exact hw.2 c hc
    · decide
    · decide
    · exact hs c hc

end LineText

/-! ## Bodies -/

/-- A text without line breaks has the declarations of its only line. -/
theorem fieldLines_of_forall (hs : Without isLineBreak s) :
    fieldLines s = lineDeclarations s := by
  rw [fieldLines_eq, splitLines_of_forall hs]
  cases s with
  | nil => rfl
  | cons c s => exact List.append_nil _

/-- The declarations of the first line stand before those of the others. -/
theorem fieldLines_append_cons (hs : Without isLineBreak s) (hc : isLineBreak c = true)
    (t : List Char) : fieldLines (s ++ c :: t) = lineDeclarations s ++ fieldLines t := by
  rw [fieldLines_eq, fieldLines_eq]
  exact flatMap_splitLines_append_cons rfl hs hc t

/-- The declarations of a body are found in their order. -/
theorem BodyText.fieldLines (h : BodyText ds s) :
    Schema.fieldLines s = ds.map Declaration.text := by
  induction h with
  | last hs => rw [fieldLines_of_forall hs.without_isLineBreak, hs.lineDeclarations]
  | @line ds es s t c hs hc ht ih =>
    rw [fieldLines_append_cons hs.without_isLineBreak hc, hs.lineDeclarations, ih, List.map_append]

end FeatureGen.Schema

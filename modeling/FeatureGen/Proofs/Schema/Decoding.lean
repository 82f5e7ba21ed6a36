import FeatureGen.Proofs.Schema.Consistency

/-!
# Reading validation expressions back

A written expression says what it was made of.  The marks of a field are read off its two ends: no
expression for one value begins like a list or ends like an optional value (`exists_opening`,
`exists_ending`), whatever texts an enumeration holds.  So expressions that are written alike have
the same marks and the same expression for one value (`Expression.render_inj`).

The values of an enumeration are read back as well, since no value of a schema has a quote
(`isLiteral_of_mem_enums`): in the list of quoted values a quote ends a value, and only an
enumeration begins like one (`enumeration_of_render_eq`).  For compiled fields these facts come
together in `expressions_decode`.
-/

namespace FeatureGen.Schema

open FeatureGen.Text

variable {b : BaseExpression} {e e' : Expression} {s t v : List Char}

/-! ## The ends of an expression -/

/-- What a list of values begins with. -/
def listOpening : List Char := "z.array(".toList

/-- What an optional value ends with. -/
def optionalEnding : List Char := ".optional().nullable()".toList

/-- What an enumeration begins with. -/
def enumOpening : List Char := "z.enum([".toList

/-- What an enumeration ends with. -/
def enumEnding : List Char := "])".toList

/-- How the expressions for one value begin that are no enumerations. -/
def openings : List (List Char) :=
  ["z.s".toList, "z.n".toList, "z.b".toList, "z.d".toList, "z.an".toList, "z.i".toList]

/-- How expressions end that are not optional. -/
def endings : List (List Char) :=
  ["])".toList, "\x7d)".toList, "g()".toList, "t()".toList, "r()".toList, "n()".toList, "te()".toList,
    "y()".toList, "d()".toList, "r)".toList, "1)".toList]

/-- The values of an enumeration as they are written. -/
def valuesText (values : List String) : List Char :=
  (", ".intercalate (values.map fun v => "'" ++ v ++ "'")).toList

theorem toList_render_enumeration (values : List String) :
    (BaseExpression.enumeration values).render.toList =
      enumOpening ++ (valuesText values ++ enumEnding) := by
  have hrender : (BaseExpression.enumeration values).render =
      "z.enum([" ++ ", ".intercalate (values.map fun v => "'" ++ v ++ "'") ++ "])" := rfl
  rw [hrender, String.toList_append, String.toList_append, List.append_assoc]
  rfl

theorem toList_render_uuid (version : String) :
    (BaseExpression.uuid (some version)).render.toList =
      "z.string().uuid(\x7b version: ".toList ++ (version.toList ++ " \x7d)".toList) := by
  have hrender : (BaseExpression.uuid (some version)).render =
      "z.string().uuid(\x7b version: " ++ version ++ " \x7d)" := rfl
  rw [hrender, String.toList_append, String.toList_append, List.append_assoc]

theorem exists_opening (h : ∀ values, b ≠ .enumeration values) :
    ∃ o ∈ openings, o <+: b.render.toList := by
  cases b with
  | enumeration values => exact absurd rfl (h values)
  | uuid version =>
    cases version with
    | none => decide
    | some version =>
      refine ⟨"z.s".toList, List.mem_cons_self, ?_⟩
      rw [toList_render_uuid]
      have hopening : "z.s".toList <+: "z.string().uuid(\x7b version: ".toList := by decide
      exact hopening.trans (List.prefix_append _ _)
  | primitive p => cases p <;> decide
  | nonemptyText => decide

theorem exists_ending (b : BaseExpression) : ∃ o ∈ endings, o <:+ b.render.toList := by
  cases b with
  | enumeration values =>
    refine ⟨enumEnding, List.mem_cons_self, ?_⟩
    rw [toList_render_enumeration, ← List.append_assoc]
    exact List.suffix_append _ _
  | uuid version =>
    cases version with
    | none => decide
    | some version =>
      refine ⟨"\x7d)".toList, List.mem_cons_of_mem _ List.mem_cons_self, ?_⟩
      have hending : "\x7d)".toList <:+ " \x7d)".toList := by decide
      rw [toList_render_uuid, ← List.append_assoc]
      exact hending.trans (List.suffix_append _ _)
  | primitive p => cases p <;> decide
  | nonemptyText => decide

/-- No expression for one value begins like a list, whatever follows it. -/
theorem not_listOpening_prefix (b : BaseExpression) (t : List Char) :
    ¬ listOpening <+: b.render.toList ++ t := by
  intro h
  have hlong : ∀ o : List Char, o <+: b.render.toList → o.length ≤ listOpening.length →
      o <+: listOpening := fun o ho hlength =>
    List.prefix_of_prefix_length_le (ho.trans (List.prefix_append _ t)) h hlength
  by_cases hb : ∃ values, b = .enumeration values
  · obtain ⟨values, rfl⟩ := hb
    rw [toList_render_enumeration] at hlong
    exact absurd (hlong enumOpening (List.prefix_append _ _) (by decide)) (by decide)
  · obtain ⟨o, ho, hprefix⟩ := exists_opening fun values he => hb ⟨values, he⟩
    have hall : ∀ o ∈ openings, o.length ≤ listOpening.length ∧ ¬ o <+: listOpening := by
      decide
    exact (hall o ho).2 (hlong o hprefix (hall o ho).1)

/-- Neither an expression for one value nor a list ends like an optional value. -/
theorem not_optionalEnding_suffix (b : BaseExpression) (t : List Char) (hs : s = [] ∨ s = [')']) :
    ¬ optionalEnding <:+ t ++ (b.render.toList ++ s) := by
  intro h
  obtain ⟨o, ho, u, hu⟩ := exists_ending b
  have hall : ∀ s ∈ [[], [')']], ∀ o ∈ endings,
      (o ++ s).length ≤ optionalEnding.length ∧ ¬ o ++ s <:+ optionalEnding := by decide
  obtain ⟨hlength, hnot⟩ := hall s (by simpa using hs) o ho
  have hsuffix : o ++ s <:+ t ++ (b.render.toList ++ s) := ⟨t ++ u, by rw [← hu]; simp⟩
  exact hnot (List.suffix_of_suffix_length_le hsuffix h hlength)

/-! ## Marks -/

namespace Expression

/-- What stands before the expression for one value. -/
def opening (e : Expression) : List Char := if e.isList then listOpening else []

/-- What a list ends with. -/
def listEnding (e : Expression) : List Char := if e.isList then [')'] else []

/-- What an optional value ends with, if the value is optional. -/
def ending (e : Expression) : List Char := if e.isOptional then optionalEnding else []

theorem toList_render (e : Expression) :
    e.render.toList = e.opening ++ (e.base.render.toList ++ e.listEnding) ++ e.ending := by
  obtain ⟨base, isOptional, isList⟩ := e
  have hmany : ∀ one : String, ("z.array(" ++ one ++ ")").toList =
      listOpening ++ (one.toList ++ [')']) := by
    intro one
    rw [String.toList_append, String.toList_append, List.append_assoc]
    rfl
  have hrender (isOptional : Bool) (many : String) :
      (if isOptional then many ++ ".optional().nullable()" else many).toList =
        many.toList ++ if isOptional then optionalEnding else [] := by
    cases isOptional with
    | true => exact String.toList_append
    | false => exact (List.append_nil _).symm
  have hone (isList : Bool) : (if isList then "z.array(" ++ base.render ++ ")" else base.render).toList =
      (if isList then listOpening else []) ++
        (base.render.toList ++ if isList then [')'] else []) := by
    cases isList with
    | true => exact hmany base.render
    | false => exact (List.append_nil _).symm
  exact (hrender isOptional _).trans (congrArg (· ++ _) (hone isList))

theorem isList_iff (e : Expression) : e.isList = true ↔ listOpening <+: e.render.toList := by
  rw [e.toList_render, List.append_assoc, List.append_assoc]
  cases hlist : e.isList with
  | true => simp [opening, hlist]
  | false => simpa [opening, hlist] using not_listOpening_prefix e.base (e.listEnding ++ e.ending)

theorem isOptional_iff (e : Expression) :
    e.isOptional = true ↔ optionalEnding <:+ e.render.toList := by
  rw [e.toList_render, ending]
  cases e.isOptional with
  | true => exact ⟨fun _ => List.suffix_append _ _, fun _ => rfl⟩
  | false =>
    have hlist : e.listEnding = [] ∨ e.listEnding = [')'] := by
      rw [listEnding]
      cases e.isList with
      | true => exact Or.inr rfl
      | false => exact Or.inl rfl
    have hnot := not_optionalEnding_suffix e.base e.opening hlist
    rw [if_neg Bool.false_ne_true, List.append_nil]
    exact ⟨fun h => absurd h Bool.false_ne_true, fun h => absurd h hnot⟩

/-- Expressions that are written alike have the same marks, and their expressions for one value are
written alike. -/
theorem render_inj (h : e.render = e'.render) :
    e.isOptional = e'.isOptional ∧ e.isList = e'.isList ∧ e.base.render = e'.base.render := by
  have hoptional : e.isOptional = e'.isOptional := by
    rw [Bool.eq_iff_iff, e.isOptional_iff, e'.isOptional_iff, h]
  have hlist : e.isList = e'.isList := by rw [Bool.eq_iff_iff, e.isList_iff, e'.isList_iff, h]
  refine ⟨hoptional, hlist, ?_⟩
  have htext := e.toList_render.symm.trans ((congrArg String.toList h).trans e'.toList_render)
  rw [opening, listEnding, ending, opening, listEnding, ending, hoptional, hlist] at htext
  exact String.toList_inj.1 (List.append_cancel_right
    (List.append_cancel_left (List.append_cancel_right htext)))

end Expression

/-! ## Values of an enumeration -/

/-- A text that can stand in quotes as it is, without blanks at its ends. -/
structure IsLiteral (v : List Char) : Prop where
  ne_nil : v ≠ []
  notStarting : NotStarting isBlank v
  notEnding : NotEnding isBlank v
  without_isQuote : Without isQuote v

theorem without_isQuote_of_enumValue {raw : List Char} (h : enumValue raw = .ok v) :
    Without isQuote v := by
  obtain ⟨decoded, -, rfl⟩ := exists_of_map_eq_ok h
  intro c hc
  simpa using (List.mem_filter.1 (mem_of_mem_trim hc)).2

/-- A value is without blanks at its ends. -/
theorem trim_of_enumValue {raw : List Char} (h : enumValue raw = .ok v) :
    NotStarting isBlank v ∧ NotEnding isBlank v := by
  obtain ⟨decoded, -, rfl⟩ := exists_of_map_eq_ok h
  exact ⟨notStarting_trim _, notEnding_trim _⟩

theorem isLiteral_of_enumLineValues {raw : List Char} {values : List (List Char)}
    (h : enumLineValues raw = .ok values) (hv : v ∈ values) : IsLiteral v := by
  simp only [enumLineValues] at h
  split at h
  · cases h
    cases hv
  obtain ⟨value, hvalue, rfl⟩ := exists_of_map_eq_ok h
  have hquote := without_isQuote_of_enumValue hvalue
  obtain ⟨hstart, hend⟩ := trim_of_enumValue hvalue
  rw [valuesOnLine] at hv
  split at hv
  · cases hv
  · next hne =>
    split at hv
    · obtain rfl := List.mem_singleton.1 hv
      exact ⟨by simpa using hne, hstart, hend, hquote⟩
    · obtain ⟨hne, hblank, hsubset⟩ := forall_mem_splitBlanks _ v hv
      exact ⟨hne, fun c hc => hblank c (List.mem_of_head? hc), notEnding_of_without hblank,
        fun c hc => hquote c (hsubset hc)⟩

/-- The values in the body of an enumeration are literals. -/
theorem isLiteral_of_enumValues {body : List Char} {values : List (List Char)}
    (h : enumValues body = .ok values) (hv : v ∈ values) : IsLiteral v := by
  obtain ⟨lines, hlines, rfl⟩ := exists_of_map_eq_ok h
  obtain ⟨line, hline, hv⟩ := List.mem_flatten.1 hv
  obtain ⟨raw, -, hraw⟩ := exists_of_mem_mapM hlines hline
  exact isLiteral_of_enumLineValues hraw hv

/-- The values of the enumerations of a schema are literals. -/
theorem isLiteral_of_mem_enums {text : List Char} {index : Index} {name : String}
    {values : List String} (hindex : Index.ofText text = .ok index)
    (h : (name, values) ∈ index.enums) : ∀ v ∈ values, IsLiteral v.toList := by
  obtain ⟨enums, henums, rfl⟩ := exists_of_map_eq_ok hindex
  obtain ⟨⟨block, body⟩, -, hread⟩ := exists_of_mem_mapM henums (mem_of_mem_firstsBy h).1
  obtain ⟨chars, hchars, hpair⟩ := exists_of_map_eq_ok hread
  cases hpair
  intro v hv
  obtain ⟨w, hw, rfl⟩ := List.mem_map.1 hv
  rw [String.toList_ofList]
  exact isLiteral_of_enumValues hchars hw

/-- The values that stand behind the first one as they are written. -/
def furtherText : List String → List Char
  | [] => []
  | v :: values => ", ".toList ++ valuesText (v :: values)

theorem valuesText_cons (v : String) (values : List String) :
    valuesText (v :: values) = '\'' :: (v.toList ++ '\'' :: furtherText values) := by
  have hquoted : ("'" ++ v ++ "'").toList = '\'' :: (v.toList ++ ['\'']) := by
    rw [String.toList_append, String.toList_append]
    rfl
  rw [valuesText, String.toList_intercalate, List.map_cons, List.map_cons, hquoted]
  cases values with
  | nil => exact List.intercalate_singleton
  | cons w values =>
    rw [List.map_cons, List.map_cons, List.intercalate_cons_cons, furtherText, valuesText,
      String.toList_intercalate]
    simp

/-- Values without quotes are read back from the text of an enumeration. -/
theorem valuesText_inj {values values' : List String}
    (h : ∀ v ∈ values, Without isQuote v.toList) (h' : ∀ v ∈ values', Without isQuote v.toList)
    (he : valuesText values = valuesText values') : values = values' := by
  induction values generalizing values' with
  | nil =>
    cases values' with
    | nil => rfl
    | cons w values' =>
      rw [valuesText_cons] at he
      cases he
  | cons v values ih =>
    cases values' with
    | nil =>
      rw [valuesText_cons] at he
      cases he
    | cons w values' =>
      obtain ⟨hv, hvalues⟩ := List.forall_mem_cons.1 h
      obtain ⟨hw, hvalues'⟩ := List.forall_mem_cons.1 h'
      rw [valuesText_cons, valuesText_cons] at he
      -- The quote behind a value is the first one after its start.
      obtain ⟨hfirst, hrest⟩ := append_inj_of_notStarting (fun c => !isQuote c)
        (every_not_iff.2 hv) (every_not_iff.2 hw) (notStarting_cons.2 (by decide))
        (notStarting_cons.2 (by decide)) (List.cons.inj he).2
      have hfurther : furtherText values = furtherText values' := (List.cons.inj hrest).2
      have htext : valuesText values = valuesText values' := by
        cases values with
        | nil =>
          cases values' with
          | nil => rfl
          | cons w values' => cases hfurther
        | cons v values =>
          cases values' with
          | nil => cases hfurther
          | cons w values' => exact List.append_cancel_left hfurther
      rw [String.toList_inj.1 hfirst, ih hvalues hvalues' htext]

/-- An expression that is written like an enumeration is one with the same values. -/
theorem enumeration_of_render_eq {values : List String}
    (hvalues : ∀ v ∈ values, Without isQuote v.toList)
    (hb : ∀ values, b = .enumeration values → ∀ v ∈ values, Without isQuote v.toList)
    (h : (BaseExpression.enumeration values).render = b.render) : b = .enumeration values := by
  have htext := congrArg String.toList h
  rw [toList_render_enumeration] at htext
  by_cases henum : ∃ values', b = .enumeration values'
  · obtain ⟨values', rfl⟩ := henum
    rw [toList_render_enumeration] at htext
    have hsame := List.append_cancel_right (List.append_cancel_left htext)
    rw [valuesText_inj hvalues (hb values' rfl) hsame]
  · obtain ⟨o, ho, hprefix⟩ := exists_opening fun values' he => henum ⟨values', he⟩
    have hall : ∀ o ∈ openings, o.length ≤ enumOpening.length ∧ ¬ o <+: enumOpening := by
      decide
    obtain ⟨hlength, hnot⟩ := hall o ho
    rw [← htext] at hprefix
    exact absurd (List.prefix_of_prefix_length_le hprefix (List.prefix_append _ _) hlength) hnot

/-! ## Compiled fields -/

/-- A field that a model of some schema declares, reserved or not. -/
def Compiled (f : Field) : Prop :=
  ∃ text model settings fields, f ∈ fields ∧
    (compile text model settings = .ok fields ∨ compileReserved text model settings = .ok fields)

theorem Compiled.exists_consistent {f : Field} (h : Compiled f) :
    ∃ (text : List Char) (index : Index), Index.ofText text = .ok index ∧ f.Consistent index := by
  obtain ⟨text, model, settings, fields, hf, h | h⟩ := h
  · obtain ⟨index, hindex, hconsistent, -⟩ := consistent_of_mem_compile h hf
    exact ⟨text.toList, index, hindex, hconsistent⟩
  · obtain ⟨all, hall, rfl⟩ := exists_of_map_eq_ok h
    obtain ⟨index, hindex, hconsistent, -⟩ :=
      consistent_of_mem_compile hall (List.mem_filter.1 hf).1
    exact ⟨text.toList, index, hindex, hconsistent⟩

theorem enumValues_of_mem_enums {text : List Char} {index : Index} {type : String}
    {values : List String} (hindex : Index.ofText text = .ok index)
    (h : (type, values) ∈ index.enums) : index.enumValues type = values := by
  rw [Index.enumValues, lookup_eq_some_of_mem (nodup_enums hindex) h, Option.getD_some]

/-- What the expression of a compiled field was made of: an enumeration of literals if its type is
declared as one, and no enumeration otherwise. -/
theorem Compiled.exists_expression {f : Field} (h : Compiled f) :
    ∃ b : BaseExpression, f.validator = (Expression.mk b f.isOptional f.isList).render ∧
      (f.isEnum = true → b = .enumeration f.enumValues) ∧
      ∀ values, b = .enumeration values →
        f.isEnum = true ∧ values = f.enumValues ∧ ∀ v ∈ values, IsLiteral v.toList := by
  obtain ⟨text, index, hindex, hf⟩ := h.exists_consistent
  have hdeclared (values : List String) (hmem : (f.type, values) ∈ index.enums) :
      index.enumValues f.type = f.enumValues :=
    (enumValues_of_mem_enums hindex hmem).trans (hf.enumValues_of_mem values hmem).symm
  refine ⟨.ofType f.type index, hf.validator_eq, ?_, ?_⟩
  · intro henum
    obtain ⟨values, hmem⟩ := hf.isEnum_iff.1 henum
    rw [BaseExpression.ofType, if_pos (isEnum_iff_mem.2 ⟨values, hmem⟩), hdeclared values hmem]
  · intro values hb
    rw [BaseExpression.ofType] at hb
    split at hb
    · next henum =>
      obtain ⟨values', hmem⟩ := isEnum_iff_mem.1 henum
      have hvalues := enumValues_of_mem_enums hindex hmem
      cases hb
      refine ⟨hf.isEnum_iff.2 ⟨values', hmem⟩, hdeclared values' hmem, ?_⟩
      rw [hvalues]
      exact isLiteral_of_mem_enums hindex hmem
    · split at hb
      · cases hb
      · split at hb
        · cases hb
        · cases hb

/-- Written expressions are read back.  Under whatever types, marks and indices two of them are
made, if they are the same then so are the marks and the expressions for one value.  The values of
the enumerations of a schema are literals, and so the expression of an enumeration field tells its
marks and its values, and no field of another kind has it. -/
theorem expressions_decode :
    (∀ (type type' : String) (isOptional isOptional' isList isList' : Bool) (index index' : Index),
        (Expression.ofType type isOptional isList index).render =
            (Expression.ofType type' isOptional' isList' index').render →
          isOptional = isOptional' ∧ isList = isList' ∧
            (BaseExpression.ofType type index).render =
              (BaseExpression.ofType type' index').render) ∧
      (∀ (text : List Char) (index : Index), Index.ofText text = .ok index →
        ∀ (name : String) (values : List String), (name, values) ∈ index.enums →
          ∀ v ∈ values, IsLiteral v.toList) ∧
      ∀ f g, Compiled f → Compiled g → f.isEnum = true → f.validator = g.validator →
        g.isEnum = true ∧ f.isOptional = g.isOptional ∧ f.isList = g.isList ∧
          f.enumValues = g.enumValues := by
  refine ⟨?_, fun _ _ hindex _ _ h => isLiteral_of_mem_enums hindex h, ?_⟩
  · intro type type' isOptional isOptional' isList isList' index index' h
    exact Expression.render_inj h
  · intro f g hf hg henum h
    obtain ⟨b, hfb, hb, hliteral⟩ := hf.exists_expression
    obtain ⟨b', hgb, -, hliteral'⟩ := hg.exists_expression
    rw [hfb, hgb] at h
    obtain ⟨hoptional, hlist, hbase⟩ := Expression.render_inj h
    have hsame : b' = .enumeration f.enumValues := by
      rw [hb henum] at hbase
      apply enumeration_of_render_eq _ _ hbase
      · exact fun v hv => ((hliteral _ (hb henum)).2.2 v hv).without_isQuote
      · exact fun values hvalues v hv => ((hliteral' values hvalues).2.2 v hv).without_isQuote
    obtain ⟨hgenum, hvalues, -⟩ := hliteral' _ hsame
    exact ⟨hgenum, hoptional, hlist, hvalues⟩

/-- A schema with an enumeration that has a reference and a quoted value. -/
def roleText : String :=
  "enum Role \x7b\n R&#38;D @map(\"x\")\n 'a, b'\n\x7d\nmodel Member \x7b\n role Role[] @default(X)\n\x7d"

/-- A schema with an enumeration of the same values under another name. -/
def kindText : String :=
  "enum Kind \x7b\n R&D\n \"a, b\" // note\n\x7d\nmodel Guest \x7b\n kind Kind[] @default(Y)\n\x7d"

/-- Two types of numbers are written alike, and so are the fields of `roleText` and `kindText`. -/
theorem expressions_decode_role :
    ((Expression.ofType "Float" true true {}).render =
        (Expression.ofType "Decimal" true true {}).render ∧
      (BaseExpression.ofType "Float" {}).render = (BaseExpression.ofType "Decimal" {}).render) ∧
    (∃ index, Index.ofText roleText.toList = .ok index ∧
      ("Role", ["R&D", "a, b"]) ∈ index.enums ∧ ∀ v ∈ ["R&D", "a, b"], IsLiteral v.toList) ∧
    ∃ f g, Compiled f ∧ Compiled g ∧ f.type = "Role" ∧ g.type = "Kind" ∧ f.isEnum = true ∧
      f.validator = g.validator ∧ f.enumValues = g.enumValues := by
  have ⟨hmarks, hliterals, hfields⟩ := expressions_decode
  have hnumber : (Expression.ofType "Float" true true {}).render =
      (Expression.ofType "Decimal" true true {}).render := by decide
  have hindex : (Index.ofText roleText.toList).map Index.enums =
      .ok [("Role", ["R&D", "a, b"])] := by decide
  obtain ⟨index, hindex, henums⟩ := exists_of_map_eq_ok hindex
  have hmem : ("Role", ["R&D", "a, b"]) ∈ index.enums := henums ▸ List.mem_singleton_self _
  have hrole : (compile roleText "Member" {}).map
      (List.map fun f => (f.type, f.isEnum, f.validator)) =
        .ok [("Role", true, "z.array(z.enum(['R&D', 'a, b'])).optional().nullable()")] := by
    decide +kernel
  have hkind : (compile kindText "Guest" {}).map
      (List.map fun f => (f.type, f.isEnum, f.validator)) =
        .ok [("Kind", true, "z.array(z.enum(['R&D', 'a, b'])).optional().nullable()")] := by
    decide +kernel
  obtain ⟨fields, hcompile, hmap⟩ := exists_of_map_eq_ok hrole
  obtain ⟨f, _, rfl, hf, -⟩ := List.map_eq_cons_iff.1 hmap
  obtain ⟨fields', hcompile', hmap'⟩ := exists_of_map_eq_ok hkind
  obtain ⟨g, _, rfl, hg, -⟩ := List.map_eq_cons_iff.1 hmap'
  simp only [Prod.mk.injEq] at hf hg
  have hfirst : Compiled f := ⟨_, _, _, _, .head _, Or.inl hcompile⟩
  have hsecond : Compiled g := ⟨_, _, _, _, .head _, Or.inl hcompile'⟩
  have hsame : f.validator = g.validator := hf.2.2.trans hg.2.2.symm
  have hread := hfields f g hfirst hsecond hf.2.1 hsame
  exact ⟨⟨hnumber, (hmarks _ _ _ _ _ _ _ _ hnumber).2.2⟩,
    ⟨index, hindex, hmem, hliterals _ _ hindex _ _ hmem⟩,
    f, g, hfirst, hsecond, hf.1, hg.1, hf.2.1, hsame, hread.2.2.2⟩

end FeatureGen.Schema

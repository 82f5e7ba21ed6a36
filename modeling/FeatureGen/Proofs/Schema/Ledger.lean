import FeatureGen.Proofs.Distinct
import FeatureGen.Proofs.Fallible
import FeatureGen.Schema.Model

/-!
# The fields of a model as first occurrences

A model is compiled with an index (`indexFor`), and `compile` then keeps of the fields that the
lines of its body give the first of each name (`compile_eq_map`).  Where the schema has no index
nothing is kept and nothing is told (`ledger_eq_error`).  A reserved name is refused by the line
that declares it, before repeated names are dropped, while `compileReserved` drops repeated names
first and looks for reserved ones afterwards.

Both come to the same.  Being reserved is a matter of the name alone, so refusing reserved lines is
a filter of what the lines give without reserved names (`acceptedFields_eq_filter`), and such a
filter commutes with keeping first occurrences.  So the fields and the reserved fields of a model
are the two halves of what it compiles to when nothing is reserved.
-/

namespace FeatureGen.Schema

open FeatureGen.Text

/-! ## What the lines give -/

/-- The fields that lines give, one for each line that is accepted. -/
def acceptedFields (index : Index) (settings : Settings) (lines : List (List Char)) : List Field :=
  lines.filterMap fun line => (classify line index settings).field?

/-- The fields that the lines of a model give, none if it is not declared.  Several may have one
name. -/
def declaredFields (index : Index) (text model : String) (settings : Settings) : List Field :=
  match modelBody? text.toList model.toList with
  | none => []
  | some body => acceptedFields index settings (fieldLines body)

/-- The fields of a declared model are those of the lines of its body. -/
theorem declaredFields_of_eq_some {text model : String} {body : List Char}
    (h : modelBody? text.toList model.toList = some body) (index : Index) (settings : Settings) :
    declaredFields index text model settings =
      acceptedFields index settings (fieldLines body) := by
  rw [declaredFields, h]

theorem acceptedFields_cons (index : Index) (settings : Settings) (line : List Char)
    (lines : List (List Char)) :
    acceptedFields index settings (line :: lines) =
      (classify line index settings).field?.toList ++ acceptedFields index settings lines := by
  rw [acceptedFields, List.filterMap_cons]
  cases (classify line index settings).field? <;> rfl

/-- The fields of a ledger are the first occurrences among what the lines give. -/
theorem filterMap_field?_ledgerFrom (model : String) (index : Index) (settings : Settings)
    (seen : List String) (lines : List (List Char)) :
    (ledgerFrom model index settings seen lines).filterMap (·.ending.field?) =
      firstsBy Field.name seen (acceptedFields index settings lines) := by
  induction lines generalizing seen with
  | nil => rfl
  | cons line lines ih =>
    rw [acceptedFields_cons, ledgerFrom, List.filterMap_cons]
    simp only [Entry.ofLine, ih]
    cases classify line index settings with
    | unparsable => rfl
    | reserved name => rfl
    | field f =>
      by_cases hs : f.name ∈ seen
      · simp [Verdict.ending, Verdict.field?, Ending.field?, firstsBy_cons, hs]
      · simp [Verdict.ending, Verdict.field?, Ending.field?, firstsBy_cons, hs]

/-- The index that a model is compiled with.  One that is not declared has no lines to look at, and
the index of the schema is not made for it. -/
def indexFor (text model : String) : Except DigitFault Index :=
  match modelBody? text.toList model.toList with
  | none => .ok {}
  | some _ => Index.ofText text.toList

theorem indexFor_of_eq_some {text model : String} {body : List Char}
    (h : modelBody? text.toList model.toList = some body) :
    indexFor text model = Index.ofText text.toList := by
  rw [indexFor, h]

/-- The fields of a model are the first occurrences among what its lines give. -/
theorem compile_eq_map (text model : String) (settings : Settings) :
    compile text model settings = (indexFor text model).map fun index =>
      firstsBy Field.name [] (declaredFields index text model settings) := by
  rw [compile, ledger, indexFor]
  cases hbody : modelBody? text.toList model.toList with
  | none => simp [declaredFields, hbody, Except.map]
  | some body =>
    rw [map_map_except]
    congr 1
    funext index
    rw [declaredFields_of_eq_some hbody]
    exact filterMap_field?_ledgerFrom model index settings [] _

/-- Fields are compiled with an index. -/
theorem exists_of_compile {text model : String} {settings : Settings} {fields : List Field}
    (h : compile text model settings = .ok fields) :
    ∃ index, indexFor text model = .ok index ∧
      firstsBy Field.name [] (declaredFields index text model settings) = fields := by
  rw [compile_eq_map] at h
  exact exists_of_map_eq_ok h

/-- No two fields of a model have one name. -/
theorem nodup_of_compile {text model : String} {settings : Settings} {fields : List Field}
    (h : compile text model settings = .ok fields) : (fields.map Field.name).Nodup := by
  obtain ⟨index, -, rfl⟩ := exists_of_compile h
  exact nodup_map_firstsBy Field.name [] _

/-- A compiled field is given by a line of the model, read with the index of the schema. -/
theorem exists_classify_of_mem_compile {text model : String} {settings : Settings}
    {fields : List Field} {f : Field} (h : compile text model settings = .ok fields)
    (hf : f ∈ fields) :
    ∃ index line, Index.ofText text.toList = .ok index ∧
      (classify line index settings).field? = some f := by
  obtain ⟨index, hindex, rfl⟩ := exists_of_compile h
  have hdeclared := (mem_of_mem_firstsBy hf).1
  rw [declaredFields] at hdeclared
  cases hbody : modelBody? text.toList model.toList with
  | none =>
    rw [hbody] at hdeclared
    cases hdeclared
  | some body =>
    rw [hbody] at hdeclared
    rw [indexFor_of_eq_some hbody] at hindex
    obtain ⟨line, -, hline⟩ := List.mem_filterMap.1 hdeclared
    exact ⟨index, line, hindex, hline⟩

/-- The fields of a model, from the characters of the text. -/
theorem compile_of_toList {text : String} {s : List Char} (h : text.toList = s) (model : String)
    (settings : Settings) :
    compile text model settings =
      (modelBody? s model.toList).elim (.ok []) fun body =>
        (Index.ofText s).map fun index =>
          firstsBy Field.name [] (acceptedFields index settings (fieldLines body)) := by
  rw [compile_eq_map, indexFor, h]
  cases hbody : modelBody? s model.toList with
  | none => simp [declaredFields, h, hbody, Except.map]
  | some body =>
    rw [← h] at hbody
    simp only [declaredFields_of_eq_some hbody, Option.elim_some]

/-! ## A schema without an index -/

section NoIndex

variable {text model : String} {s body : List Char} {fault : DigitFault}
  (htext : text.toList = s) (hbody : modelBody? s model.toList = some body)
  (hindex : Index.ofText s = .error fault) (settings : Settings)

include htext hbody hindex

/-- Where the schema has no index, a model that it declares has no ledger. -/
theorem ledger_eq_error : ledger text model settings = .error fault := by
  rw [ledger, htext, hbody, hindex]
  rfl

theorem compile_eq_error : compile text model settings = .error fault := by
  rw [compile, ledger_eq_error htext hbody hindex]
  rfl

theorem compileDiagnostics_eq_nil : compileDiagnostics text model settings = [] := by
  rw [compileDiagnostics, ledger_eq_error htext hbody hindex]

end NoIndex

/-! ## Reserved names -/

@[simp] theorem unreserved_reserved (settings : Settings) : settings.unreserved.reserved = [] := rfl

/-- The relation of a field does not depend on the reserved names. -/
theorem relation?_unreserved (shape : FieldShape) (index : Index) (settings : Settings) :
    shape.relation? index settings.unreserved = shape.relation? index settings := rfl

/-- A line whose name is reserved gives no field, and any other gives what it gives when nothing is
reserved. -/
theorem field?_classify (line : List Char) (index : Index) (settings : Settings) :
    (classify line index settings).field? =
      (classify line index settings.unreserved).field?.filter
        fun f => !settings.reserved.contains f.name := by
  simp only [classify]
  cases FieldShape.read? (trim line) with
  | none => rfl
  | some shape =>
    have hname (r : Option Relation) : (shape.toField r index).name = String.ofList shape.name :=
      rfl
    simp only [unreserved_reserved, List.contains_nil, relation?_unreserved]
    by_cases hr : String.ofList shape.name ∈ settings.reserved
    · simp [Verdict.field?, Option.filter, hname, hr]
    · simp [Verdict.field?, Option.filter, hname, hr]

/-- The fields that lines give are those they give when nothing is reserved, less the reserved
ones. -/
theorem acceptedFields_eq_filter (index : Index) (settings : Settings)
    (lines : List (List Char)) :
    acceptedFields index settings lines =
      (acceptedFields index settings.unreserved lines).filter
        fun f => !settings.reserved.contains f.name := by
  induction lines with
  | nil => rfl
  | cons line lines ih =>
    rw [acceptedFields_cons, acceptedFields_cons, List.filter_append, ← ih, field?_classify]
    cases (classify line index settings.unreserved).field? with
    | none => rfl
    | some f => simp [Option.filter, List.filter_cons, apply_ite]

/-- The same for the fields of a model. -/
theorem declaredFields_eq_filter (index : Index) (text model : String) (settings : Settings) :
    declaredFields index text model settings =
      (declaredFields index text model settings.unreserved).filter
        fun f => !settings.reserved.contains f.name := by
  rw [declaredFields, declaredFields]
  cases modelBody? text.toList model.toList with
  | none => rfl
  | some body => exact acceptedFields_eq_filter _ settings _

/-- The fields of a model are what it compiles to when nothing is reserved, less the reserved
fields. -/
theorem compile_eq_filter (text model : String) (settings : Settings) :
    compile text model settings =
      (compile text model settings.unreserved).map fun fields =>
        fields.filter fun f => !settings.reserved.contains f.name := by
  rw [compile_eq_map, compile_eq_map, map_map_except]
  congr 1
  funext index
  rw [declaredFields_eq_filter]
  exact firstsBy_filter Field.name (fun name => !settings.reserved.contains name) [] _

/-- The reserved fields of a model are the reserved first occurrences. -/
theorem compileReserved_eq_map (text model : String) (settings : Settings) :
    compileReserved text model settings = (indexFor text model).map fun index =>
      (firstsBy Field.name [] (declaredFields index text model settings.unreserved)).filter
        fun f => settings.reserved.contains f.name := by
  rw [compileReserved, compile_eq_map, map_map_except]

/-- A filter of names keeps all fields of a name or none. -/
theorem filter_name_filter (p : String → Bool) (name : String) (fields : List Field) :
    (fields.filter fun f => p f.name).filter (fun f => f.name = name) =
      if p name then fields.filter (fun f => f.name = name) else [] := by
  rw [List.filter_filter]
  cases hp : p name with
  | true =>
    apply List.filter_congr
    intro f _
    by_cases hf : f.name = name
    · simp [hf, hp]
    · simp [hf]
  | false =>
    apply List.filter_eq_nil_iff.2
    intro f _
    by_cases hf : f.name = name
    · simp [hf, hp]
    · simp [hf]

/-- The fields of a model and its reserved fields are the two halves of what it compiles to when
nothing is reserved, in the same order, and all three fail alike.  Every name that one of its lines
declares is the name of exactly one field in exactly one half, and that field is the one declared
first. -/
theorem compile_partition (text model : String) (settings : Settings) :
    compile text model settings =
        (compile text model settings.unreserved).map
          (List.filter fun f => !settings.reserved.contains f.name) ∧
      compileReserved text model settings =
        (compile text model settings.unreserved).map
          (List.filter fun f => settings.reserved.contains f.name) ∧
      ∀ index, indexFor text model = .ok index → ∃ fields reserved,
        compile text model settings = .ok fields ∧
        compileReserved text model settings = .ok reserved ∧
        ∀ f ∈ declaredFields index text model settings.unreserved, ∃ g,
          (declaredFields index text model settings.unreserved).find? (fun h => h.name = f.name) =
            some g ∧
          fields.filter (fun h => h.name = f.name) =
            (if f.name ∈ settings.reserved then [] else [g]) ∧
          reserved.filter (fun h => h.name = f.name) =
            (if f.name ∈ settings.reserved then [g] else []) := by
  refine ⟨compile_eq_filter text model settings, rfl, ?_⟩
  intro index hindex
  have hall : compile text model settings.unreserved =
      .ok (firstsBy Field.name [] (declaredFields index text model settings.unreserved)) := by
    rw [compile_eq_map, hindex]
    rfl
  refine ⟨_, _, by rw [compile_eq_filter, hall]; rfl, by rw [compileReserved, hall]; rfl, ?_⟩
  intro f hf
  obtain ⟨g, hg⟩ := Option.isSome_iff_exists.1
    (List.find?_isSome (p := fun h => decide (h.name = f.name)) |>.2 ⟨f, hf, by simp⟩)
  -- Under each name the field that is declared first is kept.
  have hfirst := filter_key_firstsBy Field.name f.name
    (declaredFields index text model settings.unreserved)
  rw [hg, Option.toList_some] at hfirst
  refine ⟨g, hg, ?_, ?_⟩
  · rw [filter_name_filter (fun n => !settings.reserved.contains n), hfirst]
    by_cases hr : f.name ∈ settings.reserved
    · simp [hr]
    · simp [hr]
  · rw [filter_name_filter (fun n => settings.reserved.contains n), hfirst]
    by_cases hr : f.name ∈ settings.reserved
    · simp [hr]
    · simp [hr]

/-- A model that declares `t` twice, between two declarations of a reserved name. -/
def repeatedText : String := "model A \x7b\n id Int @id\n t String\n t Int\n id String\n\x7d"

/-- The model of `repeatedText` declares `t` twice and has it once, among its ordinary fields. -/
theorem compile_partition_repeated : ∃ index fields reserved,
    indexFor repeatedText "a" = .ok index ∧ compile repeatedText "a" {} = .ok fields ∧
      compileReserved repeatedText "a" {} = .ok reserved ∧
      ∃ f ∈ declaredFields index repeatedText "a" ({} : Settings).unreserved,
        f.name = "t" ∧ f.type = "Int" ∧ ∃ g,
          fields.filter (fun h => h.name = "t") = [g] ∧
          reserved.filter (fun h => h.name = "t") = [] := by
  have hindex : indexFor repeatedText "a" = .ok { models := ["A"] } := by decide +kernel
  have hdeclared : ∃ f ∈ declaredFields { models := ["A"] } repeatedText "a"
      ({} : Settings).unreserved, f.name = "t" ∧ f.type = "Int" := by decide +kernel
  obtain ⟨fields, reserved, hfields, hreserved, hall⟩ :=
    (compile_partition repeatedText "a" {}).2.2 _ hindex
  obtain ⟨f, hf, hname, htype⟩ := hdeclared
  obtain ⟨g, -, hordinary, hmanaged⟩ := hall f hf
  have hr : f.name ∉ ({} : Settings).reserved := by rw [hname]; decide
  rw [if_neg hr] at hordinary hmanaged
  rw [hname] at hordinary hmanaged
  exact ⟨_, fields, reserved, hindex, hfields, hreserved, f, hf, hname, htype, g, hordinary,
    hmanaged⟩

end FeatureGen.Schema

import FeatureGen.Proofs.Schema.Ledger
import FeatureGen.Proofs.Schema.Lookup
import Mathlib.Logic.ExistsUnique

/-!
# Every declaration is accounted for

A declaration in a model body ends in one of four ways (`Fate`).  It becomes a field of the model,
its name is reserved, it does not have the shape of a field, or it repeats a name.  In the last two
ways it is lost, and a diagnostic tells so.  `Fate.Holds` says what each way asks of a declaration,
of the names before it and of its entry in the ledger.

What the ledger says of one declaration is settled by its name (`classify_cases`), so that exactly
one way holds (`existsUnique_fate_ofLine`).  The ledger has one entry for each declaration, made
from the names that those before it have given (`exists_entry_ledgerFrom`), and its entries balance
(`length_eq_ledgerFrom`).  A relation that cannot be read changes none of this: its diagnostics tell
of no loss.

All this is said of a schema with an index.  Without one no declaration of a model is looked at, and
there is no account (`ledger_accounts`, `ledger_longDocument`).
-/

namespace FeatureGen.Schema

open FeatureGen.Text

variable {model : String} {index : Index} {settings : Settings} {seen : List String}
  {line : List Char} {entry : Entry}

/-! ## Names and losses -/

/-- The name in a declaration, if it has the shape of a field. -/
def nameOf? (line : List Char) : Option String :=
  (FieldShape.read? (trim line)).map fun shape => String.ofList shape.name

/-- Whether the declaration has a reserved name. -/
def hasReservedName (settings : Settings) (line : List Char) : Bool :=
  (nameOf? line).any fun name => settings.reserved.contains name

/-- The names that declarations give to fields, those of reserved ones left out. -/
def acceptedNames (settings : Settings) (lines : List (List Char)) : List String :=
  (lines.filterMap nameOf?).filter fun name => !settings.reserved.contains name

def Diagnostic.isUnparsable : Diagnostic → Bool
  | .unparsableLine _ => true
  | _ => false

def Diagnostic.isDuplicate : Diagnostic → Bool
  | .duplicateField _ _ => true
  | _ => false

/-- What an entry tells of a declaration that is lost. -/
def Entry.losses (entry : Entry) : List Diagnostic :=
  entry.diagnostics.filter fun d => d.isUnparsable || d.isDuplicate

/-! ## The ways to end -/

/-- The ways in which a declaration ends. -/
inductive Fate
  | field
  | reserved
  | unparsable
  | duplicate
  deriving DecidableEq, Repr

/-- The declaration ends in this way after fields of the given names, and its entry says so. -/
def Fate.Holds (model : String) (settings : Settings) (seen : List String) (line : List Char)
    (entry : Entry) : Fate → Prop
  | .field => ∃ f, entry.ending = .field f ∧ nameOf? line = some f.name ∧
      f.name ∉ settings.reserved ∧ f.name ∉ seen ∧ entry.losses = []
  | .reserved => ∃ name, entry.ending = .reserved name ∧ nameOf? line = some name ∧
      name ∈ settings.reserved ∧ entry.losses = []
  | .unparsable => entry.ending = .unparsable ∧ nameOf? line = none ∧
      entry.losses = [.unparsableLine (String.ofList line)]
  | .duplicate => ∃ name, entry.ending = .duplicate name ∧ nameOf? line = some name ∧
      name ∉ settings.reserved ∧ name ∈ seen ∧ entry.losses = [.duplicateField model name]

def Ending.fate : Ending → Fate
  | .field _ => .field
  | .reserved _ => .reserved
  | .unparsable => .unparsable
  | .duplicate _ => .duplicate

/-- No entry says two things. -/
theorem Fate.Holds.eq_fate {fate : Fate} (h : fate.Holds model settings seen line entry) :
    fate = entry.ending.fate := by
  cases fate with
  | field =>
    obtain ⟨f, hending, -⟩ := h
    rw [hending]
    rfl
  | reserved =>
    obtain ⟨name, hending, -⟩ := h
    rw [hending]
    rfl
  | unparsable =>
    rw [h.1]
    rfl
  | duplicate =>
    obtain ⟨name, hending, -⟩ := h
    rw [hending]
    rfl

/-- Only the membership in the names before a declaration counts. -/
theorem Fate.Holds.of_mem_iff {fate : Fate} {seen' : List String}
    (h : fate.Holds model settings seen line entry) (hseen : ∀ name, name ∈ seen' ↔ name ∈ seen) :
    fate.Holds model settings seen' line entry := by
  cases fate with
  | field =>
    obtain ⟨f, hending, hname, hfree, hnew, hlosses⟩ := h
    exact ⟨f, hending, hname, hfree, fun hmem => hnew ((hseen _).1 hmem), hlosses⟩
  | reserved => exact h
  | unparsable => exact h
  | duplicate =>
    obtain ⟨name, hending, hname, hfree, hmem, hlosses⟩ := h
    exact ⟨name, hending, hname, hfree, (hseen _).2 hmem, hlosses⟩

/-! ## One declaration -/

/-- What is told about the relation of a field tells of no loss. -/
theorem isUnparsable_or_isDuplicate_of_relation {field type : String}
    {attr : Except RelationFault (Option RelationAttribute)} {d : Diagnostic}
    (h : d ∈ relationDiagnostics field type attr index settings) :
    (d.isUnparsable || d.isDuplicate) = false := by
  cases attr with
  | error fault =>
    rw [List.mem_singleton.1 h]
    rfl
  | ok attr =>
    cases attr with
    | none => cases h
    | some a =>
      rw [relationDiagnostics] at h
      split at h
      · rw [List.mem_singleton.1 h]
        rfl
      · cases h

/-- The name of a declaration settles what becomes of it. -/
theorem classify_cases (line : List Char) (index : Index) (settings : Settings) :
    (nameOf? line = none ∧ classify line index settings = .unparsable ∧
      classifyDiagnostics line index settings = [.unparsableLine (String.ofList line)]) ∨
    (∃ name, nameOf? line = some name ∧ name ∈ settings.reserved ∧
      classify line index settings = .reserved name ∧
      classifyDiagnostics line index settings = []) ∨
    ∃ f, nameOf? line = some f.name ∧ f.name ∉ settings.reserved ∧
      classify line index settings = .field f ∧
      (classifyDiagnostics line index settings).filter
        (fun d => d.isUnparsable || d.isDuplicate) = [] := by
  simp only [nameOf?, classify, classifyDiagnostics]
  cases FieldShape.read? (trim line) with
  | none => exact Or.inl ⟨rfl, rfl, rfl⟩
  | some shape =>
    by_cases hr : String.ofList shape.name ∈ settings.reserved
    · refine Or.inr (Or.inl ⟨String.ofList shape.name, rfl, hr, ?_, ?_⟩)
      · simp [hr]
      · simp [hr]
    · refine Or.inr (Or.inr ⟨shape.toField (shape.relation? index settings) index, rfl, hr, ?_, ?_⟩)
      · simp [hr]
      · have hcontains : settings.reserved.contains (String.ofList shape.name) = false := by
          simpa using hr
        simp only [hcontains, Bool.false_eq_true, if_false]
        apply List.filter_eq_nil_iff.2
        intro d hd
        rw [isUnparsable_or_isDuplicate_of_relation hd]
        exact Bool.false_ne_true

/-- The entry of a declaration says one thing about it. -/
theorem existsUnique_fate_ofLine (model : String) (index : Index) (settings : Settings)
    (seen : List String) (line : List Char) :
    ∃! fate : Fate,
      fate.Holds model settings seen line (Entry.ofLine model index settings seen line) := by
  refine existsUnique_of_exists_of_unique ?_ fun _ _ h h' => h.eq_fate.trans h'.eq_fate.symm
  rcases classify_cases line index settings with
    ⟨hname, hclassify, htold⟩ | ⟨name, hname, hr, hclassify, htold⟩ |
      ⟨f, hname, hr, hclassify, htold⟩
  · refine ⟨.unparsable, ?_, hname, ?_⟩
    · simp [Entry.ofLine, hclassify, Verdict.ending]
    · simp [Entry.losses, Entry.ofLine, hclassify, htold, Verdict.ending, Ending.diagnostics,
        Diagnostic.isUnparsable]
  · refine ⟨.reserved, name, ?_, hname, hr, ?_⟩
    · simp [Entry.ofLine, hclassify, Verdict.ending]
    · simp [Entry.losses, Entry.ofLine, hclassify, htold, Verdict.ending, Ending.diagnostics]
  · by_cases hseen : f.name ∈ seen
    · refine ⟨.duplicate, f.name, ?_, hname, hr, hseen, ?_⟩
      · simp [Entry.ofLine, hclassify, Verdict.ending, hseen]
      · rw [Entry.losses, Entry.ofLine, List.filter_append, htold, hclassify]
        simp [Verdict.ending, hseen, Ending.diagnostics, Diagnostic.isDuplicate]
    · refine ⟨.field, f, ?_, hname, hr, hseen, ?_⟩
      · simp [Entry.ofLine, hclassify, Verdict.ending, hseen]
      · rw [Entry.losses, Entry.ofLine, List.filter_append, htold, hclassify]
        simp [Verdict.ending, hseen, Ending.diagnostics]

/-! ## The run over a body -/

theorem acceptedNames_cons (settings : Settings) (line : List Char) (lines : List (List Char)) :
    acceptedNames settings (line :: lines) =
      acceptedNames settings [line] ++ acceptedNames settings lines := by
  rw [acceptedNames, acceptedNames, acceptedNames, ← List.filter_append, ← List.filterMap_append]
  rfl

/-- The names of the fields that lines give are those that are accepted. -/
theorem map_name_acceptedFields (index : Index) (settings : Settings)
    (lines : List (List Char)) :
    (acceptedFields index settings lines).map Field.name = acceptedNames settings lines := by
  induction lines with
  | nil => rfl
  | cons line lines ih =>
    rw [acceptedFields_cons, List.map_append, ih, acceptedNames_cons]
    congr 1
    rcases classify_cases line index settings with
      ⟨hname, hclassify, -⟩ | ⟨name, hname, hr, hclassify, -⟩ | ⟨f, hname, hr, hclassify, -⟩
    · simp [acceptedNames, hname, hclassify, Verdict.field?]
    · simp [acceptedNames, hname, hclassify, Verdict.field?, hr]
    · simp [acceptedNames, hname, hclassify, Verdict.field?, hr]

/-- The names seen after an entry. -/
def Entry.namesAfter (seen : List String) (entry : Entry) : List String :=
  match entry.ending.field? with
  | some f => f.name :: seen
  | none => seen

theorem ledgerFrom_cons (model : String) (index : Index) (settings : Settings)
    (seen : List String) (line : List Char) (lines : List (List Char)) :
    ledgerFrom model index settings seen (line :: lines) =
      Entry.ofLine model index settings seen line ::
        ledgerFrom model index settings
          ((Entry.ofLine model index settings seen line).namesAfter seen) lines := rfl

/-- The names seen after a declaration are those before it and the one it gives. -/
theorem mem_namesAfter_iff (model : String) (index : Index) (settings : Settings)
    (seen : List String) (line : List Char) (name : String) :
    name ∈ (Entry.ofLine model index settings seen line).namesAfter seen ↔
      name ∈ seen ∨ name ∈ acceptedNames settings [line] := by
  rcases classify_cases line index settings with
    ⟨hname, hclassify, -⟩ | ⟨other, hname, hr, hclassify, -⟩ | ⟨f, hname, hr, hclassify, -⟩
  · simp [acceptedNames, Entry.namesAfter, Entry.ofLine, hname, hclassify, Verdict.ending,
      Ending.field?]
  · simp [acceptedNames, Entry.namesAfter, Entry.ofLine, hname, hclassify, Verdict.ending,
      Ending.field?, hr]
  · by_cases hseen : f.name ∈ seen
    · have hacc : name ∈ acceptedNames settings [line] → name ∈ seen := by
        intro hmem
        have heq : name = f.name := by simpa [acceptedNames, hname, hr] using hmem
        exact heq ▸ hseen
      simp only [Entry.namesAfter, Entry.ofLine, hclassify, Verdict.ending, List.contains_iff_mem,
        hseen, if_true, Ending.field?]
      exact ⟨Or.inl, fun h => h.elim id hacc⟩
    · simp [acceptedNames, Entry.namesAfter, Entry.ofLine, hname, hclassify, Verdict.ending,
        Ending.field?, hr, hseen, or_comm]

/-- The entry of a declaration is made from the names that those before it have given. -/
theorem exists_entry_ledgerFrom (model : String) (index : Index) (settings : Settings)
    (seen : List String) (earlier : List (List Char)) (line : List Char)
    (later : List (List Char)) :
    ∃ seen', (∀ name, name ∈ seen' ↔ name ∈ seen ∨ name ∈ acceptedNames settings earlier) ∧
      (ledgerFrom model index settings seen (earlier ++ line :: later))[earlier.length]? =
        some (Entry.ofLine model index settings seen' line) := by
  induction earlier generalizing seen with
  | nil => exact ⟨seen, fun name => by simp [acceptedNames], rfl⟩
  | cons first earlier ih =>
    obtain ⟨seen', hseen', hentry⟩ :=
      ih ((Entry.ofLine model index settings seen first).namesAfter seen)
    refine ⟨seen', fun name => ?_, hentry⟩
    rw [hseen', mem_namesAfter_iff, acceptedNames_cons settings first earlier, List.mem_append,
      or_assoc]

theorem length_ledgerFrom (model : String) (index : Index) (settings : Settings)
    (seen : List String) (lines : List (List Char)) :
    (ledgerFrom model index settings seen lines).length = lines.length := by
  induction lines generalizing seen with
  | nil => rfl
  | cons line lines ih => rw [ledgerFrom_cons, List.length_cons, ih, List.length_cons]

/-- Only losses are counted by a count of diagnostics that tell of one. -/
theorem countP_losses {p : Diagnostic → Bool}
    (hp : ∀ d, p d = true → (d.isUnparsable || d.isDuplicate) = true) (entry : Entry) :
    entry.losses.countP p = entry.diagnostics.countP p := by
  rw [Entry.losses, List.countP_filter]
  apply List.countP_congr
  intro d _
  constructor
  · intro h
    exact (Bool.and_eq_true_iff.1 h).1
  · intro h
    rw [h, hp d h]
    rfl

/-- One declaration adds one to one side of the balance. -/
theorem count_ofLine (model : String) (index : Index) (settings : Settings) (seen : List String)
    (line : List Char) :
    let entry := Entry.ofLine model index settings seen line
    entry.ending.field?.toList.length + [line].countP (hasReservedName settings) +
      entry.diagnostics.countP (·.isUnparsable) + entry.diagnostics.countP (·.isDuplicate) = 1 := by
  intro entry
  obtain ⟨fate, hfate, -⟩ := existsUnique_fate_ofLine model index settings seen line
  rw [← countP_losses (fun d h => by rw [h, Bool.true_or]) entry,
    ← countP_losses (fun d h => by rw [h, Bool.or_true]) entry]
  cases fate with
  | field =>
    obtain ⟨f, hending, hname, hfree, -, hlosses⟩ := hfate
    simp [entry, hending, hlosses, hasReservedName, hname, hfree, Ending.field?]
  | reserved =>
    obtain ⟨name, hending, hname, hr, hlosses⟩ := hfate
    simp [entry, hending, hlosses, hasReservedName, hname, hr, Ending.field?]
  | unparsable =>
    obtain ⟨hending, hname, hlosses⟩ := hfate
    simp [entry, hending, hlosses, hasReservedName, hname, Ending.field?, Diagnostic.isUnparsable,
      Diagnostic.isDuplicate]
  | duplicate =>
    obtain ⟨name, hending, hname, hfree, -, hlosses⟩ := hfate
    simp [entry, hending, hlosses, hasReservedName, hname, hfree, Ending.field?,
      Diagnostic.isUnparsable, Diagnostic.isDuplicate]

/-- Every declaration is a field, has a reserved name or is told to be lost. -/
theorem length_eq_ledgerFrom (model : String) (index : Index) (settings : Settings)
    (seen : List String) (lines : List (List Char)) :
    let entries := ledgerFrom model index settings seen lines
    lines.length =
      (entries.filterMap (·.ending.field?)).length + lines.countP (hasReservedName settings) +
        (entries.flatMap (·.diagnostics)).countP (·.isUnparsable) +
        (entries.flatMap (·.diagnostics)).countP (·.isDuplicate) := by
  intro entries
  induction lines generalizing seen with
  | nil => rfl
  | cons line lines ih =>
    have hstep := count_ofLine model index settings seen line
    have hrest := ih ((Entry.ofLine model index settings seen line).namesAfter seen)
    have hfields {e : Entry} {es : List Entry} : ((e :: es).filterMap (·.ending.field?)).length =
        e.ending.field?.toList.length + (es.filterMap (·.ending.field?)).length := by
      rw [List.filterMap_cons]
      cases e.ending.field? with
      | none => simp
      | some f => simp [Nat.add_comm]
    have hlines : (line :: lines).countP (hasReservedName settings) =
        [line].countP (hasReservedName settings) + lines.countP (hasReservedName settings) := by
      rw [← List.singleton_append, List.countP_append]
    simp only [entries, ledgerFrom_cons, hfields, hlines, List.flatMap_cons, List.countP_append,
      List.length_cons] at hstep hrest ⊢
    omega

/-! ## The whole account -/

/-- If there is an index, every declaration of a model ends in exactly one way, and the account of
all of them balances.  The fields have the names that are accepted, each where it first occurs.  If
a number has too many digits for there to be an index, nothing is compiled and nothing is told. -/
theorem ledger_accounts (text model : String) (settings : Settings) {body : List Char}
    (hbody : modelBody? text.toList model.toList = some body) :
    let lines := fieldLines body
    let told := compileDiagnostics text model settings
    (∀ index, Index.ofText text.toList = .ok index → ∃ entries fields,
      ledger text model settings = .ok entries ∧ compile text model settings = .ok fields ∧
      entries.length = lines.length ∧
      (∀ earlier line later, lines = earlier ++ line :: later →
        ∃ entry, entries[earlier.length]? = some entry ∧
          ∃! fate : Fate,
            fate.Holds model settings (acceptedNames settings earlier) line entry) ∧
      lines.length = fields.length + lines.countP (hasReservedName settings) +
        told.countP (·.isUnparsable) + told.countP (·.isDuplicate) ∧
      fields.map Field.name = firsts (acceptedNames settings lines)) ∧
    ∀ fault, Index.ofText text.toList = .error fault →
      ledger text model settings = .error fault ∧ compile text model settings = .error fault ∧
        told = [] := by
  intro lines told
  constructor
  · intro index hindex
    have hledger : ledger text model settings =
        .ok (ledgerFrom model index settings [] lines) := by
      rw [ledger, hbody, hindex]
      rfl
    have htold : told = (ledgerFrom model index settings [] lines).flatMap (·.diagnostics) := by
      simp only [told, compileDiagnostics, hledger]
    have hcompile : compile text model settings =
        .ok ((ledgerFrom model index settings [] lines).filterMap (·.ending.field?)) := by
      rw [compile, hledger]
      rfl
    refine ⟨_, _, hledger, hcompile, length_ledgerFrom .., ?_, ?_, ?_⟩
    · intro earlier line later hlines
      obtain ⟨seen, hseen, hentry⟩ :=
        exists_entry_ledgerFrom model index settings [] earlier line later
      refine ⟨_, by rw [hlines, hentry], ?_⟩
      obtain ⟨fate, hfate, hunique⟩ := existsUnique_fate_ofLine model index settings seen line
      have hmem : ∀ name, name ∈ acceptedNames settings earlier ↔ name ∈ seen := fun name => by
        simp [hseen]
      exact ⟨fate, hfate.of_mem_iff hmem, fun other hother =>
        hunique other (hother.of_mem_iff fun name => (hmem name).symm)⟩
    · rw [htold]
      exact length_eq_ledgerFrom model index settings [] lines
    · rw [filterMap_field?_ledgerFrom, ← map_name_acceptedFields index]
      exact (firstsBy_map Function.injective_id (fun _ => rfl) [] _).symm
  · intro fault hindex
    exact ⟨ledger_eq_error rfl hbody hindex settings, compile_eq_error rfl hbody hindex settings,
      compileDiagnostics_eq_nil rfl hbody hindex settings⟩

/-- A model with a reserved name, a relation that cannot be read, a line without a type and a name
that is repeated. -/
def mixedText : String := "model A \x7b\n id Int\n t B @relation(x\n ?\n t Int\n\x7d"

/-- Of the four declarations of `mixedText` one becomes a field.  The last one ends in exactly one
way after a field named `t`. -/
theorem ledger_accounts_mixed :
    ∃ body index entries fields, modelBody? mixedText.toList "A".toList = some body ∧
      Index.ofText mixedText.toList = .ok index ∧
      ledger mixedText "A" {} = .ok entries ∧ compile mixedText "A" {} = .ok fields ∧
      entries.length = 4 ∧ fields.map Field.name = ["t"] ∧
      4 = 1 + 1 + (compileDiagnostics mixedText "A" {}).countP (·.isUnparsable) +
        (compileDiagnostics mixedText "A" {}).countP (·.isDuplicate) ∧
      ∃ entry, entries[3]? = some entry ∧
        ∃! fate : Fate, fate.Holds "A" {} ["t"] "t Int".toList entry := by
  have hindex : Index.ofText mixedText.toList = .ok { models := ["A"] } := by decide +kernel
  have hbody : modelBody? mixedText.toList "A".toList =
      some "\n id Int\n t B @relation(x\n ?\n t Int\n".toList := by decide
  obtain ⟨entries, fields, hledger, hcompile, hlength, hends, hbalance, hnames⟩ :=
    (ledger_accounts mixedText "A" {} hbody).1 _ hindex
  have hlines : fieldLines "\n id Int\n t B @relation(x\n ?\n t Int\n".toList =
      ["id Int".toList, "t B @relation(x".toList, "?".toList, "t Int".toList] := by decide +kernel
  have haccepted : acceptedNames {} ["id Int".toList, "t B @relation(x".toList, "?".toList,
      "t Int".toList] = ["t", "t"] := by decide
  have hreserved : ["id Int".toList, "t B @relation(x".toList, "?".toList, "t Int".toList].countP
      (hasReservedName {}) = 1 := by decide
  rw [hlines] at hlength hbalance hnames
  rw [haccepted] at hnames
  have hfields : fields.length = 1 := by
    rw [← List.length_map (f := Field.name), hnames]
    rfl
  rw [hreserved, hfields] at hbalance
  refine ⟨_, _, entries, fields, hbody, hindex, hledger, hcompile, hlength, hnames, hbalance, ?_⟩
  obtain ⟨entry, hentry, hfate⟩ := hends
    ["id Int".toList, "t B @relation(x".toList, "?".toList] "t Int".toList [] hlines
  have hearlier : acceptedNames {} ["id Int".toList, "t B @relation(x".toList, "?".toList] =
      ["t"] := by decide
  rw [hearlier] at hfate
  exact ⟨entry, hentry, hfate⟩

/-- The one declaration of the model in `longDocument` ends in no way: it becomes no field, its name
is not reserved, and nothing is told. -/
theorem ledger_longDocument :
    ∃ body, modelBody? longDocument.text "Post".toList = some body ∧
      fieldLines body = ["title String".toList] ∧
      (fieldLines body).countP (hasReservedName {}) = 0 ∧
      ledger (String.ofList longDocument.text) "Post" {} = .error ⟨4301⟩ ∧
      compile (String.ofList longDocument.text) "Post" {} = .error ⟨4301⟩ ∧
      compileDiagnostics (String.ofList longDocument.text) "Post" {} = [] := by
  have hlines : fieldLines " title String ".toList = ["title String".toList] := by
    with_unfolding_all decide
  have hbody := modelBody?_longDocument
  have hindex := ofText_longDocument
  refine ⟨_, hbody, hlines, ?_, ledger_eq_error String.toList_ofList hbody hindex {},
    compile_eq_error String.toList_ofList hbody hindex {},
    compileDiagnostics_eq_nil String.toList_ofList hbody hindex {}⟩
  rw [hlines]
  decide

end FeatureGen.Schema

import FeatureGen.Proofs.Feature.Connections
import FeatureGen.Proofs.Feature.Origin
import FeatureGen.Proofs.Feature.Scope
import FeatureGen.Proofs.Schema.Target

/-!
# What is validated and what is written

The interface says how the input of a client is validated, and the procedure writes its parts to the
database.  Each of the two files goes through the fields on its own.  Both lists are read from the
texts by one reader, `objectKeys?`: it skips all lines up to the one that opens the object, and from
there it wants a key on every line.

In the interface all lines before the object are single ones, since the models that are imported
have no line feeds.  In the procedure the primary key and its type, which may have any characters,
stand before the data.  So the procedure is cut behind the line that opens the operation `create`
(`exists_procedureFile_eq`), and is read as a whole only if the two stand on single lines
(`objectKeys?_procedureFile`).

Of the fields the procedure reads those that a client gives and the first one with the name of the
primary key, and the controller reads none (`render_congr`).
-/

namespace FeatureGen.Feature

open FeatureGen.Text
open FeatureGen.Schema (Field Settings compile fallbackFields pairNames)

variable {f : Feature} {opening closing : String} {lines : List (List Char)} {level : Nat}

/-! ## The keys of an object -/

/-- The key on a line of an object. -/
def entryKey? (line : List Char) : Option String :=
  (spanSome? isWord (line.dropWhile (· == ' '))).bind fun (key, rest) =>
    (after? ": ".toList rest).map fun _ => String.ofList key

/-- Whether a line closes an object. -/
def closesObject (line : List Char) : Bool := (line.dropWhile (· == ' ')).head? == some '\x7d'

/-- The keys on the lines up to the one that closes the object. -/
def keysUntilClosed? : List (List Char) → Option (List String)
  | [] => none
  | line :: lines =>
    if closesObject line then some []
    else (entryKey? line).bind fun key => (keysUntilClosed? lines).map (key :: ·)

/-- The keys of the object that the first line of a given text opens. -/
def objectKeys? (opening : String) : List (List Char) → Option (List String)
  | [] => none
  | line :: lines =>
    if line = opening.toList then keysUntilClosed? lines else objectKeys? opening lines

theorem every_blank_indentation (level : Nat) :
    Every (· == ' ') (indentation level).toList := by
  intro c hc
  rw [indentation, String.toList_ofList] at hc
  rw [List.eq_of_mem_replicate hc]
  rfl

theorem dropWhile_indentation {s : List Char} (level : Nat) (h : NotStarting (· == ' ') s) :
    ((indentation level).toList ++ s).dropWhile (· == ' ') = s :=
  dropWhile_append_of_notStarting (every_blank_indentation level) h

/-- An entry is read as its key. -/
theorem keysUntilClosed?_entry {key : String} (hkey : IsWordText key.toList) (level : Nat)
    (value : String) (rest : List (List Char)) :
    keysUntilClosed? ((indentation level ++ key ++ ": " ++ value ++ ",").toList :: rest) =
      (keysUntilClosed? rest).map (key :: ·) := by
  have hsplit : (indentation level ++ key ++ ": " ++ value ++ ",").toList =
      (indentation level).toList ++ (key.toList ++ (": ".toList ++ (value ++ ",").toList)) := by
    simp
  obtain ⟨c, w, hw⟩ := List.exists_cons_of_ne_nil hkey.1
  have hc : isWord c = true := hkey.2 c (hw ▸ List.mem_cons_self)
  have hstart (t : List Char) : NotStarting (· == ' ') (key.toList ++ t) := by
    rw [hw, List.cons_append, notStarting_cons, beq_eq_false_iff_ne]
    rintro rfl
    cases hc
  have hopen : closesObject (indentation level ++ key ++ ": " ++ value ++ ",").toList = false := by
    rw [closesObject, hsplit, dropWhile_indentation level (hstart _), hw, List.cons_append,
      List.head?_cons, beq_eq_false_iff_ne]
    rintro h
    obtain rfl := Option.some.inj h
    cases hc
  have hread : entryKey? (indentation level ++ key ++ ": " ++ value ++ ",").toList = some key := by
    have hcolon : NotStarting isWord (": ".toList ++ (value ++ ",").toList) :=
      notStarting_cons.2 rfl
    rw [entryKey?, hsplit, dropWhile_indentation level (hstart _),
      spanSome?_append hkey.1 hkey.2 hcolon, Option.bind_some]
    show (after? ": ".toList (": ".toList ++ _)).map (fun _ => String.ofList key.toList) = _
    rw [after?_append, Option.map_some, String.ofList_toList]
  rw [keysUntilClosed?, hopen, if_neg Bool.false_ne_true, hread, Option.bind_some]

/-! ## Lines before the object -/

/-- A single line that does not open the object. -/
structure Skipped (opening line : String) : Prop where
  single : '\n' ∉ line.toList
  ne : line.toList ≠ opening.toList

theorem objectKeys?_skipped {lines : List String} (h : ∀ line ∈ lines, Skipped opening line)
    (rest : List (List Char)) :
    objectKeys? opening (lines.flatMap codeLines ++ rest) = objectKeys? opening rest := by
  induction lines with
  | nil => rfl
  | cons line lines ih =>
    obtain ⟨hline, hlines⟩ := List.forall_mem_cons.1 h
    rw [List.flatMap_cons, codeLines_of_not_mem hline.single, List.append_assoc,
      List.singleton_append, objectKeys?, if_neg hline.ne, ih hlines]

/-- The first character of a line behind its blanks. -/
def firstChar? (line : String) : Option Char := (line.toList.dropWhile (· == ' ')).head?

/-- A single line whose text starts with another character. -/
structure StartsOtherwise (c : Char) (line : String) : Prop where
  single : '\n' ∉ line.toList
  start : (firstChar? line).any (· != c) = true

namespace StartsOtherwise

variable {c : Char} {line text s t : String}

theorem literal {w : List Char}
    (h : '\n' ∉ w ∧ (w.dropWhile (· == ' ')).head?.any (· != c) = true) :
    StartsOtherwise c (String.ofList w) where
  single := not_mem_literal h.1
  start := by
    rw [firstChar?, String.toList_ofList]
    exact h.2

theorem append (h : StartsOtherwise c s) (ht : '\n' ∉ t.toList) : StartsOtherwise c (s ++ t) where
  single := not_mem_append h.single ht
  start := by
    have hstart := h.start
    rw [firstChar?] at hstart
    rw [firstChar?, String.toList_append, List.dropWhile_append]
    cases hs : s.toList.dropWhile (· == ' ') with
    | nil =>
      rw [hs] at hstart
      cases hstart
    | cons d r =>
      rw [hs] at hstart
      exact hstart

theorem append_literal {w : List Char} (h : StartsOtherwise c s) (hw : '\n' ∉ w) :
    StartsOtherwise c (s ++ String.ofList w) :=
  h.append (not_mem_literal hw)

theorem indented (h : StartsOtherwise c text) (level : Nat) :
    StartsOtherwise c (indentation level ++ text) where
  single := not_mem_append (by simp [indentation]) h.single
  start := by
    rw [firstChar?, String.toList_append,
      List.dropWhile_append_of_pos (every_blank_indentation level)]
    exact h.start

theorem skipped (h : StartsOtherwise c line) (hopening : firstChar? opening = some c) :
    Skipped opening line := by
  refine ⟨h.single, fun heq => ?_⟩
  have hstart := h.start
  rw [firstChar?, heq, ← firstChar?, hopening] at hstart
  simp at hstart

end StartsOtherwise

/-! ## Entries for the members of a list -/

section Entries

variable {α : Type} {key value : α → String} {l : List α}

theorem linesOf_map_entry (level : Nat) (key value : α → String) (l : List α) :
    linesOf level (l.map fun a => .entry (key a) (value a)) =
      l.map fun a => indentation level ++ key a ++ ": " ++ value a ++ "," := by
  induction l with
  | nil => rfl
  | cons a l ih =>
    rw [List.map_cons, List.map_cons, linesOf, ih]
    rfl

/-- The keys of the entries are read back if their values stand on single lines. -/
theorem objectKeys?_entries (hopening : '\n' ∉ opening.toList) (hclosing : '\n' ∉ closing.toList)
    (hcloses : closesObject closing.toList = true) (hkeys : ∀ a ∈ l, IsWordText (key a).toList)
    (hvalues : ∀ a ∈ l, '\n' ∉ (value a).toList) (rest : List (List Char)) :
    objectKeys? opening
        ((opening :: linesOf level (l.map fun a => .entry (key a) (value a)) ++
          [closing]).flatMap codeLines ++ rest) =
      some (l.map key) := by
  rw [List.cons_append, List.flatMap_cons, codeLines_of_not_mem hopening, List.flatMap_append,
    List.flatMap_singleton, codeLines_of_not_mem hclosing, linesOf_map_entry, List.append_assoc,
    List.append_assoc, List.singleton_append, objectKeys?, if_pos rfl]
  induction l with
  | nil =>
    show keysUntilClosed? (closing.toList :: rest) = some []
    rw [keysUntilClosed?, if_pos hcloses]
  | cons a l ih =>
    have hkey := hkeys a List.mem_cons_self
    have hline : '\n' ∉ (indentation level ++ key a ++ ": " ++ value a ++ ",").toList := by
      have hfeed : '\n' ∉ (key a).toList := hkey.not_mem (by decide)
      simp [indentation, hfeed, hvalues a List.mem_cons_self]
    rw [List.map_cons, List.flatMap_cons, codeLines_of_not_mem hline, List.append_assoc,
      List.singleton_append, keysUntilClosed?_entry hkey,
      ih (fun b hb => hkeys b (List.mem_cons_of_mem a hb))
        fun b hb => hvalues b (List.mem_cons_of_mem a hb)]
    rfl

end Entries

/-! ## The input in the interface -/

/-- The line that opens the input schema in the interface. -/
def schemaOpening (name : String) : String :=
  "export const " ++ camelCase name ++ "Schema = z.object(\x7b"

/-- The statements of the interface before the input schema. -/
def interfaceHeads (f : Feature) : Module :=
  [.importNames ["z"] "zod"] ++
  (f.relatedModels.map fun target =>
    .importTypes [target] ("@/features/" ++ lowercase target)) ++
  [.blank, .doc ("Validation schema for " ++ f.model ++ " input.")]

theorem exists_interfaceFile_eq_heads (f : Feature) : ∃ rest : Module,
    f.interfaceFile =
      f.interfaceHeads ++ .constant f.schemaConstant "z.object" f.schemaEntries :: rest :=
  ⟨_, (List.append_assoc _ [_, _] _).symm⟩

theorem not_mem_lowercase {s : String} (h : '\n' ∉ s.toList) : '\n' ∉ (lowercase s).toList := by
  intro hmem
  rw [lowercase, String.toList_ofList] at hmem
  rcases isPlain_or_mem_of_mem_lowerFrom hmem with hplain | hmem
  · cases hplain
  · exact h hmem

theorem skipped_of_mem_interfaceHeads (htargets : ∀ t ∈ f.relatedModels, '\n' ∉ t.toList) :
    ∀ line ∈ f.interfaceHeads.flatMap Statement.lines, Skipped (schemaOpening f.name) line := by
  have hfirst : firstChar? (schemaOpening f.name) = some 'e' := by
    simp [firstChar?, schemaOpening]
  have hmodel : '\n' ∉ f.model.toList := not_mem_model f (by decide) (by decide)
  rw [interfaceHeads, List.flatMap_append, List.flatMap_append, List.forall_mem_append,
    List.forall_mem_append]
  refine ⟨⟨?_, ?_⟩, ?_⟩
  · show ∀ line ∈ [_], _
    rw [List.forall_mem_singleton]
    refine StartsOtherwise.skipped (.append (.append (.literal ?_) ?_) ?_) hfirst <;> decide
  · intro line hline
    obtain ⟨s, hs, hline⟩ := List.mem_flatMap.1 hline
    obtain ⟨t, ht, rfl⟩ := List.mem_map.1 hs
    obtain rfl := List.mem_singleton.1 hline
    have hnames : '\n' ∉ (braced [t]).toList := by simp [braced, htargets t ht]
    have hsource : '\n' ∉ (source ("@/features/" ++ lowercase t)).toList := by
      simp [source, not_mem_lowercase (htargets t ht)]
    exact StartsOtherwise.skipped (.append (.append (.literal (by decide)) hnames) hsource) hfirst
  · show ∀ line ∈ [_, _, _, _], _
    have htext : '\n' ∉ ("Validation schema for " ++ f.model ++ " input.").toList :=
      not_mem_enclosed hmodel (by decide) (by decide)
    have hempty : Skipped (schemaOpening f.name) "" :=
      ⟨List.not_mem_nil, fun heq => by simp [schemaOpening] at heq⟩
    rw [List.forall_mem_cons, List.forall_mem_cons, List.forall_mem_cons,
      List.forall_mem_singleton]
    exact ⟨hempty, StartsOtherwise.skipped (.literal (by decide)) hfirst,
      StartsOtherwise.skipped (.append (.literal (by decide)) htext) hfirst,
      StartsOtherwise.skipped (.literal (by decide)) hfirst⟩

/-- The keys of the input schema are the names of the fields that a client gives. -/
theorem objectKeys?_interfaceFile (hnames : ∀ i ∈ f.inputFields, IsWordText i.name.toList)
    (hvalidators : ∀ i ∈ f.inputFields, '\n' ∉ i.validator.toList)
    (htargets : ∀ t ∈ f.relatedModels, '\n' ∉ t.toList) :
    objectKeys? (schemaOpening f.name) (codeLines f.interfaceFile.render) =
      some (f.inputFields.map Field.name) := by
  have hconstant : '\n' ∉ f.schemaConstant.toList :=
    not_mem_schemaConstant f (by decide) (by decide) (by decide)
  have hopening : schemaOpening f.name =
      "export const " ++ f.schemaConstant ++ " = " ++ "z.object" ++ "(\x7b" := by
    rw [← String.toList_inj]
    simp [schemaOpening, schemaConstant, camelCase, model]
  obtain ⟨rest, hsplit⟩ := exists_interfaceFile_eq_heads f
  rw [codeLines_render, hsplit, List.flatMap_append, List.flatMap_cons, List.flatMap_append,
    List.flatMap_append, List.append_assoc,
    objectKeys?_skipped (skipped_of_mem_interfaceHeads htargets), List.append_assoc, hopening]
  refine objectKeys?_entries ?_ (by decide) (by decide) hnames hvalidators _
  simp [hconstant]

/-! ## The input in the procedure -/

/-- The line that opens the members of a new entity in the procedure. -/
def dataOpening : String := "            data: \x7b"

theorem StartsOtherwise.skipped_data {line : String} (h : StartsOtherwise 'd' line) :
    Skipped dataOpening line := h.skipped (by decide)

open ProcedureFile in
/-- The lines of the procedure up to the one that opens the operation `create`. -/
def linesToCreate (f : Feature) : List String :=
  List.flatMap Statement.lines
      [.importNames ["igniter"] "@/igniter",
       .importTypes [f.createType, f.updateType] ("../" ++ f.interfaceSpecifier), .blank] ++
    ["export const " ++ f.procedureConstant ++ " = igniter.procedure(\x7b",
      "  name: '" ++ f.procedureConstant ++ "',",
      "  handler: async (_, \x7b context \x7d) => \x7b",
      "    return \x7b",
      "      " ++ f.entity ++ ": \x7b"] ++
    linesOf 4 [findMany f, .blank, findOne f, .blank] ++
    ["        create: async (input: " ++ f.createType ++ ") => \x7b"]

/-- The line in `create` that calls the database. -/
def createCall (f : Feature) : String :=
  indentation 5 ++ ("return context.providers.database." ++ f.entity ++ "." ++ "create" ++ "(\x7b")

open ProcedureFile in
/-- The object with the members of a new entity follows the call in `create`. -/
theorem exists_lines_procedureFile (f : Feature) : ∃ rest,
    f.procedureFile.flatMap Statement.lines = f.linesToCreate ++
      (f.createCall :: ((dataOpening :: linesOf 7 (dataEntries f) ++ ["            \x7d,"]) ++
        rest)) := by
  refine ⟨[indentation 5 ++ "\x7d)", indentation 4 ++ "\x7d,"] ++
    linesOf 4 [.blank, update f, .blank, delete f] ++
      [indentation 3 ++ "\x7d,", indentation 2 ++ "\x7d", indentation 1 ++ "\x7d,", "\x7d)"], ?_⟩
  simp [procedureFile, linesToCreate, createCall, dataOpening, Statement.lines, linesOf, Code.lines,
    create, operation, call, indentation]
  simp [← String.toList_inj]

theorem not_mem_entity (f : Feature) : '\n' ∉ f.entity.toList := by
  have hconstant := not_mem_schemaConstant f (d := '\n') (by decide) (by decide) (by decide)
  intro hmem
  apply hconstant
  rw [schemaConstant, String.toList_append]
  exact List.mem_append_left _ hmem

/-- After the opening of `create` the keys of the data are read, whatever stands before it. -/
theorem exists_procedureFile_eq (hnames : ∀ i ∈ f.inputFields, IsWordText i.name.toList) :
    ∃ rest, f.procedureFile.render = textOfLines f.linesToCreate ++ rest ∧
      objectKeys? dataOpening (codeLines rest) = some (f.inputFields.map Field.name) := by
  obtain ⟨rest, hlines⟩ := exists_lines_procedureFile f
  refine ⟨textOfLines _, (congrArg textOfLines hlines).trans (textOfLines_append _ _), ?_⟩
  have hcall : Skipped dataOpening f.createCall := by
    refine StartsOtherwise.skipped_data (.indented ?_ 5)
    refine .append_literal (.append_literal (.append_literal
      (.append (.literal ?_) (not_mem_entity f)) ?_) ?_) ?_ <;> decide
  have hvalues : ∀ i ∈ f.inputFields, '\n' ∉ ("input." ++ i.name).toList := by
    intro i hi
    have hfeed : '\n' ∉ i.name.toList := (hnames i hi).not_mem (by decide)
    simp [hfeed]
  rw [codeLines_textOfLines, ← List.singleton_append, List.flatMap_append, List.append_assoc,
    objectKeys?_skipped (List.forall_mem_singleton.2 hcall), List.flatMap_append, List.append_assoc,
    ProcedureFile.dataEntries]
  exact objectKeys?_entries (by decide) (by decide) (by decide) hnames hvalues _

section SingleLines

variable (hname : Every isSpelling f.name.toList) (hkey : '\n' ∉ f.primaryKey.toList)
  (htype : '\n' ∉ (ProcedureFile.keyType f).toList)

theorem skipped_block {body : List Code} (hstart : StartsOtherwise 'd' opening)
    (hbody : ∀ line ∈ linesOf (level + 1) body, Skipped dataOpening line)
    (hend : StartsOtherwise 'd' closing) :
    ∀ line ∈ (Code.block opening body closing).lines level, Skipped dataOpening line := by
  rw [Code.lines, List.cons_append, List.forall_mem_cons, List.forall_mem_append,
    List.forall_mem_singleton]
  exact ⟨(hstart.indented level).skipped_data, hbody, (hend.indented level).skipped_data⟩

theorem skipped_entry {key value : String} (hstart : StartsOtherwise 'd' key)
    (hvalue : '\n' ∉ value.toList) :
    ∀ line ∈ (Code.entry key value).lines level, Skipped dataOpening line := by
  rw [Code.lines, List.forall_mem_singleton]
  refine StartsOtherwise.skipped_data ?_
  refine .append_literal (.append (.append_literal (hstart.indented level) ?_) hvalue) ?_ <;>
    decide

theorem skipped_operation {name parameters method : String} {body : List Code}
    (hstart : StartsOtherwise 'd' name) (hparameters : '\n' ∉ parameters.toList)
    (hmethod : '\n' ∉ method.toList)
    (hbody : ∀ line ∈ linesOf (level + 2) body, Skipped dataOpening line) :
    ∀ line ∈ (ProcedureFile.operation name parameters
      [ProcedureFile.call f method body]).lines level, Skipped dataOpening line := by
  refine skipped_block ?_ ?_ (.literal (by decide))
  · exact ((hstart.append_literal (by decide)).append hparameters).append_literal (by decide)
  · rw [linesOf, linesOf, List.append_nil]
    refine skipped_block ?_ hbody (.literal (by decide))
    refine .append_literal (.append (.append_literal
      (.append (.literal ?_) (not_mem_entity f)) ?_) hmethod) ?_ <;> decide

theorem skipped_findMany :
    ∀ line ∈ (ProcedureFile.findMany f).lines level, Skipped dataOpening line := by
  refine skipped_operation (.literal (by decide)) (not_mem_literal (by decide))
    (not_mem_literal (by decide)) ?_
  rw [linesOf, linesOf, linesOf, List.append_nil, List.forall_mem_append]
  constructor <;> exact skipped_entry (.literal (by decide)) (not_mem_literal (by decide))

include hkey htype in
theorem skipped_findOne :
    ∀ line ∈ (ProcedureFile.findOne f).lines level, Skipped dataOpening line := by
  refine skipped_operation (.literal (by decide)) ?_ (not_mem_literal (by decide)) ?_
  · refine not_mem_append (not_mem_append (not_mem_enclosed hkey ?_ ?_) htype)
      (not_mem_literal ?_) <;> decide
  · rw [linesOf, linesOf, List.append_nil]
    refine skipped_entry (.literal (by decide)) ?_
    refine not_mem_append (not_mem_append (not_mem_enclosed hkey ?_ ?_) hkey)
      (not_mem_literal ?_) <;> decide

include hname in
/-- The entity may start with any letter, but there is no blank in it. -/
theorem skipped_entity : Skipped dataOpening ("      " ++ f.entity ++ ": \x7b") := by
  refine ⟨not_mem_enclosed (not_mem_entity f) (by decide) (by decide), ?_⟩
  have hblank : ' ' ∉ f.entity.toList := fun hmem => by cases every_isPlain_entity hname _ hmem
  have hsplit : dataOpening.toList =
      "      ".toList ++ ("      data".toList ++ ": \x7b".toList) := by decide
  rw [hsplit, String.toList_append, String.toList_append, List.append_assoc]
  intro heq
  apply hblank
  rw [List.append_cancel_right (List.append_cancel_left heq)]
  decide

include hname hkey htype in
theorem skipped_of_mem_linesToCreate : ∀ line ∈ f.linesToCreate, Skipped dataOpening line := by
  obtain ⟨-, hprocedure, hcreate, hupdate, -⟩ := not_mem_derived hname
  have hstem : '\n' ∉ f.stem.toList := not_mem_stem hname (by decide) (by decide)
  have hempty : Skipped dataOpening "" := ⟨List.not_mem_nil, by decide⟩
  rw [linesToCreate, List.forall_mem_append, List.forall_mem_append, List.forall_mem_append]
  refine ⟨⟨⟨?_, ?_⟩, ?_⟩, ?_⟩
  · have hnames : '\n' ∉ (braced [f.createType, f.updateType]).toList := by
      simp [braced, hcreate, hupdate]
    have hsource : '\n' ∉ (source ("../" ++ f.interfaceSpecifier)).toList := by
      simp [source, interfaceSpecifier, hstem]
    show ∀ line ∈ [_, _, _], _
    rw [List.forall_mem_cons, List.forall_mem_cons, List.forall_mem_singleton]
    refine ⟨StartsOtherwise.skipped_data ?_, StartsOtherwise.skipped_data ?_, hempty⟩
    · exact .append (.append (.literal (by decide)) (by decide)) (by decide)
    · exact .append (.append (.literal (by decide)) hnames) hsource
  · rw [List.forall_mem_cons, List.forall_mem_cons, List.forall_mem_cons, List.forall_mem_cons,
      List.forall_mem_singleton]
    refine ⟨StartsOtherwise.skipped_data ?_, StartsOtherwise.skipped_data ?_,
      StartsOtherwise.skipped_data (.literal (by decide)),
      StartsOtherwise.skipped_data (.literal (by decide)), skipped_entity hname⟩ <;>
      exact .append_literal (.append (.literal (by decide)) hprocedure) (by decide)
  · rw [linesOf, linesOf, linesOf, linesOf, linesOf, List.append_nil, List.forall_mem_append,
      List.forall_mem_append, List.forall_mem_append]
    exact ⟨skipped_findMany, List.forall_mem_singleton.2 hempty, skipped_findOne hkey htype,
      List.forall_mem_singleton.2 hempty⟩
  · rw [List.forall_mem_singleton]
    refine StartsOtherwise.skipped_data ?_
    exact .append_literal (.append (.literal (by decide)) hcreate) (by decide)

include hname hkey htype in
/-- The keys of the data can be read from the whole text of a procedure whose primary key and its
type stand on single lines. -/
theorem objectKeys?_procedureFile (hnames : ∀ i ∈ f.inputFields, IsWordText i.name.toList) :
    objectKeys? dataOpening (codeLines f.procedureFile.render) =
      some (f.inputFields.map Field.name) := by
  obtain ⟨rest, hrender, hread⟩ := exists_procedureFile_eq hnames
  rw [hrender, codeLines_textOfLines_append,
    objectKeys?_skipped (skipped_of_mem_linesToCreate hname hkey htype), hread]

end SingleLines

/-! ## Fields that are read -/

/-- Whether the procedure reads a field: a client gives it or it has the name of the primary key. -/
def isRead (key : String) (i : Field) : Bool := !i.isRelation || i.name == key

section Read

variable {g : Feature} (hname : g.name = f.name) (hkey : g.primaryKey = f.primaryKey)
  (hmanaged : g.managed = f.managed)
  (hread : g.fields.filter (isRead f.primaryKey) = f.fields.filter (isRead f.primaryKey))

include hread in
theorem inputFields_congr : g.inputFields = f.inputFields := by
  have hinput (fields : List Field) : fields.filter (!·.isRelation) =
      (fields.filter (isRead f.primaryKey)).filter (!·.isRelation) := by
    rw [List.filter_filter]
    refine List.filter_congr fun i _ => ?_
    rw [isRead]
    cases i.isRelation <;> rfl
  rw [inputFields, inputFields, hinput, hread, ← hinput]

include hkey hmanaged hread in
theorem keyType_congr : ProcedureFile.keyType g = ProcedureFile.keyType f := by
  have hfind (fields : List Field) : fields.find? (·.name == f.primaryKey) =
      (fields.filter (isRead f.primaryKey)).find? (·.name == f.primaryKey) := by
    rw [List.find?_filter]
    congr 1
    funext i
    rw [isRead]
    cases i.name == f.primaryKey <;> simp
  rw [ProcedureFile.keyType, ProcedureFile.keyType, hkey, hmanaged, List.find?_append,
    List.find?_append, hfind g.fields, hread, ← hfind]

include hname hkey hmanaged hread in
theorem procedureFile_congr : g.procedureFile = f.procedureFile := by
  have hinput := inputFields_congr hread
  have htype := keyType_congr hkey hmanaged hread
  simp only [procedureFile, ProcedureFile.findMany, ProcedureFile.findOne, ProcedureFile.create,
    ProcedureFile.update, ProcedureFile.delete, ProcedureFile.call, ProcedureFile.whereKey,
    ProcedureFile.keyParameter, ProcedureFile.dataEntries, procedureConstant, createType,
    updateType, interfaceSpecifier, stem, model, entity, hname, hkey, hinput, htype]

end Read

/-- Of the fields the procedure depends on those that it reads alone, and the controller on none. -/
theorem render_congr {fields fields' : List Field} {kind : FileKind}
    (hread : fields.filter (isRead f.primaryKey) = fields'.filter (isRead f.primaryKey))
    (hkind : kind = .procedure ∨ kind = .controller) :
    (Draft.ofFeature { f with fields := fields }).render kind =
      (Draft.ofFeature { f with fields := fields' }).render kind := by
  rcases hkind with rfl | rfl
  · have hfile : procedureFile { f with fields := fields } =
        procedureFile { f with fields := fields' } := procedureFile_congr rfl rfl rfl hread
    show Except.ok (procedureFile { f with fields := fields }).render = _
    rw [hfile]
    rfl
  · rfl

/-! ## The fields of a feature -/

section Compiled

variable {text name : String} {fallback : List String} {settings : Settings} {i : Field}
  {source : FieldSource}

theorem targetOf_of_mem_fallbackFields (h : i ∈ fallbackFields fallback) : targetOf i = "" := by
  rw [fallbackFields] at h
  obtain ⟨p, -, rfl⟩ := List.mem_map.1 h
  rfl

section Found

variable (h : ofSchema text name fallback settings = .ok (f, source))

include h

theorem primaryKey_of_ofSchema : f.primaryKey = settings.primaryKey := by
  rcases ofSchema_cases h with ⟨fields, managed, -, -, -, -, rfl⟩ | ⟨-, -, rfl⟩
  · rfl
  · rfl

/-- The fields are compiled or they come from the pairs. -/
theorem fields_of_ofSchema :
    compile text name settings = .ok f.fields ∨ f.fields = fallbackFields fallback := by
  rcases ofSchema_cases h with ⟨fields, managed, hfields, -, -, -, rfl⟩ | ⟨-, -, rfl⟩
  · exact .inl hfields
  · exact .inr rfl

theorem nodup_map_name_fields : (f.fields.map Field.name).Nodup := by
  rcases fields_of_ofSchema h with hfields | hfields
  · exact Schema.nodup_of_compile hfields
  · rw [hfields, Schema.map_name_fallbackFields]
    exact nodup_firsts _

/-- A field is named with a word, has its relation if it claims to, and leads to a model whose name
stands on one line. -/
theorem facts_of_mem_fields (hpairs : ∀ n ∈ pairNames fallback, IsWordText n.toList)
    (hi : i ∈ f.fields) :
    IsWordText i.name.toList ∧ Draft.lacksRelation i = false ∧ '\n' ∉ (targetOf i).toList := by
  rcases fields_of_ofSchema h with hfields | hfields
  · obtain ⟨index, -, hconsistent, -⟩ := Schema.consistent_of_mem_compile hfields hi
    refine ⟨hconsistent.name_word, lacksRelation_eq_false hconsistent, ?_⟩
    obtain ⟨index, line, -, hline⟩ := Schema.exists_classify_of_mem_compile hfields hi
    cases hrelation : i.relation with
    | none => simp [targetOf, hrelation]
    | some r =>
      rw [targetOf, hrelation]
      exact Schema.not_mem_model_of_classify hline hrelation
  · rw [hfields] at hi
    refine ⟨hpairs _ (Schema.mem_pairNames_of_mem hi), ?_, ?_⟩
    · rw [Draft.lacksRelation, Schema.isRelation_eq_false_of_mem hi, Bool.false_and]
    · rw [targetOf_of_mem_fallbackFields hi]
      exact List.not_mem_nil

end Found

end Compiled

/-! ## Both files -/

/-- What the interface validates is what the procedure writes.  The keys of the input schema and
those of the data in the operation `create` are the names of the fields that are no relations, in
their order, each once.  They are read from the whole text of the interface, and from the text of
the procedure after the line that opens the operation, or from its whole text if the primary key and
its type stand on single lines.  Neither the procedure nor the controller depends on relations that
are not named like the primary key. -/
theorem validated_keys_are_written {text name : String} {fallback : List String}
    {settings : Settings} {source : FieldSource}
    (h : ofSchema text name fallback settings = .ok (f, source)) (hname : IsWordText name.toList)
    (hpairs : ∀ n ∈ pairNames fallback, IsWordText n.toList)
    (hvalidators : ∀ i ∈ f.inputFields, '\n' ∉ i.validator.toList) :
    let keys := (f.fields.filter (!·.isRelation)).map Field.name
    keys.Nodup ∧
      (∃ interface procedure rest,
        (Draft.ofFeature f).render .interface = .ok interface ∧
        (Draft.ofFeature f).render .procedure = .ok procedure ∧
        objectKeys? (schemaOpening name) (codeLines interface) = some keys ∧
        procedure = textOfLines f.linesToCreate ++ rest ∧
        objectKeys? dataOpening (codeLines rest) = some keys ∧
        ('\n' ∉ settings.primaryKey.toList → '\n' ∉ (ProcedureFile.keyType f).toList →
          objectKeys? dataOpening (codeLines procedure) = some keys)) ∧
      ∀ fields fields' : List Field,
        fields.filter (isRead settings.primaryKey) = fields'.filter (isRead settings.primaryKey) →
          ∀ kind : FileKind, kind = .procedure ∨ kind = .controller →
            (Draft.ofFeature { f with fields := fields }).render kind =
              (Draft.ofFeature { f with fields := fields' }).render kind := by
  intro keys
  have hfname : f.name = name := Generation.name_of_ofSchema h
  have hfkey : f.primaryKey = settings.primaryKey := primaryKey_of_ofSchema h
  have hfacts : ∀ i ∈ f.fields,
      IsWordText i.name.toList ∧ Draft.lacksRelation i = false ∧ '\n' ∉ (targetOf i).toList :=
    fun i hi => facts_of_mem_fields h hpairs hi
  have hwords : ∀ i ∈ f.inputFields, IsWordText i.name.toList := fun i hi =>
    (hfacts i (List.mem_filter.1 hi).1).1
  have htargets : ∀ t ∈ f.relatedModels, '\n' ∉ t.toList := by
    intro t ht
    obtain ⟨i, hi, rfl⟩ := exists_of_mem_relatedModels ht
    exact (hfacts i hi).2.2
  have hspelling : Every isSpelling f.name.toList := by
    intro c hc
    rw [hfname] at hc
    rw [isSpelling, hname.2 c hc, Bool.true_or]
  obtain ⟨rest, hprocedure, hread⟩ := exists_procedureFile_eq hwords
  rw [← hfname, ← hfkey]
  refine ⟨(List.filter_sublist.map Field.name).nodup (nodup_map_name_fields h),
    ⟨f.interfaceFile.render, f.procedureFile.render, rest,
      render_interface fun i hi => (hfacts i hi).2.1, rfl,
      objectKeys?_interfaceFile hwords hvalidators htargets, hprocedure, hread,
      fun hkey htype => objectKeys?_procedureFile hspelling hkey htype hwords⟩, ?_⟩
  intro fields fields' hagree kind hkind
  exact render_congr hagree hkind

/-- A model with a relation between the fields that a client gives. -/
def jobText : String :=
  "model Job \x7b\n size Int\n up Job @relation(fields: [upId], references: [id])\n upId Int\n\x7d"

/-- The size of a job and the key of the one above are validated and written, and the procedure is
the same without the relation. -/
theorem validated_keys_are_written_job : ∃ f source,
    ofSchema jobText "job" ["title:string"] {} = .ok (f, source) ∧
      (IsWordText "job".toList ∧ "title" ∈ pairNames ["title:string"] ∧
        f.inputFields.map (fun i => (i.name, i.validator)) =
          [("size", "z.number().int()"), ("upId", "z.number().int()")]) ∧
      ∃ interface procedure,
        (Draft.ofFeature f).render .interface = .ok interface ∧
        (Draft.ofFeature f).render .procedure = .ok procedure ∧
        objectKeys? (schemaOpening "job") (codeLines interface) = some ["size", "upId"] ∧
        objectKeys? dataOpening (codeLines procedure) = some ["size", "upId"] ∧
        (Draft.ofFeature { f with fields := f.inputFields }).render .procedure = .ok procedure := by
  have htext : jobText.toList = _ := String.toList_ofList
  have hfacts : (ofSchema jobText "job" ["title:string"] {}).map (fun found =>
      (found.1.inputFields.map fun i => (i.name, i.validator),
        ProcedureFile.keyType found.1,
        decide (found.1.inputFields.filter (isRead "id") = found.1.fields.filter (isRead "id")))) =
      .ok ([("size", "z.number().int()"), ("upId", "z.number().int()")], "string", true) := by
    rw [ofSchema, resolveFields, Schema.compile_of_toList htext]
    decide +kernel
  obtain ⟨⟨f, source⟩, hfeature, hread⟩ := exists_of_map_eq_ok hfacts
  rw [Prod.mk.injEq, Prod.mk.injEq, decide_eq_true_eq] at hread
  obtain ⟨hinput, htype, hagree⟩ := hread
  have hname : IsWordText "job".toList := by decide
  have hpairs : ∀ n ∈ pairNames ["title:string"], IsWordText n.toList := by decide
  have hkeys : (f.fields.filter (!·.isRelation)).map Field.name = ["size", "upId"] := by
    have hnames := congrArg (List.map Prod.fst) hinput
    rwa [List.map_map] at hnames
  have hvalidators : ∀ i ∈ f.inputFields, '\n' ∉ i.validator.toList := by
    have hlines : ∀ p ∈ f.inputFields.map (fun i => (i.name, i.validator)), '\n' ∉ p.2.toList := by
      rw [hinput]
      decide
    exact fun i hi => hlines _ (List.mem_map_of_mem hi)
  have hline : '\n' ∉ (ProcedureFile.keyType f).toList := by
    rw [htype]
    decide
  obtain ⟨-, ⟨interface, procedure, rest, hinterface, hprocedure, hvalidated, -, -, hwritten⟩,
    hsame⟩ := validated_keys_are_written hfeature hname hpairs hvalidators
  rw [hkeys] at hvalidated hwritten
  refine ⟨f, source, hfeature, ⟨hname, by decide, hinput⟩, interface, procedure, hinterface,
    hprocedure, hvalidated, hwritten (by decide) hline, ?_⟩
  exact (hsame _ _ hagree .procedure (Or.inl rfl)).trans hprocedure

end FeatureGen.Feature

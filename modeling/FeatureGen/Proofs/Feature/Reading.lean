import FeatureGen.Feature.Draft
import FeatureGen.Proofs.Feature.Naming
import FeatureGen.Proofs.Project.Path

/-!
# Reading generated code

What a file declares, read from its text alone.  A declaration is known by how its first line
starts (`declaredNames`), and an interface lists a member a line (`lastInterface?`).

The lines of a rendered module are those of its statements (`codeLines_render`).  A piece of text in
a statement may have line feeds of its own, so nothing is assumed here of lines that are not read.
-/

namespace FeatureGen.Text

variable {sep d : Char} {s t : List Char}

theorem pieces_append_sep (sep : Char) (s t : List Char) :
    pieces sep (s ++ sep :: t) = pieces sep s ++ pieces sep t := by
  induction s with
  | nil => exact pieces_append_cons List.not_mem_nil t
  | cons c s ih =>
    rw [List.cons_append, pieces, pieces, ih]
    by_cases hc : c = sep
    · rw [if_pos hc, if_pos hc, List.cons_append]
    · rw [if_neg hc, if_neg hc]
      cases h : pieces sep s with
      | nil => exact absurd h (pieces_ne_nil sep s)
      | cons p ps => rfl

/-- What has no separator goes on in the first piece. -/
theorem exists_pieces_append (h : sep ∉ s) (t : List Char) :
    ∃ p ps, pieces sep (s ++ t) = (s ++ p) :: ps := by
  induction s with
  | nil =>
    cases ht : pieces sep t with
    | nil => exact absurd ht (pieces_ne_nil sep t)
    | cons p ps => exact ⟨p, ps, ht⟩
  | cons c s ih =>
    rw [List.mem_cons, not_or] at h
    obtain ⟨p, ps, hps⟩ := ih h.2
    refine ⟨p, ps, ?_⟩
    rw [List.cons_append, pieces, if_neg (Ne.symm h.1), hps]
    rfl

theorem not_mem_joinPieces {ps : List (List Char)} (hsep : d ≠ sep) (h : ∀ p ∈ ps, d ∉ p) :
    d ∉ joinPieces sep ps := by
  induction ps with
  | nil => exact List.not_mem_nil
  | cons p ps ih =>
    have hp := h p List.mem_cons_self
    cases ps with
    | nil => exact hp
    | cons q qs =>
      rw [joinPieces, List.mem_append, List.mem_cons, not_or, not_or]
      exact ⟨hp, hsep, ih fun r hr => h r (List.mem_cons_of_mem p hr)⟩

theorem not_mem_append {s t : String} (hs : d ∉ s.toList) (ht : d ∉ t.toList) :
    d ∉ (s ++ t).toList := by
  rw [String.toList_append]
  exact List.not_mem_append hs ht

/-- The characters of a literal are at hand, so they need not be computed from its bytes. -/
theorem not_mem_literal (h : d ∉ s) : d ∉ (String.ofList s).toList := by
  rwa [String.toList_ofList]

theorem not_mem_enclosed {s t : List Char} {text : String} (htext : d ∉ text.toList) (hs : d ∉ s)
    (ht : d ∉ t) : d ∉ (String.ofList s ++ text ++ String.ofList t).toList :=
  not_mem_append (not_mem_append (not_mem_literal hs) htext) (not_mem_literal ht)

end FeatureGen.Text

namespace FeatureGen.Feature

open FeatureGen.Text

variable {m heads : Module} {s : Statement} {c : List String × String} {names : List String}
  {name : String}

/-! ## Lines -/

/-- The lines of a text. -/
def codeLines (code : String) : List (List Char) := pieces '\n' code.toList

theorem codeLines_of_not_mem {line : String} (h : '\n' ∉ line.toList) :
    codeLines line = [line.toList] := pieces_of_not_mem h

/-- The text with the given lines, each with a line feed at its end. -/
def textOfLines (lines : List String) : String := String.join (lines.map (· ++ "\n"))

theorem textOfLines_append (lines rest : List String) :
    textOfLines (lines ++ rest) = textOfLines lines ++ textOfLines rest := by
  rw [textOfLines, List.map_append, String.join_append]
  rfl

theorem codeLines_textOfLines_append (lines : List String) (rest : String) :
    codeLines (textOfLines lines ++ rest) = lines.flatMap codeLines ++ codeLines rest := by
  induction lines with
  | nil =>
    rw [textOfLines, List.map_nil, String.join_nil, String.empty_append]
    rfl
  | cons line lines ih =>
    have hline : (textOfLines (line :: lines) ++ rest).toList =
        line.toList ++ '\n' :: (textOfLines lines ++ rest).toList := by
      simp [textOfLines, String.join_cons]
    rw [codeLines, hline, pieces_append_sep, List.flatMap_cons, List.append_assoc, ← ih]
    rfl

theorem codeLines_textOfLines (lines : List String) :
    codeLines (textOfLines lines) = lines.flatMap codeLines ++ [[]] := by
  rw [← String.append_empty (s := textOfLines lines), codeLines_textOfLines_append]
  rfl

/-- The lines of a module are those of its statements, and an empty one. -/
theorem codeLines_render (m : Module) :
    codeLines m.render = (m.flatMap Statement.lines).flatMap codeLines ++ [[]] :=
  codeLines_textOfLines _

/-- A single line of a statement is a line of the text. -/
theorem toList_mem_codeLines {line : String} (hs : s ∈ m) (hline : line ∈ s.lines)
    (hfeed : '\n' ∉ line.toList) : line.toList ∈ codeLines m.render := by
  rw [codeLines_render]
  refine List.mem_append_left _ (List.mem_flatMap.2 ⟨line, List.mem_flatMap.2 ⟨s, hs, hline⟩, ?_⟩)
  rw [codeLines_of_not_mem hfeed]
  exact List.mem_cons_self

/-! ## What a file declares -/

/-- The name that follows the start of a declaration on a line. -/
def nameAfter? (start : String) (line : List Char) : Option String :=
  (after? start.toList line).map fun r => String.ofList (r.takeWhile (· != ' '))

/-- How declarations for other files start. -/
def declarationStarts : List String := ["export const ", "export interface ", "export type "]

/-- The name that a line declares for other files. -/
def declaredName? (line : List Char) : Option String :=
  declarationStarts.findSome? (nameAfter? · line)

/-- The names that a text declares for other files. -/
def declaredNames (code : String) : List String := (codeLines code).filterMap declaredName?

theorem nameAfter?_append (start : String) (h : ' ' ∉ name.toList) (t : List Char) :
    nameAfter? start (start.toList ++ (name.toList ++ ' ' :: t)) = some name := by
  have hname : Every (· != ' ') name.toList := by
    intro d hd
    rw [bne_iff_ne]
    rintro rfl
    exact h hd
  rw [nameAfter?, after?_append, Option.map_some,
    takeWhile_append_of_notStarting hname (by simp), String.ofList_toList]

/-- No start of a declaration goes on as another one. -/
theorem declaredName?_append {start : String} (hstart : start ∈ declarationStarts)
    (h : ' ' ∉ name.toList) (t : List Char) :
    declaredName? (start.toList ++ (name.toList ++ ' ' :: t)) = some name := by
  have hname := nameAfter?_append start h t
  simp only [declarationStarts, List.mem_cons, List.not_mem_nil, or_false] at hstart
  rcases hstart with rfl | rfl | rfl
  · rw [declaredName?, declarationStarts, List.findSome?_cons, hname]
  · have hconst : nameAfter? "export const "
        ("export interface ".toList ++ (name.toList ++ ' ' :: t)) = none := rfl
    rw [declaredName?, declarationStarts, List.findSome?_cons, hconst, List.findSome?_cons, hname]
  · have hconst : nameAfter? "export const "
        ("export type ".toList ++ (name.toList ++ ' ' :: t)) = none := rfl
    have hinterface : nameAfter? "export interface "
        ("export type ".toList ++ (name.toList ++ ' ' :: t)) = none := rfl
    rw [declaredName?, declarationStarts, List.findSome?_cons, hconst, List.findSome?_cons,
      hinterface, List.findSome?_cons, hname]

/-- A statement that declares a name says so on its first line. -/
theorem exists_lines_of_exported (h : Module.exported? s = some name) :
    ∃ start ∈ declarationStarts, ∃ line lines t, s.lines = line :: lines ∧
      line.toList = start.toList ++ (name.toList ++ ' ' :: t) := by
  cases s with
  | constant n callee body =>
    cases h
    refine ⟨"export const ", by decide, _, _, "= ".toList ++ callee.toList ++ "(\x7b".toList, rfl,
      ?_⟩
    simp [String.toList_append]
  | interface n members =>
    cases h
    refine ⟨"export interface ", by decide, _, _, "\x7b".toList, rfl, ?_⟩
    simp [String.toList_append]
  | typeAlias n definition =>
    cases h
    refine ⟨"export type ", by decide, _, _, "= ".toList ++ definition.toList, rfl, ?_⟩
    simp [String.toList_append]
  | _ => cases h

/-- The start of a statement is the start of a line. -/
theorem exists_mem_codeLines {line : String} {lines : List String} {w t : List Char} (hs : s ∈ m)
    (hlines : s.lines = line :: lines) (hline : line.toList = w ++ t) (hfeed : '\n' ∉ w) :
    ∃ p, w ++ p ∈ codeLines m.render := by
  obtain ⟨p, ps, hpieces⟩ := exists_pieces_append hfeed t
  have hcode : codeLines line = (w ++ p) :: ps := by rw [codeLines, hline, hpieces]
  refine ⟨p, ?_⟩
  rw [codeLines_render]
  refine List.mem_append_left _ (List.mem_flatMap.2 ⟨line, ?_, ?_⟩)
  · exact List.mem_flatMap.2 ⟨s, hs, hlines ▸ List.mem_cons_self⟩
  · rw [hcode]
    exact List.mem_cons_self

/-- What a module exports is declared in its text. -/
theorem mem_declaredNames (hs : s ∈ m) (hname : Module.exported? s = some name)
    (hblank : ' ' ∉ name.toList) (hfeed : '\n' ∉ name.toList) : name ∈ declaredNames m.render := by
  obtain ⟨start, hstart, line, lines, t, hlines, hline⟩ := exists_lines_of_exported hname
  have hstarts : ∀ w ∈ declarationStarts, '\n' ∉ w.toList := by decide
  have hfirst : '\n' ∉ start.toList ++ (name.toList ++ [' ']) := by
    simp [hstarts start hstart, hfeed]
  have hsplit : line.toList = start.toList ++ (name.toList ++ [' ']) ++ t := by simp [hline]
  obtain ⟨p, hmem⟩ := exists_mem_codeLines hs hlines hsplit hfirst
  refine List.mem_filterMap.2 ⟨_, hmem, ?_⟩
  have hread := declaredName?_append hstart hblank p
  simpa using hread

/-- The interfaces that a text declares for other files. -/
def interfaceNames (code : String) : List String :=
  (codeLines code).filterMap (nameAfter? "export interface ")

theorem mem_interfaceNames {members : List Member} (hs : .interface name members ∈ m)
    (hblank : ' ' ∉ name.toList) (hfeed : '\n' ∉ name.toList) :
    name ∈ interfaceNames m.render := by
  have hfirst : '\n' ∉ "export interface ".toList ++ (name.toList ++ [' ']) := by simp [hfeed]
  have hsplit : ("export interface " ++ name ++ " \x7b").toList =
      "export interface ".toList ++ (name.toList ++ [' ']) ++ ['\x7b'] := by simp
  obtain ⟨p, hmem⟩ := exists_mem_codeLines hs rfl hsplit hfirst
  refine List.mem_filterMap.2 ⟨_, hmem, ?_⟩
  have hread := nameAfter?_append "export interface " hblank p
  simpa using hread

/-! ## The members of an interface -/

/-- The name of the member that a line within an interface declares. -/
def memberName? (line : List Char) : Option String :=
  ((after? "  ".toList line).bind (spanSome? isWord)).bind fun (name, rest) =>
    if (after? ": ".toList rest).isSome || (after? "?: ".toList rest).isSome then
      some (String.ofList name)
    else none

/-- The name of the last interface among lines, and the names of its members. -/
def lastInterface? : List (List Char) → Option (String × List String)
  | [] => none
  | line :: rest =>
    (lastInterface? rest).or <| (nameAfter? "export interface " line).map fun name =>
      (name, (rest.takeWhile (· != ['\x7d'])).filterMap memberName?)

theorem lastInterface?_append {found : String × List String} {rest : List (List Char)}
    (h : lastInterface? rest = some found) (lines : List (List Char)) :
    lastInterface? (lines ++ rest) = some found := by
  induction lines with
  | nil => exact h
  | cons line lines ih => rw [List.cons_append, lastInterface?, ih, Option.some_or]

theorem lastInterface?_eq_none {lines : List (List Char)}
    (h : ∀ line ∈ lines, nameAfter? "export interface " line = none) :
    lastInterface? lines = none := by
  induction lines with
  | nil => rfl
  | cons line lines ih =>
    rw [lastInterface?, ih fun l hl => h l (List.mem_cons_of_mem line hl),
      h line List.mem_cons_self]
    rfl

/-- A member whose lines can be read. -/
structure Member.Legible (member : Member) : Prop where
  name : IsWordText member.name.toList
  note : ∀ note ∈ member.note, '\n' ∉ note.toList
  type : '\n' ∉ member.type.toList

/-- The line of a member, after that of its note. -/
def Member.line (member : Member) : String :=
  "  " ++ member.name ++ (if member.isOptional then "?" else "") ++ ": " ++ member.type

theorem Member.lines_eq (member : Member) :
    member.lines = (member.note.map fun note => "  // " ++ note).toList ++ [member.line] := rfl

namespace Member.Legible

variable {member : Member} (h : member.Legible)

include h

theorem toList_line : ∃ r, member.line.toList = "  ".toList ++ (member.name.toList ++ r) ∧
    NotStarting isWord r ∧
    ((after? ": ".toList r).isSome || (after? "?: ".toList r).isSome) = true ∧ '\n' ∉ r := by
  cases hoptional : member.isOptional with
  | true =>
    refine ⟨"?: ".toList ++ member.type.toList, ?_, ?_, ?_, ?_⟩
    · simp [line, hoptional]
    · exact notStarting_cons.2 rfl
    · rw [after?_append "?: ".toList, Option.isSome_some, Bool.or_true]
    · simp [h.type]
  | false =>
    refine ⟨": ".toList ++ member.type.toList, ?_, ?_, ?_, ?_⟩
    · simp [line, hoptional]
    · exact notStarting_cons.2 rfl
    · rw [after?_append ": ".toList, Option.isSome_some, Bool.true_or]
    · simp [h.type]

theorem memberName?_line : memberName? member.line.toList = some member.name := by
  obtain ⟨r, hline, hstart, hcolon, -⟩ := h.toList_line
  rw [memberName?, hline, after?_append, Option.bind_some,
    spanSome?_append h.name.1 h.name.2 hstart, Option.bind_some]
  show (if _ then some (String.ofList member.name.toList) else none) = _
  rw [if_pos hcolon, String.ofList_toList]

theorem not_mem_line : '\n' ∉ member.line.toList := by
  obtain ⟨r, hline, -, -, hfeed⟩ := h.toList_line
  have hname : '\n' ∉ member.name.toList := h.name.not_mem (by decide)
  rw [hline]
  simp [hname, hfeed]

/-- The lines of a member have no breaks of their own. -/
theorem flatMap_codeLines : member.lines.flatMap codeLines = member.lines.map String.toList := by
  rw [member.lines_eq]
  cases hnote : member.note with
  | none => simp [codeLines_of_not_mem h.not_mem_line]
  | some note =>
    have hline : '\n' ∉ ("  // " ++ note).toList := by simp [h.note note hnote]
    simp [codeLines_of_not_mem h.not_mem_line, codeLines_of_not_mem hline]

/-- One name is read from the lines of a member. -/
theorem filterMap_lines : (member.lines.map String.toList).filterMap memberName? =
    [member.name] := by
  rw [member.lines_eq]
  cases hnote : member.note with
  | none => simp [h.memberName?_line]
  | some note =>
    have hskip : memberName? ("  // " ++ note).toList = none := by
      rw [String.toList_append]
      rfl
    rw [Option.map_some, Option.toList_some, List.singleton_append, List.map_cons,
      List.filterMap_cons_none hskip]
    simp [h.memberName?_line]

/-- No line of a member is the brace at the end, or starts an interface. -/
theorem head?_of_mem_lines {line : List Char} (hline : line ∈ member.lines.map String.toList) :
    line.head? = some ' ' := by
  obtain ⟨text, htext, rfl⟩ := List.mem_map.1 hline
  rw [member.lines_eq] at htext
  rcases List.mem_append.1 htext with hnote | hlast
  · obtain ⟨note, -, rfl⟩ := by simpa using hnote
    rw [String.toList_append]
    rfl
  · obtain ⟨r, hr, -⟩ := h.toList_line
    rw [List.mem_singleton.1 hlast, hr]
    rfl

end Member.Legible

/-- The lines of all members, and the names that are read from them. -/
theorem codeLines_members {members : List Member} (h : ∀ member ∈ members, member.Legible) :
    (members.flatMap Member.lines).flatMap codeLines =
        members.flatMap (fun member => member.lines.map String.toList) ∧
      (members.flatMap fun member => member.lines.map String.toList).filterMap memberName? =
        members.map (·.name) := by
  induction members with
  | nil => exact ⟨rfl, rfl⟩
  | cons member members ih =>
    have hfirst := h member List.mem_cons_self
    obtain ⟨hlines, hnames⟩ := ih fun k hk => h k (List.mem_cons_of_mem member hk)
    constructor
    · rw [List.flatMap_cons, List.flatMap_append, hfirst.flatMap_codeLines, hlines,
        List.flatMap_cons]
    · rw [List.flatMap_cons, List.filterMap_append, hfirst.filterMap_lines, hnames]
      rfl

/-- The members of the interface that a module declares last are read back from its text. -/
theorem lastInterface?_render {before after : Module} {members : List Member}
    (hblank : ' ' ∉ name.toList) (hfeed : '\n' ∉ name.toList)
    (hmembers : ∀ member ∈ members, member.Legible)
    (hafter : ∀ line ∈ (after.flatMap Statement.lines).flatMap codeLines,
      nameAfter? "export interface " line = none) :
    lastInterface? (codeLines (Module.render (before ++ .interface name members :: after))) =
      some (name, members.map (·.name)) := by
  obtain ⟨hbody, hnames⟩ := codeLines_members hmembers
  have hspaces : ∀ line ∈ members.flatMap fun member => member.lines.map String.toList,
      line.head? = some ' ' := by
    intro line hmem
    obtain ⟨member, hmember, hmem⟩ := List.mem_flatMap.1 hmem
    exact (hmembers member hmember).head?_of_mem_lines hmem
  generalize (members.flatMap fun member => member.lines.map String.toList) = body
    at hbody hnames hspaces
  have hheader : ("export interface " ++ name ++ " \x7b").toList =
      "export interface ".toList ++ (name.toList ++ ' ' :: ['\x7b']) := by simp
  have hline : '\n' ∉ ("export interface " ++ name ++ " \x7b").toList := by
    rw [hheader]
    simp [hfeed]
  have hopen := nameAfter?_append "export interface " hblank ['\x7b']
  have hrest : lastInterface? (body ++ ['\x7d'] ::
      ((after.flatMap Statement.lines).flatMap codeLines ++ [[]])) = none := by
    refine lastInterface?_eq_none fun line hmem => ?_
    rcases List.mem_append.1 hmem with hmem | hmem
    · have hhead := hspaces line hmem
      cases line with
      | nil => cases hhead
      | cons c r =>
        cases hhead
        rfl
    · rcases List.mem_cons.1 hmem with rfl | hmem
      · rfl
      · rcases List.mem_append.1 hmem with hmem | hmem
        · exact hafter line hmem
        · rw [List.mem_singleton.1 hmem]
          rfl
  have htake : (body ++ ['\x7d'] ::
      ((after.flatMap Statement.lines).flatMap codeLines ++ [[]])).takeWhile (· != ['\x7d']) =
        body := by
    rw [List.takeWhile_append_of_pos, List.takeWhile_cons_of_neg (by decide), List.append_nil]
    intro line hmem
    have hhead := hspaces line hmem
    rw [bne_iff_ne]
    rintro rfl
    cases hhead
  have hlines : codeLines (Module.render (before ++ .interface name members :: after)) =
      (before.flatMap Statement.lines).flatMap codeLines ++
        ("export interface " ++ name ++ " \x7b").toList ::
          (body ++ ['\x7d'] :: ((after.flatMap Statement.lines).flatMap codeLines ++ [[]])) := by
    rw [codeLines_render]
    simp [Statement.lines, hbody, codeLines_of_not_mem hline]
    rfl
  rw [hlines]
  refine lastInterface?_append ?_ _
  rw [lastInterface?, hrest, Option.none_or, hheader, hopen, Option.map_some, htake, hnames]

/-! ## Files of a whole feature -/

/-- What the interface needs of a whole feature: every relation, and the primary key if fields are
managed. -/
theorem feature_interface (f : Feature) :
    (Draft.ofFeature f).feature .interface =
      if f.fields.any Draft.lacksRelation = true then .error .noRelation
      else .ok { f with primaryKey := if f.managed.isEmpty = true then "" else f.primaryKey } := by
  cases hlacks : f.fields.any Draft.lacksRelation with
  | true =>
    simp [Draft.feature, Draft.ofFeature, Draft.words, Draft.part, hlacks, bind, Except.bind, throw,
      throwThe, MonadExceptOf.throw]
  | false =>
    cases hmanaged : f.managed.isEmpty <;>
      simp [Draft.feature, Draft.ofFeature, Draft.words, Draft.part, hlacks, hmanaged, bind,
        Except.bind, pure, Except.pure]

/-- The files of a whole feature are those of its modules.  The interface is there if no field
lacks its relation. -/
theorem render_ofFeature (f : Feature) (kind : FileKind) :
    (Draft.ofFeature f).render kind =
      if kind = .interface ∧ f.fields.any Draft.lacksRelation = true then .error .noRelation
      else .ok (kind.module f).render := by
  cases kind with
  | index => rfl
  | controller => rfl
  | procedure => rfl
  | interface =>
    rw [Draft.render, feature_interface]
    cases f.fields.any Draft.lacksRelation with
    | true => rfl
    | false =>
      cases hmanaged : f.managed.isEmpty with
      | true =>
        have hnil : f.managed = [] := List.isEmpty_iff.1 hmanaged
        have hmembers : entityMembers { f with primaryKey := "" } = f.entityMembers := by
          simp [entityMembers, hnil]
        show Except.ok (interfaceFile { f with primaryKey := "" }).render =
          .ok f.interfaceFile.render
        rw [interfaceFile, interfaceFile, hmembers]
        rfl
      | false => rfl

end FeatureGen.Feature

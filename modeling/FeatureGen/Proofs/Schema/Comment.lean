import FeatureGen.Proofs.Schema.Body
import FeatureGen.Proofs.Schema.Ledger
import FeatureGen.Proofs.Schema.Scan
import Mathlib.Data.List.Basic

/-!
# Comment lines

A comment line starts with two slashes.  Where a model body is read line by line such a line is
skipped, but a block is found in the whole text, comments and all: a header in a comment declares a
model, a brace in a comment ends a block, and a comment may stand within a header that is broken
over lines and keep it from being one (`comment_declares_model`).

These are the only ways in which comments matter.  A comment line without a brace and without a
default that is a unique identifier, below which the text starts anew, may be deleted
(`readsSame_skip`), and so may all of them at once (`compile_withoutComments`).
-/

namespace FeatureGen.Schema

open FeatureGen.Text

/-- Whether the first characters of a line that are not blank are two slashes. -/
def isCommentLine (line : List Char) : Bool := ['/', '/'].isPrefixOf (trim line)

/-- The lines that are no comment lines. -/
def uncommentedLines (lines : List (List Char)) : List (List Char) :=
  lines.filter fun line => !isCommentLine line

/-- The text without its comment lines. -/
def withoutComments (text : String) : String :=
  String.ofList (uncommentedLines (fullLines text.toList)).flatten

variable {name line below pre s t : List Char}

/-! ## One comment line -/

/-- A comment line, with its end, that may be deleted before the text below it. -/
structure Skippable (name line below : List Char) : Prop where
  isCommentLine : isCommentLine line = true
  exists_lineEnd : ∃ s t, line = s ++ t ∧ Without isLineBreak s ∧
    (IsLineEnd t ∨ t = [] ∧ below = [])
  braceFree : BraceFree line
  uuidVersion? : uuidVersion? line = none
  startsAnew : StartsAnew name below

theorem exists_trim_of_isCommentLine (h : isCommentLine s = true) :
    ∃ r, trim s = '/' :: '/' :: r := by
  obtain ⟨r, hr⟩ := List.isPrefixOf_iff_prefix.1 h
  exact ⟨r, hr.symm⟩

theorem exists_trimStart_of_isCommentLine (h : isCommentLine s = true) :
    ∃ r, trimStart s = '/' :: '/' :: r := by
  obtain ⟨r, hr⟩ := exists_trim_of_isCommentLine h
  obtain ⟨w, hw, -⟩ := trimEnd_append_blanks (trimStart s)
  rw [← trim, hr] at hw
  exact ⟨r ++ w, hw.symm⟩

theorem isCommentLine_append_of_blank (ht : Every isBlank t) (s : List Char) :
    isCommentLine (s ++ t) = isCommentLine s := by
  rw [isCommentLine, isCommentLine, trim_append_of_blank ht]

theorem lineDeclarations_of_isCommentLine (h : isCommentLine s = true) :
    lineDeclarations s = [] := by
  obtain ⟨r, hr⟩ := exists_trim_of_isCommentLine h
  rw [lineDeclarations, hr]
  rfl

theorem enumLineValues_of_isCommentLine (h : isCommentLine s = true) :
    enumLineValues s = .ok [] := by
  obtain ⟨r, hr⟩ := exists_trim_of_isCommentLine h
  rw [enumLineValues, hr]
  rfl

/-- The values of a body are those of its lines, where lines without values do not count. -/
theorem enumValues_eq (body : List Char) :
    enumValues body =
      (((splitLines body).flatMap fun line => nonemptyResults (enumLineValues line)).mapM id).map
        List.flatten :=
  map_flatten_mapM enumLineValues (splitLines body)

namespace Skippable

section Line

variable (h : Skippable name line below)

include h

theorem endsLine : EndsLine line ∨ below = [] := by
  obtain ⟨s, t, rfl, -, ht | ⟨-, hbelow⟩⟩ := h.exists_lineEnd
  · exact Or.inl ht.endsLine.append
  · exact Or.inr hbelow

theorem not_mem_brace : '\x7b' ∉ line := fun hmem => (h.braceFree _ hmem).1 rfl

theorem not_mem_closing : '\x7d' ∉ line := fun hmem => (h.braceFree _ hmem).2 rfl

theorem searchAll_name (keyword : List Char) (before : Option Char) :
    searchAll (fun b u => (namedHeaderAt? keyword b u).map Prod.fst) before line = [] := by
  apply searchAll_eq_nil_of_not_mem _ h.not_mem_brace
  intro b u hu
  obtain ⟨a, ha⟩ := Option.ne_none_iff_exists'.1 hu
  obtain ⟨p, hp, -⟩ := Option.map_eq_some_iff.1 ha
  exact mem_of_namedHeaderAt? hp

/-- What is made of lines is not changed by a comment line before other text. -/
theorem flatMap_splitLines {α : Type} {g : List Char → List α} (hg : g [] = [])
    (hcomment : ∀ s, Schema.isCommentLine s = true → g s = []) (hpre : pre = [] ∨ EndsLine pre)
    (hbelow : below ≠ []) (t : List Char) :
    (splitLines (pre ++ (line ++ t))).flatMap g = (splitLines (pre ++ t)).flatMap g := by
  obtain ⟨s, e, hline, hs, he⟩ := h.exists_lineEnd
  have he : IsLineEnd e := he.resolve_right fun hnil => hbelow hnil.2
  have hgs : g s = [] := by
    have hcomm := h.isCommentLine
    rw [hline, isCommentLine_append_of_blank he.isBlank] at hcomm
    exact hcomment s hcomm
  rw [flatMap_splitLines_append hg hpre, flatMap_splitLines_append hg hpre,
    flatMap_splitLines_append hg (h.endsLine.resolve_right hbelow |> Or.inr), hline,
    flatMap_splitLines_line hg hs he, hgs, List.nil_append]

/-- The declarations of a body that goes on below a comment line are not changed by it. -/
theorem bodyLines?_skip {rest : List Char} (hrest : EndsLine rest) :
    bodyLines? (rest ++ (line ++ below)) = bodyLines? (rest ++ below) := by
  rw [bodyLines?, bodyLines?]
  by_cases hclosed : '\x7d' ∈ rest
  · obtain ⟨body, t, -, hsplit⟩ := exists_untilClosed?_append_of_mem hclosed
    rw [hsplit, hsplit]
    rfl
  · rw [untilClosed?_append_of_not_mem hclosed, untilClosed?_append_of_not_mem hclosed,
      untilClosed?_append_of_not_mem h.not_mem_closing]
    cases hbelow : untilClosed? below with
    | none => rfl
    | some p =>
      have hne : below ≠ [] := by
        rintro rfl
        cases hbelow
      exact congrArg some (h.flatMap_splitLines rfl (fun s => lineDeclarations_of_isCommentLine)
        (Or.inr hrest) hne p.1)

/-- The values of an enumeration that goes on below a comment line are not changed by it. -/
theorem enumValues_skip (hpre : EndsLine pre) (hbelow : below ≠ []) (t : List Char) :
    enumValues (pre ++ (line ++ t)) = enumValues (pre ++ t) := by
  have hcomment (s : List Char) (hs : Schema.isCommentLine s = true) :
      nonemptyResults (enumLineValues s) = [] := by
    rw [enumLineValues_of_isCommentLine hs]
    rfl
  rw [enumValues_eq, enumValues_eq,
    h.flatMap_splitLines rfl hcomment (Or.inr hpre) hbelow t]

end Line

/-- A comment line starts anew if the text below it does. -/
theorem startsAnew_append (h : Skippable name line below) (hbreak : Without isLineBreak name) :
    StartsAnew name (line ++ below) := by
  obtain ⟨r, hr⟩ := exists_trimStart_of_isCommentLine h.isCommentLine
  have hne : trimStart line ≠ [] := by
    rw [hr]
    exact List.cons_ne_nil _ _
  have hstart : trimStart (line ++ below) = '/' :: ('/' :: r ++ below) := by
    rw [trimStart_append_of_ne_nil hne, hr]
    rfl
  constructor
  · rw [hstart]
    rfl
  · have hnone : afterName? name ('\n' :: line) = none := by
      rw [Option.eq_none_iff_forall_ne_some]
      intro rest hrest
      obtain ⟨w, m, w', hsplit, -⟩ := exists_of_afterName? hrest
      have hmem : '\x7b' ∈ '\n' :: line := by
        rw [hsplit]
        simp
      exact h.not_mem_brace ((List.mem_cons.1 hmem).resolve_left (by decide))
    rcases h.endsLine with hline | hbelow
    · have hcons : EndsLine ('\n' :: line) := endsLine_cons.2 (Or.inr hline)
      have happend := afterName?_append_of_endsLine h.startsAnew hbreak hcons
      rw [hnone] at happend
      exact happend
    · rw [hbelow, List.append_nil]
      exact hnone
  · rw [hstart]
    rfl
  · rw [hstart]
    rfl

/-! ## Scans past a comment line -/

section Scan

variable {α : Type} {step : Option Char → List Char → Option α} {f : List Char → α → α}
  (h : Skippable name line below) (hbreak : Without isLineBreak name)
  (hpre : pre = [] ∨ EndsLine pre)

include h hbreak hpre

/-- If nothing is found in a comment line, what is found above it and below it is all that is
found. -/
theorem searchAll_skip (hstep : KeepsToLines name step f) (hnone : ∀ b, searchAll step b line = []) :
    ∃ rest, searchAll step none (pre ++ (line ++ below)) =
        (searchAll step none pre).map (f (line ++ below)) ++ rest ∧
      searchAll step none (pre ++ below) = (searchAll step none pre).map (f below) ++ rest := by
  have hanew := h.startsAnew_append hbreak
  have hpass : Passes step (lastChar none pre) line below :=
    passes_of_searchAll_eq_nil (hstep.append below h.startsAnew) (Or.inr h.endsLine) (hnone _)
  have hbelow : searchAll step (lastChar (lastChar none pre) line) below =
      searchAll step (lastChar none pre) below := by
    rcases h.endsLine with hline | hbelow
    · have hstart : startsWord (lastChar none pre) = true := startsWord_lastChar_of_endsLine hpre rfl
      apply searchAll_congr
      apply hstep.congr
      rw [hstart, startsWord_lastChar_of_endsLine (Or.inr hline) hstart]
    · rw [hbelow, searchAll, searchAll, hstep.nil, hstep.nil]
  refine ⟨searchAll step (lastChar none pre) below, ?_, ?_⟩
  · rw [searchAll_append_of_endsLine hstep.nil (hstep.append _ hanew) hpre, searchAll_append hpass,
      hbelow]
  · exact searchAll_append_of_endsLine hstep.nil (hstep.append _ h.startsAnew) hpre

theorem modelNames_skip : modelNames (pre ++ (line ++ below)) = modelNames (pre ++ below) := by
  have hstep := keepsToLines_name name (by decide : Without isLineBreak "model".toList)
  obtain ⟨rest, hwith, hwithout⟩ :=
    h.searchAll_skip hbreak hpre hstep (h.searchAll_name "model".toList)
  rw [modelNames, modelNames, map_searchAll, map_searchAll, hwith, hwithout]

theorem uuidVersion?_skip : Schema.uuidVersion? (pre ++ (line ++ below)) =
    Schema.uuidVersion? (pre ++ below) := by
  have hnone (b : Option Char) : searchAll (fun _ => uuidDefaultAt?) b line = [] := by
    have hversion := h.uuidVersion?
    rw [Schema.uuidVersion?_eq, Option.map_eq_none_iff, List.head?_eq_none_iff] at hversion
    rw [← hversion]
    exact searchAll_congr rfl
  obtain ⟨rest, hwith, hwithout⟩ := h.searchAll_skip hbreak hpre (keepsToLines_uuid name) hnone
  rw [Schema.uuidVersion?_eq, Schema.uuidVersion?_eq, hwith, hwithout]

theorem modelBody?_skip : (modelBody? (pre ++ (line ++ below)) name).map fieldLines =
    (modelBody? (pre ++ below) name).map fieldLines := by
  by_cases hname : name = []
  · rw [hname]
    rfl
  have hstep := keepsToLines_header hbreak
  have hnone (b : Option Char) : searchAll (headerAt? name) b line = [] := by
    apply searchAll_eq_nil_of_not_mem _ h.not_mem_brace
    intro b u hu
    obtain ⟨rest, hrest⟩ := Option.ne_none_iff_exists'.1 hu
    obtain ⟨p, rfl⟩ := exists_of_headerAt? hrest
    exact List.mem_append_right p List.mem_cons_self
  have hends : ∀ rest ∈ searchAll (headerAt? name) none pre, EndsLine rest := by
    refine forall_mem_searchAll hstep.nil (fun b u hu rest hrest => ?_) hpre
    obtain ⟨p, rfl⟩ := exists_of_headerAt? hrest
    exact hu.of_append_cons (by decide)
  obtain ⟨rest, hwith, hwithout⟩ := h.searchAll_skip hbreak hpre hstep hnone
  rw [map_modelBody? hname, map_modelBody? hname, hwith, hwithout, List.filterMap_append,
    List.filterMap_append, List.filterMap_map, List.filterMap_map]
  congr 2
  apply List.filterMap_congr
  intro rest hrest
  exact h.bodyLines?_skip (hends rest hrest)

end Scan

/-! ## Enumerations past a comment line -/

section Enumerations

variable (h : Skippable name line below) (hbreak : Without isLineBreak name)

/-- A block that starts above a comment line ends above it as well, or its body goes on below it. -/
inductive SameBlock (line below : List Char) :
    Option (List Char × List Char × List Char) → Option (List Char × List Char × List Char) → Prop
  | none : SameBlock line below .none .none
  | above (found body : List Char) {rest : List Char} (hrest : EndsLine rest) :
    SameBlock line below (some (found, body, rest ++ (line ++ below)))
      (some (found, body, rest ++ below))
  | across (found rest : List Char) {body body' : List Char}
    (hbody : enumValues body = enumValues body') :
    SameBlock line below (some (found, body, rest)) (some (found, body', rest))

include h hbreak

theorem sameBlock_enumBlockAt? (before : Option Char) (hs : EndsLine s) :
    SameBlock line below (enumBlockAt? before (s ++ (line ++ below)))
      (enumBlockAt? before (s ++ below)) := by
  have hkeyword : Without isLineBreak "enum".toList := by decide
  have hanew := h.startsAnew_append hbreak
  rw [enumBlockAt?, enumBlockAt?, namedHeaderAt?_append hanew hkeyword before hs,
    namedHeaderAt?_append h.startsAnew hkeyword before hs]
  cases hheader : namedHeaderAt? "enum".toList before s with
  | none => exact .none
  | some p =>
    obtain ⟨found, rest⟩ := p
    have hrest : EndsLine rest := endsLine_of_namedHeaderAt? hs hheader
    show SameBlock line below ((untilClosed? (rest ++ (line ++ below))).bind _)
      ((untilClosed? (rest ++ below)).bind _)
    by_cases hclosed : '\x7d' ∈ rest
    · obtain ⟨body, t, hsplit, hblock⟩ := exists_untilClosed?_append_of_mem hclosed
      rw [hblock, hblock]
      rw [hsplit] at hrest
      exact .above found body (hrest.of_append_cons (by decide))
    · rw [untilClosed?_append_of_not_mem hclosed, untilClosed?_append_of_not_mem hclosed,
        untilClosed?_append_of_not_mem h.not_mem_closing]
      cases hbelow : untilClosed? below with
      | none => exact .none
      | some p =>
        have hne : below ≠ [] := by
          rintro rfl
          cases hbelow
        exact .across found p.2 (h.enumValues_skip hrest hne p.1)

omit hbreak in
theorem passes_enumBlockAt? (before : Option Char) : Passes enumBlockAt? before line below := by
  have hkeyword : Without isLineBreak "enum".toList := by decide
  have hpass := passes_of_searchAll_eq_nil
    ((keepsToLines_name name hkeyword).append below h.startsAnew) (Or.inr h.endsLine)
    (h.searchAll_name "enum".toList before)
  refine (Passes.of_map hpass).mono fun b t hnone => ?_
  rw [enumBlockAt?, hnone]
  rfl

/-- The enumerations and their values are the same without a comment line. -/
theorem enumBlocksFrom_skip (before : Option Char) (hs : s = [] ∨ EndsLine s)
    (hbefore : s = [] → startsWord before = true) :
    (enumBlocksFrom 0 before (s ++ (line ++ below))).map (fun p => (p.1, enumValues p.2)) =
      (enumBlocksFrom 0 before (s ++ below)).map fun p => (p.1, enumValues p.2) := by
  induction hlength : s.length using Nat.strongRecOn generalizing s before with
  | ind n ih =>
    subst hlength
    cases s with
    | nil =>
      rw [List.nil_append, List.nil_append, enumBlocksFrom_append (h.passes_enumBlockAt? before)]
      rcases h.endsLine with hline | rfl
      · rw [enumBlocksFrom_congr
          ((startsWord_lastChar_of_endsLine (Or.inr hline) (hbefore rfl)).trans (hbefore rfl).symm)]
      · rfl
    | cons c s =>
      have hcons : EndsLine (c :: s) := hs.resolve_left (List.cons_ne_nil c s)
      have hsame := h.sameBlock_enumBlockAt? hbreak before hcons
      generalize hwith : enumBlockAt? before (c :: s ++ (line ++ below)) = block at hsame
      generalize hwithout : enumBlockAt? before (c :: s ++ below) = block' at hsame
      cases hsame with
      | none =>
        rw [List.cons_append] at hwith hwithout
        rw [List.cons_append, List.cons_append, enumBlocksFrom_of_eq_none hwith,
          enumBlocksFrom_of_eq_none hwithout]
        refine ih s.length (Nat.lt_succ_self _) (some c) ?_ ?_ rfl
        · exact (endsLine_cons.1 hcons).imp_left And.left
        · intro hnil
          rcases endsLine_cons.1 hcons with ⟨-, hbreak⟩ | hline
          · rw [startsWord, isWord_eq_false_of_isLineBreak hbreak]
            rfl
          · exact absurd hnil hline.ne_nil
      | @above found body rest hrest =>
        rw [enumBlocksFrom_of_eq_some hwith, enumBlocksFrom_of_eq_some hwithout, List.map_cons,
          List.map_cons]
        have hshorter : rest.length < (c :: s).length := by
          obtain ⟨d, p, hsplit⟩ := exists_of_enumBlockAt? hwithout
          have hlengths := congrArg List.length hsplit
          simp only [List.length_append, List.length_cons] at hlengths ⊢
          omega
        rw [ih rest.length hshorter (some '\x7d') (Or.inr hrest) (fun _ => by decide) rfl]
      | across found rest hbody =>
        rw [enumBlocksFrom_of_eq_some hwith, enumBlocksFrom_of_eq_some hwithout, List.map_cons,
          List.map_cons, hbody]

end Enumerations

end Skippable

/-! ## Texts that are read alike -/

/-- The same models are listed in both texts, the same is known of their types, and the model of a
name has the same declarations. -/
structure ReadsSame (name s t : List Char) : Prop where
  modelNames : modelNames s = modelNames t
  index : Index.ofText s = Index.ofText t
  fieldLines : (modelBody? s name).map fieldLines = (modelBody? t name).map fieldLines

namespace ReadsSame

theorem refl (name s : List Char) : ReadsSame name s s := ⟨rfl, rfl, rfl⟩

theorem trans {u : List Char} (h : ReadsSame name s t) (h' : ReadsSame name t u) :
    ReadsSame name s u where
  modelNames := h.modelNames.trans h'.modelNames
  index := h.index.trans h'.index
  fieldLines := h.fieldLines.trans h'.fieldLines

/-- Declarations end in the same way in texts that are read alike. -/
theorem ledger {text text' model : String}
    (h : ReadsSame model.toList text.toList text'.toList) (settings : Settings) :
    ledger text model settings = ledger text' model settings := by
  have hlines := h.fieldLines
  rw [Schema.ledger, Schema.ledger, h.index]
  cases hbody : modelBody? text.toList model.toList with
  | none =>
    rw [hbody, Option.map_none, eq_comm, Option.map_eq_none_iff] at hlines
    rw [hlines]
  | some body =>
    rw [hbody, Option.map_some, eq_comm, Option.map_eq_some_iff] at hlines
    obtain ⟨body', hbody', hsame⟩ := hlines
    rw [hbody']
    simp only [hsame]

end ReadsSame

/-- Of the enumerations only the names and the values count. -/
theorem enumerations_eq (text : List Char) :
    enumerations text =
      ((enumBlocks text).map fun p => (p.1, enumValues p.2)).mapM fun p =>
        p.2.map fun values => (String.ofList p.1, values.map String.ofList) := by
  rw [List.mapM_map]
  rfl

/-- A comment line that may be deleted does not matter. -/
theorem readsSame_skip (h : Skippable name line below) (hbreak : Without isLineBreak name)
    (hpre : pre = [] ∨ EndsLine pre) :
    ReadsSame name (pre ++ (line ++ below)) (pre ++ below) where
  modelNames := h.modelNames_skip hbreak hpre
  fieldLines := h.modelBody?_skip hbreak hpre
  index := by
    have henums : enumerations (pre ++ (line ++ below)) = enumerations (pre ++ below) := by
      rw [enumerations_eq, enumerations_eq, enumBlocks, enumBlocks,
        h.enumBlocksFrom_skip hbreak none hpre fun _ => rfl]
    rw [Index.ofText, Index.ofText, henums, h.modelNames_skip hbreak hpre,
      h.uuidVersion?_skip hbreak hpre]

/-! ## All comment lines -/

/-- No comment line has a brace or a default that is a unique identifier, and the text below it,
without comments, starts anew. -/
def CommentsApart (name : List Char) : List (List Char) → Prop
  | [] => True
  | line :: lines =>
    (isCommentLine line = true → BraceFree line ∧ uuidVersion? line = none ∧
      StartsAnew name (uncommentedLines lines).flatten) ∧ CommentsApart name lines

instance decidableCommentsApart (name : List Char) :
    (lines : List (List Char)) → Decidable (CommentsApart name lines)
  | [] => inferInstanceAs (Decidable True)
  | line :: lines =>
    have := decidableCommentsApart name lines
    inferInstanceAs (Decidable ((isCommentLine line = true → BraceFree line ∧
      uuidVersion? line = none ∧ StartsAnew name (uncommentedLines lines).flatten) ∧
        CommentsApart name lines))

theorem uncommentedLines_cons (line : List Char) (lines : List (List Char)) :
    uncommentedLines (line :: lines) =
      if isCommentLine line = true then uncommentedLines lines
      else line :: uncommentedLines lines := by
  rw [uncommentedLines, List.filter_cons]
  cases isCommentLine line <;> rfl

/-- Comment lines are deleted one by one, the last one first. -/
theorem readsSame_uncommentedLines {lines : List (List Char)} (hbreak : Without isLineBreak name)
    (hlines : AreLines lines) (hapart : CommentsApart name lines)
    (hpre : pre = [] ∨ EndsLine pre) :
    ReadsSame name (pre ++ lines.flatten) (pre ++ (uncommentedLines lines).flatten) := by
  induction hlines generalizing pre with
  | nil => exact .refl _ _
  | @last s hs =>
    rw [uncommentedLines_cons]
    split
    · next hcomment =>
      obtain ⟨hbrace, hversion, hanew⟩ := hapart.1 hcomment
      exact readsSame_skip ⟨hcomment, ⟨s, [], (List.append_nil s).symm, hs, Or.inr ⟨rfl, rfl⟩⟩,
        hbrace, hversion, hanew⟩ hbreak hpre
    · exact .refl _ _
  | @cons s t lines hs ht hlines ih =>
    have hline : EndsLine (pre ++ (s ++ t)) := ht.endsLine.append.append
    have htail := ih hapart.2 (Or.inr hline)
    rw [List.append_assoc pre (s ++ t), List.append_assoc pre (s ++ t)] at htail
    rw [uncommentedLines_cons]
    split
    · next hcomment =>
      obtain ⟨hbrace, hversion, hanew⟩ := hapart.1 hcomment
      exact htail.trans (readsSame_skip ⟨hcomment, ⟨s, t, rfl, hs, Or.inl ht⟩, hbrace, hversion,
        hanew⟩ hbreak hpre)
    · exact htail

/-- Deleting all comment lines of a schema leaves the list of its models, what is known of types,
and the fields and the reserved fields of a model unchanged, if no comment line has a brace or a
default that is a unique identifier, and none stands within what the text without comments reads as
a header or as such a default. -/
theorem compile_withoutComments (text name : String) (hbreak : Without isLineBreak name.toList)
    (hapart : CommentsApart name.toList (fullLines text.toList)) :
    modelNames (withoutComments text).toList = modelNames text.toList ∧
      Index.ofText (withoutComments text).toList = Index.ofText text.toList ∧
      ∀ settings, compile (withoutComments text) name settings = compile text name settings ∧
        compileReserved (withoutComments text) name settings =
          compileReserved text name settings := by
  have hsame : ReadsSame name.toList text.toList (withoutComments text).toList := by
    have hall : ReadsSame name.toList ([] ++ (fullLines text.toList).flatten)
        ([] ++ (uncommentedLines (fullLines text.toList)).flatten) :=
      readsSame_uncommentedLines hbreak (areLines_fullLines text.toList) hapart (Or.inl rfl)
    rw [List.nil_append, List.nil_append, flatten_fullLines] at hall
    rw [withoutComments, String.toList_ofList]
    exact hall
  refine ⟨hsame.modelNames.symm, hsame.index.symm, fun settings => ⟨?_, ?_⟩⟩
  · rw [compile, compile, hsame.ledger]
  · rw [compileReserved, compileReserved, compile, compile, hsame.ledger]

/-- A schema with comment lines before a block and in bodies. -/
def commentedText : String :=
  "// Posts.\nmodel Post \x7b\n  // The title.\n  title String\n\x7d\nenum Role \x7b\n A\n // B\n\x7d\n"

/-- `commentedText` without its comment lines. -/
def bareText : String :=
  "model Post \x7b\n  title String\n\x7d\nenum Role \x7b\n A\n\x7d\n"

/-- The comment lines of `commentedText` do not matter. -/
theorem compile_withoutComments_post :
    withoutComments commentedText = bareText ∧
      Index.ofText bareText.toList = Index.ofText commentedText.toList ∧
      compile bareText "Post" {} = compile commentedText "Post" {} := by
  have htext : commentedText.toList = _ := String.toList_ofList
  have hapart : CommentsApart "Post".toList (fullLines commentedText.toList) := by
    rw [htext]
    decide
  have hbare : withoutComments commentedText = bareText := by
    rw [withoutComments, htext]
    decide
  obtain ⟨-, hindex, hcompile⟩ := compile_withoutComments commentedText "Post" (by decide) hapart
  rw [hbare] at hindex hcompile
  exact ⟨hbare, hindex, (hcompile {}).1⟩

/-- A schema with a model in comments, header and brace on a line each. -/
def retiredText : String := "// model Old \x7b\n// \x7d\nmodel New \x7b\n  a String\n\x7d\n"

/-- The model in the comments of `retiredText` is listed. -/
theorem comment_declares_model :
    withoutComments retiredText = "model New \x7b\n  a String\n\x7d\n" ∧
      (modelNames retiredText.toList).map String.ofList = ["Old", "New"] ∧
      (modelNames (withoutComments retiredText).toList).map String.ofList = ["New"] := by
  have htext : retiredText.toList = _ := String.toList_ofList
  have hbare : withoutComments retiredText = "model New \x7b\n  a String\n\x7d\n" := by
    rw [withoutComments, htext]
    decide
  refine ⟨hbare, ?_, ?_⟩
  · rw [htext]
    decide
  · rw [hbare]
    decide

end FeatureGen.Schema

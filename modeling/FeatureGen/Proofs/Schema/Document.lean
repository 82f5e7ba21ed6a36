import FeatureGen.Proofs.Text.Case
import FeatureGen.Proofs.Text.Search
import FeatureGen.Schema.Index

/-!
# Printed documents

A `Document` is a list of blocks `model Name { … }` and `enum Name { … }` with blanks around them.
The body of a block is any text without braces; it may hold words such as `model` and `enum`, and
the name of a block may be such a word.

The scanners of a schema try a step at every position of a text.  What such a step matches starts a
header: two words with blanks between them, and then a brace (`StartsHeader`).  In a document that
happens only where a block begins:

* not inside a word, since a step looks for the beginning of one,
* not at a blank or a brace, since a header starts with a word,
* not at the name of a block, since only blanks stand between the name and the brace,
* not in a body, since that is closed before the next brace is opened.

So a scanner that finds nothing but headers (`FindsHeaders`) gives one result for each block it
accepts, in the order of the document (`searchAll_document`).
-/

namespace FeatureGen.Schema

open FeatureGen.Text

/-! ## Blocks and documents -/

/-- What a block declares. -/
inductive BlockKind
  | model
  | enumeration
  deriving DecidableEq, Repr

/-- The word that a block starts with. -/
def BlockKind.keyword : BlockKind → List Char
  | .model => "model".toList
  | .enumeration => "enum".toList

/-- The first character of the keyword. -/
def BlockKind.initial : BlockKind → Char
  | .model => 'm'
  | .enumeration => 'e'

/-- The text has neither an opening nor a closing brace. -/
def BraceFree (s : List Char) : Prop := ∀ c ∈ s, c ≠ '\x7b' ∧ c ≠ '\x7d'

instance (s : List Char) : Decidable (BraceFree s) :=
  List.decidableBAll (fun c => c ≠ '\x7b' ∧ c ≠ '\x7d') s

/-- A block of a document. -/
structure Block where
  /-- What it declares. -/
  kind : BlockKind
  /-- The declared name. -/
  name : List Char
  /-- The text between the braces. -/
  body : List Char
  /-- The blanks before the block. -/
  lead : Run isBlank := oneLineFeed
  /-- The blanks between the keyword and the name. -/
  gap : NonemptyRun isBlank := oneSpace
  /-- The blanks before the opening brace. -/
  space : Run isBlank := oneSpace.toRun
  isWordText_name : IsWordText name := by decide
  braceFree_body : BraceFree body := by decide

/-- The text of a block from its keyword on, with what follows the block. -/
def Block.textFrom (b : Block) (rest : List Char) : List Char :=
  b.kind.keyword ++
    (b.gap.chars ++ (b.name ++ (b.space.chars ++ '\x7b' :: (b.body ++ '\x7d' :: rest))))

/-- The text of a block after the first character of its keyword. -/
def Block.tail (b : Block) : List Char :=
  b.kind.keyword.tail ++
    (b.gap.chars ++ (b.name ++ (b.space.chars ++ (['\x7b'] ++ (b.body ++ ['\x7d'])))))

/-- The text of a block. -/
def Block.text (b : Block) : List Char := b.lead.chars ++ b.textFrom []

/-- A list of blocks, and the blanks after the last one. -/
structure Document where
  /-- The blocks. -/
  blocks : List Block
  /-- The blanks at the end. -/
  trail : Run isBlank := oneLineFeed

/-- The text of a document. -/
def Document.text (d : Document) : List Char := d.blocks.flatMap Block.text ++ d.trail.chars

/-- The blocks of a kind. -/
def Document.blocksOf (d : Document) (kind : BlockKind) : List Block :=
  d.blocks.filter (·.kind = kind)

/-- The names of the blocks of a kind. -/
def Document.names (d : Document) (kind : BlockKind) : List (List Char) :=
  (d.blocksOf kind).map Block.name

theorem Block.textFrom_append (b : Block) (s t : List Char) :
    b.textFrom s ++ t = b.textFrom (s ++ t) := by
  simp only [Block.textFrom, List.append_assoc, List.cons_append]

theorem Block.textFrom_eq_cons (b : Block) (rest : List Char) :
    b.textFrom rest = b.kind.initial :: (b.tail ++ rest) := by
  have hkeyword : b.kind.keyword = b.kind.initial :: b.kind.keyword.tail := by
    cases b.kind <;> rfl
  rw [Block.textFrom, hkeyword]
  simp [Block.tail]

theorem Block.lastChar_tail (b : Block) (before : Option Char) :
    lastChar before b.tail = some '\x7d' := by
  simp only [Block.tail, lastChar_append, lastChar_cons, lastChar_nil]

theorem Block.text_append (b : Block) (rest : List Char) :
    b.text ++ rest = b.lead.chars ++ b.textFrom rest := by
  rw [Block.text, List.append_assoc, textFrom_append, List.nil_append]

/-- A word may begin after blanks. -/
theorem startsWord_lastChar {before : Option Char} {w : List Char}
    (hbefore : startsWord before = true) (hw : Every isBlank w) :
    startsWord (lastChar before w) = true := by
  induction w generalizing before with
  | nil => exact hbefore
  | cons c w ih =>
    rw [lastChar_cons]
    apply ih
    · rw [startsWord, isWord_eq_false_of_isBlank (hw c List.mem_cons_self)]
      rfl
    · exact fun d hd => hw d (List.mem_cons_of_mem _ hd)

theorem isWordText_keyword (kind : BlockKind) : IsWordText kind.keyword := by
  cases kind <;> decide

/-! ## Headers -/

/-- The text starts with two words, with blanks between them, and goes on to an opening brace. -/
inductive StartsHeader : List Char → Prop
  | intro {k w : List Char} {c : Char} {m r : List Char} (hk : k ≠ [])
    (hword : Without isDelimiter k) (hw : w ≠ []) (hblank : Every isBlank w)
    (hc : isDelimiter c = false) (hm : BraceFree m) :
    StartsHeader (k ++ (w ++ c :: (m ++ '\x7b' :: r)))

/-- A text without delimiters has no braces. -/
theorem braceFree_of_isDelimiter {s : List Char} (h : Without isDelimiter s) :
    BraceFree s := by
  intro c hc
  have hdelim := h c hc
  simp only [isDelimiter, Bool.or_eq_false_iff, beq_eq_false_iff_ne] at hdelim
  exact ⟨hdelim.1.2, hdelim.2⟩

theorem braceFree_of_isBlank {s : List Char} (h : Every isBlank s) : BraceFree s := by
  intro c hc
  have hblank := h c hc
  constructor
  · rintro rfl
    exact absurd hblank (by decide)
  · rintro rfl
    exact absurd hblank (by decide)

theorem BraceFree.append {s t : List Char} (hs : BraceFree s) (ht : BraceFree t) :
    BraceFree (s ++ t) := by
  intro c hc
  rcases List.mem_append.1 hc with hc | hc
  · exact hs c hc
  · exact ht c hc

namespace StartsHeader

variable {s t n : List Char}

/-- Two words without delimiters, with blanks around the second, start a header. -/
theorem of_words {k w m w' r : List Char} (hk : k ≠ []) (hkword : Without isDelimiter k)
    (hw : w ≠ []) (hblank : Every isBlank w) (hm : m ≠ [])
    (hmword : Without isDelimiter m) (hblank' : Every isBlank w') :
    StartsHeader (k ++ (w ++ (m ++ (w' ++ '\x7b' :: r)))) := by
  cases m with
  | nil => exact absurd rfl hm
  | cons c m =>
    have hfree : BraceFree (m ++ w') :=
      (braceFree_of_isDelimiter fun d hd => hmword d (List.mem_cons_of_mem _ hd)).append
        (braceFree_of_isBlank hblank')
    have hheader := intro (r := r) hk hkword hw hblank (hmword c List.mem_cons_self) hfree
    simpa using hheader

theorem ne_nil (h : StartsHeader s) : s ≠ [] := by
  cases h
  simp

/-- A header starts with a word. -/
theorem notStarting_isDelimiter (h : StartsHeader s) : NotStarting isDelimiter s := by
  cases h with
  | @intro k w c m r hk hword hw hblank hc hm =>
    cases k with
    | nil => exact absurd rfl hk
    | cons d k => exact notStarting_cons.2 (hword d List.mem_cons_self)

/-- A text that is closed before a brace is opened starts no header. -/
theorem not_closed (hs : BraceFree s) : ¬ StartsHeader (s ++ '\x7d' :: t) := by
  intro h
  generalize hu : s ++ '\x7d' :: t = u at h
  cases h with
  | @intro k w c m r hk hword hw hblank hc hm =>
    -- Both sides are cut at their first brace, which is an opening one on the right only.
    have hfree : BraceFree (k ++ (w ++ ([c] ++ m))) :=
      (braceFree_of_isDelimiter hword).append ((braceFree_of_isBlank hblank).append
        ((braceFree_of_isDelimiter (by simpa [Without] using hc)).append hm))
    have hcut := append_inj_of_notStarting (fun c => c != '\x7b' && c != '\x7d')
      (t := s) (r := '\x7d' :: t) (u := k ++ (w ++ ([c] ++ m))) (v := '\x7b' :: r)
      (by simpa [BraceFree, Every] using hs) (by simpa [BraceFree, Every] using hfree)
      (by simp) (by simp) (by simpa using hu)
    exact absurd hcut.2 (by simp)

/-- A word with blanks and a brace after it starts no header. -/
theorem not_word (hn : Without isDelimiter n) {w : List Char}
    (hw : Every isBlank w) : ¬ StartsHeader (n ++ (w ++ '\x7b' :: t)) := by
  intro h
  generalize hu : n ++ (w ++ '\x7b' :: t) = u at h
  cases h with
  | @intro k w' c m r hk hword hw' hblank hc hm =>
    have hstop : NotStarting (fun c => !isDelimiter c) (w' ++ c :: (m ++ '\x7b' :: r)) :=
      notStarting_append (fun d hd => by simp [isDelimiter_of_isBlank (hblank d hd)]) fun he =>
        absurd he hw'
    have hcut := append_inj_of_notStarting (fun c => !isDelimiter c)
      (every_not_iff.2 hn) (every_not_iff.2 hword) (notStarting_not_isDelimiter hw t) hstop hu
    -- After the first word there are only blanks before the brace on the left.
    have hrest := append_inj_of_notStarting isBlank hw hblank
      (notStarting_cons.2 (by decide)) (notStarting_cons.2 (isBlank_eq_false_of_isDelimiter hc))
      hcut.2
    have hbrace : '\x7b' = c := (List.cons.inj hrest.2).1
    rw [← hbrace] at hc
    exact absurd hc (by decide)

end StartsHeader

/-! ## Steps that find headers -/

/-- A step that succeeds only at headers that begin a word, and finds the header of a block with a
result that depends on the block alone. -/
structure FindsHeaders {α : Type} (step : Option Char → List Char → Option α)
    (result : Block → Option α) : Prop where
  startsWord_of_eq_some : ∀ {before s a}, step before s = some a → startsWord before = true
  startsHeader_of_eq_some : ∀ {before s a}, step before s = some a → StartsHeader s
  textFrom : ∀ {before} (b : Block) (rest : List Char), startsWord before = true →
    step before (b.textFrom rest) = result b

namespace FindsHeaders

variable {α : Type} {step : Option Char → List Char → Option α} {result : Block → Option α}

theorem eq_none (h : FindsHeaders step result) {before : Option Char} {s : List Char}
    (hs : ¬ StartsHeader s) : step before s = none := by
  cases he : step before s with
  | none => rfl
  | some a => exact absurd (h.startsHeader_of_eq_some he) hs

/-- Nothing is found inside a word. -/
theorem passes_word (h : FindsHeaders step result) {c : Char} {p s : List Char}
    (hc : isWord c = true) (hp : Every isWord p) : Passes step (some c) p s := by
  induction p generalizing c with
  | nil => trivial
  | cons d p ih =>
    refine ⟨?_, ih (hp d List.mem_cons_self) fun e he => hp e (List.mem_cons_of_mem _ he)⟩
    cases he : step (some c) (d :: (p ++ s)) with
    | none => rfl
    | some a =>
      have hstart := h.startsWord_of_eq_some he
      simp [startsWord, hc] at hstart

/-- Nothing is found at blanks and braces. -/
theorem passes_delimiters (h : FindsHeaders step result) {before : Option Char}
    {p s : List Char} (hp : Every isDelimiter p) : Passes step before p s := by
  induction p generalizing before with
  | nil => trivial
  | cons c p ih =>
    refine ⟨h.eq_none fun hs => ?_, ih fun d hd => hp d (List.mem_cons_of_mem _ hd)⟩
    have hc := notStarting_cons.1 hs.notStarting_isDelimiter
    rw [hp c List.mem_cons_self] at hc
    cases hc

/-- Nothing is found in a body. -/
theorem passes_body (h : FindsHeaders step result) {before : Option Char} {p s : List Char}
    (hp : BraceFree p) : Passes step before p ('\x7d' :: s) := by
  induction p generalizing before with
  | nil => trivial
  | cons c p ih =>
    refine ⟨?_, ih fun d hd => hp d (List.mem_cons_of_mem _ hd)⟩
    rw [← List.cons_append]
    exact h.eq_none (StartsHeader.not_closed hp)

/-- Nothing is found at a name. -/
theorem passes_name (h : FindsHeaders step result) {before : Option Char} {n w s : List Char}
    (hn : IsWordText n) (hw : Every isBlank w) :
    Passes step before n (w ++ '\x7b' :: s) := by
  cases n with
  | nil => trivial
  | cons c n =>
    refine ⟨?_, h.passes_word (hn.2 c List.mem_cons_self) fun d hd =>
      hn.2 d (List.mem_cons_of_mem _ hd)⟩
    rw [← List.cons_append]
    exact h.eq_none
      (StartsHeader.not_word (fun d hd => isDelimiter_eq_false_of_isWord (hn.2 d hd)) hw)

/-- After the first character of a block nothing is found until the block ends. -/
theorem passes_tail (h : FindsHeaders step result) (b : Block) (s : List Char) :
    Passes step (some b.kind.initial) b.tail s := by
  have hinitial : isWord b.kind.initial = true := by cases b.kind <;> decide
  have hkeyword : Every isWord b.kind.keyword.tail := by cases b.kind <;> decide
  have hblank {w : List Char} (hw : Every isBlank w) :
      Every isDelimiter w := fun c hc => isDelimiter_of_isBlank (hw c hc)
  rw [Block.tail]
  apply Passes.append
  · exact h.passes_word hinitial hkeyword
  apply Passes.append
  · exact h.passes_delimiters (hblank b.gap.every)
  apply Passes.append
  · simpa using h.passes_name b.isWordText_name b.space.every
  apply Passes.append
  · exact h.passes_delimiters (hblank b.space.every)
  apply Passes.append
  · exact h.passes_delimiters (by decide)
  apply Passes.append
  · simpa using h.passes_body b.braceFree_body
  · exact h.passes_delimiters (by decide)

/-- A search finds the header of a block, and goes on after the block. -/
theorem searchAll_textFrom (h : FindsHeaders step result) (b : Block) {before : Option Char}
    (hbefore : startsWord before = true) (rest : List Char) :
    searchAll step before (b.textFrom rest) =
      (result b).toList ++ searchAll step (some '\x7d') rest := by
  rw [← h.textFrom b rest hbefore, Block.textFrom_eq_cons, searchAll,
    searchAll_append (h.passes_tail b rest), b.lastChar_tail]

/-- A search finds one result for each block that is accepted. -/
theorem searchAll_blocks (h : FindsHeaders step result) (blocks : List Block)
    {before : Option Char} (hbefore : startsWord before = true) {trail : List Char}
    (htrail : Every isBlank trail) :
    searchAll step before (blocks.flatMap Block.text ++ trail) = blocks.filterMap result := by
  induction blocks generalizing before with
  | nil =>
    have hpass : Passes step before trail [] :=
      h.passes_delimiters fun c hc => isDelimiter_of_isBlank (htrail c hc)
    have hend : step (lastChar before trail) [] = none := h.eq_none fun hs => hs.ne_nil rfl
    have hall := searchAll_append hpass
    rw [List.append_nil, searchAll, hend] at hall
    exact hall
  | cons b blocks ih =>
    have hpass :
        Passes step before b.lead.chars (b.textFrom (blocks.flatMap Block.text ++ trail)) :=
      h.passes_delimiters fun c hc => isDelimiter_of_isBlank (b.lead.every c hc)
    rw [List.flatMap_cons, List.append_assoc, Block.text_append, searchAll_append hpass,
      h.searchAll_textFrom b (startsWord_lastChar hbefore b.lead.every), ih (by decide),
      List.filterMap_cons]
    cases result b <;> rfl

/-- The same for a document. -/
theorem searchAll_document (h : FindsHeaders step result) (d : Document) :
    searchAll step none d.text = d.blocks.filterMap result :=
  h.searchAll_blocks d.blocks rfl d.trail.every

/-- The first result in a document is that of the first block that is accepted. -/
theorem search?_document (h : FindsHeaders step result) (d : Document) :
    search? step none d.text = d.blocks.findSome? result := by
  rw [search?_eq_head?, h.searchAll_document, List.head?_filterMap]

end FindsHeaders

end FeatureGen.Schema

import FeatureGen.Proofs.Distinct
import FeatureGen.Proofs.Schema.Document
import FeatureGen.Proofs.Schema.LongNumber
import Mathlib.Data.List.Pairwise

/-!
# Looking up the blocks of a document

Models are looked up by name up to case, models are listed, and enumerations are collected with
their bodies.  Each of these scans finds nothing but headers, so that in a document it sees exactly
the blocks: `modelBody?_text`, `modelNames_text` and `enumBlocks_text` say which.

When the names of the models differ by more than case and those of the enumerations differ, every
block is recovered by its name (`lookup_document`).  The index has the values of all enumerations,
if each of them can be read.  `longDocument` has one that cannot.
-/

namespace FeatureGen.Schema

open FeatureGen.Text

variable {before : Option Char} {s t n name body rest : List Char}

/-! ## Headers with a given keyword -/

/-- What a header with a keyword consists of. -/
theorem exists_of_namedHeaderAt? {keyword : List Char}
    (h : namedHeaderAt? keyword before s = some (name, rest)) :
    startsWord before = true ∧ ∃ w w', s = keyword ++ (w ++ (name ++ (w' ++ '\x7b' :: rest))) ∧
      w ≠ [] ∧ Every isBlank w ∧ IsWordText name ∧ Every isBlank w' := by
  rw [namedHeaderAt?] at h
  split at h
  · next hstart =>
    simp only [Option.bind_eq_bind, Option.bind_eq_some_iff] at h
    obtain ⟨s₁, h₁, s₂, h₂, h₃⟩ := h
    split at h₃
    · cases h₃
    · next hne =>
      obtain ⟨r, hr, he⟩ := Option.bind_eq_some_iff.1 h₃
      cases he
      obtain ⟨w, rfl, hw, hblank⟩ := exists_of_afterBlanks? h₂
      obtain ⟨w', hw', hblank'⟩ := exists_of_afterMark? hr
      have hspan : (spanWord s₂).1 ++ (spanWord s₂).2 = s₂ := List.takeWhile_append_dropWhile
      have hword : Every isWord (spanWord s₂).1 :=
        List.all_eq_true.1 List.all_takeWhile
      refine ⟨hstart, w, w', ?_, hw, hblank, ⟨by simpa using hne, hword⟩, hblank'⟩
      rw [← hw', hspan]
      exact eq_append_of_after? h₁
  · cases h

/-- A header with a keyword is one. -/
theorem startsHeader_of_namedHeaderAt? (kind : BlockKind)
    (h : namedHeaderAt? kind.keyword before s = some (name, rest)) : StartsHeader s := by
  obtain ⟨-, w, w', rfl, hw, hblank, hname, hblank'⟩ := exists_of_namedHeaderAt? h
  have hkeyword := isWordText_keyword kind
  exact .of_words hkeyword.1 (fun c hc => isDelimiter_eq_false_of_isWord (hkeyword.2 c hc)) hw
    hblank hname.1 (fun c hc => isDelimiter_eq_false_of_isWord (hname.2 c hc)) hblank'

/-- The header of a block is found by the keyword of its kind and by no other. -/
theorem namedHeaderAt?_textFrom (kind : BlockKind) (b : Block) (rest : List Char)
    (hbefore : startsWord before = true) :
    namedHeaderAt? kind.keyword before (b.textFrom rest) =
      if b.kind = kind then some (b.name, b.body ++ '\x7d' :: rest) else none := by
  rw [namedHeaderAt?, if_pos hbefore, Block.textFrom]
  by_cases hk : b.kind = kind
  · have hspan := spanWord_append b.isWordText_name.2
      (notStarting_isWord_append b.space.every (s := '\x7b' :: (b.body ++ '\x7d' :: rest))
        (notStarting_cons.2 (by decide)))
    rw [if_pos hk, ← hk, after?_append]
    simp [afterBlanks?_append b.gap.ne_nil b.gap.every
      (b.isWordText_name.notStarting_isBlank _), hspan, b.isWordText_name.1,
      afterMark?_append b.space.every (by decide : isBlank '\x7b' = false)]
  · have hother (t : List Char) : after? kind.keyword (b.kind.keyword ++ t) = none := by
      cases kind <;> cases hb : b.kind <;>
        first
        | exact absurd hb hk
        | simp [BlockKind.keyword, after?, afterBy?]
    rw [if_neg hk, hother]
    rfl

/-- The names in the headers with a keyword are those of the blocks of its kind. -/
theorem findsHeaders_name (kind : BlockKind) :
    FindsHeaders (fun before s => (namedHeaderAt? kind.keyword before s).map Prod.fst)
      fun b => if b.kind = kind then some b.name else none where
  startsWord_of_eq_some := by
    intro before s a h
    obtain ⟨⟨name, rest⟩, hfound, -⟩ := Option.map_eq_some_iff.1 h
    exact (exists_of_namedHeaderAt? hfound).1
  startsHeader_of_eq_some := by
    intro before s a h
    obtain ⟨⟨name, rest⟩, hfound, -⟩ := Option.map_eq_some_iff.1 h
    exact startsHeader_of_namedHeaderAt? kind hfound
  textFrom := by
    intro before b rest hbefore
    rw [namedHeaderAt?_textFrom kind b rest hbefore]
    split <;> rfl

/-- A block of a kind gives a result, and one of the other kind none. -/
theorem filterMap_blocks {α : Type} (d : Document) (kind : BlockKind) (f : Block → α) :
    d.blocks.filterMap (fun b => if b.kind = kind then some (f b) else none) =
      (d.blocksOf kind).map f := by
  rw [Document.blocksOf]
  induction d.blocks with
  | nil => rfl
  | cons b blocks ih =>
    by_cases hk : b.kind = kind
    · simp [hk, ih]
    · simp [hk, ih]

/-- The models of a document are listed by the names of its blocks. -/
theorem modelNames_text (d : Document) : modelNames d.text = firsts (d.names .model) := by
  have hall := (findsHeaders_name .model).searchAll_document d
  rw [filterMap_blocks d .model Block.name] at hall
  rw [modelNames, map_searchAll]
  exact congrArg firsts hall

/-! ## Models by name -/

theorem untilClosed?_append (hbody : BraceFree body) (rest : List Char) :
    untilClosed? (body ++ '\x7d' :: rest) = some (body, rest) := by
  have htest : Every (fun c => c != '\x7d') body := fun c hc => by simpa using (hbody c hc).2
  rw [untilClosed?, takeWhile_append_of_notStarting htest (by simp),
    dropWhile_append_of_notStarting htest (by simp)]

/-- What the rest of a header with a name consists of. -/
theorem exists_of_afterName? (h : afterName? n s = some rest) :
    ∃ w m w', s = w ++ (m ++ (w' ++ '\x7b' :: rest)) ∧ w ≠ [] ∧ Every isBlank w ∧
      SameUpToCase n m ∧ Every isBlank w' := by
  induction s with
  | nil => cases h
  | cons c s ih =>
    rw [afterName?] at h
    split at h
    · next hc =>
      split at h
      · next r hfound =>
        cases h
        obtain ⟨t, hname, hmark⟩ := Option.bind_eq_some_iff.1 hfound
        obtain ⟨m, rfl, hm⟩ := exists_of_afterUpToCase? hname
        obtain ⟨w', rfl, hblank'⟩ := exists_of_afterMark? hmark
        exact ⟨[c], m, w', rfl, List.cons_ne_nil c [], by simpa [Every] using hc, hm, hblank'⟩
      · obtain ⟨w, m, w', rfl, -, hblank, hm, hblank'⟩ := ih h
        refine ⟨c :: w, m, w', rfl, List.cons_ne_nil c w, ?_, hm, hblank'⟩
        intro d hd
        rcases List.mem_cons.1 hd with rfl | hd
        · exact hc
        · exact hblank d hd
    · cases h

/-- A name is found after blanks where it stands up to case. -/
theorem afterName?_append {gap space : List Char} (hn : IsWordUpToCase n)
    (hname : SameUpToCase n name) (hgap : gap ≠ []) (hgapBlank : Every isBlank gap)
    (hspace : Every isBlank space) (rest : List Char) :
    afterName? n (gap ++ (name ++ (space ++ '\x7b' :: rest))) = some rest := by
  induction gap with
  | nil => exact absurd rfl hgap
  | cons c gap ih =>
    rw [List.cons_append, afterName?, if_pos (hgapBlank c List.mem_cons_self)]
    cases gap with
    | nil =>
      rw [List.nil_append, afterUpToCase?_append hname, Option.bind_some,
        afterMark?_append hspace (by decide)]
    | cons d gap =>
      -- The name does not start with the blank `d`, so that the step fails here.
      have hd : isBlank d = true := hgapBlank d (by simp)
      have hnone : afterUpToCase? n (d :: gap ++ (name ++ (space ++ '\x7b' :: rest))) = none := by
        cases he : afterUpToCase? n (d :: gap ++ (name ++ (space ++ '\x7b' :: rest))) with
        | none => rfl
        | some t =>
          obtain ⟨m, hm, hsame⟩ := exists_of_afterUpToCase? he
          have hmword := hsame.isWordUpToCase_right hn
          cases m with
          | nil => exact absurd rfl hmword.ne_nil
          | cons e m =>
            obtain rfl : d = e := (List.cons.inj hm).1
            have hdelim := hmword.isDelimiter_eq_false d List.mem_cons_self
            rw [isDelimiter_of_isBlank hd] at hdelim
            cases hdelim
      rw [hnone, Option.bind_none]
      exact ih (List.cons_ne_nil d gap) fun e he => hgapBlank e (List.mem_cons_of_mem _ he)

/-- Where the name of a block stands, exactly the names that agree with it are found. -/
theorem afterName?_block (b : Block) (hn : IsWordUpToCase n) (rest : List Char) :
    afterName? n (b.gap.chars ++ (b.name ++ (b.space.chars ++ '\x7b' :: rest))) =
      if SameUpToCase n b.name then some rest else none := by
  by_cases hname : SameUpToCase n b.name
  · rw [if_pos hname]
    exact afterName?_append hn hname b.gap.ne_nil b.gap.every b.space.every rest
  · rw [if_neg hname]
    cases he : afterName? n (b.gap.chars ++ (b.name ++ (b.space.chars ++ '\x7b' :: rest))) with
    | none => rfl
    | some r =>
      obtain ⟨w, m, w', hs, hw, hblank, hm, hblank'⟩ := exists_of_afterName? he
      have hmword := hm.isWordUpToCase_right hn
      have hmstart : NotStarting isBlank (m ++ (w' ++ '\x7b' :: r)) :=
        notStarting_append (fun c hc => isBlank_eq_false_of_isDelimiter
          (hmword.isDelimiter_eq_false c hc)) fun hnil => absurd hnil hmword.ne_nil
      have hafter := (append_inj_of_notStarting isBlank b.gap.every hblank
        (b.isWordText_name.notStarting_isBlank _) hmstart hs).2
      have hword : Without isDelimiter b.name := fun c hc =>
        isDelimiter_eq_false_of_isWord (b.isWordText_name.2 c hc)
      have hsame := (append_inj_of_notStarting (fun c => !isDelimiter c)
        (every_not_iff.2 hword) (every_not_iff.2 hmword.isDelimiter_eq_false)
        (notStarting_not_isDelimiter b.space.every rest)
        (notStarting_not_isDelimiter hblank' r) hafter).1
      exact absurd (hsame ▸ hm) hname

/-- What a header of a model with a name consists of. -/
theorem startsHeader_of_headerAt? (hn : IsWordUpToCase n) (h : headerAt? n before s = some rest) :
    startsWord before = true ∧ StartsHeader s := by
  rw [headerAt?] at h
  split at h
  · next hstart =>
    obtain ⟨t, hkeyword, hname⟩ := Option.bind_eq_some_iff.1 h
    obtain ⟨k, rfl, hk⟩ := exists_of_afterUpToCase? hkeyword
    obtain ⟨w, m, w', rfl, hw, hblank, hm, hblank'⟩ := exists_of_afterName? hname
    have hkword := hk.isWordUpToCase_right ((isWordText_keyword .model).isWordUpToCase)
    have hmword := hm.isWordUpToCase_right hn
    exact ⟨hstart, .of_words hkword.ne_nil hkword.isDelimiter_eq_false hw hblank hmword.ne_nil
      hmword.isDelimiter_eq_false hblank'⟩
  · cases h

theorem headerAt?_textFrom (hn : IsWordUpToCase n) (b : Block) (rest : List Char)
    (hbefore : startsWord before = true) :
    headerAt? n before (b.textFrom rest) =
      if b.kind = .model ∧ SameUpToCase n b.name then some (b.body ++ '\x7d' :: rest)
      else none := by
  rw [headerAt?, if_pos hbefore, Block.textFrom]
  cases hk : b.kind with
  | model =>
    have hkeyword := afterUpToCase?_append (.refl BlockKind.model.keyword)
      (b.gap.chars ++ (b.name ++ (b.space.chars ++ '\x7b' :: (b.body ++ '\x7d' :: rest))))
    rw [BlockKind.keyword] at hkeyword
    rw [BlockKind.keyword, hkeyword, Option.bind_some, afterName?_block b hn]
    simp
  | enumeration =>
    have hother (t : List Char) :
        afterUpToCase? "model".toList (BlockKind.enumeration.keyword ++ t) = none := by
      have hm : (caseKey 'm' == caseKey 'e') = false := by decide
      simp [BlockKind.keyword, afterUpToCase?, afterBy?, hm]
    rw [hother]
    rfl

/-- The bodies that closed models with a name give are those of the blocks of models whose names
agree with it. -/
theorem findsHeaders_block (hn : IsWordUpToCase n) :
    FindsHeaders (blockAt? n) fun b =>
      if b.kind = .model ∧ SameUpToCase n b.name then some b.body else none where
  startsWord_of_eq_some := by
    intro before s a h
    obtain ⟨rest, hheader, -⟩ := Option.bind_eq_some_iff.1 h
    exact (startsHeader_of_headerAt? hn hheader).1
  startsHeader_of_eq_some := by
    intro before s a h
    obtain ⟨rest, hheader, -⟩ := Option.bind_eq_some_iff.1 h
    exact (startsHeader_of_headerAt? hn hheader).2
  textFrom := by
    intro before b rest hbefore
    rw [blockAt?, headerAt?_textFrom hn b rest hbefore]
    split
    · simp [untilClosed?_append b.braceFree_body]
    · rfl

/-- The body that a name looks up in a document is that of the first model whose name agrees with
it. -/
theorem modelBody?_text (d : Document) (hn : IsWordUpToCase n) :
    modelBody? d.text n =
      (d.blocks.find? fun b => b.kind = .model ∧ SameUpToCase n b.name).map Block.body := by
  have hne : n.isEmpty = false := by simpa using hn.ne_nil
  rw [modelBody?, hne, if_neg (by decide), (findsHeaders_block hn).search?_document d]
  induction d.blocks with
  | nil => rfl
  | cons b blocks ih =>
    rw [List.findSome?_cons, List.find?_cons, ih]
    by_cases h : b.kind = .model ∧ SameUpToCase n b.name
    · simp [h]
    · simp [h]

/-! ## Enumerations -/

theorem enumBlockAt?_textFrom (b : Block) (rest : List Char) (hbefore : startsWord before = true) :
    enumBlockAt? before (b.textFrom rest) =
      if b.kind = .enumeration then some (b.name, b.body, rest) else none := by
  have hheader := namedHeaderAt?_textFrom .enumeration b rest hbefore
  rw [BlockKind.keyword] at hheader
  rw [enumBlockAt?, hheader]
  split
  · simp [untilClosed?_append b.braceFree_body]
  · rfl

/-- The names and bodies that closed enumerations give are those of their blocks. -/
theorem findsHeaders_enumBlock :
    FindsHeaders (fun before s => (enumBlockAt? before s).map fun (name, body, _) => (name, body))
      fun b => if b.kind = .enumeration then some (b.name, b.body) else none where
  startsWord_of_eq_some := by
    intro before s a h
    obtain ⟨⟨name, body, rest⟩, hfound, -⟩ := Option.map_eq_some_iff.1 h
    obtain ⟨⟨_, _⟩, hheader, -⟩ := Option.bind_eq_some_iff.1 hfound
    exact (exists_of_namedHeaderAt? hheader).1
  startsHeader_of_eq_some := by
    intro before s a h
    obtain ⟨⟨name, body, rest⟩, hfound, -⟩ := Option.map_eq_some_iff.1 h
    obtain ⟨⟨_, _⟩, hheader, -⟩ := Option.bind_eq_some_iff.1 hfound
    exact startsHeader_of_namedHeaderAt? .enumeration hheader
  textFrom := by
    intro before b rest hbefore
    rw [enumBlockAt?_textFrom b rest hbefore]
    split <;> rfl

/-- The scan for enumerations goes on after a part where it finds nothing. -/
theorem enumBlocksFrom_append {p : List Char} (h : Passes enumBlockAt? before p s) :
    enumBlocksFrom 0 before (p ++ s) = enumBlocksFrom 0 (lastChar before p) s := by
  induction p generalizing before with
  | nil => rfl
  | cons c p ih =>
    obtain ⟨hc, hp⟩ := h
    rw [List.cons_append, enumBlocksFrom, hc, lastChar_cons]
    exact ih hp

/-- It goes on after a part that it skips. -/
theorem enumBlocksFrom_length (before : Option Char) (p s : List Char) :
    enumBlocksFrom p.length before (p ++ s) = enumBlocksFrom 0 (lastChar before p) s := by
  induction p generalizing before with
  | nil => rfl
  | cons c p ih =>
    rw [List.length_cons, List.cons_append, enumBlocksFrom, lastChar_cons]
    exact ih (some c)

/-- The scan for enumerations finds the block of one, and goes on after any block. -/
theorem enumBlocksFrom_textFrom (b : Block) (rest : List Char)
    (hbefore : startsWord before = true) :
    enumBlocksFrom 0 before (b.textFrom rest) =
      (if b.kind = .enumeration then [(b.name, b.body)] else []) ++
        enumBlocksFrom 0 (some '\x7d') rest := by
  have hstep := enumBlockAt?_textFrom b rest hbefore
  rw [Block.textFrom_eq_cons] at hstep
  rw [Block.textFrom_eq_cons, enumBlocksFrom, hstep]
  by_cases hk : b.kind = .enumeration
  · simp only [if_pos hk]
    rw [List.length_append, Nat.add_sub_cancel, enumBlocksFrom_length, b.lastChar_tail]
    rfl
  · simp only [if_neg hk]
    rw [enumBlocksFrom_append (Passes.of_map (findsHeaders_enumBlock.passes_tail b rest)),
      b.lastChar_tail]
    rfl

theorem enumBlocksFrom_blocks (blocks : List Block) (hbefore : startsWord before = true)
    {trail : List Char} (htrail : Every isBlank trail) :
    enumBlocksFrom 0 before (blocks.flatMap Block.text ++ trail) =
      (blocks.filter (·.kind = .enumeration)).map fun b => (b.name, b.body) := by
  induction blocks generalizing before with
  | nil =>
    have hpass : Passes enumBlockAt? before trail [] := Passes.of_map
      (findsHeaders_enumBlock.passes_delimiters fun c hc => isDelimiter_of_isBlank (htrail c hc))
    have hall := enumBlocksFrom_append hpass
    rw [List.append_nil] at hall
    exact hall
  | cons b blocks ih =>
    have hpass : Passes enumBlockAt? before b.lead.chars
        (b.textFrom (blocks.flatMap Block.text ++ trail)) :=
      Passes.of_map (findsHeaders_enumBlock.passes_delimiters fun c hc =>
        isDelimiter_of_isBlank (b.lead.every c hc))
    rw [List.flatMap_cons, List.append_assoc, Block.text_append, enumBlocksFrom_append hpass,
      enumBlocksFrom_textFrom b _ (startsWord_lastChar hbefore b.lead.every), ih (by decide)]
    by_cases hk : b.kind = .enumeration
    · simp [hk]
    · simp [hk]

/-- The enumerations of a document are collected with the bodies of its blocks. -/
theorem enumBlocks_text (d : Document) :
    enumBlocks d.text = (d.blocksOf .enumeration).map fun b => (b.name, b.body) :=
  enumBlocksFrom_blocks d.blocks rfl d.trail.every

/-! ## Documents with distinct names -/

/-- Of the models of a document no two have names that agree up to case, and of its enumerations no
two have the same name. -/
structure Document.Distinct (d : Document) : Prop where
  models : (d.names .model).Pairwise fun m n => ¬ SameUpToCase m n
  enums : (d.names .enumeration).Nodup

/-- The models of the document are told apart by their names. -/
theorem Document.Distinct.eq_of_sameUpToCase {d : Document} (h : d.Distinct) {b b' : Block}
    (hb : b ∈ d.blocksOf .model) (hb' : b' ∈ d.blocksOf .model)
    (hname : SameUpToCase b.name b'.name) : b = b' := by
  have hpair : (d.blocksOf .model).Pairwise fun a a' => ¬ SameUpToCase a.name a'.name :=
    List.pairwise_map.1 h.models
  have hsymm : Std.Symm fun a a' : Block => ¬ SameUpToCase a.name a'.name :=
    ⟨fun _ _ hne hs => hne hs.symm⟩
  by_cases heq : b = b'
  · exact heq
  · exact absurd hname (hpair.forall hb hb' heq)

theorem Document.Distinct.nodup_models {d : Document} (h : d.Distinct) :
    (d.names .model).Nodup := by
  apply h.models.imp
  intro m n hne he
  exact hne (he ▸ .refl m)

/-- The models are listed in the order of the document. -/
theorem Document.Distinct.modelNames_text {d : Document} (h : d.Distinct) :
    modelNames d.text = d.names .model := by
  rw [Schema.modelNames_text, firsts, firstsBy_eq_self (by simpa using h.nodup_models) (by simp)]

/-- A model is looked up by any name that agrees with its own. -/
theorem Document.Distinct.modelBody?_text {d : Document} (h : d.Distinct) {b : Block}
    (hb : b ∈ d.blocksOf .model) (hname : SameUpToCase n b.name) :
    modelBody? d.text n = some b.body := by
  have hmem := List.mem_filter.1 hb
  rw [Schema.modelBody?_text d (hname.isWordUpToCase b.isWordText_name)]
  cases hfind : d.blocks.find? fun a => a.kind = .model ∧ SameUpToCase n a.name with
  | none =>
    have hne : b.kind = .model → ¬ SameUpToCase n b.name := by
      simpa using List.find?_eq_none.1 hfind b hmem.1
    exact absurd hname (hne (by simpa using hmem.2))
  | some a =>
    have ha : a.kind = .model ∧ SameUpToCase n a.name := by simpa using List.find?_some hfind
    have hamem : a ∈ d.blocksOf .model :=
      List.mem_filter.2 ⟨List.mem_of_find?_eq_some hfind, by simpa using ha.1⟩
    rw [h.eq_of_sameUpToCase hamem hb (ha.2.symm.trans hname)]
    rfl

/-- The enumeration that a block declares. -/
def Block.enumeration (b : Block) : Except DigitFault (String × List String) :=
  (enumValues b.body).map fun values => (String.ofList b.name, values.map String.ofList)

/-- The models of a document, its enumerations, and the version of unique identifiers that its text
first asks for. -/
def Document.index (d : Document) : Except DigitFault Index :=
  ((d.blocksOf .enumeration).mapM Block.enumeration).map fun enums =>
    { models := (d.names .model).map String.ofList
      enums := enums
      uuidVersion := uuidVersion? d.text }

/-- An enumeration has the name of its block. -/
theorem Block.fst_of_enumeration {b : Block} {e : String × List String}
    (h : b.enumeration = .ok e) : e.1 = String.ofList b.name := by
  obtain ⟨values, -, rfl⟩ := exists_of_map_eq_ok h
  rfl

theorem enumerations_text (d : Document) :
    enumerations d.text = (d.blocksOf .enumeration).mapM Block.enumeration := by
  rw [enumerations, enumBlocks_text, List.mapM_map]
  rfl

/-- The index of a document lists its models and its enumerations. -/
theorem Document.Distinct.ofText_text {d : Document} (h : d.Distinct) :
    Index.ofText d.text = d.index := by
  rw [Index.ofText, enumerations_text, h.modelNames_text, Document.index]
  cases henums : (d.blocksOf .enumeration).mapM Block.enumeration with
  | error fault => rfl
  | ok enums =>
    have hnames : enums.map Prod.fst =
        (d.blocksOf .enumeration).map (String.ofList ∘ Block.name) :=
      map_eq_map_of_mapM henums fun _ _ => Block.fst_of_enumeration
    have hnodup : (enums.map Prod.fst).Nodup := by
      rw [hnames, ← List.map_map]
      have hne (s t : List Char) (hst : s ≠ t) : String.ofList s ≠ String.ofList t :=
        fun heq => hst (String.ofList_injective heq)
      exact List.Pairwise.map String.ofList hne h.enums
    have hfirsts : firstsBy Prod.fst [] enums = enums := firstsBy_eq_self hnodup (by simp)
    show Except.ok (Index.mk _ (firstsBy Prod.fst [] enums) _) = _
    rw [hfirsts]
    rfl

/-- Every block of a document with distinct names is recovered.  The models are listed in order,
each is looked up by every name that agrees with its own and by no other word, and the index has the
models and has each enumeration with the values in its body, unless one of the bodies has a number
with too many digits. -/
theorem lookup_document (d : Document) (h : d.Distinct) :
    modelNames d.text = d.names .model ∧
      (∀ b ∈ d.blocksOf .model, ∀ n, SameUpToCase n b.name →
        modelBody? d.text n = some b.body) ∧
      (∀ n, Every isWord n → (∀ m ∈ d.names .model, ¬ SameUpToCase n m) →
        modelBody? d.text n = none) ∧
      Index.ofText d.text =
        ((d.blocksOf .enumeration).mapM fun b => (enumValues b.body).map fun values =>
          (String.ofList b.name, values.map String.ofList)).map fun enums =>
            { models := (d.names .model).map String.ofList
              enums := enums
              uuidVersion := uuidVersion? d.text } := by
  refine ⟨h.modelNames_text, ?_, ?_, h.ofText_text⟩
  · intro b hb n hname
    exact h.modelBody?_text hb hname
  · intro n hn hother
    cases n with
    | nil => rfl
    | cons c n =>
      rw [modelBody?_text d (IsWordText.isWordUpToCase ⟨List.cons_ne_nil c n, hn⟩),
        Option.map_eq_none_iff, List.find?_eq_none]
      intro b hb hfound
      have ⟨hkind, hname⟩ : b.kind = .model ∧ SameUpToCase (c :: n) b.name := by
        simpa using hfound
      have hmem : b ∈ d.blocksOf .model := List.mem_filter.2 ⟨hb, by simpa using hkind⟩
      exact hother b.name (List.mem_map_of_mem hmem) hname

/-- A document whose names and bodies are full of keywords. -/
def keywordDocument : Document where
  blocks :=
    [{ kind := .model, name := "enum".toList, body := " model X\n enum enum\n".toList,
       lead := { chars := [] } },
     { kind := .enumeration, name := "model".toList, body := " A B model enum ".toList },
     { kind := .model, name := "model".toList, body := "\n x model?\n".toList,
       space := { chars := [] } }]

/-- No keyword in a name or a body is taken for a header. -/
theorem lookup_document_keywords :
    keywordDocument.Distinct ∧
      modelNames keywordDocument.text = ["enum".toList, "model".toList] ∧
      modelBody? keywordDocument.text "MODEL".toList = some "\n x model?\n".toList ∧
      modelBody? keywordDocument.text "X".toList = none ∧
      Index.ofText keywordDocument.text =
        .ok ⟨["enum", "model"], [("model", ["A", "B", "model", "enum"])], none⟩ := by
  have h : keywordDocument.Distinct := ⟨by decide, by decide⟩
  have ⟨hnames, hbody, hnone, hindex⟩ := lookup_document keywordDocument h
  refine ⟨h, hnames, ?_, hnone _ (by decide) (by decide), hindex.trans rfl⟩
  have hmem : ∃ b ∈ keywordDocument.blocksOf .model,
      b.name = "model".toList ∧ b.body = "\n x model?\n".toList := by decide
  obtain ⟨b, hb, hname, hbodyEq⟩ := hmem
  rw [hbody b hb "MODEL".toList (by rw [hname]; decide), hbodyEq]

/-! ## A document without an index -/

theorem isWordText_post : IsWordText "Post".toList := by decide

theorem braceFree_title : BraceFree " title String ".toList := by decide

/-- A model with one field. -/
def postBlock : Block where
  kind := .model
  name := "Post".toList
  body := " title String ".toList
  isWordText_name := isWordText_post
  braceFree_body := braceFree_title

/-- A model, and an enumeration whose only value has a digit too many. -/
def longDocument : Document where
  blocks :=
    [postBlock,
     { kind := .enumeration, name := "Size".toList, body := longReference,
       braceFree_body :=
         forall_mem_longReference (by decide) (by decide) (by decide) (by decide) }]

/-- The characters of `longDocument`. -/
def longCharacters : List Char :=
  "\nmodel Post \x7b title String \x7d\nenum Size \x7b&#1;\x7d".toList

theorem text_longDocument_subset : longDocument.text ⊆ longCharacters := by
  have hlong : longReference ⊆ longCharacters := fun c =>
    forall_mem_longReference (P := (· ∈ longCharacters)) (by decide) (by decide) (by decide)
      (by decide) c
  simp only [longDocument, postBlock, Document.text, List.flatMap_cons, List.flatMap_nil, Block.text,
    Block.textFrom, List.append_subset, List.cons_subset]
  exact ⟨⟨by decide, ⟨by decide, by decide, by decide, by decide, by decide, by decide, hlong,
    by decide⟩, by decide⟩, by decide⟩

theorem distinct_longDocument : longDocument.Distinct := ⟨by decide, by decide⟩

theorem ofText_longDocument : Index.ofText longDocument.text = .error ⟨digitLimit + 1⟩ := by
  have hindex : longDocument.index = .error ⟨digitLimit + 1⟩ := by
    have hblocks : ∃ b : Block, longDocument.blocksOf .enumeration = [b] ∧ b.body = longReference :=
      ⟨_, rfl, rfl⟩
    obtain ⟨b, hb, hbody⟩ := hblocks
    have hvalue : b.enumeration = .error ⟨digitLimit + 1⟩ := by
      rw [Block.enumeration, hbody, enumValues_longReference]
      rfl
    rw [Document.index, hb, mapM_cons_of_error hvalue]
    rfl
  rw [distinct_longDocument.ofText_text, hindex]

theorem modelBody?_longDocument :
    modelBody? longDocument.text "Post".toList = some " title String ".toList := by
  have hmem : postBlock ∈ longDocument.blocksOf .model := .head _
  exact distinct_longDocument.modelBody?_text hmem (.refl postBlock.name)

/-- Its blocks are found, but it has no index. -/
theorem longDocument_without_index :
    longDocument.Distinct ∧ modelNames longDocument.text = ["Post".toList] ∧
      modelBody? longDocument.text "Post".toList = some " title String ".toList ∧
      Index.ofText longDocument.text = .error ⟨4301⟩ :=
  ⟨distinct_longDocument, distinct_longDocument.modelNames_text, modelBody?_longDocument,
    ofText_longDocument⟩

end FeatureGen.Schema

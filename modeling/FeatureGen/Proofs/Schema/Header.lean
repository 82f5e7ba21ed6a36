import FeatureGen.Proofs.Distinct
import FeatureGen.Proofs.Schema.Scan

/-!
# Headers of models

A `Header` of a model stands at a position of a text where a word begins: the keyword, blanks, a
given name and a brace, with the keyword and the name in any case.  The text and the name are
arbitrary, so that the name may have blanks or braces itself; the brace of a header is still
determined by its position (`Header.rest_eq`).

Whether a model is declared, where its body is, and which models there are is asked by three scans.
All of them find headers and nothing else (`headerAt?_eq_some_iff`).  The scan for a body looks for
a block that is closed, and so it could leave out a header and go on to a later one.  It does not:
what follows a later header is the end of what follows an earlier one (`Header.rest_suffix`), so
that where the first is not closed none is.

`lookups_by_header` says what the three scans answer in terms of headers.
-/

namespace FeatureGen.Schema

open FeatureGen.Text

variable {text name n m w s r r' body after : List Char} {before : Option Char}

/-- A word begins or ends between a character and the text behind it. -/
def WordBoundary (before : Option Char) (s : List Char) : Prop :=
  before.any isWord ≠ s.head?.any isWord

instance (before : Option Char) (s : List Char) : Decidable (WordBoundary before s) :=
  inferInstanceAs (Decidable (before.any isWord ≠ s.head?.any isWord))

/-- A header of a model with a name in a text. -/
structure Header (text name : List Char) where
  /-- The text before it. -/
  lead : List Char
  /-- The keyword as it is written. -/
  keyword : List Char
  /-- The blanks between the keyword and the name. -/
  gap : NonemptyRun isBlank
  /-- The name as it is written. -/
  spelled : List Char
  /-- The blanks before the brace. -/
  space : Run isBlank
  /-- The text behind the brace. -/
  rest : List Char
  text_eq : lead ++ (keyword ++ (gap.chars ++ (spelled ++ (space.chars ++ '\x7b' :: rest)))) = text
  boundary : WordBoundary lead.getLast? keyword
  sameUpToCase_keyword : SameUpToCase "model".toList keyword
  sameUpToCase_spelled : SameUpToCase name spelled

/-- Where the header stands in the text. -/
def Header.position (h : Header text name) : Nat := h.lead.length

/-- No header of the name stands before this one. -/
def Header.Leftmost (h : Header text name) : Prop :=
  ∀ h' : Header text name, h.position ≤ h'.position

/-! ## The keyword -/

theorem isWord_of_sameUpToCase {k : List Char} (h : SameUpToCase "model".toList k) :
    Every isWord k := by
  intro c hc
  have hkey : caseKey c ∈ "model".toList.map caseKey := h.symm ▸ List.mem_map_of_mem hc
  obtain ⟨d, hd, he⟩ := List.mem_map.1 hkey
  exact isWord_of_caseKey_eq hd he.symm

theorem exists_cons_of_sameUpToCase {k : List Char} (h : SameUpToCase "model".toList k) :
    ∃ c t, k = c :: t ∧ isWord c = true := by
  cases k with
  | nil => cases h
  | cons c t => exact ⟨c, t, rfl, isWord_of_sameUpToCase h c List.mem_cons_self⟩

/-- At the keyword a boundary is the beginning of a word. -/
theorem wordBoundary_iff {k : List Char} (h : SameUpToCase "model".toList k) :
    WordBoundary before k ↔ startsWord before = true := by
  obtain ⟨c, t, rfl, hc⟩ := exists_cons_of_sameUpToCase h
  cases before with
  | none => simp [WordBoundary, startsWord, hc]
  | some b => simp [WordBoundary, startsWord, hc]

/-! ## What follows the brace -/

/-- Blanks and a brace are cut off a text in only one way. -/
theorem rest_eq_of_append (hw : Every isBlank w) (hm : Every isBlank m)
    (h : w ++ '\x7b' :: r = m ++ '\x7b' :: r') : r = r' := by
  have hbrace (t : List Char) : NotStarting isBlank ('\x7b' :: t) := notStarting_cons.2 (by decide)
  exact (List.cons.inj (append_inj_of_notStarting isBlank hw hm (hbrace r) (hbrace r') h).2).2

/-- Trimming the start of a name, blanks and a brace cuts into the name, or off the blanks. -/
theorem trimStart_append_brace (hw : Every isBlank w) (s r : List Char) :
    trimStart (s ++ (w ++ '\x7b' :: r)) =
      trimStart s ++ if trimStart s = [] then '\x7b' :: r else w ++ '\x7b' :: r := by
  have hbrace : NotStarting isBlank ('\x7b' :: r) := notStarting_cons.2 (by decide)
  by_cases hs : trimStart s = []
  · rw [if_pos hs, hs, List.nil_append, trimStart_append_of_eq_nil hs, trimStart_append hw hbrace]
  · rw [if_neg hs, trimStart_append_of_ne_nil hs]

/-- Blanks, a name and a brace: however the blanks are divided, the same text follows. -/
theorem rest_eq_of_sameUpToCase {u m' w' : List Char} (hu : Every isBlank u)
    (hm : SameUpToCase n m) (hm' : SameUpToCase n m') (hw : Every isBlank w)
    (hw' : Every isBlank w')
    (h : u ++ (m ++ (w ++ '\x7b' :: r)) = m' ++ (w' ++ '\x7b' :: r')) : r = r' := by
  have hstart := hm.trimStart
  have hstart' := hm'.trimStart
  have htrim := congrArg trimStart h
  rw [trimStart_append_of_blank hu, trimStart_append_brace hw, trimStart_append_brace hw'] at htrim
  have hlength : (trimStart m).length = (trimStart m').length :=
    hstart.length_eq.symm.trans hstart'.length_eq
  obtain ⟨hname, hrest⟩ := List.append_inj htrim hlength
  rw [hname] at hrest
  split at hrest
  · exact (List.cons.inj hrest).2
  · exact rest_eq_of_append hw hw' hrest

/-! ## Where a scan finds a header -/

theorem afterMark?_append_brace (hw : Every isBlank w) :
    afterMark? '\x7b' (w ++ '\x7b' :: r) = some r :=
  afterMark?_append hw (by decide)

/-- The rest of a header is found wherever there is one, whatever the name. -/
theorem afterName?_of_append (hne : w ≠ []) (hw : Every isBlank w) (hm : SameUpToCase n m)
    {w' : List Char} (hw' : Every isBlank w') :
    afterName? n (w ++ (m ++ (w' ++ '\x7b' :: r))) = some r := by
  induction w with
  | nil => exact absurd rfl hne
  | cons c w ih =>
    have hblanks : Every isBlank w := fun d hd => hw d (List.mem_cons_of_mem c hd)
    rw [List.cons_append, afterName?, if_pos (hw c List.mem_cons_self)]
    split
    · next r' hfound =>
      -- The name may stand here already; the brace behind it is the same.
      obtain ⟨t, hname, hmark⟩ := Option.bind_eq_some_iff.1 hfound
      obtain ⟨m', hs, hm'⟩ := exists_of_afterUpToCase? hname
      obtain ⟨w'', rfl, hw''⟩ := exists_of_afterMark? hmark
      rw [rest_eq_of_sameUpToCase hblanks hm hm' hw' hw'' hs]
    · next hnone =>
      cases w with
      | nil =>
        rw [List.nil_append, afterUpToCase?_append hm, Option.bind_some,
          afterMark?_append_brace hw'] at hnone
        cases hnone
      | cons d w => exact ih (List.cons_ne_nil d w) hblanks

namespace Header

variable (h : Header text name)

/-- The text from the keyword on. -/
def tail : List Char :=
  h.keyword ++ (h.gap.chars ++ (h.spelled ++ (h.space.chars ++ '\x7b' :: h.rest)))

theorem headerAt?_tail : headerAt? name (lastChar none h.lead) h.tail = some h.rest := by
  have hstart := (wordBoundary_iff h.sameUpToCase_keyword).1 h.boundary
  rw [lastChar, Option.or_none, headerAt?, if_pos hstart, tail,
    afterUpToCase?_append h.sameUpToCase_keyword, Option.bind_some,
    afterName?_of_append h.gap.ne_nil h.gap.every h.sameUpToCase_spelled h.space.every]

/-- The brace of a header is determined by where the header stands. -/
theorem rest_eq {h h' : Header text name} (hposition : h.position = h'.position) :
    h.rest = h'.rest := by
  have htext : h.lead ++ h.tail = h'.lead ++ h'.tail := h.text_eq.trans h'.text_eq.symm
  obtain ⟨hlead, htail⟩ := List.append_inj htext hposition
  have hfound := h.headerAt?_tail
  rw [hlead, htail, h'.headerAt?_tail] at hfound
  exact (Option.some.inj hfound).symm

end Header

/-- Where the scan succeeds there is a header. -/
theorem exists_header {p t : List Char} (htext : p ++ t = text)
    (h : headerAt? name (lastChar none p) t = some r) :
    ∃ h : Header text name, h.lead = p ∧ h.rest = r := by
  rw [lastChar, Option.or_none, headerAt?] at h
  split at h
  · next hstart =>
    obtain ⟨u, hkeyword, hname⟩ := Option.bind_eq_some_iff.1 h
    obtain ⟨k, rfl, hk⟩ := exists_of_afterUpToCase? hkeyword
    obtain ⟨w, m, w', rfl, hne, hw, hm, hw'⟩ := exists_of_afterName? hname
    exact ⟨{ lead := p, keyword := k, gap := ⟨⟨w, hw⟩, hne⟩, spelled := m, space := ⟨w', hw'⟩,
             rest := r, text_eq := htext, boundary := (wordBoundary_iff hk).2 hstart,
             sameUpToCase_keyword := hk, sameUpToCase_spelled := hm }, rfl, rfl⟩
  · cases h

theorem hasModel_iff (hname : name ≠ []) :
    hasModel text name = true ↔ Nonempty (Header text name) := by
  have hempty : name.isEmpty = false := List.isEmpty_eq_false_iff.2 hname
  rw [hasModel, hempty, Bool.not_false, Bool.true_and, Option.isSome_iff_exists]
  constructor
  · rintro ⟨r, h⟩
    obtain ⟨p, t, htext, hstep, -⟩ := search?_eq_some_iff.1 h
    obtain ⟨header, -, -⟩ := exists_header htext hstep
    exact ⟨header⟩
  · rintro ⟨header⟩
    apply Option.ne_none_iff_exists'.1
    intro hnone
    have hfail := search?_eq_none_iff.1 hnone header.lead header.tail header.text_eq
    rw [header.headerAt?_tail] at hfail
    cases hfail

/-! ## Two headers of one name -/

namespace Header

variable {h h' : Header text name}

/-- The text from a later header on is the end of the text from an earlier one on. -/
theorem exists_tail_eq (hlt : h.position < h'.position) :
    ∃ y, y ≠ [] ∧ h'.lead = h.lead ++ y ∧ h.tail = y ++ h'.tail := by
  have htext : h.lead ++ h.tail = h'.lead ++ h'.tail := h.text_eq.trans h'.text_eq.symm
  rcases List.append_eq_append_iff.1 htext with ⟨y, hlead, htail⟩ | ⟨y, hlead, -⟩
  · refine ⟨y, ?_, hlead, htail⟩
    rintro rfl
    rw [position, position, hlead, List.append_nil] at hlt
    exact absurd hlt (Nat.lt_irrefl _)
  · rw [position, position, hlead, List.length_append] at hlt
    omega

/-- A later header does not begin in the keyword of an earlier one, where no word begins. -/
theorem exists_eq_keyword_append {y : List Char} (hy : y ≠ []) (hlead : h'.lead = h.lead ++ y)
    (htail : h.tail = y ++ h'.tail) :
    ∃ z, y = h.keyword ++ z ∧
      h.gap.chars ++ (h.spelled ++ (h.space.chars ++ '\x7b' :: h.rest)) = z ++ h'.tail := by
  obtain ⟨c, t, hkeyword, hc⟩ := exists_cons_of_sameUpToCase h'.sameUpToCase_keyword
  rcases List.append_eq_append_iff.1 htail with ⟨z, hz, hgap⟩ | ⟨z, hin, -⟩
  · exact ⟨z, hz, hgap⟩
  · have hlast : y.getLast hy ∈ h.keyword := by
      rw [hin]
      exact List.mem_append_left z (List.getLast_mem hy)
    have hword := isWord_of_sameUpToCase h.sameUpToCase_keyword _ hlast
    have hboundary := h'.boundary
    rw [hlead, List.getLast?_append, List.getLast?_eq_some_getLast hy, hkeyword] at hboundary
    exact absurd (hword.trans hc.symm) hboundary

/-- It does not begin at one of the blanks behind the keyword. -/
theorem exists_eq_gap_append {z : List Char}
    (htail : h.gap.chars ++ (h.spelled ++ (h.space.chars ++ '\x7b' :: h.rest)) = z ++ h'.tail) :
    ∃ v, z = h.gap.chars ++ v ∧ h.spelled ++ (h.space.chars ++ '\x7b' :: h.rest) = v ++ h'.tail := by
  obtain ⟨c, t, hkeyword, hc⟩ := exists_cons_of_sameUpToCase h'.sameUpToCase_keyword
  rcases List.append_eq_append_iff.1 htail with ⟨v, hv, hname⟩ | ⟨v, hin, hnext⟩
  · exact ⟨v, hv, hname⟩
  · cases v with
    | nil =>
      rw [List.append_nil] at hin
      exact ⟨[], by rw [hin, List.append_nil], hnext.symm⟩
    | cons d v =>
      have hd : isBlank d = true := h.gap.every d (by simp [hin])
      rw [tail, hkeyword] at hnext
      obtain rfl : c = d := (List.cons.inj hnext).1
      rw [isBlank_eq_false_of_isWord hc] at hd
      cases hd

/-- What follows a later brace is the end of what follows a brace behind blanks. -/
theorem suffix_of_append_brace {u : List Char} (hw : Every isBlank w)
    (heq : w ++ '\x7b' :: r = u ++ '\x7b' :: r') : r' <:+ r := by
  rcases List.append_eq_append_iff.1 heq with ⟨v, -, hrest⟩ | ⟨v, hin, hrest⟩
  · cases v with
    | nil => exact (List.cons.inj hrest).2 ▸ List.suffix_refl r
    | cons d v => exact ⟨v ++ ['\x7b'], by rw [(List.cons.inj hrest).2]; simp⟩
  · cases v with
    | nil => exact (List.cons.inj hrest).2 ▸ List.suffix_refl r'
    | cons d v =>
      have hd : isBlank d = true := hw d (by simp [hin])
      obtain rfl : '\x7b' = d := (List.cons.inj hrest).1
      exact absurd hd (by decide)

/-- What follows a later header is the end of what follows an earlier one.  Their names are of one
length, so that the later name ends behind the earlier one, where only blanks precede the brace. -/
theorem rest_suffix (hlt : h.position < h'.position) : h'.rest <:+ h.rest := by
  obtain ⟨y, hy, hlead, htail⟩ := exists_tail_eq hlt
  obtain ⟨z, -, hgap⟩ := exists_eq_keyword_append hy hlead htail
  obtain ⟨v, -, hname⟩ := exists_eq_gap_append hgap
  have hlength : h.spelled.length = h'.spelled.length :=
    h.sameUpToCase_spelled.length_eq.symm.trans h'.sameUpToCase_spelled.length_eq
  have hfront : h.spelled ++ (h.space.chars ++ '\x7b' :: h.rest) =
      (v ++ (h'.keyword ++ (h'.gap.chars ++ h'.spelled))) ++
        (h'.space.chars ++ '\x7b' :: h'.rest) := by
    rw [hname, tail]
    simp only [List.append_assoc]
  rcases List.append_eq_append_iff.1 hfront with ⟨x, -, hspace⟩ | ⟨x, hin, hspace⟩
  · rw [← List.append_assoc] at hspace
    exact suffix_of_append_brace h.space.every hspace
  · have hx : x = [] := by
      have hsum := congrArg List.length hin
      simp only [List.length_append] at hsum
      exact List.length_eq_zero_iff.1 (by omega)
    rw [hx, List.nil_append] at hspace
    exact suffix_of_append_brace h.space.every hspace.symm

end Header

/-! ## Bodies -/

theorem untilClosed?_eq_some_iff :
    untilClosed? s = some (body, after) ↔ s = body ++ '\x7d' :: after ∧ '\x7d' ∉ body := by
  constructor
  · intro h
    obtain rfl := exists_of_untilClosed? h
    refine ⟨rfl, fun hmem => ?_⟩
    obtain ⟨b, t, hbody, hclosed⟩ := exists_untilClosed?_append_of_mem hmem
    rw [hclosed, Option.some.injEq, Prod.mk.injEq] at h
    have hlength := congrArg List.length hbody
    rw [h.1, List.length_append, List.length_cons] at hlength
    omega
  · rintro ⟨rfl, hmem⟩
    rw [untilClosed?_append_of_not_mem hmem, untilClosed?_cons, if_pos rfl]
    simp

theorem untilClosed?_eq_none_iff : untilClosed? s = none ↔ '\x7d' ∉ s := by
  constructor
  · intro h hmem
    obtain ⟨b, t, -, hclosed⟩ := exists_untilClosed?_append_of_mem hmem
    have hsome := hclosed []
    rw [List.append_nil, h] at hsome
    cases hsome
  · intro hmem
    have happend := untilClosed?_append_of_not_mem hmem []
    rwa [List.append_nil] at happend

theorem blockAt?_eq (name : List Char) (before : Option Char) (s : List Char) :
    blockAt? name before s =
      (headerAt? name before s).bind fun r => (untilClosed? r).map Prod.fst := by
  rw [blockAt?]
  cases headerAt? name before s with
  | none => rfl
  | some r => cases hclosed : untilClosed? r <;> simp [hclosed]

theorem blockAt?_eq_some_iff : blockAt? name before s = some body ↔
    ∃ r after, headerAt? name before s = some r ∧ r = body ++ '\x7d' :: after ∧ '\x7d' ∉ body := by
  simp only [blockAt?_eq, Option.bind_eq_some_iff, Option.map_eq_some_iff, Prod.exists,
    untilClosed?_eq_some_iff]
  constructor
  · rintro ⟨r, hheader, b, after, hclosed, rfl⟩
    exact ⟨r, after, hheader, hclosed⟩
  · rintro ⟨r, after, hheader, hclosed⟩
    exact ⟨r, hheader, body, after, hclosed, rfl⟩

theorem blockAt?_eq_none_iff : blockAt? name before s = none ↔
    ∀ r, headerAt? name before s = some r → '\x7d' ∉ r := by
  simp only [blockAt?_eq, Option.bind_eq_none_iff, Option.map_eq_none_iff, untilClosed?_eq_none_iff]

/-- The body of a name is what stands between the brace of the leftmost header and the first brace
that closes behind it. -/
theorem modelBody?_eq_some_iff (hname : name ≠ []) :
    modelBody? text name = some body ↔ ∃ h : Header text name, h.Leftmost ∧ '\x7d' ∉ body ∧
      ∃ after, h.rest = body ++ '\x7d' :: after := by
  have hempty : name.isEmpty = false := List.isEmpty_eq_false_iff.2 hname
  rw [modelBody?, hempty, if_neg Bool.false_ne_true, search?_eq_some_iff]
  constructor
  · rintro ⟨p, t, htext, hblock, hleft⟩
    obtain ⟨r, after, hheader, hrest, hbody⟩ := blockAt?_eq_some_iff.1 hblock
    obtain ⟨h, rfl, rfl⟩ := exists_header htext hheader
    refine ⟨h, fun h' => Nat.le_of_not_lt fun hlt => ?_, hbody, after, hrest⟩
    -- A header before this one would be open, and so would this one.
    have hopen := blockAt?_eq_none_iff.1 (hleft h'.lead h'.tail h'.text_eq hlt) _ h'.headerAt?_tail
    apply hopen ((Header.rest_suffix hlt).mem _)
    rw [hrest]
    exact List.mem_append_right body List.mem_cons_self
  · rintro ⟨h, hleft, hbody, after, hrest⟩
    refine ⟨h.lead, h.tail, h.text_eq,
      blockAt?_eq_some_iff.2 ⟨h.rest, after, h.headerAt?_tail, hrest, hbody⟩, fun q u htext hlt => ?_⟩
    apply blockAt?_eq_none_iff.2
    intro r hheader
    obtain ⟨h', rfl, rfl⟩ := exists_header htext hheader
    exact absurd (hleft h') (Nat.not_le_of_lt hlt)

theorem Header.exists_leftmost (h : Header text name) : ∃ h' : Header text name, h'.Leftmost := by
  induction hn : h.position using Nat.strongRecOn generalizing h with
  | ind n ih =>
    by_cases hleft : h.Leftmost
    · exact ⟨h, hleft⟩
    · obtain ⟨h', hlt⟩ := Classical.not_forall.1 hleft
      exact ih h'.position (hn ▸ Nat.lt_of_not_le hlt) h' rfl

/-- There is no body if no header stands in the text or nothing closes behind the leftmost one. -/
theorem modelBody?_eq_none_iff (hname : name ≠ []) :
    modelBody? text name = none ↔ ¬ Nonempty (Header text name) ∨
      ∃ h : Header text name, h.Leftmost ∧ '\x7d' ∉ h.rest := by
  constructor
  · intro hnone
    by_cases hsome : Nonempty (Header text name)
    · obtain ⟨h⟩ := hsome
      obtain ⟨h', hleft⟩ := h.exists_leftmost
      refine Or.inr ⟨h', hleft, fun hmem => ?_⟩
      obtain ⟨body, after, hrest, hclosed⟩ := exists_untilClosed?_append_of_mem hmem
      have huntil := hclosed []
      rw [List.append_nil] at huntil
      obtain ⟨hrest, hbody⟩ := untilClosed?_eq_some_iff.1 huntil
      rw [(modelBody?_eq_some_iff hname).2 ⟨h', hleft, hbody, _, hrest⟩] at hnone
      cases hnone
    · exact Or.inl hsome
  · rintro hopen
    cases hbody : modelBody? text name with
    | none => rfl
    | some body =>
      obtain ⟨h, hleft, -, after, hrest⟩ := (modelBody?_eq_some_iff hname).1 hbody
      rcases hopen with hempty | ⟨h', hleft', hmem⟩
      · exact absurd ⟨h⟩ hempty
      · rw [Header.rest_eq (Nat.le_antisymm (hleft' h) (hleft h')), hrest] at hmem
        exact absurd (List.mem_append_right body List.mem_cons_self) hmem

/-! ## Names in another case -/

variable {variant : List Char}

theorem headerAt?_of_sameUpToCase (h : SameUpToCase name variant) (before : Option Char)
    (s : List Char) : headerAt? variant before s = headerAt? name before s := by
  have hname (s : List Char) : afterName? variant s = afterName? name s := by
    induction s with
    | nil => rfl
    | cons c s ih => rw [afterName?, afterName?, afterUpToCase?_congr h, ih]
  rw [headerAt?, headerAt?, funext hname]

theorem hasModel_of_sameUpToCase (h : SameUpToCase name variant) (text : List Char) :
    hasModel text variant = hasModel text name := by
  rw [hasModel, hasModel, ← h.isEmpty_eq, funext fun b => funext (headerAt?_of_sameUpToCase h b)]

theorem modelBody?_of_sameUpToCase (h : SameUpToCase name variant) (text : List Char) :
    modelBody? text variant = modelBody? text name := by
  have hblock : blockAt? variant = blockAt? name := by
    funext b s
    rw [blockAt?_eq, blockAt?_eq, headerAt?_of_sameUpToCase h]
  rw [modelBody?, modelBody?, ← h.isEmpty_eq, hblock]

/-! ## Listed names -/

/-- A name that is listed stands in a header. -/
theorem hasModel_of_mem_modelNames (h : name ∈ modelNames text) : hasModel text name = true := by
  rw [modelNames] at h
  obtain ⟨⟨n, r⟩, hmem, rfl⟩ := List.mem_map.1 (mem_of_mem_firstsBy h).1
  obtain ⟨p, t, htext, hstep⟩ := mem_searchAll_iff.1 hmem
  obtain ⟨hstart, w, w', rfl, hne, hw, hword, hw'⟩ := exists_of_namedHeaderAt? hstep
  rw [lastChar, Option.or_none] at hstart
  exact (hasModel_iff hword.1).2
    ⟨{ lead := p, keyword := "model".toList, gap := ⟨⟨w, hw⟩, hne⟩, spelled := n,
       space := ⟨w', hw'⟩, rest := r, text_eq := htext,
       boundary := (wordBoundary_iff (.refl _)).2 hstart, sameUpToCase_keyword := .refl _,
       sameUpToCase_spelled := .refl n }⟩

/-- Whether a model is declared, what its body is and which models are listed, in terms of the
headers of a text. -/
theorem lookups_by_header (text name : List Char) (hname : name ≠ []) :
    (hasModel text name = true ↔ Nonempty (Header text name)) ∧
      (∀ h h' : Header text name, h.position = h'.position → h.rest = h'.rest) ∧
      (∀ body, modelBody? text name = some body ↔ ∃ h : Header text name, h.Leftmost ∧
        '\x7d' ∉ body ∧ ∃ after, h.rest = body ++ '\x7d' :: after) ∧
      (modelBody? text name = none ↔ ¬ Nonempty (Header text name) ∨
        ∃ h : Header text name, h.Leftmost ∧ '\x7d' ∉ h.rest) ∧
      (∀ body, modelBody? text name = some body → '\x7d' ∉ body ∧ hasModel text name = true) ∧
      (∀ variant, SameUpToCase name variant →
        hasModel text variant = hasModel text name ∧
          modelBody? text variant = modelBody? text name) ∧
      (∀ n ∈ modelNames text, hasModel text n = true) ∧ (modelNames text).Nodup := by
  have hheader : hasModel text name = true ↔ Nonempty (Header text name) := hasModel_iff hname
  refine ⟨hheader, fun h h' => Header.rest_eq, fun body => modelBody?_eq_some_iff hname,
    modelBody?_eq_none_iff hname, ?_, ?_, fun n => hasModel_of_mem_modelNames, nodup_firsts _⟩
  · intro body hbody
    obtain ⟨h, -, hopen, -⟩ := (modelBody?_eq_some_iff hname).1 hbody
    exact ⟨hopen, hheader.2 ⟨h⟩⟩
  · intro variant h
    exact ⟨hasModel_of_sameUpToCase h text, modelBody?_of_sameUpToCase h text⟩

/-- A header that is not closed before the next one. -/
def openText : List Char := "model Tag \x7b\nMODEL tag \x7b a \x7d\nmodel Post \x7b".toList

/-- The first header of `openText`, for a name in another case. -/
def openHeader : Header openText "TAG".toList where
  lead := []
  keyword := "model".toList
  gap := oneSpace
  spelled := "Tag".toList
  space := oneSpace.toRun
  rest := "\nMODEL tag \x7b a \x7d\nmodel Post \x7b".toList
  text_eq := by decide
  boundary := by decide
  sameUpToCase_keyword := .refl _
  sameUpToCase_spelled := by decide

/-- The body of the first header goes on to the first brace that closes, over the second header. -/
theorem lookups_by_header_open :
    "TAG".toList ≠ [] ∧ hasModel openText "TAG".toList = true ∧
      modelBody? openText "TAG".toList = some "\nMODEL tag \x7b a ".toList := by
  have hname : "TAG".toList ≠ [] := by decide
  obtain ⟨hheader, -, hbody, -⟩ := lookups_by_header openText "TAG".toList hname
  have hleft : openHeader.Leftmost := fun h => Nat.zero_le h.position
  exact ⟨hname, hheader.2 ⟨openHeader⟩,
    (hbody _).2 ⟨openHeader, hleft, by decide, "\nmodel Post \x7b".toList, by decide⟩⟩

end FeatureGen.Schema

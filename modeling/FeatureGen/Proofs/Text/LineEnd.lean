import FeatureGen.Proofs.Text.Case
import FeatureGen.Proofs.Text.Lines
import FeatureGen.Proofs.Text.Search
import FeatureGen.Text.Digit

/-!
# Text before the end of a line

A step that takes words and literals does not get past the end of a line, for no line break belongs
to a word or to a literal.  So on a text that ends a line (`EndsLine`) it does what it does when
more text follows, and leaves that text alone.

The exception are steps that skip blanks, which line breaks are: these go on with the text that
follows if nothing else is left.
-/

namespace FeatureGen.Text

variable {test : Char → Bool} {c d mark : Char} {r s t u w : List Char}

/-- The text has a line break at its end. -/
def EndsLine (s : List Char) : Prop := ∃ c ∈ s.getLast?, isLineBreak c = true

theorem EndsLine.ne_nil (h : EndsLine s) : s ≠ [] := by
  rintro rfl
  obtain ⟨c, hc, -⟩ := h
  cases hc

theorem endsLine_append_singleton (hc : isLineBreak c = true) : EndsLine (s ++ [c]) :=
  ⟨c, List.getLast?_concat, hc⟩

theorem endsLine_cons : EndsLine (c :: s) ↔ (s = [] ∧ isLineBreak c = true) ∨ EndsLine s := by
  cases s with
  | nil => simp [EndsLine]
  | cons d s => simp [EndsLine, List.getLast?_cons_cons]

theorem EndsLine.append (ht : EndsLine t) : EndsLine (s ++ t) := by
  induction s with
  | nil => exact ht
  | cons c s ih => exact endsLine_cons.2 (Or.inr ih)

theorem EndsLine.of_append (h : EndsLine (s ++ t)) (ht : t ≠ []) : EndsLine t := by
  induction s with
  | nil => exact h
  | cons c s ih =>
    rcases endsLine_cons.1 h with ⟨hnil, -⟩ | h
    · exact absurd (List.append_eq_nil_iff.1 hnil).2 ht
    · exact ih h

/-- A character that is no line break leaves the end of the line ahead. -/
theorem EndsLine.tail (h : EndsLine (c :: s)) (hc : isLineBreak c = false) : EndsLine s := by
  rcases endsLine_cons.1 h with ⟨-, hbreak⟩ | h
  · rw [hc] at hbreak
    cases hbreak
  · exact h

theorem EndsLine.of_append_cons (h : EndsLine (s ++ c :: t)) (hc : isLineBreak c = false) :
    EndsLine t := (h.of_append (List.cons_ne_nil c t)).tail hc

theorem exists_isLineBreak_of_endsLine (h : EndsLine s) :
    ∃ t c r, s = t ++ c :: r ∧ Without isLineBreak t ∧ isLineBreak c = true := by
  induction s with
  | nil => exact absurd rfl h.ne_nil
  | cons c s ih =>
    cases hc : isLineBreak c with
    | true => exact ⟨[], c, s, rfl, fun d hd => absurd hd List.not_mem_nil, hc⟩
    | false =>
      obtain ⟨t, d, r, rfl, ht, hd⟩ := ih (h.tail hc)
      refine ⟨c :: t, d, r, rfl, ?_, hd⟩
      intro e he
      rcases List.mem_cons.1 he with rfl | he
      · exact hc
      · exact ht e he

/-! ## Line breaks -/

theorem isDelimiter_of_isLineBreak (h : isLineBreak c = true) : isDelimiter c = true :=
  isDelimiter_of_isBlank (isBlank_of_isLineBreak h)

theorem isWord_eq_false_of_isLineBreak (h : isLineBreak c = true) : isWord c = false :=
  isWord_eq_false_of_isBlank (isBlank_of_isLineBreak h)

theorem isDigit_eq_false_of_isLineBreak (h : isLineBreak c = true) : isDigit c = false := by
  have hzeros : ∀ start ∈ digitZeros, 0x1E < start ∧ (start + 10 ≤ 0x85 ∨ 0x85 < start) ∧
      (start + 10 ≤ 0x2028 ∨ 0x2029 < start) := by decide
  rw [isDigit, digitValue?, Option.isSome_map, Option.isSome_eq_false_iff, Option.isNone_iff_eq_none,
    List.find?_eq_none]
  intro start hstart
  obtain ⟨hlow, hnext, hseparators⟩ := hzeros start hstart
  simp only [isLineBreak, Bool.or_eq_true, Bool.and_eq_true, decide_eq_true_eq, beq_iff_eq] at h
  simp only [Bool.and_eq_true, decide_eq_true_eq]
  omega

/-! ## Runs and literals -/

theorem takeWhile_append_of_endsLine (h : EndsLine s)
    (htest : ∀ c, isLineBreak c = true → test c = false) (t : List Char) :
    (s ++ t).takeWhile test = s.takeWhile test ∧
      (s ++ t).dropWhile test = s.dropWhile test ++ t ∧ EndsLine (s.dropWhile test) := by
  induction s with
  | nil => exact absurd rfl h.ne_nil
  | cons c s ih =>
    cases hc : test c with
    | false => simp [hc, h]
    | true =>
      have hbreak : isLineBreak c = false := by
        cases hb : isLineBreak c with
        | false => rfl
        | true => rw [htest c hb] at hc; cases hc
      simpa [List.takeWhile_cons, List.dropWhile_cons, hc] using ih (h.tail hbreak)

/-- A literal without line breaks is found before the end of a line or not at all. -/
theorem afterBy?_append_of_endsLine {same : Char → Char → Bool}
    (hw : ∀ c ∈ w, ∀ d, isLineBreak d = true → same c d = false) (h : EndsLine s)
    (t : List Char) :
    afterBy? same w (s ++ t) = (afterBy? same w s).map (· ++ t) ∧
      ∀ r ∈ afterBy? same w s, EndsLine r := by
  induction w generalizing s with
  | nil => exact ⟨rfl, fun r hr => by cases hr; exact h⟩
  | cons c w ih =>
    cases s with
    | nil => exact absurd rfl h.ne_nil
    | cons d s =>
      rw [List.cons_append, afterBy?, afterBy?]
      cases hsame : same c d with
      | false => exact ⟨rfl, fun r hr => by cases hr⟩
      | true =>
        have hbreak : isLineBreak d = false := by
          cases hd : isLineBreak d with
          | false => rfl
          | true => rw [hw c List.mem_cons_self d hd] at hsame; cases hsame
        exact ih (fun e he => hw e (List.mem_cons_of_mem c he)) (h.tail hbreak)

theorem after?_append_of_endsLine (hw : Without isLineBreak w) (h : EndsLine s) (t : List Char) :
    after? w (s ++ t) = (after? w s).map (· ++ t) ∧ ∀ r ∈ after? w s, EndsLine r := by
  refine afterBy?_append_of_endsLine (fun c hc d hd => ?_) h t
  rw [beq_eq_false_iff_ne]
  rintro rfl
  rw [hw c hc] at hd
  cases hd

theorem afterUpToCase?_append_of_endsLine (hw : Without isLineBreak w) (h : EndsLine s)
    (t : List Char) :
    afterUpToCase? w (s ++ t) = (afterUpToCase? w s).map (· ++ t) ∧
      ∀ r ∈ afterUpToCase? w s, EndsLine r := by
  refine afterBy?_append_of_endsLine (fun c hc d hd => ?_) h t
  rw [beq_eq_false_iff_ne]
  intro hkey
  have heq := eq_of_caseKey_eq (isDelimiter_of_isLineBreak hd) hkey
  rw [← heq, hw c hc] at hd
  cases hd

/-! ## Blanks -/

theorem trimStart_append_of_eq_nil (h : trimStart s = []) (t : List Char) :
    trimStart (s ++ t) = trimStart t := by
  rw [trimStart] at h
  rw [trimStart, List.dropWhile_append, h]
  rfl

theorem trimStart_append_of_ne_nil (h : trimStart s ≠ []) (t : List Char) :
    trimStart (s ++ t) = trimStart s ++ t := by
  rw [trimStart] at h
  rw [trimStart, List.dropWhile_append, if_neg (by simpa using h)]
  rfl

theorem EndsLine.trimStart (h : EndsLine s) (hne : trimStart s ≠ []) : EndsLine (trimStart s) := by
  obtain ⟨w, hsplit, -⟩ := exists_append_trimStart s
  rw [hsplit] at h
  exact h.of_append hne

/-- A mark is found in the first text or not at all, if the second one does not go on with it. -/
theorem afterMark?_append_of_eq_none (h : afterMark? mark t = none) (s : List Char) :
    afterMark? mark (s ++ t) = (afterMark? mark s).map (· ++ t) := by
  cases hs : trimStart s with
  | nil =>
    have hmark : afterMark? mark s = none := by rw [afterMark?, hs]
    rw [hmark, afterMark?, trimStart_append_of_eq_nil hs]
    exact h
  | cons c r =>
    have hne : trimStart s ≠ [] := by
      rw [hs]
      exact List.cons_ne_nil c r
    rw [afterMark?, afterMark?, trimStart_append_of_ne_nil hne, hs]
    show (if _ then _ else _) = Option.map _ (if _ then _ else _)
    split <;> rfl

theorem afterMark?_trimStart (mark : Char) (s : List Char) :
    afterMark? mark (trimStart s) = afterMark? mark s := by
  rw [afterMark?, afterMark?, trimStart_trimStart]

/-- A mark that does not follow a run does not follow without it, unless it belongs to the run. -/
theorem afterMark?_eq_none_of_dropWhile (hmark : test mark = false)
    (h : afterMark? mark ((trimStart s).dropWhile test) = none) : afterMark? mark s = none := by
  cases hs : trimStart s with
  | nil => rw [afterMark?, hs]
  | cons c r =>
    cases hc : test c with
    | false =>
      rw [hs, List.dropWhile_cons, hc, if_neg Bool.false_ne_true, ← hs, afterMark?_trimStart] at h
      exact h
    | true =>
      have hne : c ≠ mark := by
        rintro rfl
        rw [hmark] at hc
        cases hc
      rw [afterMark?, hs]
      exact if_neg hne

theorem trim_append_of_blank (hw : Every isBlank w) (s : List Char) : trim (s ++ w) = trim s := by
  have hend (t : List Char) : trimEnd (t ++ w) = trimEnd t := by
    induction t with
    | nil => exact trimEnd_eq_nil_of_blank hw
    | cons c t ih => rw [List.cons_append, trimEnd_cons, trimEnd_cons, ih]
  by_cases hs : trimStart s = []
  · rw [trim, trim, trimStart_append_of_eq_nil hs, hs, trimStart_eq_nil_of_blank hw]
  · rw [trim, trim, trimStart_append_of_ne_nil hs, hend]

/-! ## Lines with their ends -/

/-- The lines of a text with the breaks that end them, where `line` holds the start of the first one
in reverse, if there is one yet. -/
def fullLinesFrom (line : List Char) : List Char → List (List Char)
  | [] => if line.isEmpty then [] else [line.reverse]
  | [c] => [(c :: line).reverse]
  | c :: d :: s =>
    if c = '\r' && d = '\n' then (d :: c :: line).reverse :: fullLinesFrom [] s
    else if isLineBreak c then (c :: line).reverse :: fullLinesFrom [] (d :: s)
    else fullLinesFrom (c :: line) (d :: s)

/-- The lines of a text with the breaks that end them. -/
def fullLines (s : List Char) : List (List Char) := fullLinesFrom [] s

/-- What ends a line. -/
inductive IsLineEnd : List Char → Prop
  | single {c : Char} (h : isLineBreak c = true) : IsLineEnd [c]
  | pair : IsLineEnd ['\r', '\n']

/-- Texts of one line each, of which all but the last have an end. -/
inductive AreLines : List (List Char) → Prop
  | nil : AreLines []
  | last {s : List Char} (hs : Without isLineBreak s) : AreLines [s]
  | cons {s t : List Char} {ls : List (List Char)} (hs : Without isLineBreak s) (ht : IsLineEnd t)
      (hls : AreLines ls) : AreLines ((s ++ t) :: ls)

theorem IsLineEnd.endsLine (h : IsLineEnd t) : EndsLine t := by
  cases h with
  | single hc => exact endsLine_append_singleton (s := []) hc
  | pair => exact endsLine_append_singleton (s := ['\r']) (by decide)

theorem IsLineEnd.isBlank (h : IsLineEnd t) : Every isBlank t := by
  cases h with
  | single hc =>
    intro d hd
    rw [List.mem_singleton.1 hd]
    exact isBlank_of_isLineBreak hc
  | pair => decide

theorem IsLineEnd.head (h : IsLineEnd t) : ∀ c ∈ (t ++ r).head?, isLineBreak c = true := by
  cases h with
  | single hc =>
    rintro d ⟨⟩
    exact hc
  | pair =>
    rintro d ⟨⟩
    rfl

/-- The lines make up the text. -/
theorem flatten_fullLinesFrom (line s : List Char) :
    (fullLinesFrom line s).flatten = line.reverse ++ s := by
  fun_induction fullLinesFrom line s with
  | case1 line hline =>
    rw [List.isEmpty_iff.1 hline]
    rfl
  | case2 line hline => simp
  | case3 line c => simp
  | case4 line c d s hpair ih => simp [ih]
  | case5 line c d s hpair hc ih => simp [ih]
  | case6 line c d s hpair hc ih => simp [ih]

theorem areLines_fullLinesFrom (line s : List Char) (hline : Without isLineBreak line) :
    AreLines (fullLinesFrom line s) := by
  have hreverse (line : List Char) (h : Without isLineBreak line) :
      Without isLineBreak line.reverse := fun c hc => h c (List.mem_reverse.1 hc)
  fun_induction fullLinesFrom line s with
  | case1 line hempty => exact .nil
  | case2 line hempty => exact .last (hreverse line hline)
  | case3 line c =>
    cases hc : isLineBreak c with
    | true =>
      rw [List.reverse_cons]
      exact .cons (hreverse line hline) (.single hc) .nil
    | false => exact .last (hreverse _ (List.forall_mem_cons.2 ⟨hc, hline⟩))
  | case4 line c d s hpair ih =>
    simp only [Bool.and_eq_true, decide_eq_true_eq] at hpair
    obtain ⟨rfl, rfl⟩ := hpair
    rw [List.reverse_cons, List.reverse_cons, List.append_assoc]
    exact .cons (hreverse line hline) .pair (ih (List.forall_mem_nil _))
  | case5 line c d s hpair hc ih =>
    rw [List.reverse_cons]
    exact .cons (hreverse line hline) (.single hc) (ih (List.forall_mem_nil _))
  | case6 line c d s hpair hc ih =>
    exact ih (List.forall_mem_cons.2 ⟨by simpa using hc, hline⟩)

theorem flatten_fullLines (s : List Char) : (fullLines s).flatten = s := flatten_fullLinesFrom [] s

theorem areLines_fullLines (s : List Char) : AreLines (fullLines s) :=
  areLines_fullLinesFrom [] s (List.forall_mem_nil _)

/-- What is made of the lines of a text that ends a line stands before what is made of the lines
that follow. -/
theorem flatMap_splitLines_append {α : Type} {g : List Char → List α} (hg : g [] = [])
    (hs : s = [] ∨ EndsLine s) (t : List Char) :
    (splitLines (s ++ t)).flatMap g = (splitLines s).flatMap g ++ (splitLines t).flatMap g := by
  induction hlength : s.length using Nat.strongRecOn generalizing s with
  | ind n ih =>
    subst hlength
    rcases hs with rfl | hs
    · rfl
    · obtain ⟨line, c, rest, rfl, hline, hc⟩ := exists_isLineBreak_of_endsLine hs
      have hrest : rest = [] ∨ EndsLine rest := by
        by_cases hnil : rest = []
        · exact Or.inl hnil
        · exact Or.inr ((hs.of_append (List.cons_ne_nil c rest)).of_append (s := [c]) hnil)
      have hshorter : rest.length < (line ++ c :: rest).length := by
        rw [List.length_append, List.length_cons]
        omega
      rw [List.append_assoc, List.cons_append, flatMap_splitLines_append_cons hg hline hc,
        flatMap_splitLines_append_cons hg hline hc, ih _ hshorter hrest rfl, List.append_assoc]

/-- A line with its end gives what the line gives. -/
theorem flatMap_splitLines_line {α : Type} {g : List Char → List α} (hg : g [] = [])
    (hs : Without isLineBreak s) (ht : IsLineEnd t) : (splitLines (s ++ t)).flatMap g = g s := by
  cases ht with
  | single hc => rw [flatMap_splitLines_append_cons hg hs hc, splitLines, splitLinesFrom]; simp
  | pair =>
    rw [flatMap_splitLines_append_cons hg hs (by decide)]
    show g s ++ (g [] ++ []) = g s
    rw [hg, List.append_nil, List.append_nil]

/-! ## A line between others -/

/-- A text is a line between two others: a line break ends the first one, and one starts the second
one, if they are not empty. -/
structure LineBetween (above line below : List Char) : Prop where
  without_isLineBreak : Without isLineBreak line
  above : above = [] ∨ EndsLine above
  below : ∀ c ∈ below.head?, isLineBreak c = true

/-- Lines that are put above leave a line between others. -/
theorem LineBetween.prepend {above line below : List Char} (h : LineBetween above line below)
    (ht : EndsLine t) : LineBetween (t ++ above) line below where
  without_isLineBreak := h.without_isLineBreak
  below := h.below
  above := by
    rcases h.above with rfl | habove
    · exact Or.inr (by rwa [List.append_nil])
    · exact Or.inr habove.append

/-- A line end ends the first line, if it is a whole one. -/
theorem splitLines_append_lineEnd (hs : Without isLineBreak s) (ht : IsLineEnd t)
    (hr : t = ['\r'] → r.head? ≠ some '\n') : splitLines (s ++ (t ++ r)) = s :: splitLines r := by
  cases ht with
  | single hc => exact splitLines_append_single hs hc fun he => hr (by rw [he])
  | pair => exact splitLines_append_pair hs r

/-- A text has no line break, or the first one with what belongs to it divides the text. -/
theorem exists_lineEnd (s : List Char) :
    Without isLineBreak s ∨ ∃ u t r, s = u ++ (t ++ r) ∧ Without isLineBreak u ∧ IsLineEnd t ∧
      (t = ['\r'] → r.head? ≠ some '\n') := by
  induction s with
  | nil => exact Or.inl (List.forall_mem_nil _)
  | cons c s ih =>
    cases hc : isLineBreak c with
    | true =>
      by_cases hpair : c = '\r' ∧ s.head? = some '\n'
      · obtain ⟨rfl, hhead⟩ := hpair
        obtain ⟨r, rfl⟩ := List.head?_eq_some_iff.1 hhead
        exact Or.inr ⟨[], _, r, rfl, List.forall_mem_nil _, .pair, by simp⟩
      · refine Or.inr ⟨[], [c], s, rfl, List.forall_mem_nil _, .single hc, fun he hhead => ?_⟩
        exact hpair ⟨List.singleton_inj.1 he, hhead⟩
    | false =>
      rcases ih with hs | ⟨u, t, r, rfl, hu, ht, hr⟩
      · exact Or.inl (List.forall_mem_cons.2 ⟨hc, hs⟩)
      · exact Or.inr ⟨c :: u, t, r, rfl, List.forall_mem_cons.2 ⟨hc, hu⟩, ht, hr⟩

/-- Each line of a text stands between the lines above and what is below. -/
theorem exists_between_of_splitLines {line : List Char} {i : Nat}
    (h : (splitLines s)[i]? = some line) :
    ∃ above below, s = above ++ (line ++ below) ∧ LineBetween above line below ∧
      splitLines above = (splitLines s).take i := by
  induction hlength : s.length using Nat.strongRecOn generalizing s i with
  | ind n ih =>
    subst hlength
    rcases exists_lineEnd s with hs | ⟨u, t, r, rfl, hu, ht, hr⟩
    · rw [splitLines_of_forall hs] at h ⊢
      split at h
      · cases h
      · obtain ⟨rfl, rfl⟩ : i = 0 ∧ s = line := by simpa [List.getElem?_singleton] using h
        exact ⟨[], [], (List.append_nil s).symm, ⟨hs, Or.inl rfl, by simp⟩, rfl⟩
    · rw [splitLines_append_lineEnd hu ht hr] at h ⊢
      cases i with
      | zero =>
        cases h
        exact ⟨[], t ++ r, rfl, ⟨hu, Or.inl rfl, ht.head⟩, rfl⟩
      | succ i =>
        have hshorter : r.length < (u ++ (t ++ r)).length := by
          have := List.length_pos_iff.2 ht.endsLine.ne_nil
          simp only [List.length_append]
          omega
        obtain ⟨above, below, rfl, hbetween, habove⟩ := ih r.length hshorter h rfl
        -- The text above starts as the rest does, so that it has the same first line.
        have hnext : t = ['\r'] → above.head? ≠ some '\n' := fun he hhead =>
          hr he (by rw [List.head?_append, hhead, Option.some_or])
        refine ⟨u ++ (t ++ above), below, by simp, ?_, ?_⟩
        · rw [← List.append_assoc]
          exact hbetween.prepend ht.endsLine.append
        · rw [splitLines_append_lineEnd hu ht hnext, habove, List.take_succ_cons]

/-! ## Searching -/

/-- A word may begin after the end of a line. -/
theorem startsWord_lastChar_of_endsLine {before : Option Char} (h : s = [] ∨ EndsLine s)
    (hbefore : startsWord before = true) : startsWord (lastChar before s) = true := by
  rcases h with rfl | ⟨c, hc, hbreak⟩
  · exact hbefore
  · rw [lastChar, Option.mem_def.1 hc, Option.some_or, startsWord,
      isWord_eq_false_of_isLineBreak hbreak]
    rfl

section Search

variable {α : Type} {step : Option Char → List Char → Option α} {f : α → α}
  {before before' : Option Char}

/-- A search finds in a text that ends a line what it finds when more text follows, and goes on
there, if each of its steps does. -/
theorem searchAll_append_of_endsLine (hnil : ∀ b, step b [] = none)
    (hstep : ∀ b u, EndsLine u → step b (u ++ t) = (step b u).map f) (hs : s = [] ∨ EndsLine s) :
    searchAll step before (s ++ t) =
      (searchAll step before s).map f ++ searchAll step (lastChar before s) t := by
  induction s generalizing before with
  | nil =>
    rw [searchAll, hnil]
    rfl
  | cons c s ih =>
    have hcons : EndsLine (c :: s) := hs.resolve_left (List.cons_ne_nil c s)
    have htail : s = [] ∨ EndsLine s := (endsLine_cons.1 hcons).imp_left And.left
    have hfirst := hstep before (c :: s) hcons
    rw [List.cons_append] at hfirst ⊢
    rw [searchAll, searchAll, hfirst, ih htail, lastChar_cons, List.map_append, List.append_assoc]
    cases step before (c :: s) <;> rfl

/-- What is found in a text that ends a line is found in a text that ends a line. -/
theorem forall_mem_searchAll {P : α → Prop} (hnil : ∀ b, step b [] = none)
    (hstep : ∀ b u, EndsLine u → ∀ a ∈ step b u, P a) (hs : s = [] ∨ EndsLine s) :
    ∀ a ∈ searchAll step before s, P a := by
  induction s generalizing before with
  | nil =>
    intro a ha
    rw [searchAll, hnil] at ha
    cases ha
  | cons c s ih =>
    have hcons : EndsLine (c :: s) := hs.resolve_left (List.cons_ne_nil c s)
    have htail : s = [] ∨ EndsLine s := (endsLine_cons.1 hcons).imp_left And.left
    intro a ha
    rw [searchAll] at ha
    rcases List.mem_append.1 ha with ha | ha
    · exact hstep before _ hcons a (Option.mem_toList.1 ha)
    · exact ih htail a ha

/-- A text in which nothing is found is passed over, whatever follows its end. -/
theorem passes_of_searchAll_eq_nil
    (hstep : ∀ b u, EndsLine u → step b (u ++ t) = (step b u).map f)
    (hs : s = [] ∨ EndsLine s ∨ t = []) (h : searchAll step before s = []) :
    Passes step before s t := by
  induction s generalizing before with
  | nil => trivial
  | cons c s ih =>
    rw [searchAll, List.append_eq_nil_iff, Option.toList_eq_nil_iff] at h
    have hcons := hs.resolve_left (List.cons_ne_nil c s)
    refine ⟨?_, ih ?_ h.2⟩
    · rcases hcons with hcons | rfl
      · have hfirst := hstep before (c :: s) hcons
        rwa [h.1] at hfirst
      · rw [List.append_nil]
        exact h.1
    · rcases hcons with hcons | hnil
      · rcases endsLine_cons.1 hcons with ⟨hnil, -⟩ | hs
        · exact Or.inl hnil
        · exact Or.inr (Or.inl hs)
      · exact Or.inr (Or.inr hnil)

/-- Nothing is found in a text that lacks a character of everything that is found. -/
theorem searchAll_eq_nil_of_not_mem (hstep : ∀ b u, step b u ≠ none → c ∈ u) (hs : c ∉ s) :
    searchAll step before s = [] := by
  have hnone (b : Option Char) (u : List Char) (hu : c ∉ u) : step b u = none := by
    cases h : step b u with
    | none => rfl
    | some a =>
      have hmem := hstep b u (by rw [h]; exact Option.some_ne_none a)
      exact absurd hmem hu
  induction s generalizing before with
  | nil => rw [searchAll, hnone _ _ hs, Option.toList_none]
  | cons d s ih =>
    rw [searchAll, hnone _ _ hs, ih fun hmem => hs (List.mem_cons_of_mem d hmem)]
    rfl

/-- The character before a text matters to a search only at its first position. -/
theorem searchAll_congr (hstep : step before s = step before' s) :
    searchAll step before s = searchAll step before' s := by
  cases s with
  | nil => rw [searchAll, searchAll, hstep]
  | cons c s => rw [searchAll, searchAll, hstep]

end Search

end FeatureGen.Text

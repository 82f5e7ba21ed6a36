import FeatureGen.Proofs.Schema.Balance
import FeatureGen.Proofs.Schema.Body
import FeatureGen.Proofs.Text.LineEnd

/-!
# Comments at the end of a line

Where a comment begins can be said without a scan: at the first two slashes before which an even
number of quotes stands (`CommentAt`, `inLiteral`).  `stripped_stripComment` says that the line is
cut there, that the blanks before go with the comment, and that nothing else does.

So a comment that is put at the end of a line does not matter to the declarations of the body, if
no string is open there and a blank divides it from the line (`fieldLines_append_comment`).  Three
things may happen to such a line.  If it is blank it is a comment line now, and if it is skipped it
still is.  If it has a comment already, the new one belongs to that.  Otherwise the new comment is
the first one, and it goes with the blanks before it, which are those that are cut from the line
when it has no comment.
-/

namespace FeatureGen.Schema

open FeatureGen.Text

variable {a c : Char} {above below comment line p s t text w : List Char} {inString : Bool} {i : Nat}

/-! ## Literals and comments -/

/-- Whether a position is in a string literal: an odd number of quotes stands before it. -/
def inLiteral (text : List Char) (i : Nat) : Bool := (List.range i).countP (isQuoteAt text) % 2 == 1

/-- A comment begins at a position: two slashes stand there, and not in a string literal. -/
structure CommentAt (text : List Char) (i : Nat) : Prop where
  first : text[i]? = some '/'
  second : text[i + 1]? = some '/'
  outside : inLiteral text i = false

/-- What is left of a line when the comment at its end is cut off. -/
structure Stripped (line s : List Char) : Prop where
  isStart : s <+: line
  not_commentAt : ∀ i, ¬ CommentAt s i
  /-- What is cut off, if anything is, are blanks and the first comment with all that follows. -/
  removed : s = line ∨ ∃ w comment, line = s ++ (w ++ '/' :: '/' :: comment) ∧ Every isBlank w ∧
    IsFirst (CommentAt line) (some (s.length + w.length)) ∧ NotEnding isBlank s

/-! ## The account of the scan -/

/-- The scan for a comment may stop at a position. -/
structure OpensComment (inString : Bool) (before : Option Char) (s : List Char) (n : Nat) : Prop where
  first : s[n]? = some '/'
  second : s[n + 1]? = some '/'
  outside : inStringAfter inString before (s.take n) = false

/-- The scan stops at the first position at which it may, and it misses none. -/
theorem isFirst_beforeComment? (inString : Bool) (before : Option Char) (s : List Char) :
    IsFirst (OpensComment inString before s)
      ((beforeComment? inString before s).map List.length) := by
  induction s generalizing inString before with
  | nil =>
    intro n h
    cases h.first
  | cons c s ih =>
    have hzero : OpensComment inString before (c :: s) 0 ↔
        (c = '/' && s.head? = some '/' && !inString) = true := by
      rw [List.head?_eq_getElem?]
      constructor
      · rintro ⟨hfirst, hsecond, houtside⟩
        have hnext : s[0]? = some '/' := hsecond
        have hclosed : inString = false := houtside
        rw [Option.some.inj hfirst, hnext, hclosed]
        rfl
      · intro h
        simp only [Bool.and_eq_true, decide_eq_true_eq, Bool.not_eq_true'] at h
        exact ⟨congrArg some h.1.1, h.1.2, h.2⟩
    rw [beforeComment?]
    split
    · next hc => exact ⟨hzero.2 hc, fun m _ => Nat.zero_le m⟩
    · next hc =>
      have hrest := (ih (inStringAfter inString before [c]) (some c)).map_add 1
        (Q := OpensComment inString before (c :: s)) (fun n h => ?_) fun n => ?_
      · rw [Option.map_map] at hrest ⊢
        exact hrest
      · cases n with
        | zero => exact absurd (hzero.1 h) hc
        | succ n => exact Nat.succ_le_succ (Nat.zero_le n)
      · exact ⟨fun h => ⟨h.first, h.second, h.outside⟩, fun h => ⟨h.first, h.second, h.outside⟩⟩

theorem isQuoteAt_eq (hc : text[i]? = some c) :
    isQuoteAt text i = (c = '"' && lastChar none (text.take i) != some '\\') := by
  rw [isQuoteAt, hc]
  cases i with
  | zero =>
    rw [hc]
    by_cases hquote : c = '"'
    · rw [hquote]
      rfl
    · simp [hquote]
  | succ i =>
    have hi : i < text.length := Nat.lt_of_succ_lt (List.getElem?_eq_some_iff.1 hc).1
    rw [lastChar_take_succ none hi]
    by_cases hquote : c = '"' <;> simp [hquote]

/-- A position is in a literal if the scan has a string open there. -/
theorem inLiteral_eq (hi : i ≤ text.length) :
    inLiteral text i = inStringAfter false none (text.take i) := by
  induction i with
  | zero => rfl
  | succ i ih =>
    obtain ⟨c, hc⟩ : ∃ c, text[i]? = some c := ⟨_, List.getElem?_eq_getElem hi⟩
    rw [inLiteral, countP_range_succ_odd, isQuoteAt_eq hc, ← inLiteral,
      ih (Nat.le_of_succ_le hi), List.take_add_one, hc, inStringAfter_append]
    rfl

theorem commentAt_iff : CommentAt text i ↔ OpensComment false none text i := by
  have houtside (h : text[i]? = some '/') :
      inLiteral text i = inStringAfter false none (text.take i) :=
    inLiteral_eq (Nat.le_of_lt (List.getElem?_eq_some_iff.1 h).1)
  constructor
  · intro h
    exact ⟨h.first, h.second, houtside h.first ▸ h.outside⟩
  · intro h
    exact ⟨h.first, h.second, (houtside h.first).trans h.outside⟩

theorem isFirst_commentAt (line : List Char) :
    IsFirst (CommentAt line) ((beforeComment? false none line).map List.length) := by
  have hsame : CommentAt line = OpensComment false none line := funext fun _ => propext commentAt_iff
  rw [hsame]
  exact isFirst_beforeComment? false none line

/-! ## What is cut off -/

/-- Where two slashes stand a comment follows. -/
theorem CommentAt.exists_append (h : CommentAt (p ++ t) p.length) :
    ∃ comment, t = '/' :: '/' :: comment := by
  have hfirst := h.first
  have hsecond := h.second
  rw [List.getElem?_append_right (Nat.le_refl _), Nat.sub_self] at hfirst
  rw [List.getElem?_append_right (Nat.le_add_right _ 1), Nat.add_sub_cancel_left] at hsecond
  match t, hfirst, hsecond with
  | _ :: _ :: comment, rfl, rfl => exact ⟨comment, rfl⟩

/-- The line is cut where its first comment begins, and the blanks before go with it. -/
theorem stripped_stripComment (line : List Char) : Stripped line (stripComment line) := by
  have hclean (i : Nat) : ¬ CommentAt (stripComment line) i := by
    have hnone := isFirst_commentAt (stripComment line)
    rw [beforeComment?_stripComment] at hnone
    exact hnone i
  have hfirst := isFirst_commentAt line
  cases hscan : beforeComment? false none line with
  | none =>
    have heq := stripComment_of_eq_none hscan
    rw [heq] at hclean ⊢
    exact ⟨List.prefix_refl line, hclean, Or.inl rfl⟩
  | some p =>
    have hstrip : stripComment line = trimEnd p := by rw [stripComment, hscan]
    obtain ⟨⟨t, rfl⟩, -⟩ := exists_of_beforeComment? hscan
    obtain ⟨w, hw, hblank⟩ := trimEnd_append_blanks p
    rw [hscan] at hfirst
    obtain ⟨comment, rfl⟩ := hfirst.1.exists_append
    rw [hstrip] at hclean ⊢
    have hlength : (trimEnd p).length + w.length = p.length := by
      rw [← List.length_append, hw]
    have hline : p ++ '/' :: '/' :: comment = trimEnd p ++ (w ++ '/' :: '/' :: comment) := by
      rw [← List.append_assoc, hw]
    refine ⟨⟨_, hline.symm⟩, hclean, Or.inr ⟨w, comment, hline, hblank, ?_, notEnding_trimEnd p⟩⟩
    rw [hlength]
    exact hfirst

/-- Cutting a comment off twice cuts no more. -/
theorem stripComment_stripComment (line : List Char) :
    stripComment (stripComment line) = stripComment line :=
  stripComment_of_eq_none (beforeComment?_stripComment line)

/-! ## A comment that is added -/

/-- Text that starts otherwise does not make up a pair of signs. -/
theorem isPrefixOf_pair_append (ht : t.head? ≠ some a) :
    [a, a].isPrefixOf (p ++ t) = [a, a].isPrefixOf p := by
  match p, t with
  | [], [] => rfl
  | [], c :: t => simpa [List.isPrefixOf] using fun he => absurd he.symm (by simpa using ht)
  | [c], [] => rfl
  | [c], d :: t => simpa [List.isPrefixOf] using fun _ he => absurd he.symm (by simpa using ht)
  | c :: d :: p, t => simp [List.isPrefixOf]

/-- A comment behind blanks does not change what is left of a line that ends with none. -/
theorem stripComment_append_blank (hp : inStringAfter false none p = false)
    (hend : NotEnding isBlank p) (hne : w ≠ []) (hw : Every isBlank w) (comment : List Char) :
    stripComment (p ++ (w ++ '/' :: '/' :: comment)) = stripComment p := by
  obtain ⟨c, w', rfl⟩ := List.exists_cons_of_ne_nil hne
  have hc : isBlank c = true := hw c List.mem_cons_self
  have hquote : c ≠ '"' := by
    rintro rfl
    cases hc
  have hslash : (c :: w' ++ '/' :: '/' :: comment).head? ≠ some '/' := by
    rintro ⟨⟩
    cases hc
  have hscan : beforeComment? false (lastChar none p) (c :: w' ++ '/' :: '/' :: comment) =
      some (c :: w') := by
    rw [List.cons_append, beforeComment?_cons_before hquote, ← List.cons_append,
      uncommented_of_isBlank hw]
    simp [beforeComment?]
  rw [stripComment, stripComment, beforeComment?_append hslash, hp, hscan]
  cases beforeComment? false none p with
  | none =>
    show trimEnd (p ++ c :: w') = p
    rw [trimEnd_append_of_notEnding hend, trimEnd_eq_nil_of_blank hw, List.append_nil]
  | some q => rfl

/-- Blanks at the ends do not open or close a string. -/
theorem inStringAfter_trim (s : List Char) :
    inStringAfter inString none (trim s) = inStringAfter inString none s := by
  have hquote {w : List Char} (hw : Every isBlank w) : '"' ∉ w := fun hmem => by
    have := hw _ hmem
    cases this
  obtain ⟨start, hstart, hblank⟩ := exists_append_trimStart s
  obtain ⟨ending, hending, hblank'⟩ := trimEnd_append_blanks (trimStart s)
  have hbefore : lastChar none start ≠ some '\\' := by
    rw [lastChar, Option.or_none]
    intro hlast
    have := hblank _ (List.mem_of_getLast? hlast)
    cases this
  calc inStringAfter inString none (trim s)
      = inStringAfter inString none (trim s ++ ending) := by
        rw [inStringAfter_append, inStringAfter_of_not_mem (hquote hblank')]
    _ = inStringAfter inString none (trimStart s) := by rw [trim, hending]
    _ = inStringAfter inString (lastChar none start) (trimStart s) :=
        (inStringAfter_before hbefore inString _).symm
    _ = inStringAfter inString none (start ++ trimStart s) := by
        rw [inStringAfter_append, inStringAfter_of_not_mem (hquote hblank)]
    _ = inStringAfter inString none s := by rw [← hstart]

theorem trim_ne_nil (h : trimStart s ≠ []) : trim s ≠ [] := by
  obtain ⟨c, r, hcons⟩ := List.exists_cons_of_ne_nil h
  obtain ⟨w, hw, -⟩ := exists_append_trimStart s
  have hc : isBlank c = false := notStarting_trimStart s c (by rw [hcons]; rfl)
  have hmem : c ∈ s := by
    rw [hw, hcons]
    exact List.mem_append_right w List.mem_cons_self
  exact List.ne_nil_of_mem (mem_trim_of_mem hmem hc)

/-- A comment at the end of a line that is not blank stands behind blanks. -/
theorem exists_trim_append_comment (hs : trimStart s ≠ []) (comment : List Char) :
    ∃ w, w ≠ [] ∧ Every isBlank w ∧
      trim (s ++ ' ' :: '/' :: '/' :: comment) = trim s ++ (w ++ '/' :: '/' :: trimEnd comment) := by
  obtain ⟨w, hw, hblank⟩ := trimEnd_append_blanks (trimStart s)
  have hend : NotEnding isBlank (trimStart s ++ [' ', '/', '/']) :=
    notEnding_append (by simp [NotEnding, isBlank]) fun he => by cases he
  refine ⟨w ++ [' '], by simp, ?_, ?_⟩
  · intro c hc
    rcases List.mem_append.1 hc with hc | hc
    · exact hblank c hc
    · rw [List.mem_singleton.1 hc]
      rfl
  · have hsplit : trimStart s ++ ' ' :: '/' :: '/' :: comment =
        trimStart s ++ [' ', '/', '/'] ++ comment := by simp
    have hparts : trim s ++ (w ++ [' '] ++ '/' :: '/' :: trimEnd comment) =
        trim s ++ w ++ [' ', '/', '/'] ++ trimEnd comment := by simp
    rw [hparts, trim, trim, trimStart_append_of_ne_nil hs, hsplit,
      trimEnd_append_of_notEnding hend, hw]

/-- A comment that is added to a line, where no string is open, leaves its declarations as they
are. -/
theorem lineDeclarations_append_comment (h : inStringAfter false none s = false)
    (comment : List Char) :
    lineDeclarations (s ++ ' ' :: '/' :: '/' :: comment) = lineDeclarations s := by
  by_cases hs : trimStart s = []
  · -- The line is blank, and with the comment it is a comment line.
    have hslash : NotEnding isBlank ['/', '/'] := notEnding_of_without (by decide)
    have htrim : trim (s ++ ' ' :: '/' :: '/' :: comment) = '/' :: '/' :: trimEnd comment := by
      rw [trim, trimStart_append_of_eq_nil hs]
      exact trimEnd_append_of_notEnding hslash comment
    rw [lineDeclarations, lineDeclarations, htrim, trim, hs]
    simp
  · obtain ⟨w, hne, hw, htrim⟩ := exists_trim_append_comment hs comment
    have hstring : inStringAfter false none (trim s) = false := (inStringAfter_trim s).trans h
    have hhead (a : Char) (ha : isBlank a = false) :
        (w ++ '/' :: '/' :: trimEnd comment).head? ≠ some a := by
      obtain ⟨c, w, rfl⟩ := List.exists_cons_of_ne_nil hne
      rintro ⟨⟩
      rw [hw a List.mem_cons_self] at ha
      cases ha
    have hempty : (trim s ++ (w ++ '/' :: '/' :: trimEnd comment)).isEmpty = (trim s).isEmpty := by
      obtain ⟨c, r, hcons⟩ := List.exists_cons_of_ne_nil (trim_ne_nil hs)
      rw [hcons]
      rfl
    rw [lineDeclarations, lineDeclarations, htrim]
    simp only [hempty, isPrefixOf_pair_append (hhead '/' rfl), isPrefixOf_pair_append (hhead '@' rfl),
      stripComment_append_blank hstring (notEnding_trim s) hne hw]

/-! ## Lines of a body -/

/-- The declarations of a line stand between those of the lines above and below. -/
theorem fieldLines_between (h : LineBetween above line below) :
    fieldLines (above ++ (line ++ below)) =
      fieldLines above ++ (lineDeclarations line ++ fieldLines (below.drop 1)) := by
  have hbelow : fieldLines (line ++ below) =
      lineDeclarations line ++ fieldLines (below.drop 1) := by
    cases below with
    | nil =>
      rw [List.append_nil, fieldLines_of_forall h.without_isLineBreak]
      exact (List.append_nil _).symm
    | cons c r => exact fieldLines_append_cons h.without_isLineBreak (h.below c rfl) r
  rw [← hbelow]
  exact flatMap_splitLines_append rfl h.above (line ++ below)

/-- A comment that is added to a line of a body, where no string literal is open, leaves the
declarations of the body as they are. -/
theorem fieldLines_append_comment (h : LineBetween above line below)
    (hclosed : inLiteral line line.length = false) (hcomment : Without isLineBreak comment) :
    fieldLines (above ++ (line ++ ' ' :: '/' :: '/' :: comment ++ below)) =
      fieldLines (above ++ (line ++ below)) := by
  have hlonger : LineBetween above (line ++ ' ' :: '/' :: '/' :: comment) below := by
    refine ⟨fun c hc => ?_, h.above, h.below⟩
    simp only [List.mem_append, List.mem_cons] at hc
    rcases hc with hc | rfl | rfl | rfl | hc
    · exact h.without_isLineBreak c hc
    · rfl
    · rfl
    · rfl
    · exact hcomment c hc
  rw [inLiteral_eq (Nat.le_refl _), List.take_length] at hclosed
  rw [fieldLines_between hlonger, fieldLines_between h, lineDeclarations_append_comment hclosed]

/-- Of every line the comment at its end is cut off with the blanks before it, and nothing else, so
that cutting again cuts no more.  Every line of a body stands between what is above it and below it,
and there a comment behind a blank may be added to it, if no string literal is open at its end: the
declarations of the body stay as they are. -/
theorem trailing_comments_removed :
    (∀ line, Stripped line (stripComment line) ∧
        stripComment (stripComment line) = stripComment line) ∧
      (∀ body i line, (splitLines body)[i]? = some line →
        ∃ above below, body = above ++ (line ++ below) ∧ LineBetween above line below ∧
          splitLines above = (splitLines body).take i) ∧
      ∀ above line below comment, LineBetween above line below →
        inLiteral line line.length = false → Without isLineBreak comment →
          fieldLines (above ++ (line ++ ' ' :: '/' :: '/' :: comment ++ below)) =
            fieldLines (above ++ (line ++ below)) :=
  ⟨fun line => ⟨stripped_stripComment line, stripComment_stripComment line⟩,
    fun _ _ _ => exists_between_of_splitLines, fun _ _ _ _ => fieldLines_append_comment⟩

/-- A line with slashes and an escaped quote in a string, which is closed. -/
def addressLine : List Char := "  url String @default(\"a\\\"//b\")".toList

/-- The slashes in the string of `addressLine` do not begin a comment, and one that is added between
other lines does not matter. -/
theorem trailing_comments_removed_address :
    Stripped addressLine (stripComment addressLine) ∧ stripComment addressLine = addressLine ∧
      fieldLines ("id Int\n".toList ++ (addressLine ++ " // \"the\" page".toList ++ "\r\n".toList)) =
        fieldLines ("id Int\n".toList ++ (addressLine ++ "\r\n".toList)) := by
  obtain ⟨hcut, -, hadd⟩ := trailing_comments_removed
  have hkept : stripComment addressLine = addressLine := by decide
  have hbetween : LineBetween "id Int\n".toList addressLine "\r\n".toList :=
    ⟨by decide, Or.inr ⟨'\n', rfl, rfl⟩, by rintro c ⟨⟩; rfl⟩
  exact ⟨(hcut addressLine).1, hkept,
    hadd _ _ _ " \"the\" page".toList hbetween (by decide) (by decide)⟩

end FeatureGen.Schema

import FeatureGen.Proofs.Text.Span
import FeatureGen.Text.Lines

/-!
# Lines one by one

A line break ends the first line of a text (`splitLines_append_cons`).  Only a line feed after a
carriage return makes no line of its own; `splitLines_cons_lineFeed` says that it would be an empty
one.  Line breaks are blanks.  Making all breaks line feeds changes only a text with carriage
returns (`unifyNewlines_of_not_mem`).
-/

namespace FeatureGen.Text

variable {c : Char} {s t line : List Char}

theorem isBlank_of_isLineBreak (h : isLineBreak c = true) : isBlank c = true := by
  simp only [isLineBreak, isBlank, Bool.or_eq_true, Bool.and_eq_true, decide_eq_true_eq,
    beq_iff_eq] at h ⊢
  omega

theorem isLineBreak_eq_false_of_isBlank (h : isBlank c = false) : isLineBreak c = false := by
  cases hc : isLineBreak c with
  | false => rfl
  | true => rw [isBlank_of_isLineBreak hc] at h; cases h

/-- The first line goes on over characters that break no line. -/
theorem splitLinesFrom_append (hs : Without isLineBreak s) :
    splitLinesFrom line (s ++ t) = splitLinesFrom (s.reverse ++ line) t := by
  induction s generalizing line with
  | nil => rfl
  | cons c s ih =>
    have hc := hs c List.mem_cons_self
    have hcons : splitLinesFrom line (c :: (s ++ t)) = splitLinesFrom (c :: line) (s ++ t) := by
      cases hr : s ++ t with
      | nil => simp [splitLinesFrom, hc]
      | cons d r =>
        have hne : c ≠ '\r' := by
          rintro rfl
          exact absurd hc (by decide)
        simp [splitLinesFrom, hc, hne]
    rw [List.cons_append, hcons, ih fun d hd => hs d (List.mem_cons_of_mem _ hd)]
    simp

/-- A text without line breaks is one line, if it is not empty. -/
theorem splitLines_of_forall (hs : Without isLineBreak s) :
    splitLines s = if s.isEmpty then [] else [s] := by
  have h : splitLinesFrom [] (s ++ []) = _ := splitLinesFrom_append hs
  rw [List.append_nil, List.append_nil] at h
  rw [splitLines, h, splitLinesFrom]
  simp

/-- A line feed at the start ends an empty line. -/
theorem splitLines_cons_lineFeed (t : List Char) : splitLines ('\n' :: t) = [] :: splitLines t := by
  cases t with
  | nil => rfl
  | cons d t =>
    rw [splitLines, splitLinesFrom, if_neg (by simp), if_pos (by decide)]
    rfl

/-- A line break ends the first line. -/
theorem splitLines_append_single (hs : Without isLineBreak s) (hc : isLineBreak c = true)
    (hpair : c = '\r' → t.head? ≠ some '\n') : splitLines (s ++ c :: t) = s :: splitLines t := by
  rw [splitLines, splitLinesFrom_append hs, List.append_nil]
  cases t with
  | nil =>
    rw [splitLinesFrom, if_pos hc, List.reverse_reverse]
    rfl
  | cons d t =>
    have hne : ¬ (c = '\r' && d = '\n') = true := by simpa using hpair
    rw [splitLinesFrom, if_neg hne, if_pos hc, List.reverse_reverse]
    rfl

/-- A line feed after a carriage return belongs to the line that it ends. -/
theorem splitLines_append_pair (hs : Without isLineBreak s) (t : List Char) :
    splitLines (s ++ '\r' :: '\n' :: t) = s :: splitLines t := by
  rw [splitLines, splitLinesFrom_append hs, List.append_nil, splitLinesFrom, if_pos (by decide),
    List.reverse_reverse]
  rfl

/-- A line break ends the first line, and a line feed may belong to it. -/
theorem splitLines_append_cons (hs : Without isLineBreak s) (hc : isLineBreak c = true) :
    splitLines (s ++ c :: t) = s :: splitLines t ∨
      ∃ r, t = '\n' :: r ∧ splitLines (s ++ c :: t) = s :: splitLines r := by
  by_cases hpair : c = '\r' ∧ t.head? = some '\n'
  · obtain ⟨rfl, hhead⟩ := hpair
    obtain ⟨r, rfl⟩ := List.head?_eq_some_iff.1 hhead
    exact .inr ⟨r, rfl, splitLines_append_pair hs r⟩
  · exact .inl (splitLines_append_single hs hc fun hc hhead => hpair ⟨hc, hhead⟩)

/-- The lines of a text have no line breaks. -/
theorem without_isLineBreak_of_mem_splitLinesFrom (hline : Without isLineBreak line)
    (ht : t ∈ splitLinesFrom line s) : Without isLineBreak t := by
  have hreverse (line : List Char) (h : Without isLineBreak line) :
      Without isLineBreak line.reverse := fun c hc => h c (List.mem_reverse.1 hc)
  have hnil : Without isLineBreak [] := List.forall_mem_nil _
  fun_induction splitLinesFrom line s with
  | case1 line hempty => cases ht
  | case2 line hempty => exact List.mem_singleton.1 ht ▸ hreverse line hline
  | case3 line c hc => exact List.mem_singleton.1 ht ▸ hreverse line hline
  | case4 line c hc =>
    have hcons : Without isLineBreak (c :: line) :=
      List.forall_mem_cons.2 ⟨by simpa using hc, hline⟩
    exact List.mem_singleton.1 ht ▸ hreverse _ hcons
  | case5 line c d s hpair ih =>
    rcases List.mem_cons.1 ht with rfl | ht
    · exact hreverse line hline
    · exact ih hnil ht
  | case6 line c d s hpair hc ih =>
    rcases List.mem_cons.1 ht with rfl | ht
    · exact hreverse line hline
    · exact ih hnil ht
  | case7 line c d s hpair hc ih =>
    exact ih (List.forall_mem_cons.2 ⟨by simpa using hc, hline⟩) ht

theorem without_isLineBreak_of_mem_splitLines (ht : t ∈ splitLines s) : Without isLineBreak t :=
  without_isLineBreak_of_mem_splitLinesFrom (List.forall_mem_nil _) ht

/-- What is made of the first line stands before what is made of the others, if an empty line gives
nothing. -/
theorem flatMap_splitLines_append_cons {α : Type} {g : List Char → List α} (hg : g [] = [])
    (hs : Without isLineBreak s) (hc : isLineBreak c = true) (t : List Char) :
    (splitLines (s ++ c :: t)).flatMap g = g s ++ (splitLines t).flatMap g := by
  rcases splitLines_append_cons (t := t) hs hc with hsplit | ⟨r, rfl, hsplit⟩
  · rw [hsplit, List.flatMap_cons]
  · -- The line feed belongs to the first line, and would end an empty one without it.
    rw [hsplit, splitLines_cons_lineFeed, List.flatMap_cons, List.flatMap_cons, hg, List.nil_append]

/-- A text without carriage returns is not changed when its breaks are made one. -/
theorem unifyNewlines_of_not_mem (h : '\r' ∉ s) : unifyNewlines s = s := by
  induction s with
  | nil => rfl
  | cons c s ih =>
    rw [List.mem_cons, not_or] at h
    rw [unifyNewlines, ih h.2, if_neg (Ne.symm h.1)]
    rintro t rfl
    exact absurd rfl h.1

end FeatureGen.Text

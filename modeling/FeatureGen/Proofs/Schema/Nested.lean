import FeatureGen.Proofs.Schema.Argument
import FeatureGen.Proofs.Text.LineEnd
import FeatureGen.Schema.Relation
import Mathlib.Data.List.Chain

/-!
# Nested texts

`NestedText` is the grammar of the arguments of a relation attribute: strings are closed and have no
backslash, and brackets and parentheses outside strings are nested.  A text at the top has no comma
but in brackets, in parentheses or in a string.

Two scanners read such a text, the one for the parenthesis that closes (`closeOffset?`) and the one
that divides the arguments (`splitArgumentsFrom`).  They do not agree on quotes: for the former a
quote after a backslash is none, in a string or not.  So it passes over a nested text if no quote
stands right behind a backslash (`Unescaped`), and the latter passes over every nested text.

Texts that are nested at the top, with commas between them, are what the second scanner divides them
into (`splitArguments_joinPieces`).
-/

namespace FeatureGen.Schema

open FeatureGen.Text

variable {top : Bool} {c : Char} {p q s t : List Char} {before : Option Char} {depth : Int}

/-- Characters that mean something to the scanners. -/
def nestingMarks : List Char := ['"', '[', ']', '(', ')']

/-- Whether a character is a mark or a comma. -/
def isDivider (c : Char) : Bool := (',' :: nestingMarks).contains c

theorem isDivider_eq_false_iff : isDivider c = false ↔ c ≠ ',' ∧ c ∉ nestingMarks := by
  rw [isDivider, ← Bool.not_eq_true, List.contains_iff_mem, List.mem_cons, not_or]

/-- Text with closed strings and nested brackets and parentheses, without commas at the top. -/
inductive NestedText : Bool → List Char → Prop
  | nil {top : Bool} : NestedText top []
  /-- A character that is no mark. -/
  | plain {top : Bool} {c : Char} {s : List Char} (hc : c ∉ nestingMarks)
    (hcomma : top = true → c ≠ ',') (hs : NestedText top s) : NestedText top (c :: s)
  /-- A string. -/
  | quoted {top : Bool} {q s : List Char} (hq : '"' ∉ q) (hback : '\\' ∉ q)
    (hs : NestedText top s) : NestedText top ('"' :: (q ++ '"' :: s))
  /-- A text in brackets. -/
  | brackets {top : Bool} {p s : List Char} (hp : NestedText false p) (hs : NestedText top s) :
    NestedText top ('[' :: (p ++ ']' :: s))
  /-- A text in parentheses. -/
  | parens {top : Bool} {p s : List Char} (hp : NestedText false p) (hs : NestedText top s) :
    NestedText top ('(' :: (p ++ ')' :: s))

theorem NestedText.append (hs : NestedText top s) (ht : NestedText top t) :
    NestedText top (s ++ t) := by
  induction hs with
  | nil => exact ht
  | plain hc hcomma _ ih => exact .plain hc hcomma (ih ht)
  | quoted hq hback _ ih =>
    rw [List.cons_append, List.append_assoc]
    exact .quoted hq hback (ih ht)
  | brackets hp _ _ ih =>
    rw [List.cons_append, List.append_assoc]
    exact .brackets hp (ih ht)
  | parens hp _ _ ih =>
    rw [List.cons_append, List.append_assoc]
    exact .parens hp (ih ht)

/-- Commas may stand in a text that is not at the top. -/
theorem NestedText.inner (h : NestedText top s) : NestedText false s := by
  induction h with
  | nil => exact .nil
  | plain hc _ _ ih => exact .plain hc (fun he => absurd he Bool.false_ne_true) ih
  | quoted hq hback _ ih => exact .quoted hq hback ih
  | brackets hp _ _ ih => exact .brackets hp ih
  | parens hp _ _ ih => exact .parens hp ih

/-- A text without marks and commas is nested. -/
theorem nestedText_of_without (h : Without isDivider s) : NestedText top s := by
  induction s with
  | nil => exact .nil
  | cons c s ih =>
    obtain ⟨hc, hs⟩ := List.forall_mem_cons.1 h
    obtain ⟨hcomma, hmark⟩ := isDivider_eq_false_iff.1 hc
    exact .plain hmark (fun _ => hcomma) (ih hs)

/-- A text is nested if its characters pass a test that no mark and no comma passes. -/
theorem nestedText_of_every {test : Char → Bool} (hs : Every test s)
    (htest : Without test (',' :: nestingMarks)) : NestedText top s := by
  apply nestedText_of_without
  intro c hc
  rw [isDivider, ← Bool.not_eq_true, List.contains_iff_mem]
  intro hmem
  have htrue := hs c hc
  rw [htest c hmem] at htrue
  cases htrue

/-- No quote stands right behind a backslash. -/
def Unescaped (s : List Char) : Prop := s.IsChain fun c d => c = '\\' → d ≠ '"'

instance (s : List Char) : Decidable (Unescaped s) :=
  inferInstanceAs (Decidable (s.IsChain fun c d => c = '\\' → d ≠ '"'))

theorem unescaped_of_not_mem_backslash (h : '\\' ∉ s) : Unescaped s := by
  apply List.Pairwise.isChain
  apply List.pairwise_of_forall_mem_list
  rintro c hc d - rfl
  exact absurd hc h

theorem unescaped_of_not_mem_quote (h : '"' ∉ s) : Unescaped s := by
  apply List.Pairwise.isChain
  apply List.pairwise_of_forall_mem_list
  rintro c - d hd - rfl
  exact absurd hd h

theorem Unescaped.append (hs : Unescaped s) (ht : Unescaped t)
    (hstart : NotStarting (· == '"') t) : Unescaped (s ++ t) := by
  apply List.IsChain.append hs ht
  rintro c - d hd - rfl
  exact absurd (hstart _ hd) (by decide)

/-- A text without backslashes may stand before any other. -/
theorem Unescaped.append_left (hs : '\\' ∉ s) (ht : Unescaped t) : Unescaped (s ++ t) := by
  apply List.IsChain.append (unescaped_of_not_mem_backslash hs) ht
  rintro c hc d - rfl
  exact absurd (List.mem_of_getLast? hc) hs

theorem Unescaped.of_append_right (h : Unescaped (s ++ t)) : Unescaped t :=
  List.IsChain.right_of_append h

/-! ## The parenthesis that closes -/

/-- The scan passes over a nested text in parentheses, if the quotes in it are quotes to it. -/
theorem NestedText.passedOver (h : NestedText top s) (hquote : Unescaped s)
    (hbefore : s.head? = some '"' → before ≠ some '\\') (hdepth : 1 ≤ depth) :
    PassedOver depth before s := by
  induction h generalizing depth before with
  | nil => exact .nil
  | @plain top c s hc _ _ ih =>
    obtain ⟨hnext, hs⟩ := List.isChain_cons.1 hquote
    simp only [nestingMarks, List.mem_cons, List.not_mem_nil, or_false, not_or] at hc
    have hchar : PassedOver depth before [c] := .singleton ⟨hc.1, hc.2.2.2.1, hc.2.2.2.2⟩
    refine hchar.append (ih hs ?_ hdepth)
    rw [lastChar_cons, lastChar_nil]
    intro hhead he
    exact hnext _ hhead (Option.some.inj he) rfl
  | @quoted top q s hq hback _ ih =>
    have htext : '"' :: (q ++ '"' :: s) = '"' :: (q ++ ['"']) ++ s := by simp
    rw [htext] at hquote ⊢
    refine (PassedOver.string (hbefore rfl) hq hback).append
      (ih hquote.of_append_right ?_ hdepth)
    simp [lastChar_append]
  | @brackets top p s _ _ ihp ihs =>
    have htext : '[' :: (p ++ ']' :: s) = ['['] ++ (p ++ ([']'] ++ s)) := by simp
    rw [htext] at hquote ⊢
    have hinner := hquote.of_append_right
    have hopen : PassedOver depth before ['['] := .singleton (by decide)
    have hclose : PassedOver depth (lastChar (some '[') p) [']'] := .singleton (by decide)
    refine hopen.append ((ihp (List.IsChain.left_of_append hinner) ?_ hdepth).append
      (hclose.append (ihs hinner.of_append_right.of_append_right ?_ hdepth)))
    · simp
    · simp
  | @parens top p s _ _ ihp ihs =>
    have htext : '(' :: (p ++ ')' :: s) = '(' :: (p ++ [')']) ++ s := by simp
    rw [htext] at hquote ⊢
    have hinner : Unescaped (p ++ [')']) :=
      (List.isChain_cons.1 (List.IsChain.left_of_append hquote)).2
    have hparens : PassedOver (depth + 1) (some '(') p :=
      ihp (List.IsChain.left_of_append hinner) (by simp) (by omega)
    refine (hparens.parens (by omega)).append (ihs hquote.of_append_right ?_ hdepth)
    simp [lastChar_append]

/-- The parenthesis before a nested text is closed by the one after it. -/
theorem NestedText.closeOffset?_parens (h : NestedText top s) (hquote : Unescaped s)
    (rest : List Char) :
    closeOffset? 0 false none ('(' :: (s ++ ')' :: rest)) = some (s.length + 1) :=
  (h.passedOver hquote (by simp) (by decide)).closeOffset?_parens rest

/-! ## Division at commas -/

/-- The text goes into the piece that is read, whatever follows. -/
def GoesOn (depth : Int) (s : List Char) : Prop :=
  ∀ piece rest, splitArgumentsFrom depth false piece (s ++ rest) =
    splitArgumentsFrom depth false (s.reverse ++ piece) rest

namespace GoesOn

theorem nil : GoesOn depth [] := fun _ _ => rfl

theorem append (hs : GoesOn depth s) (ht : GoesOn depth t) : GoesOn depth (s ++ t) := by
  intro piece rest
  rw [List.append_assoc, hs, ht, List.reverse_append, List.append_assoc]

theorem singleton (hc : c ∉ nestingMarks) (hcomma : c = ',' → depth ≠ 0) : GoesOn depth [c] := by
  intro piece rest
  simp only [nestingMarks, List.mem_cons, List.not_mem_nil, or_false, not_or] at hc
  obtain ⟨hquote, hopen, hclose, hopen', hclose'⟩ := hc
  rw [List.singleton_append, splitArgumentsFrom, if_neg hquote, if_neg Bool.false_ne_true,
    if_neg (by simp [hopen, hopen']), if_neg (by simp [hclose, hclose']), if_neg]
  · rfl
  · simpa using hcomma

theorem string (hq : '"' ∉ q) : GoesOn depth ('"' :: (q ++ ['"'])) := by
  have hinner (piece rest : List Char) :
      splitArgumentsFrom depth true piece (q ++ '"' :: rest) =
        splitArgumentsFrom depth false ('"' :: (q.reverse ++ piece)) rest := by
    induction q generalizing piece with
    | nil => rw [List.nil_append, splitArgumentsFrom, if_pos rfl]; rfl
    | cons c q ih =>
      have ⟨hc, hq⟩ := not_or.1 (mt List.mem_cons.2 hq)
      rw [List.cons_append, splitArgumentsFrom, if_neg (Ne.symm hc), if_pos rfl, ih hq]
      simp
  intro piece rest
  have htext : '"' :: (q ++ ['"']) ++ rest = '"' :: (q ++ '"' :: rest) := by simp
  rw [htext, splitArgumentsFrom, if_pos rfl, Bool.not_false, hinner]
  simp

theorem brackets (hp : GoesOn (depth + 1) p) : GoesOn depth ('[' :: (p ++ [']'])) := by
  intro piece rest
  have htext : '[' :: (p ++ [']']) ++ rest = '[' :: (p ++ ']' :: rest) := by simp
  rw [htext, splitArgumentsFrom, if_neg (by decide), if_neg (by simp), if_pos (by decide), hp,
    splitArgumentsFrom, if_neg (by decide), if_neg (by simp), if_neg (by decide),
    if_pos (by decide), Int.add_sub_cancel]
  simp

theorem parens (hp : GoesOn (depth + 1) p) : GoesOn depth ('(' :: (p ++ [')'])) := by
  intro piece rest
  have htext : '(' :: (p ++ [')']) ++ rest = '(' :: (p ++ ')' :: rest) := by simp
  rw [htext, splitArgumentsFrom, if_neg (by decide), if_neg (by simp), if_pos (by decide), hp,
    splitArgumentsFrom, if_neg (by decide), if_neg (by simp), if_neg (by decide),
    if_pos (by decide), Int.add_sub_cancel]
  simp

end GoesOn

/-- A nested text is not divided. -/
theorem NestedText.goesOn (h : NestedText top s) (hdepth : 0 ≤ depth)
    (hinner : top = false → depth ≠ 0) : GoesOn depth s := by
  induction h generalizing depth with
  | nil => exact .nil
  | @plain top c s hc hcomma _ ih =>
    refine (GoesOn.singleton hc fun he => hinner ?_).append (ih hdepth hinner)
    cases top with
    | false => rfl
    | true => exact absurd he (hcomma rfl)
  | @quoted top q s hq _ _ ih =>
    have htext : '"' :: (q ++ '"' :: s) = '"' :: (q ++ ['"']) ++ s := by simp
    rw [htext]
    exact (GoesOn.string hq).append (ih hdepth hinner)
  | @brackets top p s _ _ ihp ihs =>
    have htext : '[' :: (p ++ ']' :: s) = '[' :: (p ++ [']']) ++ s := by simp
    rw [htext]
    exact (GoesOn.brackets (ihp (by omega) fun _ => by omega)).append (ihs hdepth hinner)
  | @parens top p s _ _ ihp ihs =>
    have htext : '(' :: (p ++ ')' :: s) = '(' :: (p ++ [')']) ++ s := by simp
    rw [htext]
    exact (GoesOn.parens (ihp (by omega) fun _ => by omega)).append (ihs hdepth hinner)

/-- Nested texts with commas between them are divided at these commas. -/
theorem splitArgumentsFrom_joinPieces {ps : List (List Char)} (hne : ps ≠ [])
    (h : ∀ p ∈ ps, NestedText true p) :
    splitArgumentsFrom 0 false [] (joinPieces ',' ps) = ps.map trim := by
  induction ps with
  | nil => exact absurd rfl hne
  | cons p ps ih =>
    have hp := (h p List.mem_cons_self).goesOn (Int.le_refl 0) fun he => by cases he
    cases ps with
    | nil =>
      have hlast := hp [] []
      rw [List.append_nil] at hlast
      rw [joinPieces, hlast, splitArgumentsFrom, List.append_nil, List.reverse_reverse]
      rfl
    | cons q ps =>
      rw [joinPieces, hp, splitArgumentsFrom, if_neg (by decide), if_neg (by simp),
        if_neg (by decide), if_neg (by decide), if_pos (by decide), List.append_nil,
        List.reverse_reverse, ih (List.cons_ne_nil q ps) fun r hr => h r (List.mem_cons_of_mem p hr)]
      rfl

theorem NestedText.joinPieces {ps : List (List Char)} (h : ∀ p ∈ ps, NestedText true p) :
    NestedText false (Text.joinPieces ',' ps) := by
  induction ps with
  | nil => exact .nil
  | cons p ps ih =>
    have hp := (h p List.mem_cons_self).inner
    cases ps with
    | nil => exact hp
    | cons q ps =>
      exact hp.append (.plain (by decide) (fun he => by cases he)
        (ih fun r hr => h r (List.mem_cons_of_mem p hr)))

theorem Unescaped.joinPieces {ps : List (List Char)} (h : ∀ p ∈ ps, Unescaped p) :
    Unescaped (Text.joinPieces ',' ps) := by
  induction ps with
  | nil => exact .nil
  | cons p ps ih =>
    have hp := h p List.mem_cons_self
    cases ps with
    | nil => exact hp
    | cons q ps =>
      have htail := ih fun r hr => h r (List.mem_cons_of_mem p hr)
      have hcomma : Unescaped ([','] ++ Text.joinPieces ',' (q :: ps)) :=
        .append_left (by decide) htail
      exact hp.append hcomma (notStarting_cons.2 (by decide))

end FeatureGen.Schema

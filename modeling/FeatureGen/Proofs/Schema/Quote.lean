import FeatureGen.Proofs.Schema.Argument
import FeatureGen.Proofs.Text.Search

/-!
# Strings that are open

The scan for a comment and the scan for the parenthesis that closes keep the same account of
strings: a double quote begins or ends one, unless a backslash stands before it.  `inStringAfter` is
that account for a whole text, so that what one scan has seen of a part of a line tells where the
other one goes on after that part.

A line without a comment has none in a part that begins where no string is open
(`beforeComment?_append_eq_none`), and what stands before the first comment has none
(`exists_of_beforeComment?`).  Where a parenthesis is closed no string is open, and whatever follows
does not matter (`exists_of_closeOffset?`).  Until then the scan goes on behind each part of the
text with the parentheses and the string that the part has left open (`closeOffset?_of_append`).
-/

namespace FeatureGen.Schema

open FeatureGen.Text

variable {c : Char} {s t p : List Char} {before : Option Char} {depth : Int} {inString : Bool}
  {n : Nat}

/-- Whether a string is open after a text, if it says so before the text. -/
def inStringAfter (inString : Bool) (before : Option Char) : List Char → Bool
  | [] => inString
  | c :: s => inStringAfter (if c = '"' && before != some '\\' then !inString else inString) (some c) s

theorem inStringAfter_append (inString : Bool) (before : Option Char) (s t : List Char) :
    inStringAfter inString before (s ++ t) =
      inStringAfter (inStringAfter inString before s) (lastChar before s) t := by
  induction s generalizing inString before with
  | nil => rfl
  | cons c s ih => rw [List.cons_append, inStringAfter, inStringAfter, lastChar_cons, ih]

theorem inStringAfter_cons_of_ne (hc : c ≠ '"') (inString : Bool) (before : Option Char)
    (s : List Char) :
    inStringAfter inString before (c :: s) = inStringAfter inString (some c) s := by
  rw [inStringAfter, if_neg (by simp [hc])]

/-- Every string that begins in the text ends in it. -/
def ClosesStrings (s : List Char) : Prop := ∀ before, inStringAfter false before s = false

theorem ClosesStrings.append (hs : ClosesStrings s) (ht : ClosesStrings t) :
    ClosesStrings (s ++ t) := by
  intro before
  rw [inStringAfter_append, hs]
  exact ht _

theorem inStringAfter_of_not_mem (h : '"' ∉ s) (inString : Bool) (before : Option Char) :
    inStringAfter inString before s = inString := by
  induction s generalizing before with
  | nil => rfl
  | cons c s ih =>
    have ⟨hc, hs⟩ := not_or.1 (mt List.mem_cons.2 h)
    rw [inStringAfter_cons_of_ne (Ne.symm hc), ih hs]

theorem closesStrings_of_not_mem (h : '"' ∉ s) : ClosesStrings s :=
  inStringAfter_of_not_mem h false

/-- Before a text only a backslash matters. -/
theorem inStringAfter_before (h : before ≠ some '\\') (inString : Bool) (s : List Char) :
    inStringAfter inString before s = inStringAfter inString none s := by
  cases s with
  | nil => rfl
  | cons c s =>
    have hb : (before != some '\\') = true := by simpa using h
    simp [inStringAfter, hb]

/-! ## Comments -/

/-- The scan for a comment goes on behind a character that does not begin one. -/
theorem beforeComment?_cons_eq_none
    (h : beforeComment? inString before (c :: s) = none) :
    ¬ (c = '/' ∧ s.head? = some '/' ∧ inString = false) ∧
      beforeComment? (if c = '"' && before != some '\\' then !inString else inString) (some c) s =
        none := by
  rw [beforeComment?] at h
  split at h
  · cases h
  · next hc => exact ⟨by simpa [and_assoc] using hc, Option.map_eq_none_iff.1 h⟩

theorem beforeComment?_cons_of_eq_none
    (hc : ¬ (c = '/' ∧ s.head? = some '/' ∧ inString = false))
    (h : beforeComment? (if c = '"' && before != some '\\' then !inString else inString) (some c) s =
      none) :
    beforeComment? inString before (c :: s) = none := by
  rw [beforeComment?, if_neg (by simpa [and_assoc] using hc)]
  exact Option.map_eq_none_iff.2 h

/-- The character before matters only to a quote. -/
theorem beforeComment?_cons_before (hc : c ≠ '"') (inString : Bool) (before : Option Char)
    (s : List Char) :
    beforeComment? inString before (c :: s) = beforeComment? inString none (c :: s) := by
  rw [beforeComment?, beforeComment?]
  simp [hc]

/-- No part of a text without a comment has one, where the second part begins in a string if that is
what the first one leaves open. -/
theorem beforeComment?_append_eq_none (h : beforeComment? inString before (s ++ t) = none) :
    beforeComment? inString before s = none ∧
      beforeComment? (inStringAfter inString before s) (lastChar before s) t = none := by
  induction s generalizing inString before with
  | nil => exact ⟨rfl, h⟩
  | cons c s ih =>
    rw [List.cons_append] at h
    obtain ⟨hc, hs⟩ := beforeComment?_cons_eq_none h
    obtain ⟨hfirst, hsecond⟩ := ih hs
    rw [inStringAfter, lastChar_cons]
    refine ⟨beforeComment?_cons_of_eq_none ?_ hfirst, hsecond⟩
    rintro ⟨hslash, hhead, hstring⟩
    exact hc ⟨hslash, by rw [List.head?_append, hhead, Option.some_or], hstring⟩

/-- Text that does not start with a slash leaves the comments before it as they are, and the scan
goes on in it if there is none. -/
theorem beforeComment?_append (ht : t.head? ≠ some '/') :
    beforeComment? inString before (s ++ t) =
      (beforeComment? inString before s).or
        ((beforeComment? (inStringAfter inString before s) (lastChar before s) t).map (s ++ ·)) := by
  induction s generalizing inString before with
  | nil => simp [beforeComment?, inStringAfter]
  | cons c s ih =>
    have hhead : (s ++ t).head? = some '/' ↔ s.head? = some '/' := by
      cases s with
      | nil => simpa using ht
      | cons d s => rfl
    rw [List.cons_append, beforeComment?, beforeComment?, inStringAfter, lastChar_cons]
    simp only [hhead, ih]
    split
    · rfl
    · rw [Option.map_or, Option.map_map]
      rfl

/-- What stands before the first comment is the start of the text, and has no comment. -/
theorem exists_of_beforeComment? (h : beforeComment? inString before s = some p) :
    (∃ r, s = p ++ r) ∧ beforeComment? inString before p = none := by
  induction s generalizing inString before p with
  | nil => cases h
  | cons c s ih =>
    rw [beforeComment?] at h
    split at h
    · cases h
      exact ⟨⟨c :: s, rfl⟩, rfl⟩
    · next hc =>
      obtain ⟨q, hq, rfl⟩ := Option.map_eq_some_iff.1 h
      obtain ⟨⟨r, rfl⟩, hnone⟩ := ih hq
      refine ⟨⟨r, rfl⟩, beforeComment?_cons_of_eq_none ?_ hnone⟩
      rintro ⟨hslash, hhead, hstring⟩
      rw [List.head?_append, hhead, hslash, hstring] at hc
      exact hc rfl

/-- Two slashes at the start are a comment. -/
theorem not_prefix_of_beforeComment?_eq_none (h : beforeComment? false before s = none) :
    ¬ ['/', '/'] <+: s := by
  rintro ⟨r, rfl⟩
  cases h

theorem stripComment_of_eq_none (h : beforeComment? false none s = none) : stripComment s = s := by
  rw [stripComment, h]

/-- A text without slashes has no comment. -/
theorem stripComment_of_not_mem (h : '/' ∉ s) : stripComment s = s := by
  have hnone (inString : Bool) (before : Option Char) :
      beforeComment? inString before s = none := by
    induction s generalizing inString before with
    | nil => rfl
    | cons c s ih =>
      have hc : c ≠ '/' := fun hc => h (hc ▸ List.mem_cons_self)
      have hs := ih fun hs => h (List.mem_cons_of_mem c hs)
      exact beforeComment?_cons_of_eq_none (fun hstart => absurd hstart.1 hc) (hs _ _)
  exact stripComment_of_eq_none (hnone false none)

/-- A line after its comment is cut off has none. -/
theorem beforeComment?_stripComment (s : List Char) :
    beforeComment? false none (stripComment s) = none := by
  rw [stripComment]
  split
  · next p hp =>
    obtain ⟨-, hnone⟩ := exists_of_beforeComment? hp
    obtain ⟨w, hw, -⟩ := trimEnd_append_blanks p
    rw [← hw] at hnone
    exact (beforeComment?_append_eq_none hnone).1
  · next hnone => exact hnone

theorem stripComment_subset (s : List Char) : stripComment s ⊆ s := by
  rw [stripComment]
  split
  · next p hp =>
    obtain ⟨⟨r, rfl⟩, -⟩ := exists_of_beforeComment? hp
    obtain ⟨w, hw, -⟩ := trimEnd_append_blanks p
    intro c hc
    have hmem : c ∈ p := by
      rw [← hw]
      exact List.mem_append_left w hc
    exact List.mem_append_left r hmem
  · exact List.Subset.refl s

/-! ## Parentheses -/

/-- How many more brackets of a kind are opened than closed in a text, outside strings. -/
def depthAfter (opening closing : Char) (inString : Bool) (before : Option Char) : List Char → Int
  | [] => 0
  | c :: s =>
    (if inString then 0 else if c = opening then 1 else if c = closing then -1 else 0) +
      depthAfter opening closing (inStringAfter inString before [c]) (some c) s

theorem depthAfter_append (opening closing : Char) (inString : Bool) (before : Option Char)
    (s t : List Char) :
    depthAfter opening closing inString before (s ++ t) =
      depthAfter opening closing inString before s +
        depthAfter opening closing (inStringAfter inString before s) (lastChar before s) t := by
  induction s generalizing inString before with
  | nil => simp [depthAfter, inStringAfter]
  | cons c s ih =>
    rw [List.cons_append, depthAfter, depthAfter, ih, lastChar_cons, Int.add_assoc]
    rfl

/-- The scan for the parenthesis that closes either stops at a character or goes on behind it, with
account of strings and of the parentheses outside them. -/
theorem closeOffset?_step (depth : Int) (inString : Bool) (before : Option Char) (c : Char) :
    (c = ')' ∧ inString = false ∧ depth = 1 ∧
        ∀ t, closeOffset? depth inString before (c :: t) = some 0) ∨
      (c = ')' → inString = false → depth ≠ 1) ∧
        ∀ t, closeOffset? depth inString before (c :: t) =
          (closeOffset? (depth + depthAfter '(' ')' inString before [c])
            (inStringAfter inString before [c]) (some c) t).map (· + 1) := by
  simp only [inStringAfter, depthAfter]
  by_cases hquote : (c = '"' && before != some '\\') = true
  · have hc : c = '"' := by
      simp only [Bool.and_eq_true, decide_eq_true_eq] at hquote
      exact hquote.1
    refine Or.inr ⟨?_, fun t => ?_⟩
    · rw [hc]
      exact fun h => absurd h (by decide)
    · rw [closeOffset?, if_pos hquote, if_pos hquote]
      simp [hc]
  rw [if_neg hquote]
  cases inString with
  | true =>
    refine Or.inr ⟨fun _ h => absurd h (by decide), fun t => ?_⟩
    rw [closeOffset?, if_neg hquote, if_pos rfl]
    simp
  | false =>
    by_cases hopen : c = '('
    · refine Or.inr ⟨?_, fun t => ?_⟩
      · rw [hopen]
        exact fun h => absurd h (by decide)
      · rw [closeOffset?, if_neg hquote, if_neg Bool.false_ne_true, if_pos hopen]
        simp [hopen]
    by_cases hclose : c = ')'
    · by_cases hone : depth = 1
      · refine Or.inl ⟨hclose, rfl, hone, fun t => ?_⟩
        rw [closeOffset?, if_neg hquote, if_neg Bool.false_ne_true, if_neg hopen, if_pos hclose,
          if_pos hone]
      · refine Or.inr ⟨fun _ _ => hone, fun t => ?_⟩
        rw [closeOffset?, if_neg hquote, if_neg Bool.false_ne_true, if_neg hopen, if_pos hclose,
          if_neg hone]
        simp [hclose, Int.sub_eq_add_neg]
    · refine Or.inr ⟨fun h => absurd h hclose, fun t => ?_⟩
      rw [closeOffset?, if_neg hquote, if_neg Bool.false_ne_true, if_neg hopen, if_neg hclose]
      simp [hopen, hclose]

theorem closeOffset?_open (depth : Int) (before : Option Char) (s : List Char) :
    closeOffset? depth false before ('(' :: s) =
      (closeOffset? (depth + 1) false (some '(') s).map (· + 1) := by
  rw [closeOffset?, if_neg (by simp), if_neg Bool.false_ne_true, if_pos rfl]

/-- Where a parenthesis closes no string is open, and the text behind it does not matter. -/
theorem exists_of_closeOffset? (h : closeOffset? depth inString before s = some n) :
    ∃ p r, s = p ++ ')' :: r ∧ p.length = n ∧ inStringAfter inString before p = false ∧
      ∀ t, closeOffset? depth inString before (p ++ ')' :: t) = some n := by
  induction s generalizing depth inString before n with
  | nil => cases h
  | cons c s ih =>
    rcases closeOffset?_step depth inString before c with ⟨rfl, rfl, -, hstop⟩ | ⟨-, hstep⟩
    · rw [hstop] at h
      cases h
      exact ⟨[], s, rfl, rfl, rfl, hstop⟩
    · rw [hstep] at h
      obtain ⟨m, hm, rfl⟩ := Option.map_eq_some_iff.1 h
      obtain ⟨p, r, rfl, rfl, hopen, hclose⟩ := ih hm
      refine ⟨c :: p, r, rfl, rfl, hopen, fun t => ?_⟩
      rw [List.cons_append, hstep, hclose]
      rfl

/-- Where the scan does not stop a parenthesis stays open. -/
theorem one_le_add_depthAfter (hdepth : 1 ≤ depth)
    (h : c = ')' → inString = false → depth ≠ 1) :
    1 ≤ depth + depthAfter '(' ')' inString before [c] := by
  simp only [depthAfter, Int.add_zero]
  split
  · omega
  · next hstring =>
    split
    · omega
    · split
      · next hclose =>
        have hne := h hclose (by simpa using hstring)
        omega
      · omega

/-- Behind a part in which the scan has not stopped it goes on with what the part has left open. -/
theorem closeOffset?_of_append (hdepth : 1 ≤ depth)
    (h : closeOffset? depth inString before (p ++ t) = some n) (hp : p.length ≤ n) :
    1 ≤ depth + depthAfter '(' ')' inString before p ∧
      closeOffset? (depth + depthAfter '(' ')' inString before p) (inStringAfter inString before p)
        (lastChar before p) t = some (n - p.length) := by
  induction p generalizing depth inString before n with
  | nil => simpa [depthAfter] using ⟨hdepth, h⟩
  | cons c p ih =>
    rw [List.cons_append] at h
    rcases closeOffset?_step depth inString before c with ⟨-, -, -, hstop⟩ | ⟨hgo, hstep⟩
    · rw [hstop] at h
      cases h
      exact absurd hp (Nat.not_succ_le_zero _)
    · rw [hstep] at h
      obtain ⟨m, hm, rfl⟩ := Option.map_eq_some_iff.1 h
      obtain ⟨hopen, hclose⟩ :=
        ih (one_le_add_depthAfter hdepth hgo) hm (Nat.le_of_succ_le_succ hp)
      have hsplit := depthAfter_append '(' ')' inString before [c] p
      rw [List.singleton_append, lastChar_cons, lastChar_nil] at hsplit
      rw [hsplit, ← Int.add_assoc, lastChar_cons, List.length_cons, Nat.add_sub_add_right]
      exact ⟨hopen, hclose⟩

/-- With fewer parentheses open the scan stops as well. -/
theorem isSome_closeOffset?_of_add (k : Nat) (hdepth : 1 ≤ depth)
    (h : (closeOffset? (depth + k) inString before s).isSome = true) :
    (closeOffset? depth inString before s).isSome = true := by
  induction s generalizing depth inString before with
  | nil => cases h
  | cons c s ih =>
    rcases closeOffset?_step depth inString before c with ⟨-, -, -, hstop⟩ | ⟨hgo, hstep⟩
    · rw [hstop]
      rfl
    rcases closeOffset?_step (depth + k) inString before c with
      ⟨hclose, hstring, hone, -⟩ | ⟨-, hstep'⟩
    · exact absurd (by omega) (hgo hclose hstring)
    · rw [hstep', Option.isSome_map, Int.add_right_comm] at h
      rw [hstep, Option.isSome_map]
      exact ih (one_le_add_depthAfter hdepth hgo) h

/-- A parenthesis outside strings closes before the one around it. -/
theorem isSome_closeOffset?_of_append (hdepth : 1 ≤ depth)
    (h : closeOffset? depth false before (p ++ '(' :: t) = some n) (hp : p.length ≤ n)
    (hstring : inStringAfter false before p = false) :
    (closeOffset? 0 false none ('(' :: t)).isSome = true := by
  obtain ⟨hopen, hclose⟩ := closeOffset?_of_append hdepth h hp
  obtain ⟨k, hk⟩ := Int.eq_ofNat_of_zero_le (Int.le_trans Int.one_nonneg hopen)
  rw [hstring, closeOffset?_open, hk, Int.add_comm] at hclose
  have hsome := congrArg Option.isSome hclose
  rw [Option.isSome_map] at hsome
  rw [closeOffset?_open, Option.isSome_map]
  exact isSome_closeOffset?_of_add k (Int.le_refl 1) hsome

end FeatureGen.Schema

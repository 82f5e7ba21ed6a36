import FeatureGen.Proofs.Text.Search
import FeatureGen.Proofs.Text.Span
import FeatureGen.Schema.Line

/-!
# Arguments of an attribute

`ArgumentText` is the grammar of what may stand between the parentheses of an attribute: strings in
double quotes are closed, parentheses outside strings are balanced, and two slashes stand side by
side only in a string.

Two scanners read such a text from left to right, the one for the parenthesis that closes
(`closeOffset?`) and the one for a comment (`beforeComment?`).  Each passes over it and goes on with
what follows as if it had just begun: it comes out of every string and out of every parenthesis it
went into.  No backslash may stand in the text, since a quote after one is passed over.

What the first scanner does on a text is said by `PassedOver`, whatever grammar the text is of: its
lemmas put a text together from characters, strings and parentheses that are passed over, so that a
grammar needs one step for each of its constructors.
-/

namespace FeatureGen.Schema

open FeatureGen.Text

variable {c : Char} {s t q p rest : List Char} {before : Option Char} {depth : Int}

/-- Text with closed strings and balanced parentheses, without `//` outside strings. -/
inductive ArgumentText : List Char → Prop
  | nil : ArgumentText []
  /-- A character that is no quote and no parenthesis. -/
  | plain {c : Char} {s : List Char} (hc : c ≠ '"' ∧ c ≠ '(' ∧ c ≠ ')')
    (hslash : c = '/' → s.head? ≠ some '/') (hs : ArgumentText s) : ArgumentText (c :: s)
  /-- A string. -/
  | quoted {q s : List Char} (hq : '"' ∉ q) (hs : ArgumentText s) :
    ArgumentText ('"' :: (q ++ '"' :: s))
  /-- A text in parentheses. -/
  | parens {p s : List Char} (hp : ArgumentText p) (hs : ArgumentText s) :
    ArgumentText ('(' :: (p ++ ')' :: s))

/-- Characters that mean nothing to a scanner may stand before arguments. -/
theorem ArgumentText.append_left (hp : Without (['"', '(', ')', '/'].contains ·) p)
    (hs : ArgumentText s) : ArgumentText (p ++ s) := by
  induction p with
  | nil => exact hs
  | cons c p ih =>
    have hc := hp c List.mem_cons_self
    simp only [List.contains_eq_mem, List.mem_cons, List.not_mem_nil, or_false,
      decide_eq_false_iff_not, not_or] at hc
    exact .plain ⟨hc.1, hc.2.1, hc.2.2.1⟩ (fun he => absurd he hc.2.2.2)
      (ih fun d hd => hp d (List.mem_cons_of_mem _ hd))

/-! ## The parenthesis that closes -/

theorem map_add_map_add (o : Option Nat) (m n : Nat) :
    (o.map (· + m)).map (· + n) = o.map (· + (m + n)) := by
  cases o <;> simp [Nat.add_assoc]

/-- The character before matters only if it is a backslash. -/
theorem closeOffset?_before (h : before ≠ some '\\') (depth : Int) (inString : Bool)
    (s : List Char) :
    closeOffset? depth inString before s = closeOffset? depth inString none s := by
  cases s with
  | nil => rfl
  | cons c s =>
    have hb : (before != some '\\') = true := by simpa using h
    simp [closeOffset?, hb]

/-- The scan passes over the rest of a string. -/
theorem closeOffset?_string (hq : '"' ∉ q) (hback : '\\' ∉ q) (rest : List Char) :
    closeOffset? depth true none (q ++ '"' :: rest) =
      (closeOffset? depth false none rest).map (· + (q.length + 1)) := by
  induction q with
  | nil =>
    rw [List.nil_append, closeOffset?, if_pos (by decide), closeOffset?_before (by decide)]
    rfl
  | cons c q ih =>
    have ⟨hc, hq⟩ := not_or.1 (mt List.mem_cons.2 hq)
    have ⟨hb, hback⟩ := not_or.1 (mt List.mem_cons.2 hback)
    rw [List.cons_append, closeOffset?, if_neg (by simp [Ne.symm hc]), if_pos rfl,
      closeOffset?_before (by simp [Ne.symm hb]), ih hq hback, map_add_map_add]
    rfl

/-- The scan for the parenthesis that closes passes over a text, whatever follows. -/
def PassedOver (depth : Int) (before : Option Char) (s : List Char) : Prop :=
  ∀ rest, closeOffset? depth false before (s ++ rest) =
    (closeOffset? depth false (lastChar before s) rest).map (· + s.length)

namespace PassedOver

theorem nil : PassedOver depth before [] := fun rest => by simp

theorem append (hs : PassedOver depth before s) (ht : PassedOver depth (lastChar before s) t) :
    PassedOver depth before (s ++ t) := by
  intro rest
  rw [List.append_assoc, hs, ht, map_add_map_add, lastChar_append, List.length_append,
    Nat.add_comm]

theorem singleton (hc : c ≠ '"' ∧ c ≠ '(' ∧ c ≠ ')') : PassedOver depth before [c] := by
  intro rest
  rw [List.singleton_append, closeOffset?, if_neg (by simp [hc.1]), if_neg (by simp),
    if_neg hc.2.1, if_neg hc.2.2]
  rfl

theorem string (hbefore : before ≠ some '\\') (hq : '"' ∉ q) (hback : '\\' ∉ q) :
    PassedOver depth before ('"' :: (q ++ ['"'])) := by
  intro rest
  have htext : '"' :: (q ++ ['"']) ++ rest = '"' :: (q ++ '"' :: rest) := by simp
  have hlast : lastChar before ('"' :: (q ++ ['"'])) = some '"' := by
    rw [lastChar_cons, lastChar_append]
    rfl
  have hquote : some '"' ≠ some '\\' := by decide
  rw [htext, hlast, closeOffset?, if_pos (by simpa using hbefore), Bool.not_false,
    closeOffset?_before hquote, closeOffset?_string hq hback, map_add_map_add,
    closeOffset?_before hquote]
  simp

theorem parens (hdepth : depth ≠ 0) (hp : PassedOver (depth + 1) (some '(') p) :
    PassedOver depth before ('(' :: (p ++ [')'])) := by
  intro rest
  have htext : '(' :: (p ++ [')']) ++ rest = '(' :: (p ++ ')' :: rest) := by simp
  have hlast : lastChar before ('(' :: (p ++ [')'])) = some ')' := by
    rw [lastChar_cons, lastChar_append]
    rfl
  rw [htext, hlast, closeOffset?, if_neg (by simp), if_neg (by simp), if_pos rfl, hp,
    closeOffset?, if_neg (by simp), if_neg (by simp), if_neg (by decide), if_pos rfl,
    if_neg (by omega), Int.add_sub_cancel, map_add_map_add, map_add_map_add]
  congr 2
  funext n
  simp
  omega

/-- The parenthesis before a text that is passed over is closed by the one after it. -/
theorem closeOffset?_parens (h : PassedOver 1 (some '(') s) (rest : List Char) :
    closeOffset? 0 false none ('(' :: (s ++ ')' :: rest)) = some (s.length + 1) := by
  rw [closeOffset?, if_neg (by decide), if_neg (by simp), if_pos rfl]
  show (closeOffset? 1 false (some '(') (s ++ ')' :: rest)).map (· + 1) = _
  rw [h, closeOffset?, if_neg (by simp), if_neg (by simp), if_neg (by decide), if_pos rfl,
    if_pos rfl]
  simp

end PassedOver

/-- The scan passes over arguments. -/
theorem ArgumentText.passedOver (h : ArgumentText s) (hback : '\\' ∉ s)
    (hbefore : before ≠ some '\\') (hdepth : 1 ≤ depth) : PassedOver depth before s := by
  induction h generalizing depth before with
  | nil => exact .nil
  | @plain c s hc _ _ ih =>
    have ⟨hb, hback⟩ := not_or.1 (mt List.mem_cons.2 hback)
    have hrest : PassedOver depth (some c) s := ih hback (by simp [Ne.symm hb]) hdepth
    exact (PassedOver.singleton hc).append hrest
  | @quoted q s hq _ ih =>
    simp only [List.mem_cons, List.mem_append, not_or] at hback
    have htext : '"' :: (q ++ '"' :: s) = '"' :: (q ++ ['"']) ++ s := by simp
    rw [htext]
    refine (PassedOver.string hbefore hq hback.2.1).append (ih hback.2.2.2 ?_ hdepth)
    simp [lastChar_append]
  | @parens p s _ _ ihp ihs =>
    simp only [List.mem_cons, List.mem_append, not_or] at hback
    have htext : '(' :: (p ++ ')' :: s) = '(' :: (p ++ [')']) ++ s := by simp
    have hparens : PassedOver (depth + 1) (some '(') p :=
      ihp hback.2.1 (by decide) (by omega)
    rw [htext]
    refine (hparens.parens (by omega)).append (ihs hback.2.2.2 ?_ hdepth)
    simp [lastChar_append]

/-- The parenthesis before arguments is closed by the one after them. -/
theorem ArgumentText.closeOffset?_parens (h : ArgumentText s) (hback : '\\' ∉ s)
    (rest : List Char) :
    closeOffset? 0 false none ('(' :: (s ++ ')' :: rest)) = some (s.length + 1) :=
  (h.passedOver hback (by decide) (by decide)).closeOffset?_parens rest

/-! ## Comments -/

theorem beforeComment?_before (h : before ≠ some '\\') (inString : Bool) (s : List Char) :
    beforeComment? inString before s = beforeComment? inString none s := by
  cases s with
  | nil => rfl
  | cons c s =>
    have hb : (before != some '\\') = true := by simpa using h
    simp [beforeComment?, hb]

/-- The scan for a comment passes over the first text, whatever follows. -/
def Uncommented (s : List Char) : Prop :=
  ∀ rest, beforeComment? false none (s ++ rest) = (beforeComment? false none rest).map (s ++ ·)

theorem Uncommented.append {t : List Char} (hs : Uncommented s) (ht : Uncommented t) :
    Uncommented (s ++ t) := by
  intro rest
  rw [List.append_assoc, hs, ht, Option.map_map]
  congr 1
  funext u
  simp

/-- Characters that neither start a comment nor a string, and do not hide a quote. -/
def isPlain (c : Char) : Bool := c != '"' && c != '/' && c != '\\'

theorem uncommented_nil : Uncommented [] := fun rest => by simp

/-- Characters that mean nothing to the scan are passed over. -/
theorem uncommented_of_isPlain (h : Every isPlain s) : Uncommented s := by
  intro rest
  induction s with
  | nil => simp
  | cons c s ih =>
    have hc := h c List.mem_cons_self
    simp only [isPlain, Bool.and_eq_true, bne_iff_ne] at hc
    rw [List.cons_append, beforeComment?, if_neg (by simp [hc.1.2])]
    simp only [hc.1.1, decide_false, Bool.false_and, Bool.false_eq_true, if_false]
    rw [beforeComment?_before (by simp [hc.2]),
      ih fun d hd => h d (List.mem_cons_of_mem _ hd), Option.map_map]
    rfl

/-- A text is passed over if its characters pass a test that no special character passes. -/
theorem uncommented_of_every {test : Char → Bool} (hs : Every test s)
    (htest : Without test ['"', '/', '\\']) : Uncommented s := by
  apply uncommented_of_isPlain
  intro c hc
  cases hp : isPlain c with
  | true => rfl
  | false =>
    have hmem : c ∈ ['"', '/', '\\'] := by
      simp only [isPlain, Bool.and_eq_false_iff, bne_eq_false_iff_eq] at hp
      simpa [or_assoc] using hp
    have hfalse := htest c hmem
    rw [hs c hc] at hfalse
    cases hfalse

theorem uncommented_of_isWord (hs : Every isWord s) : Uncommented s :=
  uncommented_of_every hs (by decide)

theorem uncommented_of_isBlank (hs : Every isBlank s) : Uncommented s :=
  uncommented_of_every hs (by decide)

theorem beforeComment?_string (hq : '"' ∉ q) (hback : '\\' ∉ q) (rest : List Char) :
    beforeComment? true none (q ++ '"' :: rest) =
      (beforeComment? false none rest).map fun t => q ++ '"' :: t := by
  induction q with
  | nil =>
    rw [List.nil_append, beforeComment?, if_neg (by simp)]
    simp only [decide_true, Bool.true_and]
    rw [if_pos (by decide), beforeComment?_before (by decide)]
    rfl
  | cons c q ih =>
    have ⟨hc, hq⟩ := not_or.1 (mt List.mem_cons.2 hq)
    have ⟨hb, hback⟩ := not_or.1 (mt List.mem_cons.2 hback)
    rw [List.cons_append, beforeComment?, if_neg (by simp)]
    simp only [Ne.symm hc, decide_false, Bool.false_and, Bool.false_eq_true, if_false]
    rw [beforeComment?_before (by simp [Ne.symm hb]), ih hq hback, Option.map_map]
    rfl

/-- The scan passes over a text in parentheses if it passes over the text where no slash follows. -/
theorem uncommented_parens
    (hp : ∀ rest, rest.head? ≠ some '/' → beforeComment? false none (p ++ rest) =
      (beforeComment? false none rest).map (p ++ ·)) : Uncommented ('(' :: (p ++ [')'])) := by
  intro rest
  have hopen : Uncommented ['('] := uncommented_of_isPlain (by decide)
  have hclose : Uncommented [')'] := uncommented_of_isPlain (by decide)
  have htext : '(' :: (p ++ [')']) ++ rest = ['('] ++ (p ++ ([')'] ++ rest)) := by simp
  rw [htext, hopen, hp _ (by simp), hclose, Option.map_map, Option.map_map]
  congr 1
  funext t
  simp

/-- The scan passes over arguments that no slash follows. -/
theorem ArgumentText.beforeComment? (h : ArgumentText s) (hback : '\\' ∉ s)
    (hrest : rest.head? ≠ some '/') :
    Schema.beforeComment? false none (s ++ rest) =
      (Schema.beforeComment? false none rest).map (s ++ ·) := by
  induction h generalizing rest with
  | nil => simp
  | @plain c s hc hslash _ ih =>
    have ⟨hb, hback⟩ := not_or.1 (mt List.mem_cons.2 hback)
    have hnext :
        ¬ (decide (c = '/') && decide ((s ++ rest).head? = some '/') && !false) = true := by
      cases s with
      | nil => simp [hrest]
      | cons d s => simpa using hslash
    rw [List.cons_append, Schema.beforeComment?, if_neg hnext]
    simp only [hc.1, decide_false, Bool.false_and, Bool.false_eq_true, if_false]
    rw [beforeComment?_before (by simp [Ne.symm hb]), ih hback hrest, Option.map_map]
    rfl
  | @quoted q s hq _ ih =>
    simp only [List.mem_cons, List.mem_append, not_or] at hback
    rw [List.cons_append, List.append_assoc, List.cons_append, Schema.beforeComment?,
      if_neg (by simp)]
    simp only [decide_true, Bool.true_and]
    rw [if_pos (by decide), beforeComment?_before (by decide), Bool.not_false,
      beforeComment?_string hq hback.2.1, ih hback.2.2.2 hrest, Option.map_map, Option.map_map]
    congr 1
    funext t
    simp
  | @parens p s _ _ ihp ihs =>
    simp only [List.mem_cons, List.mem_append, not_or] at hback
    have hparens := uncommented_parens (p := p) fun _ hhead => ihp hback.2.1 hhead
    have htext : '(' :: (p ++ ')' :: s) ++ rest = '(' :: (p ++ [')']) ++ (s ++ rest) := by simp
    rw [htext, hparens, ihs hback.2.2.2 hrest, Option.map_map]
    congr 1
    funext t
    simp

/-- The scan passes over arguments in their parentheses. -/
theorem ArgumentText.uncommented_parens (h : ArgumentText s) (hback : '\\' ∉ s) :
    Uncommented ('(' :: (s ++ [')'])) :=
  Schema.uncommented_parens fun _ hhead => h.beforeComment? hback hhead

/-- A line without a comment is left alone. -/
theorem stripComment_of_uncommented (h : Uncommented s) : stripComment s = s := by
  have hnone := h []
  rw [List.append_nil] at hnone
  rw [stripComment, hnone]
  rfl

/-- A comment is cut off with the blanks before it. -/
theorem stripComment_append (h : Uncommented s) (comment : List Char) :
    stripComment (s ++ '/' :: '/' :: comment) = trimEnd s := by
  have hstart : Schema.beforeComment? false none ('/' :: '/' :: comment) = some [] := rfl
  rw [stripComment, h, hstart]
  simp

end FeatureGen.Schema

import FeatureGen.Feature.Naming
import FeatureGen.Proofs.Text.Span

/-!
# Names in every style

A name is a list of words, and each of them is a capital with small letters or digits behind it
(`NameWord`).  There are seven ways to write it (`Spelling`).  `case_of_spelling` says that the
styles `pascalCase`, `camelCase` and `kebabCase` do not depend on the way, and that each of them
leaves what it gives as it is.

The style `snakeCase` depends on it (`snakeCase_of_spelling`).  It marks a capital that a small
letter follows whatever stands before it, be it a separator, and the separator becomes a mark as
well.  So words that begin with capitals and have separators between them come out with two
underscores.  Where the words are joined, the first marks go to every other one only, since what is
marked takes the whole word (`everyOther`); the others are marked as the capitals that follow a
small letter.
-/

namespace FeatureGen.Feature

open FeatureGen.Text

variable {c sep mark : Char} {s t p gap : List Char} {ps : List (List Char)} {test : Char → Bool}

/-! ## Letters of ASCII -/

theorem toNat_lt_of_le (h : c ≤ 'z') : c.toNat < 0x80 := by
  have hle : c.toNat ≤ 'z'.toNat := h
  exact Nat.lt_of_le_of_lt hle (by decide)

theorem toNat_lt_of_isCapital (h : isCapital c = true) : c.toNat < 0x80 := by
  rw [isCapital, Bool.and_eq_true, decide_eq_true_eq, decide_eq_true_eq] at h
  exact toNat_lt_of_le (Char.le_trans h.2 (by decide))

theorem toNat_lt_of_isSmallOrDigit (h : isSmallOrDigit c = true) : c.toNat < 0x80 := by
  simp only [isSmallOrDigit, isSmall, Bool.or_eq_true, Bool.and_eq_true, decide_eq_true_eq] at h
  rcases h with ⟨-, h⟩ | ⟨-, h⟩
  · exact toNat_lt_of_le h
  · exact toNat_lt_of_le (Char.le_trans h (by decide))

/-- What a capital is not, and how it changes its case. -/
theorem facts_of_isCapital (h : isCapital c = true) :
    isSmallOrDigit c = false ∧ isSeparator c = false ∧ c.toUpper = c ∧ isSmall c.toLower = true ∧
      c.toLower.toUpper = c := by
  have hall : ∀ k < 0x80, isCapital (Char.ofNat k) = true →
      isSmallOrDigit (Char.ofNat k) = false ∧ isSeparator (Char.ofNat k) = false ∧
        (Char.ofNat k).toUpper = Char.ofNat k ∧ isSmall (Char.ofNat k).toLower = true ∧
          (Char.ofNat k).toLower.toUpper = Char.ofNat k := by decide
  have hfacts := hall c.toNat (toNat_lt_of_isCapital h)
  rw [Char.ofNat_toNat] at hfacts
  exact hfacts h

/-- A small letter or a digit is no capital and separates nothing. -/
theorem facts_of_isSmallOrDigit (h : isSmallOrDigit c = true) :
    isCapital c = false ∧ isSeparator c = false ∧ c.toLower = c := by
  have hall : ∀ k < 0x80, isSmallOrDigit (Char.ofNat k) = true →
      isCapital (Char.ofNat k) = false ∧ isSeparator (Char.ofNat k) = false ∧
        (Char.ofNat k).toLower = Char.ofNat k := by decide
  have hfacts := hall c.toNat (toNat_lt_of_isSmallOrDigit h)
  rw [Char.ofNat_toNat] at hfacts
  exact hfacts h

theorem isSmallOrDigit_of_isSmall (h : isSmall c = true) : isSmallOrDigit c = true := by
  rw [isSmallOrDigit, h, Bool.true_or]

/-- Characters of ASCII. -/
def isAscii (c : Char) : Bool := decide (c.toNat < 0x80)

theorem lowerChar_of_isAscii (h : isAscii c = true) : lowerChar c = [c.toLower] :=
  if_pos (of_decide_eq_true h)

theorem upperChar_of_isAscii (h : isAscii c = true) : upperChar c = [c.toUpper] :=
  if_pos (of_decide_eq_true h)

theorem ne_sigma_of_isAscii (h : isAscii c = true) : c ≠ 'Σ' := by
  rintro rfl
  cases h

/-- In ASCII each character has a lowercase of its own. -/
theorem lower_of_every (h : Every isAscii s) : lower s = s.map Char.toLower := by
  have hfrom (afterCased : Bool) : lowerFrom afterCased s = s.map Char.toLower := by
    induction s generalizing afterCased with
    | nil => rfl
    | cons c s ih =>
      have hc := h c List.mem_cons_self
      rw [lowerFrom, if_neg (ne_sigma_of_isAscii hc), lowerChar_of_isAscii hc,
        ih fun d hd => h d (List.mem_cons_of_mem c hd)]
      rfl
  exact hfrom false

/-! ## Names -/

/-- A word of a name: a capital, and small letters or digits behind it. -/
structure NameWord where
  /-- The capital. -/
  initial : Char
  /-- What is behind it. -/
  rest : List Char
  isCapital : isCapital initial = true := by decide
  ne_nil : rest ≠ [] := by decide
  every : Every isSmallOrDigit rest := by decide

namespace NameWord

/-- The word as a capitalised one. -/
def chars (w : NameWord) : List Char := w.initial :: w.rest

/-- The word in lowercase. -/
def small (w : NameWord) : List Char := w.chars.map Char.toLower

end NameWord

/-- What stands between words. -/
inductive Separator
  | hyphen
  | underscore
  | space
  deriving DecidableEq, Repr

/-- The character of a separator. -/
def Separator.char : Separator → Char
  | .hyphen => '-'
  | .underscore => '_'
  | .space => ' '

/-- The ways to write a name. -/
inductive Spelling
  /-- `SomeThing`. -/
  | joined
  /-- `Some-Thing`. -/
  | separated (sep : Separator)
  /-- `some-thing`. -/
  | small (sep : Separator)
  deriving DecidableEq, Repr

/-- The text of a name. -/
def Spelling.write : Spelling → List NameWord → List Char
  | .joined, words => words.flatMap NameWord.chars
  | .separated sep, words => [sep.char].intercalate (words.map NameWord.chars)
  | .small sep, words => [sep.char].intercalate (words.map NameWord.small)

namespace NameWord

variable (w : NameWord)

theorem small_eq : w.small = w.initial.toLower :: w.rest := by
  have hrest : w.rest.map Char.toLower = w.rest := by
    refine (List.map_congr_left fun c hc => ?_).trans (List.map_id w.rest)
    exact (facts_of_isSmallOrDigit (w.every c hc)).2.2
  rw [small, chars, List.map_cons, hrest]

theorem every_small : Every isSmallOrDigit w.small := by
  rw [small_eq]
  refine List.forall_mem_cons.2 ⟨?_, w.every⟩
  exact isSmallOrDigit_of_isSmall (facts_of_isCapital w.isCapital).2.2.2.1

end NameWord

/-- A way to write single words, capitalised or in lowercase. -/
structure IsForm (form : NameWord → List Char) : Prop where
  ne_nil : ∀ w, form w ≠ []
  without : ∀ w, Without isSeparator (form w)
  ascii : ∀ w, Every isAscii (form w)
  small : ∀ w, (form w).map Char.toLower = w.small
  capitalised : ∀ w s, upperFirst (form w ++ s) = w.chars ++ s

theorem isForm_chars : IsForm NameWord.chars where
  ne_nil w := List.cons_ne_nil _ _
  without w := List.forall_mem_cons.2 ⟨(facts_of_isCapital w.isCapital).2.1,
    fun c hc => (facts_of_isSmallOrDigit (w.every c hc)).2.1⟩
  ascii w := List.forall_mem_cons.2 ⟨decide_eq_true (toNat_lt_of_isCapital w.isCapital),
    fun c hc => decide_eq_true (toNat_lt_of_isSmallOrDigit (w.every c hc))⟩
  small w := rfl
  capitalised w s := by
    have hascii : isAscii w.initial = true := decide_eq_true (toNat_lt_of_isCapital w.isCapital)
    rw [NameWord.chars, List.cons_append, upperFirst, upperChar_of_isAscii hascii,
      (facts_of_isCapital w.isCapital).2.2.1]
    rfl

theorem isForm_small : IsForm NameWord.small where
  ne_nil w := by simp [NameWord.small_eq]
  without w c hc := (facts_of_isSmallOrDigit (w.every_small c hc)).2.1
  ascii w c hc := decide_eq_true (toNat_lt_of_isSmallOrDigit (w.every_small c hc))
  small w := by
    refine (List.map_congr_left fun c hc => ?_).trans (List.map_id w.small)
    exact (facts_of_isSmallOrDigit (w.every_small c hc)).2.2
  capitalised w s := by
    obtain ⟨-, -, -, hlower, hupper⟩ := facts_of_isCapital w.isCapital
    have hascii : isAscii w.initial.toLower = true :=
      decide_eq_true (toNat_lt_of_isSmallOrDigit (isSmallOrDigit_of_isSmall hlower))
    rw [NameWord.small_eq, List.cons_append, upperFirst, upperChar_of_isAscii hascii, hupper]
    rfl

/-! ## Texts with a gap between their pieces -/

theorem intercalate_cons (gap p : List Char) (ps : List (List Char)) :
    gap.intercalate (p :: ps) = p ++ ps.flatMap (gap ++ ·) := by
  induction ps generalizing p with
  | nil => simp
  | cons q ps ih =>
    rw [List.intercalate_cons_cons, ih, List.flatMap_cons, List.append_assoc, List.append_assoc]

theorem map_intercalate (f : Char → Char) (gap : List Char) (ps : List (List Char)) :
    (gap.intercalate ps).map f = (gap.map f).intercalate (ps.map (List.map f)) := by
  cases ps with
  | nil => rfl
  | cons p ps =>
    rw [List.map_cons, intercalate_cons, intercalate_cons, List.map_append, List.map_flatMap,
      List.flatMap_map]
    simp

theorem mem_intercalate (h : c ∈ gap.intercalate ps) : c ∈ gap ∨ ∃ p ∈ ps, c ∈ p := by
  cases ps with
  | nil => cases h
  | cons p ps =>
    rw [intercalate_cons, List.mem_append, List.mem_flatMap] at h
    rcases h with h | ⟨q, hq, h⟩
    · exact Or.inr ⟨p, List.mem_cons_self, h⟩
    · rcases List.mem_append.1 h with h | h
      · exact Or.inl h
      · exact Or.inr ⟨q, List.mem_cons_of_mem p hq, h⟩

/-! ## Words between separators -/

theorem wordsFrom_append (hp : Without test p) (start s : List Char) :
    wordsFrom test start (p ++ s) = wordsFrom test (p.reverse ++ start) s := by
  induction p generalizing start with
  | nil => rfl
  | cons c p ih =>
    have hc := hp c List.mem_cons_self
    rw [List.cons_append, wordsFrom, if_neg (by simp [hc]),
      ih fun d hd => hp d (List.mem_cons_of_mem c hd)]
    simp

/-- A piece ends at a separator, and the next one begins. -/
theorem wordsFrom_flatMap (hsep : test sep = true) (h : ∀ p ∈ ps, p ≠ [] ∧ Without test p)
    {start : List Char} (hstart : start ≠ []) :
    wordsFrom test start (ps.flatMap ([sep] ++ ·)) = start.reverse :: ps := by
  induction ps generalizing start with
  | nil => simp [wordsFrom, hstart]
  | cons p ps ih =>
    obtain ⟨hne, hp⟩ := h p List.mem_cons_self
    have hreverse : p.reverse ≠ [] := by simpa using hne
    rw [List.flatMap_cons, List.append_assoc, List.singleton_append, wordsFrom, if_pos hsep,
      if_neg (by simpa using hstart), wordsFrom_append hp, List.append_nil,
      ih (fun q hq => h q (List.mem_cons_of_mem p hq)) hreverse, List.reverse_reverse]

/-- Pieces with a separator between them are read as they are. -/
theorem wordsFrom_intercalate (hsep : test sep = true) (h : ∀ p ∈ ps, p ≠ [] ∧ Without test p) :
    wordsFrom test [] ([sep].intercalate ps) = ps := by
  cases ps with
  | nil => rfl
  | cons p ps =>
    obtain ⟨hne, hp⟩ := h p List.mem_cons_self
    have hreverse : p.reverse ≠ [] := by simpa using hne
    rw [intercalate_cons, wordsFrom_append hp, List.append_nil,
      wordsFrom_flatMap hsep (fun q hq => h q (List.mem_cons_of_mem p hq)) hreverse,
      List.reverse_reverse]

theorem pascalChars_of_without (h : Without isSeparator s) : pascalChars s = upperFirst s := by
  have hwords : wordsFrom isSeparator [] (s ++ []) = wordsFrom isSeparator (s.reverse ++ []) [] :=
    wordsFrom_append h [] []
  rw [List.append_nil, List.append_nil] at hwords
  rw [pascalChars, hwords]
  cases s with
  | nil => rfl
  | cons c s => simp [wordsFrom]

/-! ## Runs of separators -/

theorem squeeze_append (hp : Without test p) (hne : p ≠ []) (inRun : Bool) (s : List Char) :
    squeeze test mark inRun (p ++ s) = p ++ squeeze test mark false s := by
  induction p generalizing inRun with
  | nil => exact absurd rfl hne
  | cons c p ih =>
    have hc := hp c List.mem_cons_self
    rw [List.cons_append, squeeze, if_neg (by simp [hc])]
    cases p with
    | nil => rfl
    | cons d p =>
      rw [ih (fun e he => hp e (List.mem_cons_of_mem c he)) (List.cons_ne_nil d p)]
      rfl

theorem squeeze_of_without (h : Without test s) : squeeze test mark false s = s := by
  cases s with
  | nil => rfl
  | cons c s => simpa [squeeze] using squeeze_append h (List.cons_ne_nil c s) false []

/-- The separator of a gap becomes a mark. -/
theorem squeeze_flatMap (hsep : test sep = true) (hgap : Without test gap)
    (h : ∀ p ∈ ps, p ≠ [] ∧ Without test p) :
    squeeze test mark false (ps.flatMap (sep :: gap ++ ·)) = ps.flatMap (mark :: gap ++ ·) := by
  induction ps with
  | nil => rfl
  | cons p ps ih =>
    obtain ⟨hne, hp⟩ := h p List.mem_cons_self
    have hpiece : Without test (gap ++ p) := fun c hc =>
      (List.mem_append.1 hc).elim (hgap c) (hp c)
    have hrest := ih fun q hq => h q (List.mem_cons_of_mem p hq)
    rw [List.flatMap_cons, List.cons_append, List.cons_append, squeeze, if_pos hsep,
      if_neg Bool.false_ne_true, squeeze_append hpiece (by simp [hne]), hrest]
    simp

/-- Separators become marks, if they are not marks already. -/
theorem squeeze_intercalate (hsep : test sep = true ∨ sep = mark ∧ test mark = false)
    (hgap : Without test gap) (h : ∀ p ∈ ps, p ≠ [] ∧ Without test p) :
    squeeze test mark false ((sep :: gap).intercalate ps) = (mark :: gap).intercalate ps := by
  rcases hsep with hsep | ⟨rfl, hsep⟩
  · cases ps with
    | nil => rfl
    | cons p ps =>
      obtain ⟨hne, hp⟩ := h p List.mem_cons_self
      rw [intercalate_cons, intercalate_cons, squeeze_append hp hne,
        squeeze_flatMap hsep hgap fun q hq => h q (List.mem_cons_of_mem p hq)]
  · refine squeeze_of_without fun c hc => ?_
    rcases mem_intercalate hc with hc | ⟨p, hp, hc⟩
    · exact (List.mem_cons.1 hc).elim (fun heq => heq ▸ hsep) (hgap c)
    · exact (h p hp).2 c hc

/-! ## Capitals behind small letters -/

theorem head?_any_eq_false (h : NotStarting isCapital s) : s.head?.any isCapital = false := by
  cases s with
  | nil => rfl
  | cons c s => exact notStarting_cons.1 h

theorem markCapitals_cons (h : isSmallOrDigit c = false ∨ NotStarting isCapital s) :
    markCapitals mark (c :: s) = c :: markCapitals mark s := by
  rw [markCapitals, if_neg]
  rcases h with h | h
  · simp [h]
  · simp [head?_any_eq_false h]

theorem markCapitals_of_without (h : Without isCapital s) : markCapitals mark s = s := by
  induction s with
  | nil => rfl
  | cons c s ih =>
    have hs : Without isCapital s := fun d hd => h d (List.mem_cons_of_mem c hd)
    rw [markCapitals_cons (.inr fun d hd => hs d (List.mem_of_mem_head? hd)), ih hs]

/-- At the end of small letters and digits a mark is put before a capital. -/
theorem markCapitals_append (hp : Every isSmallOrDigit p) (hne : p ≠ []) (s : List Char) :
    markCapitals mark (p ++ s) =
      p ++ ((if s.head?.any isCapital then [mark] else []) ++ markCapitals mark s) := by
  induction p with
  | nil => exact absurd rfl hne
  | cons c p ih =>
    have hc := hp c List.mem_cons_self
    cases p with
    | nil =>
      rw [List.singleton_append, markCapitals, hc, Bool.true_and]
      split <;> rfl
    | cons d p =>
      have hd : NotStarting isCapital (d :: p ++ s) :=
        notStarting_cons.2 (facts_of_isSmallOrDigit (hp d (by simp))).1
      have hrest := ih (fun e he => hp e (List.mem_cons_of_mem c he)) (List.cons_ne_nil d p)
      rw [List.cons_append, markCapitals_cons (.inr hd), hrest]
      rfl

/-- The same at the end of a word. -/
theorem markCapitals_chars (w : NameWord) (s : List Char) :
    markCapitals mark (w.chars ++ s) =
      w.chars ++ ((if s.head?.any isCapital then [mark] else []) ++ markCapitals mark s) := by
  rw [NameWord.chars, List.cons_append,
    markCapitals_cons (.inl (facts_of_isCapital w.isCapital).1),
    markCapitals_append w.every w.ne_nil]
  rfl

theorem markCapitals_word (mark : Char) (w : NameWord) : markCapitals mark w.chars = w.chars := by
  have h : markCapitals mark (w.chars ++ []) = _ := markCapitals_chars w []
  simpa [markCapitals] using h

/-- Joined words are marked apart. -/
theorem markCapitals_joined (words : List NameWord) :
    markCapitals mark (words.flatMap NameWord.chars) =
      [mark].intercalate (words.map NameWord.chars) := by
  induction words with
  | nil => rfl
  | cons w words ih =>
    rw [List.flatMap_cons, markCapitals_chars, ih]
    cases words with
    | nil => simp
    | cons v words =>
      have hstart : ((v :: words).flatMap NameWord.chars).head?.any isCapital = true := v.isCapital
      rw [hstart, if_pos rfl, List.map_cons, List.map_cons, List.map_cons,
        List.intercalate_cons_cons, List.append_assoc]

/-- Words with other characters between them are not marked. -/
theorem markCapitals_intercalate (hgap : Without isSmallOrDigit gap)
    (hstart : ∀ s, NotStarting isCapital (gap ++ s)) (words : List NameWord) :
    markCapitals mark (gap.intercalate (words.map NameWord.chars)) =
      gap.intercalate (words.map NameWord.chars) := by
  have hskip (s : List Char) : markCapitals mark (gap ++ s) = gap ++ markCapitals mark s := by
    clear hstart
    induction gap with
    | nil => rfl
    | cons c gap ih =>
      rw [List.cons_append, markCapitals_cons (.inl (hgap c List.mem_cons_self)),
        ih fun d hd => hgap d (List.mem_cons_of_mem c hd)]
      rfl
  induction words with
  | nil => rfl
  | cons w words ih =>
    cases words with
    | nil => simpa using markCapitals_word mark w
    | cons v words =>
      rw [List.map_cons] at ih ⊢
      rw [List.map_cons, List.intercalate_cons_cons, List.append_assoc, markCapitals_chars, hskip,
        ih, head?_any_eq_false (hstart _)]
      rfl

/-! ## Capitals before small letters -/

theorem markWords_cons (hs : NotStarting isCapital s) :
    markWords false (c :: s) = c :: markWords false s := by
  cases s with
  | nil => rfl
  | cons d s =>
    rw [markWords, if_neg (by simp), if_neg (by simp [notStarting_cons.1 hs])]

theorem markWords_append (hp : Without isCapital p) (hs : NotStarting isCapital s) :
    markWords false (p ++ s) = p ++ markWords false s := by
  induction p with
  | nil => rfl
  | cons c p ih =>
    have hp : Without isCapital p := fun d hd => hp d (List.mem_cons_of_mem c hd)
    rw [List.cons_append, markWords_cons (notStarting_append hp fun _ => hs), ih hp]
    rfl

theorem markWords_of_without (h : Without isCapital s) : markWords false s = s := by
  have hnil : NotStarting isCapital [] := notStarting_nil
  simpa [markWords] using markWords_append h hnil

/-- The small letters of a marked word are taken with it. -/
theorem markWords_small (hp : Every isSmall p) (hs : NotStarting isSmall s) :
    markWords true (p ++ s) = p ++ markWords false s := by
  induction p with
  | nil =>
    cases s with
    | nil => rfl
    | cons c s =>
      cases s with
      | nil => rfl
      | cons d s =>
        have hc := notStarting_cons.1 hs
        rw [List.nil_append, List.nil_append, markWords, markWords, hc]
        rfl
  | cons c p ih =>
    have hc := hp c List.mem_cons_self
    have hrest := ih fun d hd => hp d (List.mem_cons_of_mem c hd)
    rw [List.cons_append]
    cases hps : p ++ s with
    | nil =>
      obtain ⟨rfl, rfl⟩ := List.append_eq_nil_iff.1 hps
      rfl
    | cons d r =>
      rw [hps] at hrest
      rw [markWords, if_pos (by simp [hc]), hrest]
      rfl

section Letters

variable {w v : NameWord} {words : List NameWord}

/-- A word is marked whatever stands before it on the line. -/
theorem markWords_word (hc : c ≠ '\n') (hw : Every isSmall w.rest) (hs : NotStarting isSmall s) :
    markWords false (c :: (w.chars ++ s)) = c :: '_' :: (w.chars ++ markWords false s) := by
  have hsmall := markWords_small hw hs
  cases hrest : w.rest with
  | nil => exact absurd hrest w.ne_nil
  | cons d r =>
    rw [hrest] at hsmall hw
    have hd := hw d List.mem_cons_self
    rw [NameWord.chars, hrest, List.cons_append, List.cons_append, markWords,
      if_neg (by simp), if_pos (by simp [hc, w.isCapital, hd])]
    rw [List.cons_append] at hsmall
    rw [hsmall]
    rfl

theorem without_isCapital_rest (w : NameWord) : Without isCapital w.rest :=
  fun c hc => (facts_of_isSmallOrDigit (w.every c hc)).1

theorem markWords_chars (w : NameWord) (hs : NotStarting isCapital s) :
    markWords false (w.chars ++ s) = w.chars ++ markWords false s := by
  have hrest := without_isCapital_rest w
  rw [NameWord.chars, List.cons_append, markWords_cons (notStarting_append hrest fun _ => hs),
    markWords_append hrest hs]
  rfl

/-- The last letter of a word stands before the next one. -/
theorem markWords_rest (hp : Every isSmall p) (hne : p ≠ []) (hv : Every isSmall v.rest)
    (hs : NotStarting isSmall s) :
    markWords false (p ++ (v.chars ++ s)) = p ++ '_' :: (v.chars ++ markWords false s) := by
  have hcapital : ∀ c ∈ p, isCapital c = false := fun c hc =>
    (facts_of_isSmallOrDigit (isSmallOrDigit_of_isSmall (hp c hc))).1
  induction p with
  | nil => exact absurd rfl hne
  | cons c p ih =>
    cases p with
    | nil =>
      have hfeed : c ≠ '\n' := by
        rintro rfl
        cases hp '\n' List.mem_cons_self
      exact markWords_word hfeed hv hs
    | cons d p =>
      have hd : NotStarting isCapital (d :: p ++ (v.chars ++ s)) :=
        notStarting_cons.2 (hcapital d (by simp))
      rw [List.cons_append, markWords_cons hd,
        ih (fun e he => hp e (List.mem_cons_of_mem c he)) (List.cons_ne_nil d p)
          fun e he => hcapital e (List.mem_cons_of_mem c he)]
      rfl

/-- Of two words that are joined the second one is marked. -/
theorem markWords_pair (hw : Every isSmall w.rest) (hv : Every isSmall v.rest)
    (hs : NotStarting isSmall s) :
    markWords false (w.chars ++ (v.chars ++ s)) =
      w.chars ++ '_' :: (v.chars ++ markWords false s) := by
  have hstart : NotStarting isCapital (w.rest ++ (v.chars ++ s)) :=
    notStarting_append (without_isCapital_rest w) fun hnil => absurd hnil w.ne_nil
  rw [NameWord.chars, List.cons_append, markWords_cons hstart, markWords_rest hw w.ne_nil hv hs]
  rfl

/-- Words of which the second, the fourth and so on have an underscore before them. -/
def everyOther : List NameWord → List Char
  | [] => []
  | [w] => w.chars
  | w :: v :: words => w.chars ++ '_' :: (v.chars ++ everyOther words)

theorem notStarting_isSmall_chars (w : NameWord) (s : List Char) :
    NotStarting isSmall (w.chars ++ s) := by
  have hsmall := (facts_of_isCapital w.isCapital).1
  rw [isSmallOrDigit, Bool.or_eq_false_iff] at hsmall
  exact notStarting_cons.2 hsmall.1

theorem markWords_joined (h : ∀ w ∈ words, Every isSmall w.rest) :
    markWords false (words.flatMap NameWord.chars) = everyOther words := by
  induction words using everyOther.induct with
  | case1 => rfl
  | case2 w => simpa [everyOther, markWords] using markWords_chars w notStarting_nil
  | case3 w v words ih =>
    have hrest : NotStarting isSmall (words.flatMap NameWord.chars) := by
      cases words with
      | nil => exact notStarting_nil
      | cons u words => exact notStarting_isSmall_chars u _
    rw [List.flatMap_cons, List.flatMap_cons, markWords_pair (h w (by simp)) (h v (by simp)) hrest,
      ih fun u hu => h u (by simp [hu]), everyOther]

/-- The words that have no mark yet are marked as those behind a small letter. -/
theorem markCapitals_everyOther (words : List NameWord) :
    markCapitals '_' (everyOther words) = ['_'].intercalate (words.map NameWord.chars) := by
  induction words using everyOther.induct with
  | case1 => rfl
  | case2 w => simpa [everyOther] using markCapitals_word '_' w
  | case3 w v words ih =>
    have hmark : NotStarting isCapital ('_' :: (v.chars ++ everyOther words)) :=
      notStarting_cons.2 rfl
    rw [everyOther, markCapitals_chars, head?_any_eq_false hmark, markCapitals_cons (.inl rfl),
      markCapitals_chars, ih, List.map_cons, List.map_cons, List.intercalate_cons_cons]
    cases words with
    | nil => simp [everyOther]
    | cons u words =>
      have hstart : (everyOther (u :: words)).head?.any isCapital = true := by
        cases words with
        | nil => exact u.isCapital
        | cons x words => exact u.isCapital
      rw [hstart, if_pos rfl, List.map_cons, List.intercalate_cons_cons]
      simp

theorem notStarting_flatMap (h : test sep = false) (ps : List (List Char)) :
    NotStarting test (ps.flatMap ([sep] ++ ·)) := by
  cases ps with
  | nil => exact notStarting_nil
  | cons p ps => exact notStarting_cons.2 h

theorem markWords_flatMap (hsep : sep ≠ '\n') (hsmall : isSmall sep = false)
    (h : ∀ w ∈ words, Every isSmall w.rest) :
    markWords false ((words.map NameWord.chars).flatMap ([sep] ++ ·)) =
      (words.map NameWord.chars).flatMap ([sep, '_'] ++ ·) := by
  induction words with
  | nil => rfl
  | cons w words ih =>
    rw [List.map_cons, List.flatMap_cons, List.append_assoc, List.singleton_append,
      markWords_word hsep (h w List.mem_cons_self) (notStarting_flatMap hsmall _),
      ih fun v hv => h v (List.mem_cons_of_mem w hv)]
    simp

/-- Words with separators between them are all marked, behind the separators. -/
theorem markWords_intercalate (hsep : sep ≠ '\n') (hcapital : isCapital sep = false)
    (hsmall : isSmall sep = false) (h : ∀ w ∈ words, Every isSmall w.rest) :
    markWords false ([sep].intercalate (words.map NameWord.chars)) =
      [sep, '_'].intercalate (words.map NameWord.chars) := by
  cases words with
  | nil => rfl
  | cons w words =>
    rw [List.map_cons, intercalate_cons, intercalate_cons,
      markWords_chars w (notStarting_flatMap hcapital _),
      markWords_flatMap hsep hsmall fun v hv => h v (List.mem_cons_of_mem w hv)]

end Letters

/-! ## Styles of a name -/

section Styles

variable {form : NameWord → List Char} (hform : IsForm form) (words : List NameWord)

include hform

/-- Nothing that separates is in a word. -/
theorem IsForm.forall_mem (htest : ∀ c, isSeparator c = false → test c = false) :
    ∀ p ∈ words.map form, p ≠ [] ∧ Without test p := by
  intro p hp
  obtain ⟨w, -, rfl⟩ := List.mem_map.1 hp
  exact ⟨hform.ne_nil w, fun c hc => htest c (hform.without w c hc)⟩

/-- The lowercase of a name in which nothing between the words has a case. -/
theorem IsForm.lower_intercalate (hgap : Every (fun c => isAscii c && c.toLower == c) gap) :
    lower (gap.intercalate (words.map form)) = gap.intercalate (words.map NameWord.small) := by
  have hsame : gap.map Char.toLower = gap := by
    refine (List.map_congr_left fun c hc => ?_).trans (List.map_id gap)
    exact eq_of_beq (Bool.and_eq_true_iff.1 (hgap c hc)).2
  have hascii : Every isAscii (gap.intercalate (words.map form)) := by
    intro c hc
    rcases mem_intercalate hc with hc | ⟨p, hp, hc⟩
    · exact (Bool.and_eq_true_iff.1 (hgap c hc)).1
    · obtain ⟨w, -, rfl⟩ := List.mem_map.1 hp
      exact hform.ascii w c hc
  rw [lower_of_every hascii, map_intercalate, hsame, List.map_map]
  congr 1
  exact List.map_congr_left fun w _ => hform.small w

/-- Words between separators are joined as capitalised ones. -/
theorem IsForm.pascalChars_intercalate (hsep : isSeparator sep = true) :
    pascalChars ([sep].intercalate (words.map form)) = words.flatMap NameWord.chars := by
  rw [pascalChars, wordsFrom_intercalate hsep (hform.forall_mem words fun _ hc => hc),
    List.flatMap_map]
  congr 1
  funext w
  simpa using hform.capitalised w []

/-- Words between separators are joined in lowercase by marks. -/
theorem IsForm.lower_squeeze (htest : ∀ c, isSeparator c = false → test c = false)
    (hsep : test sep = true ∨ sep = mark ∧ test mark = false) (hgap : Without test gap)
    (hlower : Every (fun c => isAscii c && c.toLower == c) (mark :: gap)) :
    lower (squeeze test mark false ((sep :: gap).intercalate (words.map form))) =
      (mark :: gap).intercalate (words.map NameWord.small) := by
  rw [squeeze_intercalate hsep hgap (hform.forall_mem words htest),
    hform.lower_intercalate words hlower]

theorem IsForm.lower_squeeze_kebab (sep : Separator) :
    lower (squeeze (fun c => c = '_' || isBlank c) '-' false
        ([sep.char].intercalate (words.map form))) =
      ['-'].intercalate (words.map NameWord.small) := by
  refine hform.lower_squeeze words (fun c hc => ?_) ?_ (fun _ h => nomatch h) (by decide)
  · simp only [isSeparator, Bool.or_eq_false_iff] at hc ⊢
    exact ⟨hc.1.2, hc.2⟩
  · cases sep
    · exact Or.inr ⟨rfl, by decide⟩
    · exact Or.inl (by decide)
    · exact Or.inl (by decide)

theorem IsForm.lower_squeeze_snake (sep : Separator) (hgap : Every (· == '_') gap) :
    lower (squeeze (fun c => c = '-' || isBlank c) '_' false
        ((sep.char :: gap).intercalate (words.map form))) =
      ('_' :: gap).intercalate (words.map NameWord.small) := by
  have hmarks : Every (· == '_') ('_' :: gap) := List.forall_mem_cons.2 ⟨rfl, hgap⟩
  refine hform.lower_squeeze words (fun c hc => ?_) ?_ (fun c hc => ?_) fun c hc => ?_
  · simp only [isSeparator, Bool.or_eq_false_iff] at hc ⊢
    exact ⟨hc.1.1, hc.2⟩
  · cases sep
    · exact Or.inl (by decide)
    · exact Or.inr ⟨rfl, by decide⟩
    · exact Or.inl (by decide)
  · rw [eq_of_beq (hgap c hc)]
    decide
  · rw [eq_of_beq (hmarks c hc)]
    decide

end Styles

section Names

variable (words : List NameWord)

theorem without_isSeparator_joined : Without isSeparator (words.flatMap NameWord.chars) := by
  intro c hc
  obtain ⟨w, -, hc⟩ := List.mem_flatMap.1 hc
  exact isForm_chars.without w c hc

theorem pascalCase_write (spelling : Spelling) :
    pascalCase (String.ofList (spelling.write words)) =
      String.ofList (Spelling.joined.write words) := by
  have hsep (sep : Separator) : isSeparator sep.char = true := by cases sep <;> rfl
  rw [pascalCase, String.toList_ofList]
  congr 1
  cases spelling with
  | joined =>
    rw [Spelling.write, pascalChars_of_without (without_isSeparator_joined words)]
    cases words with
    | nil => rfl
    | cons w words => exact isForm_chars.capitalised w _
  | separated sep => exact isForm_chars.pascalChars_intercalate words (hsep sep)
  | small sep => exact isForm_small.pascalChars_intercalate words (hsep sep)

theorem smallFirst_joined :
    smallFirst (String.ofList (Spelling.joined.write words)) =
      String.ofList ((Spelling.joined.write words).modifyHead Char.toLower) := by
  rw [smallFirst, String.toList_ofList]
  congr 1
  cases words with
  | nil => rfl
  | cons w words =>
    have hinitial : Every isAscii [w.initial] := fun c hc =>
      isForm_chars.ascii w c (by simp [NameWord.chars, List.mem_singleton.1 hc])
    show lowerFirst (w.initial :: _) = List.modifyHead Char.toLower (w.initial :: _)
    rw [lowerFirst, lower_of_every hinitial]
    rfl

/-- The first word of a name may be in lowercase. -/
theorem pascalCase_modifyHead :
    pascalCase (String.ofList ((Spelling.joined.write words).modifyHead Char.toLower)) =
      String.ofList (Spelling.joined.write words) := by
  rw [pascalCase, String.toList_ofList]
  congr 1
  cases words with
  | nil => rfl
  | cons w words =>
    have hsplit : (Spelling.joined.write (w :: words)).modifyHead Char.toLower =
        w.small ++ words.flatMap NameWord.chars := by
      rw [NameWord.small_eq]
      rfl
    have hwithout : Without isSeparator (w.small ++ words.flatMap NameWord.chars) := by
      intro c hc
      rcases List.mem_append.1 hc with hc | hc
      · exact isForm_small.without w c hc
      · exact without_isSeparator_joined words c hc
    rw [hsplit, pascalChars_of_without hwithout, isForm_small.capitalised]
    rfl

theorem camelCase_write (spelling : Spelling) :
    camelCase (String.ofList (spelling.write words)) =
      String.ofList ((Spelling.joined.write words).modifyHead Char.toLower) := by
  rw [camelCase, pascalCase_write, smallFirst_joined]

theorem without_isCapital_small (hgap : Without isCapital gap) :
    Without isCapital (gap.intercalate (words.map NameWord.small)) := by
  intro c hc
  rcases mem_intercalate hc with hc | ⟨p, hp, hc⟩
  · exact hgap c hc
  · obtain ⟨w, -, rfl⟩ := List.mem_map.1 hp
    exact (facts_of_isSmallOrDigit (w.every_small c hc)).1

/-- A separator is no letter. -/
theorem Separator.facts (sep : Separator) :
    isCapital sep.char = false ∧ isSmallOrDigit sep.char = false ∧ sep.char ≠ '\n' := by
  cases sep <;> decide

theorem markCapitals_separated (sep : Separator) :
    markCapitals mark (Spelling.write (.separated sep) words) =
      Spelling.write (.separated sep) words := by
  obtain ⟨hcapital, hsmall, -⟩ := sep.facts
  exact markCapitals_intercalate (by simp [Without, hsmall])
    (fun s => notStarting_cons.2 hcapital) words

theorem kebabCase_write (spelling : Spelling) :
    kebabCase (String.ofList (spelling.write words)) =
      String.ofList (Spelling.write (.small .hyphen) words) := by
  rw [kebabCase, String.toList_ofList]
  congr 1
  cases spelling with
  | joined =>
    rw [Spelling.write, markCapitals_joined]
    exact isForm_chars.lower_squeeze_kebab words .hyphen
  | separated sep =>
    rw [markCapitals_separated]
    exact isForm_chars.lower_squeeze_kebab words sep
  | small sep =>
    have hgap : Without isCapital [sep.char] := by simp [Without, sep.facts.1]
    rw [Spelling.write, markCapitals_of_without (without_isCapital_small words hgap)]
    exact isForm_small.lower_squeeze_kebab words sep

/-- Three styles give the same for every way to write a name, and leave what they give as it is. -/
theorem case_of_spelling (spelling : Spelling) :
    let name := String.ofList (spelling.write words)
    (pascalCase name = String.ofList (words.flatMap NameWord.chars) ∧
        pascalCase (pascalCase name) = pascalCase name) ∧
      (camelCase name =
          String.ofList ((words.flatMap NameWord.chars).modifyHead Char.toLower) ∧
        camelCase (camelCase name) = camelCase name) ∧
      kebabCase name = String.ofList (['-'].intercalate (words.map NameWord.small)) ∧
        kebabCase (kebabCase name) = kebabCase name := by
  intro name
  have hpascal : pascalCase name = _ := pascalCase_write words spelling
  have hcamel : camelCase name = _ := camelCase_write words spelling
  have hkebab : kebabCase name = _ := kebabCase_write words spelling
  refine ⟨⟨hpascal, ?_⟩, ⟨hcamel, ?_⟩, hkebab, ?_⟩
  · rw [hpascal, pascalCase_write]
  · rw [hcamel, camelCase, pascalCase_modifyHead, smallFirst_joined]
  · rw [hkebab, kebabCase_write]

example : kebabCase "Some2_Thing" = "some2-thing" := by decide

/-- What `snakeCase` gives has no capitals left to mark. -/
theorem snakeCase_small (sep : Separator) (hgap : Every (· == '_') gap) :
    snakeCase (String.ofList ((sep.char :: gap).intercalate (words.map NameWord.small))) =
      String.ofList (('_' :: gap).intercalate (words.map NameWord.small)) := by
  have hcapital : Without isCapital (sep.char :: gap) :=
    List.forall_mem_cons.2 ⟨sep.facts.1, fun c hc => by rw [eq_of_beq (hgap c hc)]; rfl⟩
  have hsmall := without_isCapital_small words hcapital
  rw [snakeCase, String.toList_ofList, markWords_of_without hsmall,
    markCapitals_of_without hsmall, isForm_small.lower_squeeze_snake words sep hgap]

variable {words} in
theorem snakeCase_joined (h : ∀ w ∈ words, Every isSmall w.rest) :
    snakeCase (String.ofList (Spelling.joined.write words)) =
      String.ofList (['_'].intercalate (words.map NameWord.small)) := by
  rw [snakeCase, String.toList_ofList, Spelling.write, markWords_joined h,
    markCapitals_everyOther]
  exact congrArg String.ofList
    (isForm_chars.lower_squeeze_snake words .underscore (every_nil (· == '_')))

variable {words} in
theorem snakeCase_separated (h : ∀ w ∈ words, Every isSmall w.rest) (sep : Separator) :
    snakeCase (String.ofList (Spelling.write (.separated sep) words)) =
      String.ofList (['_', '_'].intercalate (words.map NameWord.small)) := by
  obtain ⟨hcapital, hsmall, hfeed⟩ := sep.facts
  have hgap : Without isSmallOrDigit [sep.char, '_'] := by
    simp only [Without, List.forall_mem_cons]
    exact ⟨hsmall, rfl, List.forall_mem_nil _⟩
  rw [isSmallOrDigit, Bool.or_eq_false_iff] at hsmall
  rw [snakeCase, String.toList_ofList, Spelling.write,
    markWords_intercalate hfeed hcapital hsmall.1 h,
    markCapitals_intercalate hgap (fun s => notStarting_cons.2 hcapital),
    isForm_chars.lower_squeeze_snake words sep (by decide)]

/-- In the fourth style words that are joined, or are in lowercase, come out with one underscore
between them, and capitalised words that have separators between them with two.  What it gives it
leaves as it is. -/
theorem snakeCase_of_spelling (h : ∀ w ∈ words, Every isSmall w.rest) :
    (∀ spelling, snakeCase (String.ofList (Spelling.write spelling words)) =
        match spelling with
        | .separated _ => String.ofList (['_', '_'].intercalate (words.map NameWord.small))
        | _ => String.ofList (['_'].intercalate (words.map NameWord.small))) ∧
      ∀ spelling, snakeCase (snakeCase (String.ofList (Spelling.write spelling words))) =
        snakeCase (String.ofList (Spelling.write spelling words)) := by
  have hwrite (spelling : Spelling) : snakeCase (String.ofList (Spelling.write spelling words)) =
      match spelling with
      | .separated _ => String.ofList (['_', '_'].intercalate (words.map NameWord.small))
      | _ => String.ofList (['_'].intercalate (words.map NameWord.small)) := by
    cases spelling with
    | joined => exact snakeCase_joined h
    | separated sep => exact snakeCase_separated h sep
    | small sep => exact snakeCase_small words sep (every_nil (· == '_'))
  refine ⟨hwrite, fun spelling => ?_⟩
  rw [hwrite]
  cases spelling with
  | joined => exact snakeCase_small words .underscore (every_nil (· == '_'))
  | separated sep => exact snakeCase_small words .underscore (by decide)
  | small sep => exact snakeCase_small words .underscore (every_nil (· == '_'))

end Names

/-- The name of a thing, in two words. -/
def someThing : List NameWord :=
  [{ initial := 'S', rest := "ome".toList }, { initial := 'T', rest := "hing".toList }]

/-- Joined, `someThing` has one underscore in it, and with a hyphen it has two. -/
theorem snakeCase_of_spelling_someThing :
    (∀ w ∈ someThing, Every isSmall w.rest) ∧
      snakeCase (String.ofList (Spelling.joined.write someThing)) = "some_thing" ∧
      snakeCase (String.ofList (Spelling.write (.separated .hyphen) someThing)) =
        "some__thing" := by
  have hsmall : ∀ w ∈ someThing, Every isSmall w.rest := by decide
  obtain ⟨hwrite, -⟩ := snakeCase_of_spelling someThing hsmall
  refine ⟨hsmall, ?_, ?_⟩
  · rw [hwrite]
    decide
  · rw [hwrite]
    decide

/-- With a hyphen `someThing` is not its words in lowercase with one underscore between them, which
it is when it is joined; and a hyphen is all that kebab case has for an underscore. -/
theorem snakeCase_hyphen_ne :
    snakeCase (String.ofList (Spelling.write (.separated .hyphen) someThing)) ≠
        String.ofList (['_'].intercalate (someThing.map NameWord.small)) ∧
      snakeCase "Some-Thing" = "some__thing" ∧ snakeCase "SomeThing" = "some_thing" ∧
      kebabCase "Some_Thing" = "some-thing" := by
  decide

end FeatureGen.Feature

import FeatureGen.Text.Literal

/-!
# Runs of characters

A *run* is a text whose characters all pass a test (`Every`, `Run`).  Here is what the small steps
of a scanner do on a text that is put together from runs: one is taken whole when no such character
follows it (`spanSome?_append`), blanks are skipped (`trimStart_append`), and a text without blanks
at its ends is left alone (`trim_of_notStarting`).

A *word* is a text of word characters that is not empty (`IsWordText`).  No word character is blank
(`isBlank_eq_false_of_isWord`), so that words and blanks never run into each other.
-/

namespace FeatureGen.Text

variable {test : Char → Bool} {c : Char} {s t r w : List Char}

/-! ## Tests of all characters -/

/-- All characters of the text pass the test. -/
def Every (test : Char → Bool) (s : List Char) : Prop := ∀ c ∈ s, test c = true

/-- No character of the text passes the test. -/
def Without (test : Char → Bool) (s : List Char) : Prop := ∀ c ∈ s, test c = false

theorem every_nil (test : Char → Bool) : Every test [] := fun _ h => absurd h List.not_mem_nil

instance (test : Char → Bool) (s : List Char) : Decidable (Every test s) :=
  decidable_of_iff (s.all test = true) List.all_eq_true

theorem every_not_iff : Every (fun c => !test c) s ↔ Without test s := by
  simp [Every, Without]

instance (test : Char → Bool) (s : List Char) : Decidable (Without test s) :=
  decidable_of_iff (Every (fun c => !test c) s) every_not_iff

/-- A text whose characters pass a test. -/
structure Run (test : Char → Bool) where
  /-- The characters. -/
  chars : List Char
  every : Every test chars := by decide

/-- A run that is not empty. -/
structure NonemptyRun (test : Char → Bool) extends Run test where
  ne_nil : chars ≠ [] := by decide

/-- A space. -/
def oneSpace : NonemptyRun isBlank where
  chars := [' ']

/-- A line feed. -/
def oneLineFeed : Run isBlank where
  chars := ['\n']

/-! ## Taking a run -/

/-- No character that passes the test starts the text. -/
def NotStarting (test : Char → Bool) (s : List Char) : Prop := ∀ c ∈ s.head?, test c = false

@[simp] theorem notStarting_nil : NotStarting test [] := by simp [NotStarting]

@[simp] theorem notStarting_cons : NotStarting test (c :: s) ↔ test c = false := by
  simp [NotStarting]

/-- A text starts with no character of a run if one of another kind is in front of it. -/
theorem notStarting_append (hw : Without test w) (hs : w = [] → NotStarting test s) :
    NotStarting test (w ++ s) := by
  cases w with
  | nil => exact hs rfl
  | cons c w => exact notStarting_cons.2 (hw c List.mem_cons_self)

/-- No character that passes the test ends the text. -/
def NotEnding (test : Char → Bool) (s : List Char) : Prop := ∀ c ∈ s.getLast?, test c = false

@[simp] theorem notEnding_nil : NotEnding test [] := by simp [NotEnding]

/-- The end of two texts is that of the second one, if it is not empty. -/
theorem notEnding_append (ht : NotEnding test t) (hs : t = [] → NotEnding test s) :
    NotEnding test (s ++ t) := by
  cases t with
  | nil =>
    rw [List.append_nil]
    exact hs rfl
  | cons c t =>
    intro d hd
    rw [List.getLast?_append, List.getLast?_eq_some_getLast (List.cons_ne_nil c t)] at hd
    rw [NotEnding, List.getLast?_eq_some_getLast (List.cons_ne_nil c t)] at ht
    exact ht d hd

theorem notEnding_of_without (hs : Without test s) : NotEnding test s :=
  fun c hc => hs c (List.mem_of_getLast? hc)

theorem NotStarting.mono {test' : Char → Bool} (h : NotStarting test s)
    (htest : ∀ c, test c = false → test' c = false) : NotStarting test' s :=
  fun c hc => htest c (h c hc)

theorem NotStarting.of_append (h : NotStarting test (s ++ t)) : NotStarting test s := by
  cases s with
  | nil => exact notStarting_nil
  | cons c s => exact notStarting_cons.2 (notStarting_cons.1 h)

theorem NotStarting.append (hs : NotStarting test s) (ht : s = [] → NotStarting test t) :
    NotStarting test (s ++ t) := by
  cases s with
  | nil => exact ht rfl
  | cons c s => exact notStarting_cons.2 (notStarting_cons.1 hs)

theorem NotEnding.of_append (h : NotEnding test (s ++ t)) : NotEnding test t := by
  intro c hc
  apply h c
  rw [List.getLast?_append, Option.mem_def.1 hc]
  rfl

/-- What stands before the run at the end of a text and does not end with a part of it is the start
of the rest of the text. -/
theorem exists_append_of_notEnding (ht : NotEnding test t) (hw : Every test w)
    (h : t ++ r = s ++ w) : ∃ u, r = u ++ w ∧ s = t ++ u := by
  rcases List.append_eq_append_iff.1 h with ⟨u, hs, hr⟩ | ⟨u, rfl, rfl⟩
  · exact ⟨u, hr, hs⟩
  · cases u with
    | nil => exact ⟨[], by simp, by simp⟩
    | cons c u =>
      have hlast := List.getLast?_eq_some_getLast (List.cons_ne_nil c u)
      have hend := ht.of_append _ hlast
      rw [hw _ (List.mem_append_left r (List.mem_of_getLast? hlast))] at hend
      cases hend

theorem takeWhile_eq_nil_of_notStarting (h : NotStarting test r) : r.takeWhile test = [] := by
  cases r with
  | nil => rfl
  | cons c r => rw [List.takeWhile_cons, if_neg (by simp [notStarting_cons.1 h])]

theorem dropWhile_eq_self_of_notStarting (h : NotStarting test r) : r.dropWhile test = r := by
  cases r with
  | nil => rfl
  | cons c r => rw [List.dropWhile_cons, if_neg (by simp [notStarting_cons.1 h])]

theorem takeWhile_append_of_notStarting (ht : Every test t) (hr : NotStarting test r) :
    (t ++ r).takeWhile test = t := by
  rw [List.takeWhile_append_of_pos ht, takeWhile_eq_nil_of_notStarting hr, List.append_nil]

theorem dropWhile_append_of_notStarting (ht : Every test t) (hr : NotStarting test r) :
    (t ++ r).dropWhile test = r := by
  rw [List.dropWhile_append_of_pos ht, dropWhile_eq_self_of_notStarting hr]

/-- A run is taken whole when nothing that could be part of it follows. -/
theorem spanSome?_append (hne : t ≠ []) (ht : Every test t) (hr : NotStarting test r) :
    spanSome? test (t ++ r) = some (t, r) := by
  rw [spanSome?, takeWhile_append_of_notStarting ht hr, dropWhile_append_of_notStarting ht hr]
  cases t with
  | nil => exact absurd rfl hne
  | cons c t => rfl

/-- A text is cut in only one way into a run and what does not go on with it. -/
theorem append_inj_of_notStarting (test : Char → Bool) {u v : List Char}
    (ht : Every test t) (hu : Every test u) (hr : NotStarting test r)
    (hv : NotStarting test v) (h : t ++ r = u ++ v) : t = u ∧ r = v := by
  constructor
  · rw [← takeWhile_append_of_notStarting ht hr, h, takeWhile_append_of_notStarting hu hv]
  · rw [← dropWhile_append_of_notStarting ht hr, h, dropWhile_append_of_notStarting hu hv]

/-- The characters of a run pass the test. -/
theorem forall_of_spanSome? (h : spanSome? test s = some (t, r)) : Every test t := by
  have hs : Every test (s.takeWhile test) := List.all_eq_true.1 List.all_takeWhile
  rw [spanSome?] at h
  split at h
  · cases h
  · cases h
    exact hs

/-- A run is taken as far as it goes. -/
theorem notStarting_of_spanSome? (h : spanSome? test s = some (t, r)) : NotStarting test r := by
  have hrest : r = s.dropWhile test := by
    rw [spanSome?] at h
    split at h
    · cases h
    · exact (congrArg Prod.snd (Option.some.inj h)).symm
  intro c hc
  have hhead := List.head?_dropWhile_not test s
  rw [← hrest, Option.mem_def.1 hc] at hhead
  exact hhead

/-! ## Skipping blanks -/

theorem trimStart_append_of_blank (hw : Every isBlank w) :
    trimStart (w ++ s) = trimStart s :=
  List.dropWhile_append_of_pos hw

theorem trimStart_of_notStarting (h : NotStarting isBlank s) : trimStart s = s :=
  dropWhile_eq_self_of_notStarting h

theorem trimStart_append (hw : Every isBlank w) (hs : NotStarting isBlank s) :
    trimStart (w ++ s) = s :=
  dropWhile_append_of_notStarting hw hs

theorem trimStart_eq_nil_of_blank (hw : Every isBlank w) : trimStart w = [] := by
  have h := trimStart_append_of_blank (s := []) hw
  rwa [List.append_nil] at h

theorem trimEnd_eq_nil_of_blank (hw : Every isBlank w) : trimEnd w = [] := by
  induction w with
  | nil => rfl
  | cons c w ih =>
    rw [trimEnd_cons, ih fun d hd => hw d (List.mem_cons_of_mem _ hd), if_pos rfl,
      if_pos (hw c List.mem_cons_self)]

theorem notStarting_trimStart (s : List Char) : NotStarting isBlank (trimStart s) := by
  intro c hc
  have hhead := List.head?_dropWhile_not isBlank s
  rw [← trimStart, Option.mem_def.1 hc] at hhead
  exact hhead

@[simp] theorem trimStart_trimStart (s : List Char) : trimStart (trimStart s) = trimStart s :=
  trimStart_of_notStarting (notStarting_trimStart s)

/-- What is cut from the end stands after the last character that is no blank. -/
theorem trimEnd_append_of_notEnding (h : NotEnding isBlank t) (s : List Char) :
    trimEnd (t ++ s) = t ++ trimEnd s := by
  induction t with
  | nil => rfl
  | cons c t ih =>
    cases t with
    | nil =>
      have hc : isBlank c = false := h c (by simp)
      rw [List.cons_append, List.nil_append, trimEnd_cons]
      split
      · next hs => simp [hs, hc]
      · rfl
    | cons d t =>
      have ht : trimEnd (d :: t ++ s) = d :: t ++ trimEnd s :=
        ih fun e he => h e (by simpa using he)
      rw [List.cons_append, trimEnd_cons, ht, if_neg (by simp)]
      rfl

theorem notEnding_trimEnd (s : List Char) : NotEnding isBlank (trimEnd s) :=
  fun _ hc => not_isBlank_getLast_trimEnd (Option.mem_def.1 hc)

/-- A text that does not end with a blank is left alone. -/
theorem trimEnd_of_notEnding (h : NotEnding isBlank s) : trimEnd s = s := by
  have hs := trimEnd_append_of_notEnding h []
  rwa [List.append_nil, trimEnd_nil, List.append_nil] at hs

/-- A text without blanks at its ends is what trimming leaves of it. -/
theorem trim_of_notStarting (hs : NotStarting isBlank s) (hl : NotEnding isBlank s) :
    trim s = s := by
  rw [trim, trimStart_of_notStarting hs, trimEnd_of_notEnding hl]

/-- The text after blanks, of which there is at least one. -/
theorem afterBlanks?_append (hne : w ≠ []) (hw : Every isBlank w)
    (hs : NotStarting isBlank s) : afterBlanks? (w ++ s) = some s := by
  cases w with
  | nil => exact absurd rfl hne
  | cons c w =>
    rw [List.cons_append, afterBlanks?, if_pos (hw c List.mem_cons_self),
      trimStart_append (fun d hd => hw d (List.mem_cons_of_mem _ hd)) hs]

/-- The text after a mark that blanks precede. -/
theorem afterMark?_append (hw : Every isBlank w) (hc : isBlank c = false) :
    afterMark? c (w ++ c :: s) = some s := by
  rw [afterMark?, trimStart_append hw (by simpa using hc)]
  exact if_pos rfl

/-- What is skipped at the start are blanks. -/
theorem exists_append_trimStart (s : List Char) :
    ∃ w, s = w ++ trimStart s ∧ Every isBlank w :=
  ⟨s.takeWhile isBlank, List.takeWhile_append_dropWhile.symm,
    List.all_eq_true.1 List.all_takeWhile⟩

theorem mem_of_mem_trim (h : c ∈ trim s) : c ∈ s := by
  obtain ⟨start, hstart, -⟩ := exists_append_trimStart s
  obtain ⟨ending, hending, -⟩ := trimEnd_append_blanks (trimStart s)
  have hmem : c ∈ trimStart s := by
    rw [← hending]
    exact List.mem_append_left ending h
  rw [hstart]
  exact List.mem_append_right start hmem

/-- No character is cut but blanks. -/
theorem mem_trim_of_mem (h : c ∈ s) (hc : isBlank c = false) : c ∈ trim s := by
  have hne {w : List Char} (hw : Every isBlank w) : c ∉ w := fun hm => by simp [hw c hm] at hc
  obtain ⟨start, hstart, hblank⟩ := exists_append_trimStart s
  obtain ⟨ending, hending, hblank'⟩ := trimEnd_append_blanks (trimStart s)
  rw [hstart, ← hending] at h
  rcases List.mem_append.1 h with h | h
  · exact absurd h (hne hblank)
  · exact (List.mem_append.1 h).resolve_right (hne hblank')

theorem notStarting_trim (s : List Char) : NotStarting isBlank (trim s) := by
  have hstart := notStarting_trimStart s
  obtain ⟨w, hw, -⟩ := trimEnd_append_blanks (trimStart s)
  rw [← hw] at hstart
  exact hstart.of_append

theorem notEnding_trim (s : List Char) : NotEnding isBlank (trim s) := notEnding_trimEnd _

theorem exists_of_afterBlanks? (h : afterBlanks? s = some t) :
    ∃ w, s = w ++ t ∧ w ≠ [] ∧ Every isBlank w := by
  cases s with
  | nil => cases h
  | cons c s =>
    rw [afterBlanks?] at h
    split at h
    · next hc =>
      obtain ⟨w, hw, hblank⟩ := exists_append_trimStart s
      cases h
      refine ⟨c :: w, by rw [List.cons_append, ← hw], List.cons_ne_nil c w, ?_⟩
      intro d hd
      rcases List.mem_cons.1 hd with rfl | hd
      · exact hc
      · exact hblank d hd
    · cases h

theorem exists_of_afterMark? (h : afterMark? c s = some t) :
    ∃ w, s = w ++ c :: t ∧ Every isBlank w := by
  obtain ⟨w, hw, hblank⟩ := exists_append_trimStart s
  rw [afterMark?] at h
  split at h
  · next d r hs =>
    split at h
    · next hd =>
      cases h
      exact ⟨w, by rw [← hd, ← hs]; exact hw, hblank⟩
    · cases h
  · cases h

/-! ## Splitting at blanks -/

/-- What a text is split into, where the start `w` of the first piece has been read. -/
theorem forall_mem_splitBlanks_go (hw : Without isBlank w) :
    ∀ t ∈ splitBlanks.go s w, t ≠ [] ∧ ∀ d ∈ t, isBlank d = false ∧ (d ∈ w ∨ d ∈ s) := by
  induction s generalizing w with
  | nil =>
    intro t ht
    rw [splitBlanks.go] at ht
    split at ht
    · cases ht
    · next hne =>
      obtain rfl := List.mem_singleton.1 ht
      exact ⟨by simpa using hne, fun d hd => ⟨hw d (List.mem_reverse.1 hd), by simpa using hd⟩⟩
  | cons c s ih =>
    intro t ht
    rw [splitBlanks.go] at ht
    split at ht
    · -- A blank ends the piece that has been read, and the rest starts with none.
      have hrest : ∀ t ∈ splitBlanks.go s [],
          t ≠ [] ∧ ∀ d ∈ t, isBlank d = false ∧ (d ∈ w ∨ d ∈ c :: s) := by
        intro t ht
        obtain ⟨hne, hmem⟩ := ih (w := []) (fun _ h => absurd h List.not_mem_nil) t ht
        refine ⟨hne, fun d hd => ⟨(hmem d hd).1, Or.inr (List.mem_cons_of_mem c ?_)⟩⟩
        exact (hmem d hd).2.resolve_left List.not_mem_nil
      split at ht
      · exact hrest t ht
      · next hne =>
        rcases List.mem_cons.1 ht with rfl | ht
        · refine ⟨by simpa using hne, fun d hd => ?_⟩
          have hd := List.mem_reverse.1 hd
          exact ⟨hw d hd, Or.inl hd⟩
        · exact hrest t ht
    · next hc =>
      have hword : Without isBlank (c :: w) := List.forall_mem_cons.2 ⟨by simpa using hc, hw⟩
      obtain ⟨hne, hmem⟩ := ih hword t ht
      refine ⟨hne, fun d hd => ⟨(hmem d hd).1, ?_⟩⟩
      have hd := (hmem d hd).2
      simp only [List.mem_cons] at hd ⊢
      rcases hd with (hd | hd) | hd
      · exact Or.inr (Or.inl hd)
      · exact Or.inl hd
      · exact Or.inr (Or.inr hd)

/-- The pieces between blanks are not empty and have no blanks. -/
theorem forall_mem_splitBlanks (s : List Char) :
    ∀ t ∈ splitBlanks s, t ≠ [] ∧ Without isBlank t ∧ t ⊆ s := by
  intro t ht
  obtain ⟨hne, hmem⟩ := forall_mem_splitBlanks_go (fun _ h => absurd h List.not_mem_nil) t ht
  exact ⟨hne, fun d hd => (hmem d hd).1, fun d hd => (hmem d hd).2.resolve_left List.not_mem_nil⟩

/-! ## Words -/

/-- A text of word characters that is not empty. -/
def IsWordText (s : List Char) : Prop := s ≠ [] ∧ Every isWord s

instance (s : List Char) : Decidable (IsWordText s) :=
  inferInstanceAs (Decidable (s ≠ [] ∧ Every isWord s))

/-- The code points of a range lie between blanks and braces, or they are those of small letters. -/
def missesBlanks (first last : Nat) : Bool :=
  (0xA0 < first && last < 0x1680) || (0x1680 < first && last < 0x2000) ||
    (0x205F < first && last < 0x3000) || 0x3000 < first || (0x61 ≤ first && last ≤ 0x7A)

theorem isBlank_eq_false_of_missesBlanks {first last : Nat} (h : missesBlanks first last = true)
    (hfirst : first ≤ c.toNat) (hlast : c.toNat ≤ last) : isBlank c = false := by
  simp only [missesBlanks, Bool.or_eq_true, Bool.and_eq_true, decide_eq_true_eq] at h
  simp only [isBlank, Bool.or_eq_false_iff, Bool.and_eq_false_iff, decide_eq_false_iff_not,
    beq_eq_false_iff_ne]
  omega

/-- No blank is a word character. -/
theorem isWord_eq_false_of_isBlank (h : isBlank c = true) : isWord c = false := by
  by_cases hascii : c.toNat < 0x80
  · have hle : c.toNat < 0x21 := by
      simp only [isBlank, Bool.or_eq_true, Bool.and_eq_true, decide_eq_true_eq, beq_iff_eq] at h
      omega
    have hall : ∀ k < 0x21, isWord (Char.ofNat k) = false := by decide
    have hword := hall c.toNat hle
    rwa [Char.ofNat_toNat] at hword
  · have hranges : ∀ r ∈ wordRanges, missesBlanks r.1 r.2 = true := by decide +kernel
    rw [isWord, if_neg hascii, List.any_eq_false]
    intro r hr hbounds
    rw [Bool.and_eq_true, decide_eq_true_eq, decide_eq_true_eq] at hbounds
    rw [isBlank_eq_false_of_missesBlanks (hranges r hr) hbounds.1 hbounds.2] at h
    cases h

theorem isBlank_eq_false_of_isWord (h : isWord c = true) : isBlank c = false := by
  cases hb : isBlank c with
  | false => rfl
  | true => rw [isWord_eq_false_of_isBlank hb] at h; cases h

/-- Blanks end a word. -/
theorem notStarting_isWord_append (hw : Every isBlank w) (hs : NotStarting isWord s) :
    NotStarting isWord (w ++ s) :=
  notStarting_append (fun c hc => isWord_eq_false_of_isBlank (hw c hc)) fun _ => hs

/-- A word ends before text that does not go on with it. -/
theorem endsWord_iff : endsWord s = true ↔ NotStarting isWord s := by
  cases s with
  | nil => simp [endsWord]
  | cons c s => simp [endsWord]

theorem spanWord_append (ht : Every isWord t) (hr : NotStarting isWord r) :
    spanWord (t ++ r) = (t, r) := by
  rw [spanWord, takeWhile_append_of_notStarting ht hr, dropWhile_append_of_notStarting ht hr]

theorem IsWordText.notStarting_isBlank (h : IsWordText s) (t : List Char) :
    NotStarting isBlank (s ++ t) :=
  notStarting_append (fun c hc => isBlank_eq_false_of_isWord (h.2 c hc)) fun he => absurd he h.1

theorem IsWordText.not_mem (h : IsWordText s) (hc : isWord c = false) : c ∉ s := fun hmem => by
  rw [h.2 c hmem] at hc
  cases hc

end FeatureGen.Text

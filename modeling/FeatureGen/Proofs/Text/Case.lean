import FeatureGen.Proofs.Text.Span

/-!
# Texts that agree up to case

Two texts agree up to case when their characters have the same keys one by one (`SameUpToCase`).
That is how `afterUpToCase?` compares a literal with the start of a text.

Blanks and braces delimit the words of a header.  Such a character agrees with no other
(`eq_of_caseKey_eq`).  So where a word is matched up to case, the text that is matched has no blanks
and no braces either, although it may hold characters that do not belong to words.  The letters of
the keyword `model` agree with word characters only (`isWord_of_caseKey_eq`).
-/

namespace FeatureGen.Text

variable {c d : Char} {s t w n m : List Char}

/-! ## Characters that delimit words -/

/-- Blanks and braces. -/
def isDelimiter (c : Char) : Bool := isBlank c || c == '\x7b' || c == '\x7d'

theorem isDelimiter_of_isBlank (h : isBlank c = true) : isDelimiter c = true := by
  simp [isDelimiter, h]

/-- A character that delimits nothing is no blank. -/
theorem isBlank_eq_false_of_isDelimiter (h : isDelimiter c = false) : isBlank c = false := by
  simp only [isDelimiter, Bool.or_eq_false_iff] at h
  exact h.1.1

/-- Blanks with a brace after them end a text without delimiters. -/
theorem notStarting_not_isDelimiter (hw : Every isBlank w) (s : List Char) :
    NotStarting (fun c => !isDelimiter c) (w ++ '\x7b' :: s) :=
  notStarting_append (fun c hc => by simp [isDelimiter_of_isBlank (hw c hc)]) fun _ =>
    notStarting_cons.2 (by decide)

/-- No word character delimits words. -/
theorem isDelimiter_eq_false_of_isWord (h : isWord c = true) : isDelimiter c = false := by
  simp only [isDelimiter, isBlank_eq_false_of_isWord h, Bool.false_or, Bool.or_eq_false_iff,
    beq_eq_false_iff_ne]
  constructor
  · rintro rfl
    exact absurd h (by decide)
  · rintro rfl
    exact absurd h (by decide)

/-! ## Keys of delimiters -/

theorem isDelimiter_ofNat_eq_false {first last k : Nat} (h : missesBlanks first last = true)
    (hfirst : first ≤ k) (hlast : k ≤ last) : isDelimiter (Char.ofNat k) = false := by
  by_cases hvalid : k.isValidChar
  · have hk : (Char.ofNat k).toNat = k := by
      rw [Char.ofNat, dif_pos hvalid]
      rfl
    have hblank : isBlank (Char.ofNat k) = false :=
      isBlank_eq_false_of_missesBlanks h (hk.symm ▸ hfirst) (hk.symm ▸ hlast)
    have hbrace : k ≠ 0x7B ∧ k ≠ 0x7D := by
      simp only [missesBlanks, Bool.or_eq_true, Bool.and_eq_true, decide_eq_true_eq] at h
      omega
    rw [isDelimiter, hblank, Bool.false_or, Bool.or_eq_false_iff, beq_eq_false_iff_ne,
      beq_eq_false_iff_ne]
    constructor
    · intro heq
      exact hbrace.1 (hk ▸ congrArg Char.toNat heq)
    · intro heq
      exact hbrace.2 (hk ▸ congrArg Char.toNat heq)
  · rw [Char.ofNat, dif_neg hvalid]
    decide

/-- A character is left where it is or moved by one of the runs. -/
theorem moveByRuns_eq_or (runs : List CaseRun) (c : Char) :
    moveByRuns runs c = c ∨ ∃ r ∈ runs, r.first ≤ c.toNat ∧ c.toNat ≤ r.last ∧
      moveByRuns runs c = Char.ofNat ((c.toNat : Int) + r.shift).toNat := by
  rw [moveByRuns, CaseRun.apply?]
  cases hfind : runs.find? fun r =>
      r.first ≤ c.toNat && c.toNat ≤ r.last && (c.toNat - r.first) % r.step == 0 with
  | none => exact .inl rfl
  | some r =>
    have hr := List.find?_some hfind
    simp only [Bool.and_eq_true, decide_eq_true_eq] at hr
    exact .inr ⟨r, List.mem_of_find?_eq_some hfind, hr.1.1, hr.1.2, rfl⟩

/-- A character is its own key, unless neither of them is a delimiter. -/
theorem caseKey_eq_or (c : Char) :
    caseKey c = c ∨ isDelimiter c = false ∧ isDelimiter (caseKey c) = false := by
  rw [caseKey]
  by_cases hascii : c.toNat < 0x80
  · have hall : ∀ k < 0x80, (Char.ofNat k).toLower = Char.ofNat k ∨
        isDelimiter (Char.ofNat k) = false ∧ isDelimiter (Char.ofNat k).toLower = false := by
      decide
    have hlower := hall c.toNat hascii
    rw [Char.ofNat_toNat] at hlower
    rwa [if_pos hascii]
  · rw [if_neg hascii]
    rcases moveByRuns_eq_or caseKeyRuns c with heq | ⟨r, hr, hfirst, hlast, heq⟩
    · exact .inl heq
    · have hruns : ∀ r ∈ caseKeyRuns, missesBlanks r.first r.last = true ∧
          missesBlanks ((r.first : Int) + r.shift).toNat ((r.last : Int) + r.shift).toNat = true := by
        decide +kernel
      obtain ⟨hsource, htarget⟩ := hruns r hr
      have hc := isDelimiter_ofNat_eq_false hsource hfirst hlast
      rw [Char.ofNat_toNat] at hc
      rw [heq]
      exact .inr ⟨hc, isDelimiter_ofNat_eq_false htarget (by omega) (by omega)⟩

/-- A delimiter agrees with no other character. -/
theorem eq_of_caseKey_eq (hdelim : isDelimiter d = true) (h : caseKey c = caseKey d) : c = d := by
  have hd : caseKey d = d := by
    rcases caseKey_eq_or d with hd | ⟨hd, -⟩
    · exact hd
    · rw [hd] at hdelim
      cases hdelim
  rw [hd] at h
  rcases caseKey_eq_or c with hc | ⟨-, hc⟩
  · exact hc.symm.trans h
  · rw [h, hdelim] at hc
    cases hc

/-! ## Agreement of texts -/

/-- The characters of the texts differ at most in case. -/
def SameUpToCase (s t : List Char) : Prop := s.map caseKey = t.map caseKey

instance (s t : List Char) : Decidable (SameUpToCase s t) :=
  inferInstanceAs (Decidable (s.map caseKey = t.map caseKey))

theorem SameUpToCase.refl (s : List Char) : SameUpToCase s s := rfl

theorem SameUpToCase.symm (h : SameUpToCase s t) : SameUpToCase t s := Eq.symm h

theorem SameUpToCase.trans (h : SameUpToCase s t) (h' : SameUpToCase t w) : SameUpToCase s w :=
  Eq.trans h h'

theorem SameUpToCase.cons (hc : caseKey c = caseKey d) (h : SameUpToCase s t) :
    SameUpToCase (c :: s) (d :: t) := by
  rw [SameUpToCase, List.map_cons, List.map_cons, hc, h]

theorem SameUpToCase.length_eq (h : SameUpToCase s t) : s.length = t.length := by
  have hlength := congrArg List.length h
  rwa [List.length_map, List.length_map] at hlength

theorem SameUpToCase.isEmpty_eq (h : SameUpToCase s t) : s.isEmpty = t.isEmpty := by
  rw [← List.isEmpty_map (f := caseKey), h, List.isEmpty_map]

/-- A blank agrees with no other character. -/
theorem isBlank_eq_of_caseKey_eq (h : caseKey c = caseKey d) : isBlank c = isBlank d := by
  by_cases hc : isBlank c = true
  · rw [eq_of_caseKey_eq (isDelimiter_of_isBlank hc) h.symm]
  by_cases hd : isBlank d = true
  · rw [eq_of_caseKey_eq (isDelimiter_of_isBlank hd) h]
  · rw [Bool.eq_false_iff.2 hc, Bool.eq_false_iff.2 hd]

theorem SameUpToCase.trimStart (h : SameUpToCase s t) :
    SameUpToCase (Text.trimStart s) (Text.trimStart t) := by
  induction s generalizing t with
  | nil =>
    obtain rfl : t = [] := List.map_eq_nil_iff.1 h.symm
    exact .refl []
  | cons c s ih =>
    cases t with
    | nil => cases h
    | cons d t =>
      obtain ⟨hcd, hst⟩ := List.cons.inj h
      have hblank := isBlank_eq_of_caseKey_eq hcd
      simp only [Text.trimStart, List.dropWhile_cons, hblank]
      split
      · exact ih hst
      · exact h

theorem afterUpToCase?_cons_cons (c d : Char) (n s : List Char) :
    afterUpToCase? (c :: n) (d :: s) =
      if caseKey c == caseKey d then afterUpToCase? n s else none := rfl

/-- A literal is found at the start of a text that agrees with it up to case. -/
theorem afterUpToCase?_append (h : SameUpToCase n w) (s : List Char) :
    afterUpToCase? n (w ++ s) = some s := by
  induction n generalizing w with
  | nil =>
    cases w with
    | nil => rfl
    | cons d w => cases h
  | cons c n ih =>
    cases w with
    | nil => cases h
    | cons d w =>
      have ⟨hc, hw⟩ := List.cons.inj h
      rw [List.cons_append, afterUpToCase?_cons_cons, if_pos (by simp [hc]), ih hw]

/-- What is found for a literal agrees with it up to case. -/
theorem exists_of_afterUpToCase? (h : afterUpToCase? n s = some t) :
    ∃ w, s = w ++ t ∧ SameUpToCase n w := by
  induction n generalizing s with
  | nil =>
    cases h
    exact ⟨[], rfl, .refl []⟩
  | cons c n ih =>
    cases s with
    | nil => cases h
    | cons d s =>
      rw [afterUpToCase?_cons_cons] at h
      split at h
      · next hc =>
        obtain ⟨w, rfl, hw⟩ := ih h
        exact ⟨d :: w, rfl, .cons (eq_of_beq hc) hw⟩
      · cases h

/-- Literals that agree up to case are found in the same texts. -/
theorem afterUpToCase?_congr (h : SameUpToCase n m) (s : List Char) :
    afterUpToCase? n s = afterUpToCase? m s := by
  induction n generalizing m s with
  | nil => rw [List.map_eq_nil_iff.1 h.symm]
  | cons c n ih =>
    cases m with
    | nil => cases h
    | cons d m =>
      obtain ⟨hcd, hnm⟩ := List.cons.inj h
      cases s with
      | nil => rfl
      | cons e s => rw [afterUpToCase?_cons_cons, afterUpToCase?_cons_cons, hcd, ih hnm]

/-- A text agrees with a word up to case. -/
def IsWordUpToCase (n : List Char) : Prop := ∃ w, IsWordText w ∧ SameUpToCase n w

theorem IsWordText.isWordUpToCase (h : IsWordText n) : IsWordUpToCase n := ⟨n, h, .refl n⟩

theorem SameUpToCase.isWordUpToCase (h : SameUpToCase n w) (hw : IsWordText w) :
    IsWordUpToCase n :=
  ⟨w, hw, h⟩

theorem SameUpToCase.isWordUpToCase_right (h : SameUpToCase n t) (hn : IsWordUpToCase n) :
    IsWordUpToCase t := by
  obtain ⟨w, hw, hnw⟩ := hn
  exact ⟨w, hw, h.symm.trans hnw⟩

/-- A text that agrees with a word is not empty. -/
theorem IsWordUpToCase.ne_nil (h : IsWordUpToCase n) : n ≠ [] := by
  rintro rfl
  obtain ⟨w, hw, hn⟩ := h
  cases w with
  | nil => exact hw.1 rfl
  | cons c w => cases hn

/-- A text that agrees with a word has no blanks and no braces. -/
theorem IsWordUpToCase.isDelimiter_eq_false (h : IsWordUpToCase n) :
    Without isDelimiter n := by
  obtain ⟨w, hw, hn⟩ := h
  intro c hc
  have hkey : caseKey c ∈ w.map caseKey := hn ▸ List.mem_map_of_mem hc
  obtain ⟨d, hd, he⟩ := List.mem_map.1 hkey
  have hdelim := isDelimiter_eq_false_of_isWord (hw.2 d hd)
  cases hcdelim : isDelimiter c with
  | false => rfl
  | true => rw [eq_of_caseKey_eq hcdelim he, hcdelim] at hdelim; cases hdelim

/-! ## The letters of the keyword -/

/-- Whether the character is of ASCII and no run of keys leads to it. -/
def isPlainKey (d : Char) : Bool :=
  decide (0 < d.toNat) && decide (d.toNat < 0x80) && caseKeyRuns.all fun r =>
    decide ((r.last : Int) + r.shift < d.toNat) || decide ((d.toNat : Int) < r.first + r.shift)

theorem toNat_ofNat_or (k : Nat) : (Char.ofNat k).toNat = k ∨ (Char.ofNat k).toNat = 0 := by
  by_cases hvalid : k.isValidChar
  · rw [Char.ofNat, dif_pos hvalid]
    exact Or.inl rfl
  · rw [Char.ofNat, dif_neg hvalid]
    exact Or.inr rfl

theorem toNat_lt_of_isPlainKey (hd : isPlainKey d = true) (h : caseKey c = d) :
    c.toNat < 0x80 := by
  simp only [isPlainKey, Bool.and_eq_true, Bool.or_eq_true, List.all_eq_true,
    decide_eq_true_eq] at hd
  obtain ⟨⟨hpos, hascii⟩, hruns⟩ := hd
  by_cases hc : c.toNat < 0x80
  · exact hc
  rw [caseKey, if_neg hc] at h
  rcases moveByRuns_eq_or caseKeyRuns c with heq | ⟨r, hr, hfirst, hlast, heq⟩
  · rw [← h, heq] at hascii
    exact hascii
  · have hmiss := hruns r hr
    rw [← h, heq] at hpos hmiss
    rcases toNat_ofNat_or ((c.toNat : Int) + r.shift).toNat with hcode | hcode
    · rw [hcode] at hpos hmiss
      omega
    · rw [hcode] at hpos
      exact absurd hpos (Nat.lt_irrefl 0)

/-- What agrees with a letter of `model` is a word character. -/
theorem isWord_of_caseKey_eq (hd : d ∈ "model".toList) (h : caseKey c = caseKey d) :
    isWord c = true := by
  have hletters : Every (fun d => isPlainKey (caseKey d) && caseKey d == d) "model".toList := by
    decide
  have hascii : ∀ k < 0x80, "model".toList.contains (caseKey (Char.ofNat k)) = true →
      isWord (Char.ofNat k) = true := by
    decide
  have hletter := hletters d hd
  rw [Bool.and_eq_true, beq_iff_eq] at hletter
  have hword := hascii c.toNat (toNat_lt_of_isPlainKey hletter.1 h)
  rw [Char.ofNat_toNat, h, hletter.2] at hword
  exact hword (List.contains_iff_mem.2 hd)

end FeatureGen.Text

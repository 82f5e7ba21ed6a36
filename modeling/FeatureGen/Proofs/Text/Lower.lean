import FeatureGen.Proofs.Text.Case

/-!
# Plain characters

Word characters and all characters outside ASCII are *plain*.  A change of case brings in plain
characters only (`isPlain_or_mem_of_mem_lowerFrom`, `isPlain_or_eq_of_mem_upperChar`).  So the
lowercase of a word is plain (`every_lower`), and that is enough to name files with it, since no
slash, dot or null character and none of the characters with a meaning in a page occurs in it
(`not_mem_lower`).
-/

namespace FeatureGen.Text

variable {c d : Char} {s : List Char}

/-- Word characters and those outside ASCII. -/
def isPlain (c : Char) : Bool := isWord c || 0x80 ≤ c.toNat

theorem isPlain_of_le (h : 0x80 ≤ c.toNat) : isPlain c = true := by simp [isPlain, h]

/-- The run moves its code points to code points outside ASCII, or it moves a single one to a word
character. -/
def CaseRun.staysPlain (r : CaseRun) : Bool :=
  (0x80 ≤ (r.first : Int) + r.shift && (r.last : Int) + r.shift < 0xD800) ||
    (0xE000 ≤ (r.first : Int) + r.shift && (r.last : Int) + r.shift < 0x110000) ||
    (r.first == r.last && isWord (Char.ofNat ((r.first : Int) + r.shift).toNat))

theorem CaseRun.isPlain_of_staysPlain {r : CaseRun} (h : r.staysPlain = true) {n : Nat}
    (hfirst : r.first ≤ n) (hlast : n ≤ r.last) :
    isPlain (Char.ofNat ((n : Int) + r.shift).toNat) = true := by
  simp only [staysPlain, Bool.or_eq_true, Bool.and_eq_true, decide_eq_true_eq, beq_iff_eq] at h
  rcases h with (⟨hlo, hhi⟩ | ⟨hlo, hhi⟩) | ⟨heq, hword⟩
  · have hvalid : (((n : Int) + r.shift).toNat).isValidChar := .inl (by omega)
    apply isPlain_of_le
    rw [Char.ofNat, dif_pos hvalid]
    show 0x80 ≤ ((n : Int) + r.shift).toNat
    omega
  · have hvalid : (((n : Int) + r.shift).toNat).isValidChar := .inr ⟨by omega, by omega⟩
    apply isPlain_of_le
    rw [Char.ofNat, dif_pos hvalid]
    show 0x80 ≤ ((n : Int) + r.shift).toNat
    omega
  · have hn : n = r.first := by omega
    rw [hn, isPlain, hword, Bool.true_or]

/-- What a character becomes when runs move it is plain, unless it stays as it is. -/
theorem isPlain_or_eq_moveByRuns {runs : List CaseRun} (h : runs.all CaseRun.staysPlain = true)
    (c : Char) : isPlain (moveByRuns runs c) = true ∨ moveByRuns runs c = c := by
  rcases moveByRuns_eq_or runs c with heq | ⟨r, hr, hfirst, hlast, heq⟩
  · exact .inr heq
  · rw [heq]
    exact .inl (CaseRun.isPlain_of_staysPlain (List.all_eq_true.1 h r hr) hfirst hlast)

/-- Lowercase brings in plain characters only. -/
theorem isPlain_or_eq_of_mem_lowerChar (h : d ∈ lowerChar c) : isPlain d = true ∨ d = c := by
  rw [lowerChar] at h
  by_cases hc : c.toNat < 0x80
  · have hall : ∀ k < 0x80, isPlain (Char.ofNat k).toLower = true ∨
        (Char.ofNat k).toLower = Char.ofNat k := by decide
    have hlower := hall c.toNat hc
    rw [Char.ofNat_toNat] at hlower
    rw [if_pos hc] at h
    exact List.mem_singleton.1 h ▸ hlower
  · rw [if_neg hc] at h
    by_cases hdotted : c = 'İ'
    · have hall : Every isPlain ['i', '\u0307'] := by decide +kernel
      rw [if_pos hdotted] at h
      exact .inl (hall d h)
    · have hruns : lowerRuns.all CaseRun.staysPlain = true := by decide
      rw [if_neg hdotted] at h
      exact List.mem_singleton.1 h ▸ isPlain_or_eq_moveByRuns hruns c

/-- Uppercase brings in plain characters only. -/
theorem isPlain_or_eq_of_mem_upperChar (h : d ∈ upperChar c) : isPlain d = true ∨ d = c := by
  rw [upperChar] at h
  by_cases hc : c.toNat < 0x80
  · have hall : ∀ k < 0x80, isPlain (Char.ofNat k).toUpper = true ∨
        (Char.ofNat k).toUpper = Char.ofNat k := by decide
    have hupper := hall c.toNat hc
    rw [Char.ofNat_toNat] at hupper
    rw [if_pos hc] at h
    exact List.mem_singleton.1 h ▸ hupper
  · rw [if_neg hc] at h
    split at h
    · next ns hns =>
      -- Most are outside ASCII, which is decided without the table of word characters.
      have hall : upperSpecials.all (fun p => p.2.all fun n =>
          0x80 ≤ (Char.ofNat n).toNat || isWord (Char.ofNat n)) = true := by decide
      obtain ⟨l₁, l₂, htable, -⟩ := List.lookup_eq_some_iff.1 hns
      have hmem : (c.toNat, ns) ∈ upperSpecials := by
        rw [htable]
        exact List.mem_append_right l₁ List.mem_cons_self
      obtain ⟨n, hn, rfl⟩ := List.mem_map.1 h
      left
      rw [isPlain, Bool.or_comm]
      exact List.all_eq_true.1 (List.all_eq_true.1 hall _ hmem) n hn
    · have hruns : upperRuns.all CaseRun.staysPlain = true := by decide
      exact List.mem_singleton.1 h ▸ isPlain_or_eq_moveByRuns hruns c

/-- What is in a text in lowercase was there or is plain. -/
theorem isPlain_or_mem_of_mem_lowerFrom {afterCased : Bool} (h : d ∈ lowerFrom afterCased s) :
    isPlain d = true ∨ d ∈ s := by
  induction s generalizing afterCased with
  | nil => cases h
  | cons c s ih =>
    simp only [lowerFrom] at h
    split at h
    · rcases List.mem_cons.1 h with rfl | h
      · left
        split <;> exact isPlain_of_le (by decide)
      · exact (ih h).imp_right (List.mem_cons_of_mem c)
    · rcases List.mem_append.1 h with h | h
      · rcases isPlain_or_eq_of_mem_lowerChar h with hplain | rfl
        · exact .inl hplain
        · exact .inr List.mem_cons_self
      · exact (ih h).imp_right (List.mem_cons_of_mem c)

/-- The characters of a lowercase word are plain. -/
theorem every_lower (h : Every isWord s) : Every isPlain (lower s) := by
  intro d hd
  rcases isPlain_or_mem_of_mem_lowerFrom hd with hplain | hmem
  · exact hplain
  · rw [isPlain, h d hmem, Bool.true_or]

/-- A character that is not plain does not occur in a lowercase word. -/
theorem not_mem_lower (h : Every isWord s) (hd : isPlain d = false) : d ∉ lower s := fun hmem => by
  rw [every_lower h d hmem] at hd
  cases hd

/-- No text vanishes in lowercase. -/
theorem lower_ne_nil (h : s ≠ []) : lower s ≠ [] := by
  cases s with
  | nil => exact absurd rfl h
  | cons c s =>
    rw [lower]
    simp only [lowerFrom]
    split
    · exact List.cons_ne_nil _ _
    · refine List.append_ne_nil_of_left_ne_nil ?_ _
      rw [lowerChar]
      by_cases hc : c.toNat < 0x80
      · simp [hc]
      · by_cases hdotted : c = 'İ' <;> simp [hc, hdotted]

end FeatureGen.Text

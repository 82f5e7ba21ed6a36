import FeatureGen.Analysis.Size
import FeatureGen.Proofs.Number.Rounding
import Std.Data.String.ToInt

/-!
# Sizes are nearest and in order

The number of kilobytes that is shown is rounded twice, to 53 binary digits and to a whole number.
Up to `2 ^ 53` bytes the first rounding changes nothing, so that the number is the one nearest to
the quotient.  Beyond, two roundings may miss the nearest number, but neither changes the order of
two sizes.

A size has no text where its amount, rounded to 53 digits, has more than 1034 of them.  Rounding
keeps the order, so this is so from one amount on (`kilobytes?_eq_none_iff`).  That amount is
`sizeLimit`: it lies half way between `2 ^ 1034` and the greatest number below with 53 digits, and
a half goes to the even neighbour, which is the power.
-/

namespace FeatureGen.Analysis

open FeatureGen.Number

variable {j k m n : Int}

/-- The text for a number of bytes shows this number of kilobytes. -/
def Shows (bytes kilobytes : Int) : Prop := sizeText? bytes = some (toString kilobytes ++ "KB")

/-- The least amount of bytes for which there is no text. -/
def sizeLimit : Nat := 2 ^ 1034 - 2 ^ 980

/-- The text tells the number of kilobytes. -/
theorem shows_iff : Shows n k ↔ kilobytes? n = some k := by
  rw [Shows, sizeText?, Option.map_eq_some_iff]
  constructor
  · rintro ⟨j, hj, htext⟩
    have hdigits : j.repr = k.repr := by simpa using htext
    rw [hj, Int.repr_inj.1 hdigits]
  · exact fun h => ⟨k, h, rfl⟩

theorem eq_of_kilobytes?_eq_some (h : kilobytes? n = some k) :
    k = divHalfEven (roundToBits 53 n) 1024 := by
  rw [kilobytes?] at h
  split at h
  · cases h
  · exact (Option.some.inj h).symm

/-- The greatest amount with a text is rounded to less than `2 ^ 1034`, and the next one to that. -/
theorem roundToBits_sizeLimit :
    roundToBits 53 (sizeLimit - 1) < (2 ^ 1034 : Nat) ∧
      roundToBits 53 sizeLimit = (2 ^ 1034 : Nat) := by
  decide +kernel

theorem kilobytes?_eq_none_iff : kilobytes? n = none ↔ sizeLimit ≤ n.natAbs := by
  obtain ⟨hbelow, hlimit⟩ := roundToBits_sizeLimit
  have hrange : kilobytes? n = none ↔ ((2 ^ 1034 : Nat) : Int) ≤ roundToBits 53 n.natAbs := by
    rw [roundToBits_natAbs, Int.ofNat_le, ← lt_bitLength_iff, kilobytes?]
    simp
  rw [hrange]
  constructor
  · intro hpower
    by_contra hlt
    have hmono : roundToBits 53 n.natAbs ≤ roundToBits 53 (sizeLimit - 1) :=
      roundToBits_mono (Nat.succ_pos 52) (by omega)
    exact absurd (Int.le_trans hpower hmono) (Int.not_le.2 hbelow)
  · intro hle
    rw [← hlimit]
    exact roundToBits_mono (Nat.succ_pos 52) (Int.ofNat_le.2 hle)

/-- A size below the limit has a text, whatever its sign. -/
theorem exists_shows (h : n.natAbs < sizeLimit) : ∃ k, Shows n k := by
  have hsome : kilobytes? n ≠ none := mt kilobytes?_eq_none_iff.1 (Nat.not_le.2 h)
  obtain ⟨k, hk⟩ := Option.ne_none_iff_exists'.1 hsome
  exact ⟨k, shows_iff.2 hk⟩

/-- The first rounding changes nothing up to `2 ^ 53`. -/
theorem isNearest_of_shows (hn : n.natAbs ≤ 2 ^ 53) (h : Shows n k) :
    IsNearest ((n : ℚ) / 1024) k := by
  rw [eq_of_kilobytes?_eq_some (shows_iff.1 h), roundToBits_of_natAbs_le (Nat.succ_pos 52) hn]
  exact isNearest_divHalfEven n (d := 1024) (Nat.succ_pos 1023)

/-- A larger size does not show a smaller number. -/
theorem Shows.mono (h : m ≤ n) (hm : Shows m j) (hn : Shows n k) : j ≤ k := by
  rw [eq_of_kilobytes?_eq_some (shows_iff.1 hm), eq_of_kilobytes?_eq_some (shows_iff.1 hn)]
  exact divHalfEven_mono (Nat.succ_pos 1023) (roundToBits_mono (Nat.succ_pos 52) h)

/-- Beyond, it is nearest to the 1024th part of a number of 53 digits that is nearest to the
size. -/
theorem exists_isNearest_of_shows (h : Shows n k) :
    ∃ b, HasDigits 53 b ∧ (∀ c, HasDigits 53 c → |n - b| ≤ |n - c|) ∧
      IsNearest ((b : ℚ) / 1024) k := by
  refine ⟨roundToBits 53 n, hasDigits_roundToBits (Nat.succ_pos 52) n,
    fun c => abs_sub_roundToBits_le (Nat.succ_pos 52) n, ?_⟩
  rw [eq_of_kilobytes?_eq_some (shows_iff.1 h)]
  exact isNearest_divHalfEven (roundToBits 53 n) (d := 1024) (Nat.succ_pos 1023)

/-- Up to `2 ^ 53` bytes the number that is shown is the whole number nearest to the quotient, the
even one on a tie; beyond, it is nearest to the quotient that is rounded to 53 digits.  Every size
below the limit shows a number, no size from there on has a text, and where two sizes show numbers
the larger one does not show the smaller number. -/
theorem shown_number_nearest_and_ordered :
    (∀ n : Int, n.natAbs ≤ 2 ^ 53 →
        ∃ k, Shows n k ∧ ∀ j, Shows n j ↔ IsNearest ((n : ℚ) / 1024) j) ∧
      (∀ n k : Int, Shows n k → ∃ b, HasDigits 53 b ∧
        (∀ c, HasDigits 53 c → |n - b| ≤ |n - c|) ∧ IsNearest ((b : ℚ) / 1024) k) ∧
      (∀ n : Int, n.natAbs < sizeLimit → ∃ k, Shows n k) ∧
      (∀ n : Int, sizeLimit ≤ n.natAbs → sizeText? n = none) ∧
      ∀ m n j k : Int, m ≤ n → Shows m j → Shows n k → j ≤ k := by
  refine ⟨fun n hn => ?_, fun n k => exists_isNearest_of_shows, fun n => exists_shows,
    fun n hn => ?_, fun m n j k => Shows.mono⟩
  · have hlimit : 2 ^ 53 < sizeLimit := by decide +kernel
    obtain ⟨k, hk⟩ := exists_shows (Nat.lt_of_le_of_lt hn hlimit)
    refine ⟨k, hk, fun j => ⟨isNearest_of_shows hn, fun hj => ?_⟩⟩
    rwa [hj.eq (isNearest_of_shows hn hk)]
  · rw [sizeText?, kilobytes?_eq_none_iff.2 hn]
    rfl

/-- The last tie below `2 ^ 53` bytes: the quotient is a half less than `2 ^ 43`. -/
def lastTie : Int := 9007199254740480

/-- The last tie goes to the even neighbour above, the first size that is not kept to the byte does
not show less, and at the limit there is no text. -/
theorem shown_number_at_last_tie :
    Shows lastTie 8796093022208 ∧ IsNearest ((lastTie : ℚ) / 1024) 8796093022208 ∧
      (∃ k, Shows 9007199254740993 k ∧ 8796093022208 ≤ k) ∧ sizeText? (-sizeLimit) = none := by
  obtain ⟨hnearest, -, hsome, hnone, hmono⟩ := shown_number_nearest_and_ordered
  have hshows : Shows lastTie 8796093022208 := shows_iff.2 (by decide)
  obtain ⟨-, -, hiff⟩ := hnearest lastTie (by decide)
  obtain ⟨k, hk⟩ := hsome 9007199254740993 (by decide +kernel)
  exact ⟨hshows, (hiff _).1 hshows, ⟨k, hk, hmono _ _ _ _ (by decide) hshows hk⟩,
    hnone _ (by rw [Int.natAbs_neg, Int.natAbs_natCast])⟩

end FeatureGen.Analysis

import FeatureGen.Number.Rounding
import Mathlib.Algebra.Order.Field.Basic
import Mathlib.Data.Rat.Cast.Order
import Mathlib.Tactic.FieldSimp
import Mathlib.Tactic.Linarith
import Mathlib.Tactic.Ring

/-!
# Rounding is to nearest and keeps the order

A whole number is *nearest* to a number if none is nearer, and of two that are as near it is the
even one (`IsNearest`).  There is one such number at most (`IsNearest.eq`), and a larger number has
no smaller one (`IsNearest.mono`).  `divHalfEven` finds it (`isNearest_divHalfEven`), and what else
is said of `divHalfEven` here follows from that.

`roundToBits` gives a number of so many leading digits (`hasDigits_roundToBits`), and no other such
number is nearer (`abs_sub_roundToBits_le`).  It rounds to multiples of the place of the last digit
that is kept (`lastPlace`).  Numbers of such digits that are as long as the given one are multiples
of that place, and before shorter ones stands a power of two that is one.

That rounding keeps the order (`roundToBits_mono`) needs no more than that: if two results stood
the other way round, both numbers would be in the middle between them.
-/

namespace FeatureGen.Number

variable {x y : ℚ} {b j k m n : Int} {bits d e : Nat}

/-! ## The nearest whole number -/

/-- No whole number is nearer, and the number is even if another one is as near. -/
structure IsNearest (x : ℚ) (k : Int) : Prop where
  le : ∀ j : Int, |x - k| ≤ |x - j|
  even : ∀ j : Int, j ≠ k → |x - j| = |x - k| → Even k

/-- Where one whole number is a half away at most, any other is a half away at least. -/
theorem half_le_abs_sub (h : |x - k| ≤ 1 / 2) (hj : j ≠ k) : 1 / 2 ≤ |x - j| := by
  have hone : (1 : ℚ) ≤ |(j : ℚ) - k| := by exact_mod_cast Int.one_le_abs (sub_ne_zero.2 hj)
  have hthrough := abs_sub_le (j : ℚ) x k
  rw [abs_sub_comm (j : ℚ) x] at hthrough
  linarith

theorem isNearest_of_half (h : |x - k| ≤ 1 / 2) (heven : |x - k| = 1 / 2 → Even k) :
    IsNearest x k where
  le j := by
    by_cases hj : j = k
    · rw [hj]
    · exact h.trans (half_le_abs_sub h hj)
  even j hj htie := heven (le_antisymm h (htie ▸ half_le_abs_sub h hj))

theorem isNearest_intCast (k : Int) : IsNearest k k := by
  have hzero : |(k : ℚ) - k| = 0 := by rw [sub_self, abs_zero]
  refine isNearest_of_half ?_ fun h => ?_
  · rw [hzero]
    exact one_half_pos.le
  · rw [hzero] at h
    exact absurd h.symm one_half_pos.ne'

namespace IsNearest

/-- The nearest number is a half away at most, for its neighbours are no nearer. -/
theorem bounds (h : IsNearest x k) : -(1 / 2) ≤ x - k ∧ x - k ≤ 1 / 2 := by
  have habove := h.le (k + 1)
  have hbelow := h.le (k - 1)
  push_cast at habove hbelow
  constructor
  · rcases abs_cases (x - k) with ⟨-, hsign⟩ | ⟨habs, -⟩
    · linarith
    · rcases abs_cases (x - (k - 1)) with ⟨habs', -⟩ | ⟨habs', -⟩ <;> linarith
  · rcases abs_cases (x - k) with ⟨habs, -⟩ | ⟨-, hsign⟩
    · rcases abs_cases (x - (k + 1)) with ⟨habs', -⟩ | ⟨habs', -⟩ <;> linarith
    · linarith

theorem eq (hj : IsNearest x j) (hk : IsNearest x k) : j = k := by
  obtain ⟨hj₁, hj₂⟩ := hj.bounds
  obtain ⟨hk₁, hk₂⟩ := hk.bounds
  have hle : j ≤ k + 1 := by
    have hcast : (j : ℚ) ≤ (k + 1 : Int) := by push_cast; linarith
    exact_mod_cast hcast
  have hge : k ≤ j + 1 := by
    have hcast : (k : ℚ) ≤ (j + 1 : Int) := by push_cast; linarith
    exact_mod_cast hcast
  by_contra hne
  -- Two neighbours are as near, so that both would be even.
  have htie : |x - j| = |x - k| := le_antisymm (hj.le k) (hk.le j)
  have heven := Int.even_iff.1 (hk.even j hne htie)
  have heven' := Int.even_iff.1 (hj.even k (Ne.symm hne) htie.symm)
  omega

/-- The nearest number does not fall. -/
theorem mono (h : x ≤ y) (hj : IsNearest x j) (hk : IsNearest y k) : j ≤ k := by
  by_contra hlt
  have hcast : ((k + 1 : Int) : ℚ) ≤ j := by exact_mod_cast Int.not_le.1 hlt
  push_cast at hcast
  have hx := hj.bounds.1
  have hy := hk.bounds.2
  have heq : x = y := by linarith
  rw [heq] at hj
  exact hlt (hj.eq hk).le

theorem neg (h : IsNearest x k) : IsNearest (-x) (-k) := by
  have hsign (j : Int) : |-x - ((-j : Int) : ℚ)| = |x - j| := by
    rw [← abs_neg]
    congr 1
    push_cast
    ring
  constructor
  · intro j
    have hle := h.le (-j)
    rwa [← hsign k, ← hsign (-j), neg_neg] at hle
  · intro j hj htie
    rw [hsign k, ← neg_neg j, hsign (-j)] at htie
    exact (h.even (-j) (fun he => hj (by rw [← he, neg_neg])) htie).neg

end IsNearest

/-! ## Quotients -/

/-- A quotient is nearest if half the divisor at most is left over. -/
theorem isNearest_of_remainder {r : Int} (hd : 0 < d) (h : n = d * k + r) (hr : 2 * |r| ≤ d)
    (heven : 2 * |r| = d → Even k) : IsNearest ((n : ℚ) / d) k := by
  have hpos : (0 : ℚ) < d := by exact_mod_cast hd
  have hrest : (n : ℚ) / d - k = r / d := by
    rw [h]
    push_cast
    field_simp
    ring
  have habs : |(n : ℚ) / d - k| = (|r| : Int) / d := by
    rw [hrest, abs_div, abs_of_pos hpos, Int.cast_abs]
  refine isNearest_of_half ?_ fun htie => heven ?_
  · rw [habs, div_le_div_iff₀ hpos two_pos]
    exact_mod_cast (by omega : |r| * 2 ≤ 1 * (d : Int))
  · rw [habs, div_eq_div_iff hpos.ne' two_ne_zero] at htie
    have htie : |r| * 2 = 1 * (d : Int) := by exact_mod_cast htie
    omega

theorem isNearest_divHalfEven (n : Int) (hd : 0 < d) :
    IsNearest ((n : ℚ) / d) (divHalfEven n d) := by
  have hsplit : n = d * (n / d) + n % d := (Int.mul_ediv_add_emod n d).symm
  have hnext : n = d * (n / d + 1) + (n % d - d) := by
    rw [Int.mul_add]
    omega
  have hnonneg : 0 ≤ n % d := Int.emod_nonneg n (by omega)
  have hlt : n % d < d := Int.emod_lt_of_pos n (by omega)
  have hbelow : |n % d| = n % d := abs_of_nonneg hnonneg
  have habove : |n % d - d| = d - n % d := by
    rw [abs_of_neg (by omega)]
    omega
  rw [divHalfEven]
  split
  · exact isNearest_of_remainder hd hsplit (by omega) (by omega)
  split
  · exact isNearest_of_remainder hd hnext (by omega) (by omega)
  split
  · next heven => exact isNearest_of_remainder hd hsplit (by omega) fun _ => Int.even_iff.2 heven
  · next hodd =>
    exact isNearest_of_remainder hd hnext (by omega) fun _ => Int.even_iff.2 (by omega)

theorem divHalfEven_mono (hd : 0 < d) (h : m ≤ n) : divHalfEven m d ≤ divHalfEven n d := by
  refine IsNearest.mono ?_ (isNearest_divHalfEven m hd) (isNearest_divHalfEven n hd)
  have hcast : (m : ℚ) ≤ n := by exact_mod_cast h
  exact div_le_div_of_nonneg_right hcast (Nat.cast_nonneg d)

/-- A quotient that is a whole number is left alone. -/
theorem divHalfEven_mul (hd : 0 < d) (k : Int) : divHalfEven (k * d) d = k := by
  have hpos : (d : ℚ) ≠ 0 := by exact_mod_cast hd.ne'
  have h := isNearest_divHalfEven (k * d) hd
  push_cast at h
  rw [mul_div_cancel_right₀ _ hpos] at h
  exact h.eq (isNearest_intCast k)

theorem divHalfEven_neg (hd : 0 < d) (n : Int) : divHalfEven (-n) d = -divHalfEven n d := by
  have h := isNearest_divHalfEven (-n) hd
  rw [Int.cast_neg, neg_div] at h
  exact h.eq (isNearest_divHalfEven n hd).neg

/-! ## Binary digits -/

/-- A number has more digits than a power of two has zeros if it is no smaller. -/
theorem lt_bitLength_iff {n : Nat} : e < bitLength n ↔ 2 ^ e ≤ n := by
  rw [bitLength]
  split
  · next h => simp [h]
  · next h => rw [Nat.lt_succ_iff, Nat.le_log2 h]

/-- The place of the last digit that is kept. -/
def lastPlace (bits : Nat) (n : Int) : Nat := twoTo (bitLength n.natAbs - bits)

theorem roundToBits_eq (bits : Nat) (n : Int) :
    roundToBits bits n = divHalfEven n (lastPlace bits n) * lastPlace bits n := rfl

theorem lastPlace_pos : 0 < lastPlace bits n := Nat.two_pow_pos _

theorem lastPlace_neg : lastPlace bits (-n) = lastPlace bits n := by
  rw [lastPlace, lastPlace, Int.natAbs_neg]

theorem lastPlace_dvd (h : bitLength n.natAbs ≤ e + bits) :
    (lastPlace bits n : Int) ∣ (2 ^ e : Nat) :=
  Int.natCast_dvd_natCast.2 (Nat.pow_dvd_pow 2 (by omega))

/-! ## Rounding to leading digits -/

/-- Rounding does not get past a multiple of the last place. -/
theorem roundToBits_le (h : n ≤ b) (hb : (lastPlace bits n : Int) ∣ b) :
    roundToBits bits n ≤ b := by
  obtain ⟨c, rfl⟩ := hb
  have hle := divHalfEven_mono lastPlace_pos h (d := lastPlace bits n)
  rw [Int.mul_comm, divHalfEven_mul lastPlace_pos] at hle
  rw [roundToBits_eq, Int.mul_comm _ c]
  exact Int.mul_le_mul_of_nonneg_right hle (Int.natCast_nonneg _)

theorem roundToBits_neg (bits : Nat) (n : Int) :
    roundToBits bits (-n) = -roundToBits bits n := by
  rw [roundToBits_eq, roundToBits_eq, lastPlace_neg, divHalfEven_neg lastPlace_pos, Int.neg_mul]

theorem le_roundToBits (h : b ≤ n) (hb : (lastPlace bits n : Int) ∣ b) :
    b ≤ roundToBits bits n := by
  rw [← lastPlace_neg, ← Int.dvd_neg] at hb
  have hneg := roundToBits_le (Int.neg_le_neg h) hb
  rw [roundToBits_neg] at hneg
  exact Int.neg_le_neg_iff.1 hneg

/-- A multiple of the last place is left alone. -/
theorem roundToBits_of_dvd (h : (lastPlace bits n : Int) ∣ n) : roundToBits bits n = n :=
  Int.le_antisymm (roundToBits_le (Int.le_refl n) h) (le_roundToBits (Int.le_refl n) h)

theorem roundToBits_nonneg (h : 0 ≤ n) : 0 ≤ roundToBits bits n :=
  le_roundToBits h (Int.dvd_zero _)

/-- The amount of a number is rounded as the number is. -/
theorem roundToBits_natAbs (bits : Nat) (n : Int) :
    roundToBits bits n.natAbs = (roundToBits bits n).natAbs := by
  rcases Int.natAbs_eq n with h | h
  · rw [← h]
    exact (Int.natAbs_of_nonneg (roundToBits_nonneg (by omega))).symm
  · have hneg := roundToBits_neg bits n.natAbs
    rw [← h] at hneg
    rw [hneg, Int.natAbs_neg]
    exact (Int.natAbs_of_nonneg (roundToBits_nonneg (Int.natCast_nonneg _))).symm

/-- Whole numbers up to the power of two that has one digit more are left alone. -/
theorem roundToBits_of_natAbs_le (hbits : 0 < bits) (h : n.natAbs ≤ 2 ^ bits) :
    roundToBits bits n = n := by
  apply roundToBits_of_dvd
  rcases Nat.lt_or_eq_of_le h with hlt | heq
  · have hlength : bitLength n.natAbs ≤ 0 + bits := by
      rw [Nat.zero_add, ← Nat.not_lt, lt_bitLength_iff]
      omega
    exact Int.dvd_trans (lastPlace_dvd hlength) (Int.one_dvd n)
  · have hlength : bitLength n.natAbs ≤ bits + bits := by
      have hsucc : ¬ bits + 1 < bitLength n.natAbs := by
        rw [lt_bitLength_iff, heq, Nat.pow_succ]
        have := Nat.two_pow_pos bits
        omega
      omega
    have hamount : ((2 ^ bits : Nat) : Int) ∣ n := by rw [← Int.dvd_natAbs, heq]
    exact Int.dvd_trans (lastPlace_dvd hlength) hamount

/-! ## The nearest number with so many digits -/

/-- A whole number of so many binary digits at most, and zeros after them. -/
def HasDigits (bits : Nat) (b : Int) : Prop :=
  ∃ (c : Int) (e : Nat), b = c * (2 ^ e : Nat) ∧ c.natAbs < 2 ^ bits

theorem HasDigits.neg (h : HasDigits bits b) : HasDigits bits (-b) := by
  obtain ⟨c, e, rfl, hc⟩ := h
  exact ⟨-c, e, (Int.neg_mul c _).symm, by rwa [Int.natAbs_neg]⟩

theorem hasDigits_two_pow (hbits : 0 < bits) (e : Nat) : HasDigits bits (2 ^ e : Nat) :=
  ⟨1, e, (Int.one_mul _).symm, Nat.one_lt_two_pow hbits.ne'⟩

/-- A number of such digits that is as long as another one is a multiple of its last place. -/
theorem HasDigits.lastPlace_dvd (h : HasDigits bits b) (hlength : bitLength n.natAbs = e + 1)
    (hb : 2 ^ e ≤ b.natAbs) : (lastPlace bits n : Int) ∣ b := by
  obtain ⟨c, f, rfl, hc⟩ := h
  rw [Int.natAbs_mul, Int.natAbs_natCast] at hb
  have hlt : 2 ^ e < 2 ^ (bits + f) := by
    rw [Nat.pow_add]
    exact Nat.lt_of_le_of_lt hb (Nat.mul_lt_mul_of_pos_right hc (Nat.two_pow_pos f))
  have hexponent := (Nat.pow_lt_pow_iff_right (by omega)).1 hlt
  exact Int.dvd_mul_of_dvd_right (Number.lastPlace_dvd (by omega))

/-- What is kept are the leading digits, or a power of two if they carry. -/
theorem hasDigits_roundToBits (hbits : 0 < bits) (n : Int) :
    HasDigits bits (roundToBits bits n) := by
  have hlength : n.natAbs < 2 ^ bitLength n.natAbs :=
    Nat.not_le.1 (mt lt_bitLength_iff.2 (Nat.lt_irrefl _))
  rcases Nat.le_total (bitLength n.natAbs) bits with hshort | hlong
  · have hn := Nat.lt_of_lt_of_le hlength (Nat.pow_le_pow_right Nat.two_pos hshort)
    rw [roundToBits_of_natAbs_le hbits hn.le]
    exact ⟨n, 0, (Int.mul_one n).symm, hn⟩
  have hpower := lastPlace_dvd (n := n) (Nat.le_add_right (bitLength n.natAbs) bits)
  have habove := roundToBits_le (by omega) hpower
  have hbelow := le_roundToBits (by omega) (Int.dvd_neg.2 hpower)
  have hplaces : 2 ^ bitLength n.natAbs = 2 ^ bits * lastPlace bits n := by
    rw [lastPlace, ← Nat.add_sub_cancel' hlong, Nat.pow_add, Nat.add_sub_cancel_left]
    rfl
  have hpos : 0 < lastPlace bits n := lastPlace_pos
  have hproduct : (roundToBits bits n).natAbs =
      (divHalfEven n (lastPlace bits n)).natAbs * lastPlace bits n := by
    rw [roundToBits_eq, Int.natAbs_mul, Int.natAbs_natCast]
  have hamount : (divHalfEven n (lastPlace bits n)).natAbs ≤ 2 ^ bits := by
    refine Nat.le_of_mul_le_mul_right ?_ hpos
    rw [← hplaces, ← hproduct]
    omega
  rcases Nat.lt_or_eq_of_le hamount with hlt | heq
  · exact ⟨divHalfEven n (lastPlace bits n), bitLength n.natAbs - bits, rfl, hlt⟩
  · rw [heq, ← hplaces] at hproduct
    rcases Int.natAbs_eq (roundToBits bits n) with h | h
    · rw [h, hproduct]
      exact hasDigits_two_pow hbits _
    · rw [h, hproduct]
      exact (hasDigits_two_pow hbits _).neg

/-- No multiple of the last place is nearer. -/
theorem abs_sub_roundToBits_le_of_dvd (hb : (lastPlace bits n : Int) ∣ b) :
    |n - roundToBits bits n| ≤ |n - b| := by
  obtain ⟨c, rfl⟩ := hb
  have hpos : (0 : ℚ) < lastPlace bits n := by exact_mod_cast lastPlace_pos
  have hscale (k : Int) : |(n : ℚ) / lastPlace bits n - k| * lastPlace bits n =
      (|n - lastPlace bits n * k| : Int) := by
    rw [← abs_of_pos hpos, ← abs_mul, abs_of_pos hpos, sub_mul, div_mul_cancel₀ _ hpos.ne']
    push_cast
    rw [mul_comm (k : ℚ)]
  have hle := (isNearest_divHalfEven n (d := lastPlace bits n) lastPlace_pos).le c
  have hle := mul_le_mul_of_nonneg_right hle hpos.le
  rw [hscale, hscale] at hle
  rw [roundToBits_eq, Int.mul_comm _ (lastPlace bits n : Int)]
  exact_mod_cast hle

theorem abs_sub_roundToBits_le_of_nonneg (hbits : 0 < bits) (hn : 0 ≤ n) (hb : HasDigits bits b) :
    |n - roundToBits bits n| ≤ |n - b| := by
  cases hlength : bitLength n.natAbs with
  | zero =>
    have hplace : (lastPlace bits n : Int) ∣ (2 ^ 0 : Nat) := lastPlace_dvd (by omega)
    exact abs_sub_roundToBits_le_of_dvd (Int.dvd_trans hplace (Int.one_dvd b))
  | succ e =>
    rcases Nat.lt_or_ge b.natAbs (2 ^ e) with hshort | hlong
    · -- The power of two with which the numbers of that length start stands between.
      have hpower : 2 ^ e ≤ n.natAbs := lt_bitLength_iff.1 (by omega)
      have hplace : (lastPlace bits n : Int) ∣ (2 ^ e : Nat) := lastPlace_dvd (by omega)
      calc |n - roundToBits bits n| ≤ |n - (2 ^ e : Nat)| := abs_sub_roundToBits_le_of_dvd hplace
        _ = n - (2 ^ e : Nat) := abs_of_nonneg (by omega)
        _ ≤ n - b := by omega
        _ ≤ |n - b| := le_abs_self _
    · exact abs_sub_roundToBits_le_of_dvd (hb.lastPlace_dvd hlength hlong)

/-- No number of such digits is nearer. -/
theorem abs_sub_roundToBits_le (hbits : 0 < bits) (n : Int) (hb : HasDigits bits b) :
    |n - roundToBits bits n| ≤ |n - b| := by
  rcases Int.le_total 0 n with hn | hn
  · exact abs_sub_roundToBits_le_of_nonneg hbits hn hb
  · have hneg := abs_sub_roundToBits_le_of_nonneg hbits (Int.neg_nonneg_of_nonpos hn) hb.neg
    rwa [roundToBits_neg, neg_sub_neg, neg_sub_neg, abs_sub_comm, abs_sub_comm b] at hneg

/-- A number that is as near to the greater of two is not below their middle. -/
theorem add_le_of_abs_sub_le (h : j < k) (hn : |n - k| ≤ |n - j|) : j + k ≤ 2 * n := by
  rcases abs_cases (n - k) with ⟨hk, hk'⟩ | ⟨hk, hk'⟩
  · omega
  · rcases abs_cases (n - j) with ⟨hj, hj'⟩ | ⟨hj, hj'⟩ <;> omega

theorem le_add_of_abs_sub_le (h : j < k) (hn : |n - j| ≤ |n - k|) : 2 * n ≤ j + k := by
  rcases abs_cases (n - j) with ⟨hj, hj'⟩ | ⟨hj, hj'⟩
  · rcases abs_cases (n - k) with ⟨hk, hk'⟩ | ⟨hk, hk'⟩ <;> omega
  · omega

/-- Rounding keeps the order. -/
theorem roundToBits_mono (hbits : 0 < bits) (h : m ≤ n) :
    roundToBits bits m ≤ roundToBits bits n := by
  by_contra hlt
  have hlt := Int.not_le.1 hlt
  have hm := add_le_of_abs_sub_le hlt (abs_sub_roundToBits_le hbits m (hasDigits_roundToBits hbits n))
  have hn := le_add_of_abs_sub_le hlt (abs_sub_roundToBits_le hbits n (hasDigits_roundToBits hbits m))
  -- Neither number is past the middle between the two, so that they are the same.
  have heq : m = n := by omega
  rw [heq] at hlt
  exact Int.lt_irrefl _ hlt

end FeatureGen.Number

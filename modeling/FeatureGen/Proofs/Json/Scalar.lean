import FeatureGen.Json.Printer
import FeatureGen.Json.Reader
import FeatureGen.Proofs.Text.Span

/-!
# Strings and whole numbers of JSON

A string is read back from what is written for it, whatever its characters are: each is read back
from its own escape or from itself (`readString?_keepChar`).

A whole number is read back from its decimal digits, because no zero stands in front of others
(`head?_digits`), if there are not too many of them and none follows (`readNumber?_digits`).
-/

namespace FeatureGen.Json

open FeatureGen.Text

variable {c : Char} {s rest done : List Char} {n : Nat}

/-! ## Strings -/

theorem hexValue?_hexChar : ∀ n < 16, hexValue? (hexChar n) = some n := by decide

/-- A unit is read back from its four digits. -/
theorem hexUnit?_hexChar (h : n < 0x10000) :
    hexUnit? (hexChar (n / 4096 % 16)) (hexChar (n / 256 % 16)) (hexChar (n / 16 % 16))
      (hexChar (n % 16)) = some n := by
  have hdigit (m : Nat) : hexValue? (hexChar (m % 16)) = some (m % 16) :=
    hexValue?_hexChar _ (Nat.mod_lt m (by decide))
  have hsum : ((n / 4096 % 16 * 16 + n / 256 % 16) * 16 + n / 16 % 16) * 16 + n % 16 = n := by omega
  simp [hexUnit?, hdigit, hsum]

/-- A control character is read back from its escape. -/
theorem readString?_unitEscape (h : c.toNat < 0x20) (done s : List Char) :
    readString? done (unitEscape c.toNat ++ s) = readString? (c :: done) s := by
  have hhigh : ¬ (0xD800 ≤ c.toNat ∧ c.toNat < 0xDC00) := by omega
  have hlow : ¬ (0xDC00 ≤ c.toNat ∧ c.toNat < 0xE000) := by omega
  simp only [unitEscape, List.cons_append, List.nil_append, readString?,
    hexUnit?_hexChar (show c.toNat < 0x10000 by omega), if_neg hhigh, if_neg hlow, Char.ofNat_toNat]

/-- A character without an escape stands for itself. -/
theorem readString?_cons (hquote : c ≠ '"') (hbackslash : c ≠ '\\') (hcontrol : ¬ c.toNat < 0x20)
    (done s : List Char) : readString? done (c :: s) = readString? (c :: done) s := by
  rw [readString?.eq_def]
  split
  · next heq => cases heq
  · next heq => cases heq; exact absurd rfl hquote
  · next heq => cases heq; exact absurd rfl hbackslash
  · next heq => cases heq; exact absurd rfl hbackslash
  · next heq =>
    cases heq
    rw [if_neg (by simp [hbackslash, hcontrol])]

/-- A character is read back from what is written for it. -/
theorem readString?_keepChar (c : Char) (done s : List Char) :
    readString? done (keepChar c ++ s) = readString? (c :: done) s := by
  rw [keepChar, required?]
  split
  · next h => subst h; rfl
  split
  · next h => subst h; rfl
  split
  · next h => subst h; rfl
  split
  · next h => subst h; rfl
  split
  · next h => subst h; rfl
  split
  · next h => subst h; rfl
  split
  · next h => subst h; rfl
  split
  · next h => exact readString?_unitEscape h done s
  · next hquote hbackslash _ _ _ _ _ hcontrol =>
    exact readString?_cons hquote hbackslash hcontrol done s

/-- A string is read back from what is written between its quotes. -/
theorem readString?_flatMap (cs done rest : List Char) :
    readString? done (cs.flatMap keepChar ++ '"' :: rest) = some (done.reverse ++ cs, rest) := by
  induction cs generalizing done with
  | nil => rw [List.append_nil]; rfl
  | cons c cs ih =>
    rw [List.flatMap_cons, List.append_assoc, readString?_keepChar, ih, List.reverse_cons,
      List.append_assoc, List.singleton_append]

/-! ## Whole numbers -/

theorem isDigit_of_mem_digits (h : c ∈ digits n) : c.isDigit = true :=
  Nat.isDigit_of_mem_toDigits (by decide) (by decide) h

theorem digits_ne_nil : digits n ≠ [] := Nat.toDigits_ne_nil

/-- A number is the value of its digits. -/
theorem decimal_digits (n : Nat) : decimal (digits n) = n :=
  Nat.ofDigitChars_toDigits (by decide) (by decide)

/-- No zero stands in front of other digits. -/
theorem head?_digits (h : 0 < n) : (digits n).head? ≠ some '0' := by
  induction n using Nat.strongRecOn with
  | ind n ih =>
    by_cases hn : n < 10
    · rw [digits, Nat.toDigits_of_lt_base hn, List.head?_cons, Ne, Option.some_inj,
        Nat.digitChar_eq_zero]
      exact Nat.ne_of_gt h
    · have hle : 10 ≤ n := Nat.not_lt.1 hn
      have hhead := ih (n / 10) (by omega) (by omega)
      obtain ⟨d, ds, hds⟩ := List.exists_cons_of_ne_nil (digits_ne_nil (n := n / 10))
      rw [digits] at hds hhead ⊢
      rw [Nat.toDigits_of_base_le (by decide) hle, hds]
      rw [hds] at hhead
      exact hhead

theorem isWhole_digits {negative : Bool}
    (h : (digits n).length + negative.toNat ≤ digitLimit) : isWhole negative (digits n) = true := by
  rw [isWhole, Bool.and_eq_true, Bool.or_eq_true, decide_eq_true_iff, decide_eq_true_iff,
    bne_iff_ne]
  refine ⟨?_, h⟩
  rcases Nat.eq_zero_or_pos n with rfl | hpos
  · exact .inl (by decide)
  · exact .inr (head?_digits hpos)

/-- Characters by which a number goes on. -/
def isNumberChar (c : Char) : Bool := c.isDigit || c = '.' || c = 'e' || c = 'E'

theorem readFraction?_of_notStarting (h : NotStarting isNumberChar rest) :
    readFraction? rest = some ([], rest) := by
  rw [readFraction?.eq_def]
  split
  · exact absurd (notStarting_cons.1 h) (by decide)
  · rfl

theorem readPower?_of_notStarting (h : NotStarting isNumberChar rest) :
    readPower? rest = some (none, rest) := by
  cases rest with
  | nil => rfl
  | cons c s =>
    have hc := notStarting_cons.1 h
    have hpower : ¬ (c = 'e' || c = 'E') = true := by
      intro he
      rw [isNumberChar, Bool.or_assoc, he] at hc
      simp at hc
    rw [readPower?.eq_def]
    exact if_neg hpower

/-- A number is read back from its digits. -/
theorem readNumber?_digits {negative : Bool} (hn : (digits n).length + negative.toNat ≤ digitLimit)
    (hrest : NotStarting isNumberChar rest) :
    readNumber? negative (digits n ++ rest) = some (.int (if negative then -n else n), rest) := by
  have hdigit : Every Char.isDigit (digits n) := fun c hc => isDigit_of_mem_digits hc
  have hend : NotStarting Char.isDigit rest := hrest.mono fun c hc => by
    rw [isNumberChar] at hc
    simp only [Bool.or_eq_false_iff] at hc
    exact hc.1.1.1
  have hread : readDigits? (digits n ++ rest) = some (digits n, rest) := by
    rw [readDigits?, takeWhile_append_of_notStarting hdigit hend,
      dropWhile_append_of_notStarting hdigit hend]
    split
    · next h => exact absurd h digits_ne_nil
    · rfl
  simp [readNumber?, hread, isWhole_digits hn, readFraction?_of_notStarting hrest,
    readPower?_of_notStarting hrest, decimal_digits]

/-- A text that starts with a digit is read as a number. -/
theorem readScalar?_of_isDigit (h : c.isDigit = true) (s : List Char) :
    readScalar? (c :: s) = readNumber? false (c :: s) := by
  rw [readScalar?.eq_def]
  split
  all_goals first | rfl | next heq => cases heq; exact absurd h (by decide)

/-- After a minus as well. -/
theorem readScalar?_minus (h : c.isDigit = true) (s : List Char) :
    readScalar? ('-' :: c :: s) = readNumber? true (c :: s) := by
  have hne : c ≠ 'I' := by
    rintro rfl
    exact absurd h (by decide)
  simp [readScalar?, hne]

end FeatureGen.Json

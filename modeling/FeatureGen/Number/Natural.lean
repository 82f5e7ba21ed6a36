/-!
# Powers and totals of natural numbers
-/

namespace FeatureGen.Number

/-- Two to a power. -/
def twoTo (n : Nat) : Nat := Nat.pow 2 n

/-- Ten to a power. -/
def tenTo (n : Nat) : Nat := Nat.pow 10 n

/-- The sum of some numbers. -/
def total : List Nat → Nat
  | [] => 0
  | n :: ns => n + total ns

theorem total_append (l m : List Nat) : total (l ++ m) = total l + total m := by
  induction l with
  | nil => simp [total]
  | cons n l ih =>
    rw [List.cons_append, total, total, ih]
    omega

/-- A total does not depend on the order. -/
theorem total_perm {l m : List Nat} (h : l.Perm m) : total l = total m := by
  induction h with
  | nil => rfl
  | cons n _ ih => rw [total, total, ih]
  | swap n k l => simp only [total, Nat.add_left_comm]
  | trans _ _ ih ih' => exact ih.trans ih'

end FeatureGen.Number

import FeatureGen.Proofs.Schema.Quote

/-!
# The parenthesis that balances

Which parenthesis closes another one can be said without a scan, by counting in the text between
them: a character is quoted if an odd number of quotes stands between the opening parenthesis and
it, and the closing parenthesis is the first unquoted one up to which as many parentheses are opened
outside quotes as are closed (`BalancedAt`).  `closingParen?_balanced` says that this is what the
scan finds, and that it finds it wherever the text begins and however it goes on.

The scan stops at the first position at which its accounts of strings and of depth allow it
(`ClosesAt`).  `isQuoted_eq` and `unquoted_sub_unquoted` say that the accounts are right: after each
part of the text they agree with what is counted up to the end of the part.
-/

namespace FeatureGen.Schema

open FeatureGen.Text

variable {c : Char} {s text : List Char} {before : Option Char} {depth : Int} {inString : Bool}
  {start i k n : Nat}

/-! ## Counting -/

/-- Whether a double quote stands at a position, and no backslash before it. -/
def isQuoteAt (text : List Char) (k : Nat) : Bool :=
  text[k]? == some '"' && text[k - 1]? != some '\\'

/-- Whether an odd number of quotes stands between two positions. -/
def isQuoted (text : List Char) (start i : Nat) : Bool :=
  ((List.range i).countP fun k => decide (start < k) && isQuoteAt text k) % 2 == 1

/-- How often a character stands outside quotes from one position to another, both included. -/
def unquoted (text : List Char) (start : Nat) (c : Char) (i : Nat) : Nat :=
  (List.range (i + 1)).countP fun k =>
    decide (start ≤ k) && text[k]? == some c && !isQuoted text start k

/-- A closing parenthesis outside quotes up to which the parentheses outside quotes are balanced. -/
structure BalancedAt (text : List Char) (start i : Nat) : Prop where
  lt : start < i
  closes : text[i]? = some ')'
  outside : isQuoted text start i = false
  balanced : unquoted text start '(' i = unquoted text start ')' i

theorem isQuoted_start (text : List Char) (h : i ≤ start + 1) : isQuoted text start i = false := by
  have hzero : (List.range i).countP (fun k => decide (start < k) && isQuoteAt text k) = 0 := by
    rw [List.countP_eq_zero]
    intro k hk
    have hlt : ¬ start < k := by
      have hk := List.mem_range.1 hk
      omega
    simp [hlt]
  rw [isQuoted, hzero]
  rfl

/-- One more that counts turns an even number odd and an odd one even. -/
theorem countP_range_succ_odd (test : Nat → Bool) (i : Nat) :
    ((List.range (i + 1)).countP test % 2 == 1) =
      if test i then !((List.range i).countP test % 2 == 1)
      else (List.range i).countP test % 2 == 1 := by
  rw [List.range_succ, List.countP_append, List.countP_singleton]
  generalize (List.range i).countP test = count
  cases test i with
  | false => simp
  | true =>
    rw [if_pos rfl, if_pos rfl, Bool.eq_iff_iff]
    simp
    omega

/-- A quote begins or ends what is quoted behind it. -/
theorem isQuoted_succ (text : List Char) (h : start < i) :
    isQuoted text start (i + 1) =
      if isQuoteAt text i then !isQuoted text start i else isQuoted text start i := by
  have hstep := countP_range_succ_odd (fun k => decide (start < k) && isQuoteAt text k) i
  rwa [decide_eq_true h, Bool.true_and] at hstep

theorem unquoted_start (text : List Char) (start : Nat) (c : Char) :
    unquoted text start c start = if text[start]? = some c then 1 else 0 := by
  have hzero : (List.range start).countP (fun k =>
      decide (start ≤ k) && text[k]? == some c && !isQuoted text start k) = 0 := by
    rw [List.countP_eq_zero]
    intro k hk
    have hlt : ¬ start ≤ k := by
      have hk := List.mem_range.1 hk
      omega
    simp [hlt]
  rw [unquoted, List.range_succ, List.countP_append, hzero, List.countP_singleton,
    isQuoted_start text (Nat.le_succ start)]
  simp

theorem unquoted_succ (text : List Char) (c : Char) (h : start ≤ i) :
    unquoted text start c (i + 1) = unquoted text start c i +
      if text[i + 1]? = some c ∧ isQuoted text start (i + 1) = false then 1 else 0 := by
  have hle : start ≤ i + 1 := Nat.le_succ_of_le h
  rw [unquoted, List.range_succ, List.countP_append, List.countP_singleton, unquoted]
  simp [hle]

/-! ## The accounts of the scan -/

theorem lastChar_take_succ (before : Option Char) (h : n < s.length) :
    lastChar before (s.take (n + 1)) = s[n]? := by
  rw [List.take_add_one, List.getElem?_eq_getElem h, lastChar_append]
  rfl

section Accounts

variable (hopen : text[start]? = some '(')

include hopen

/-- Before the end of a part of the text stands the character that the scan has last seen. -/
theorem getElem?_eq_lastChar (hn : n ≤ (text.drop (start + 1)).length) :
    text[start + n]? = lastChar (some '(') ((text.drop (start + 1)).take n) := by
  cases n with
  | zero => exact hopen
  | succ n => rw [lastChar_take_succ _ hn, List.getElem?_drop, Nat.add_assoc, Nat.add_comm 1 n]

/-- A position is quoted if the scan has a string open there. -/
theorem isQuoted_eq (hn : n ≤ (text.drop (start + 1)).length) :
    isQuoted text start (start + 1 + n) =
      inStringAfter false (some '(') ((text.drop (start + 1)).take n) := by
  induction n with
  | zero => exact isQuoted_start text (Nat.le_refl _)
  | succ n ih =>
    obtain ⟨c, hc⟩ : ∃ c, (text.drop (start + 1))[n]? = some c :=
      ⟨_, List.getElem?_eq_getElem hn⟩
    have htext : text[start + 1 + n]? = some c := by rw [← hc, List.getElem?_drop]
    have hlast : text[start + 1 + n - 1]? =
        lastChar (some '(') ((text.drop (start + 1)).take n) := by
      rw [← getElem?_eq_lastChar hopen (Nat.le_of_succ_le hn)]
      congr 1
      omega
    have hstep := isQuoted_succ text (show start < start + 1 + n by omega)
    rw [isQuoteAt, htext, hlast, ih (Nat.le_of_succ_le hn)] at hstep
    rw [← Nat.add_assoc, hstep, List.take_add_one, hc, inStringAfter_append]
    simp [inStringAfter]

/-- The parentheses that are open after a part of the text are those that the scan has counted. -/
theorem unquoted_sub_unquoted (hn : n ≤ (text.drop (start + 1)).length) :
    (unquoted text start '(' (start + n) : Int) - unquoted text start ')' (start + n) =
      1 + depthAfter '(' ')' false (some '(') ((text.drop (start + 1)).take n) := by
  induction n with
  | zero => simp [unquoted_start, hopen, depthAfter]
  | succ n ih =>
    obtain ⟨c, hc⟩ : ∃ c, (text.drop (start + 1))[n]? = some c :=
      ⟨_, List.getElem?_eq_getElem hn⟩
    have hplace : start + n + 1 = start + 1 + n := by omega
    have htext : text[start + n + 1]? = some c := by rw [hplace, ← hc, List.getElem?_drop]
    have hquoted := isQuoted_eq hopen (Nat.le_of_succ_le hn)
    have hcount := ih (Nat.le_of_succ_le hn)
    rw [← Nat.add_assoc, unquoted_succ text '(' (Nat.le_add_right start n),
      unquoted_succ text ')' (Nat.le_add_right start n), htext, hplace, hquoted, List.take_add_one,
      hc, depthAfter_append, ← Int.add_assoc, ← hcount]
    cases inStringAfter false (some '(') ((text.drop (start + 1)).take n) with
    | true => simp [depthAfter]
    | false =>
      by_cases hleft : c = '('
      · simp [depthAfter, hleft]
        omega
      by_cases hright : c = ')'
      · simp [depthAfter, hright]
        omega
      · simp [depthAfter, hleft, hright]

end Accounts

/-! ## Where the scan stops -/

/-- The first number with a property, or none if no number has it. -/
def IsFirst (P : Nat → Prop) : Option Nat → Prop
  | some n => P n ∧ ∀ m, P m → n ≤ m
  | none => ∀ n, ¬ P n

theorem IsFirst.eq_some_iff {P : Nat → Prop} {o : Option Nat} (h : IsFirst P o) :
    o = some n ↔ P n ∧ ∀ m, P m → n ≤ m := by
  cases o with
  | none => exact ⟨nofun, fun hn => absurd hn.1 (h n)⟩
  | some k =>
    constructor
    · rintro ⟨⟩
      exact h
    · rintro ⟨hn, hleast⟩
      rw [Nat.le_antisymm (h.2 n hn) (hleast k h.1)]

theorem IsFirst.eq_none_iff {P : Nat → Prop} {o : Option Nat} (h : IsFirst P o) :
    o = none ↔ ∀ n, ¬ P n := by
  cases o with
  | none => exact ⟨fun _ => h, fun _ => rfl⟩
  | some k => exact ⟨nofun, fun hn => absurd h.1 (hn k)⟩

/-- The first number moves with the property. -/
theorem IsFirst.map_add {P Q : Nat → Prop} {o : Option Nat} (h : IsFirst P o) (k : Nat)
    (hleast : ∀ n, Q n → k ≤ n) (hmoved : ∀ n, Q (n + k) ↔ P n) : IsFirst Q (o.map (· + k)) := by
  have hback (n : Nat) (hn : Q n) : P (n - k) := by
    rw [← hmoved, Nat.sub_add_cancel (hleast n hn)]
    exact hn
  cases o with
  | none => exact fun n hn => h _ (hback n hn)
  | some m =>
    refine ⟨(hmoved m).2 h.1, fun n hn => ?_⟩
    have hle := h.2 _ (hback n hn)
    have hkn := hleast n hn
    show m + k ≤ n
    omega

/-- The accounts of the scan let it stop at a position: what stands there is a closing parenthesis,
no string is open and one parenthesis is. -/
structure ClosesAt (depth : Int) (inString : Bool) (before : Option Char) (s : List Char) (n : Nat) :
    Prop where
  closes : s[n]? = some ')'
  outside : inStringAfter inString before (s.take n) = false
  depth_eq : depth + depthAfter '(' ')' inString before (s.take n) = 1

theorem closesAt_zero :
    ClosesAt depth inString before (c :: s) 0 ↔ c = ')' ∧ inString = false ∧ depth = 1 := by
  constructor
  · rintro ⟨hc, hstring, hdepth⟩
    exact ⟨by simpa using hc, hstring, by simpa [depthAfter] using hdepth⟩
  · rintro ⟨rfl, rfl, rfl⟩
    exact ⟨rfl, rfl, rfl⟩

/-- Behind a character the scan goes on with new accounts. -/
theorem closesAt_succ :
    ClosesAt depth inString before (c :: s) (n + 1) ↔
      ClosesAt (depth + depthAfter '(' ')' inString before [c]) (inStringAfter inString before [c])
        (some c) s n := by
  have hdepth : depthAfter '(' ')' inString before (c :: s.take n) =
      depthAfter '(' ')' inString before [c] +
        depthAfter '(' ')' (inStringAfter inString before [c]) (some c) (s.take n) := by
    simp [depthAfter]
  constructor
  · rintro ⟨hc, hstring, hone⟩
    rw [List.take_succ_cons, hdepth, ← Int.add_assoc] at hone
    exact ⟨by simpa using hc, hstring, hone⟩
  · rintro ⟨hc, hstring, hone⟩
    refine ⟨by simpa using hc, hstring, ?_⟩
    rw [List.take_succ_cons, hdepth, ← Int.add_assoc]
    exact hone

/-- The scan stops at the first position at which it may, and it misses none. -/
theorem isFirst_closeOffset? (depth : Int) (inString : Bool) (before : Option Char)
    (s : List Char) :
    IsFirst (ClosesAt depth inString before s) (closeOffset? depth inString before s) := by
  induction s generalizing depth inString before with
  | nil =>
    intro n h
    cases h.closes
  | cons c s ih =>
    rcases closeOffset?_step depth inString before c with
      ⟨hc, hstring, hdepth, hstop⟩ | ⟨hgo, hstep⟩
    · rw [hstop]
      exact ⟨closesAt_zero.2 ⟨hc, hstring, hdepth⟩, fun m _ => Nat.zero_le m⟩
    · rw [hstep]
      refine (ih _ _ _).map_add 1 (fun n h => ?_) fun n => closesAt_succ
      cases n with
      | zero =>
        have ⟨hc, hstring, hdepth⟩ := closesAt_zero.1 h
        exact absurd hdepth (hgo hc hstring)
      | succ n => exact Nat.succ_le_succ (Nat.zero_le n)

/-! ## The parenthesis that is found -/

theorem drop_eq_cons (hopen : text[start]? = some '(') :
    text.drop start = '(' :: text.drop (start + 1) := by
  obtain ⟨hlt, hchar⟩ := List.getElem?_eq_some_iff.1 hopen
  rw [List.drop_eq_getElem_cons hlt, hchar]

/-- What stands before the opening parenthesis does not matter. -/
theorem closingParen?_eq (hopen : text[start]? = some '(') :
    closingParen? text start =
      (closeOffset? 1 false (some '(') (text.drop (start + 1))).map (· + (start + 1)) := by
  rw [closingParen?, drop_eq_cons hopen]
  show (closeOffset? 0 false _ _).map (· + start) = _
  rw [closeOffset?_open, map_add_map_add, Nat.add_comm 1 start]
  rfl

/-- The scan may stop where the parentheses are balanced. -/
theorem balancedAt_iff_closesAt (hopen : text[start]? = some '(') :
    BalancedAt text start (start + 1 + n) ↔
      ClosesAt 1 false (some '(') (text.drop (start + 1)) n := by
  have hplace : start + 1 + n = start + n + 1 := by omega
  have hchar : text[start + 1 + n]? = (text.drop (start + 1))[n]? := by rw [List.getElem?_drop]
  -- What is counted at the place itself is the closing parenthesis.
  have hcounts (hc : text[start + 1 + n]? = some ')')
      (hout : isQuoted text start (start + 1 + n) = false) :
      unquoted text start '(' (start + 1 + n) = unquoted text start '(' (start + n) ∧
        unquoted text start ')' (start + 1 + n) = unquoted text start ')' (start + n) + 1 := by
    rw [hplace] at hc hout ⊢
    rw [unquoted_succ text '(' (Nat.le_add_right start n),
      unquoted_succ text ')' (Nat.le_add_right start n), hc, hout]
    simp
  have hlength (hc : (text.drop (start + 1))[n]? = some ')') :
      n ≤ (text.drop (start + 1)).length :=
    Nat.le_of_lt (List.getElem?_eq_some_iff.1 hc).1
  constructor
  · rintro ⟨-, hc, hout, hbalanced⟩
    obtain ⟨hleft, hright⟩ := hcounts hc hout
    rw [hchar] at hc
    have hsub := unquoted_sub_unquoted hopen (hlength hc)
    refine ⟨hc, ?_, ?_⟩
    · rw [← isQuoted_eq hopen (hlength hc), hout]
    · omega
  · rintro ⟨hc, hout, hdepth⟩
    have hsub := unquoted_sub_unquoted hopen (hlength hc)
    rw [← isQuoted_eq hopen (hlength hc)] at hout
    rw [← hchar] at hc
    obtain ⟨hleft, hright⟩ := hcounts hc hout
    exact ⟨by omega, hc, hout, by omega⟩

/-- The parenthesis that is found is the first that balances the opening one. -/
theorem isFirst_closingParen? (hopen : text[start]? = some '(') :
    IsFirst (BalancedAt text start) (closingParen? text start) := by
  rw [closingParen?_eq hopen]
  refine (isFirst_closeOffset? 1 false (some '(') (text.drop (start + 1))).map_add (start + 1)
    (fun i h => h.lt) fun n => ?_
  rw [Nat.add_comm n]
  exact balancedAt_iff_closesAt hopen

/-- The text behind the parenthesis that is found does not matter. -/
theorem closingParen?_take_append (hopen : text[start]? = some '(')
    (h : closingParen? text start = some i) (t : List Char) :
    closingParen? (text.take (i + 1) ++ t) start = some i := by
  rw [closingParen?_eq hopen] at h
  obtain ⟨n, hn, rfl⟩ := Option.map_eq_some_iff.1 h
  obtain ⟨p, r, hsplit, rfl, -, hclose⟩ := exists_of_closeOffset? hn
  have htext : text = text.take start ++ '(' :: (p ++ ')' :: r) := by
    rw [← hsplit, ← drop_eq_cons hopen, List.take_append_drop]
  have hlength : (text.take start).length = start :=
    List.length_take_of_le (Nat.le_of_lt (List.getElem?_eq_some_iff.1 hopen).1)
  generalize text.take start = lead at htext hlength
  subst htext hlength
  have htake : (lead ++ '(' :: (p ++ ')' :: r)).take (p.length + (lead.length + 1) + 1) =
      lead ++ '(' :: (p ++ [')']) := by
    have hparts : lead ++ '(' :: (p ++ ')' :: r) = (lead ++ '(' :: (p ++ [')'])) ++ r := by simp
    rw [hparts]
    exact List.take_left' (by simp; omega)
  have hstart : (lead ++ '(' :: (p ++ [')']) ++ t)[lead.length]? = some '(' := by simp
  have hrest : (lead ++ '(' :: (p ++ [')']) ++ t).drop (lead.length + 1) = p ++ ')' :: t := by
    have hparts : lead ++ '(' :: (p ++ [')']) ++ t = (lead ++ ['(']) ++ (p ++ ')' :: t) := by simp
    rw [hparts]
    exact List.drop_left' (by simp)
  rw [htake, closingParen?_eq hstart, hrest, hclose]
  rfl

/-- A text that is put before moves the parenthesis that is found. -/
theorem closingParen?_append_left (hopen : text[start]? = some '(') (p : List Char) :
    closingParen? (p ++ text) (p.length + start) =
      (closingParen? text start).map (p.length + ·) := by
  have hstart : (p ++ text)[p.length + start]? = some '(' := by
    rw [List.getElem?_append_right (Nat.le_add_right _ _), Nat.add_sub_cancel_left, hopen]
  have hrest : (p ++ text).drop (p.length + start + 1) = text.drop (start + 1) := by
    rw [Nat.add_assoc, List.drop_append]
    simp
  rw [closingParen?_eq hstart, closingParen?_eq hopen, hrest, Option.map_map]
  congr 1
  funext n
  show n + (p.length + start + 1) = p.length + (n + (start + 1))
  omega

/-- The parenthesis that is found for an opening one is the first that balances it, and none is
found only if there is none.  It stays the same whatever the text behind it is, and it moves with
the text if something is put before. -/
theorem closingParen?_balanced (hopen : text[start]? = some '(') :
    (∀ i, closingParen? text start = some i ↔
        BalancedAt text start i ∧ ∀ j, BalancedAt text start j → i ≤ j) ∧
      (closingParen? text start = none ↔ ∀ i, ¬ BalancedAt text start i) ∧
      (∀ i, closingParen? text start = some i →
        ∀ t, closingParen? (text.take (i + 1) ++ t) start = some i) ∧
      ∀ p, closingParen? (p ++ text) (p.length + start) =
        (closingParen? text start).map (p.length + ·) :=
  have hfirst := isFirst_closingParen? hopen
  ⟨fun _ => hfirst.eq_some_iff, hfirst.eq_none_iff,
    fun _ hi t => closingParen?_take_append hopen hi t, closingParen?_append_left hopen⟩

/-- A call with a call in it and a string in which an escaped quote and a parenthesis stand. -/
def nestedCall : List Char := "@map(f(x), \"a\\\")\") // )".toList

/-- The parenthesis that balances `nestedCall` stands behind the string, whatever follows it. -/
theorem closingParen?_balanced_nestedCall :
    nestedCall[4]? = some '(' ∧ BalancedAt nestedCall 4 17 ∧
      (∀ j, BalancedAt nestedCall 4 j → 17 ≤ j) ∧
      ∀ t, closingParen? ("@map(f(x), \"a\\\")\")".toList ++ t) 4 = some 17 := by
  have hopen : nestedCall[4]? = some '(' := by decide
  have hfound : closingParen? nestedCall 4 = some 17 := by decide
  have htake : nestedCall.take 18 = "@map(f(x), \"a\\\")\")".toList := by decide
  obtain ⟨hiff, -, hstays, -⟩ := closingParen?_balanced hopen
  obtain ⟨hbalanced, hleast⟩ := (hiff 17).1 hfound
  have hrest := hstays 17 hfound
  rw [htake] at hrest
  exact ⟨hopen, hbalanced, hleast, hrest⟩

end FeatureGen.Schema

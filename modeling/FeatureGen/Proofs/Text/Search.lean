import FeatureGen.Text.Literal

/-!
# Searching a text in parts

A search passes over a part of a text in which its step fails at every position (`Passes`).  The
part ends somewhere in the text, and the step sees the text that follows, so that `Passes` is told
both.  `searchAll_append` cuts such a part off; the character before what is left is then the last
one of the part.

The first result is the head of all of them (`search?_eq_head?`), and it is found at the leftmost
position where the step succeeds (`search?_eq_some_iff`).
-/

namespace FeatureGen.Text

variable {α β : Type} {step : Option Char → List Char → Option α} {before : Option Char}
  {p q s : List Char} {a : α}

/-- The step fails at every position of the first text when the second follows it. -/
def Passes (step : Option Char → List Char → Option α) (before : Option Char) :
    List Char → List Char → Prop
  | [], _ => True
  | c :: p, s => step before (c :: (p ++ s)) = none ∧ Passes step (some c) p s

/-- The character before what follows a text. -/
def lastChar (before : Option Char) (p : List Char) : Option Char := p.getLast?.or before

@[simp] theorem lastChar_nil (before : Option Char) : lastChar before [] = before := rfl

@[simp] theorem lastChar_cons (before : Option Char) (c : Char) (p : List Char) :
    lastChar before (c :: p) = lastChar (some c) p := by
  cases p with
  | nil => rfl
  | cons d p => simp [lastChar, List.getLast?_cons]

theorem lastChar_append (before : Option Char) (p q : List Char) :
    lastChar before (p ++ q) = lastChar (lastChar before p) q := by
  induction p generalizing before with
  | nil => rfl
  | cons c p ih => rw [List.cons_append, lastChar_cons, lastChar_cons, ih]

/-- Two parts are passed over one after the other. -/
theorem Passes.append (hp : Passes step before p (q ++ s))
    (hq : Passes step (lastChar before p) q s) : Passes step before (p ++ q) s := by
  induction p generalizing before with
  | nil => exact hq
  | cons c p ih =>
    obtain ⟨hc, hp⟩ := hp
    rw [lastChar_cons] at hq
    refine ⟨?_, ih hp hq⟩
    show step before (c :: (p ++ q ++ s)) = none
    rw [List.append_assoc]
    exact hc

theorem Passes.mono {step' : Option Char → List Char → Option β}
    (hstep : ∀ b t, step b t = none → step' b t = none) (h : Passes step before p s) :
    Passes step' before p s := by
  induction p generalizing before with
  | nil => trivial
  | cons c p ih => exact ⟨hstep _ _ h.1, ih h.2⟩

/-- A step fails where nothing can be made of its result. -/
theorem Passes.of_map {f : α → β} (h : Passes (fun b t => (step b t).map f) before p s) :
    Passes step before p s := h.mono fun _ _ => Option.map_eq_none_iff.1

/-- A search goes on after a part that it passes over. -/
theorem searchAll_append (h : Passes step before p s) :
    searchAll step before (p ++ s) = searchAll step (lastChar before p) s := by
  induction p generalizing before with
  | nil => rfl
  | cons c p ih =>
    obtain ⟨hc, hp⟩ := h
    rw [List.cons_append, searchAll, hc, ih hp, lastChar_cons]
    rfl

/-- The first result is the head of all results. -/
theorem search?_eq_head? (step : Option Char → List Char → Option α) (before : Option Char)
    (s : List Char) : search? step before s = (searchAll step before s).head? := by
  induction s generalizing before with
  | nil =>
    rw [search?, searchAll]
    cases step before [] <;> rfl
  | cons c s ih =>
    rw [search?, searchAll]
    cases step before (c :: s) with
    | none => exact ih (some c)
    | some a => rfl

/-- The search for the first result goes on in the same way. -/
theorem search?_append (h : Passes step before p s) :
    search? step before (p ++ s) = search? step (lastChar before p) s := by
  rw [search?_eq_head?, searchAll_append h, ← search?_eq_head?]

/-- A step that does not look at the character before a position finds the same after any. -/
theorem search?_before (step : List Char → Option α) (before before' : Option Char)
    (s : List Char) : search? (fun _ => step) before s = search? (fun _ => step) before' s := by
  cases s <;> rfl

/-- What is made of the results may be made by the step. -/
theorem map_searchAll (f : α → β) (step : Option Char → List Char → Option α)
    (before : Option Char) (s : List Char) :
    (searchAll step before s).map f = searchAll (fun b t => (step b t).map f) before s := by
  induction s generalizing before with
  | nil =>
    rw [searchAll, searchAll]
    cases step before [] <;> rfl
  | cons c s ih =>
    rw [searchAll, searchAll, List.map_append, ih]
    cases step before (c :: s) <;> rfl

/-- The same where some results are left out. -/
theorem filterMap_searchAll (g : α → Option β) (step : Option Char → List Char → Option α)
    (before : Option Char) (s : List Char) :
    (searchAll step before s).filterMap g = searchAll (fun b t => (step b t).bind g) before s := by
  induction s generalizing before with
  | nil =>
    rw [searchAll, searchAll]
    cases step before [] with
    | none => rfl
    | some a => cases h : g a <;> simp [h]
  | cons c s ih =>
    rw [searchAll, searchAll, List.filterMap_append, ih]
    cases step before (c :: s) with
    | none => rfl
    | some a => cases h : g a <;> simp [h]

/-! ## Positions -/

/-- The results are what the step finds at the positions of the text. -/
theorem mem_searchAll_iff :
    a ∈ searchAll step before s ↔ ∃ p t, p ++ t = s ∧ step (lastChar before p) t = some a := by
  induction s generalizing before with
  | nil => simp [searchAll, and_assoc]
  | cons c s ih =>
    rw [searchAll, List.mem_append, Option.mem_toList, ih]
    constructor
    · rintro (h | ⟨p, t, rfl, h⟩)
      · exact ⟨[], c :: s, rfl, h⟩
      · exact ⟨c :: p, t, rfl, by rwa [lastChar_cons]⟩
    · rintro ⟨p, t, hs, h⟩
      cases p with
      | nil =>
        rw [List.nil_append] at hs
        exact Or.inl (hs ▸ h)
      | cons d p =>
        obtain ⟨rfl, rfl⟩ := List.cons.inj hs
        exact Or.inr ⟨p, t, rfl, by rwa [lastChar_cons] at h⟩

/-- Nothing is found if the step fails everywhere. -/
theorem search?_eq_none_iff :
    search? step before s = none ↔ ∀ p t, p ++ t = s → step (lastChar before p) t = none := by
  rw [search?_eq_head?, List.head?_eq_none_iff, List.eq_nil_iff_forall_not_mem]
  simp only [mem_searchAll_iff, Option.eq_none_iff_forall_ne_some]
  constructor
  · intro h p t hs a ha
    exact h a ⟨p, t, hs, ha⟩
  · rintro h a ⟨p, t, hs, ha⟩
    exact h p t hs a ha

/-- The first result is what the step finds at the leftmost position where it succeeds. -/
theorem search?_eq_some_iff :
    search? step before s = some a ↔ ∃ p t, p ++ t = s ∧ step (lastChar before p) t = some a ∧
      ∀ q u, q ++ u = s → q.length < p.length → step (lastChar before q) u = none := by
  induction s generalizing before with
  | nil => simp +contextual [search?, and_assoc]
  | cons c s ih =>
    rw [search?]
    cases hstep : step before (c :: s) with
    | some b =>
      constructor
      · intro h
        exact ⟨[], c :: s, rfl, hstep.trans h, fun q u _ hq => absurd hq (Nat.not_lt_zero _)⟩
      · rintro ⟨p, t, hs, hfound, hleft⟩
        cases p with
        | nil =>
          rw [List.nil_append] at hs
          subst hs
          exact hstep.symm.trans hfound
        | cons d p =>
          have hnone := hleft [] (c :: s) rfl (Nat.succ_pos _)
          rw [lastChar_nil, hstep] at hnone
          cases hnone
    | none =>
      simp only [ih]
      constructor
      · rintro ⟨p, t, rfl, hfound, hleft⟩
        refine ⟨c :: p, t, rfl, by rwa [lastChar_cons], fun q u hs hq => ?_⟩
        cases q with
        | nil =>
          rw [List.nil_append] at hs
          rw [hs, lastChar_nil, hstep]
        | cons d q =>
          obtain ⟨rfl, htail⟩ := List.cons.inj hs
          rw [lastChar_cons]
          exact hleft q u htail (Nat.lt_of_succ_lt_succ hq)
      · rintro ⟨p, t, hs, hfound, hleft⟩
        cases p with
        | nil =>
          rw [List.nil_append] at hs
          subst hs
          rw [lastChar_nil, hstep] at hfound
          cases hfound
        | cons d p =>
          obtain ⟨rfl, rfl⟩ := List.cons.inj hs
          refine ⟨p, t, rfl, by rwa [lastChar_cons] at hfound, fun q u hs hq => ?_⟩
          have hnone := hleft (d :: q) u (congrArg (d :: ·) hs) (Nat.succ_lt_succ hq)
          rwa [lastChar_cons] at hnone

end FeatureGen.Text

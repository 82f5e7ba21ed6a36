import Mathlib.Data.List.Forall2

/-!
# Functions that may fail

A result that was made from another one says that the other one is there (`exists_of_map_eq_ok`).

A list is gone through with a function that may fail, and there is a result only if no item fails.
The results are then those of the items, in their order (`mapM_eq_ok_iff`).  Where each result is a
list and the lists are put together, items that give nothing do not count (`map_flatten_mapM`).
-/

namespace FeatureGen

variable {ε α β γ : Type} {x : Except ε α} {f : α → Except ε β} {l : List α} {r : List β}

theorem exists_of_map_eq_ok {g : α → β} {b : β} (h : x.map g = .ok b) :
    ∃ y, x = .ok y ∧ g y = b := by
  cases x with
  | error _ => cases h
  | ok y => exact ⟨y, rfl, Except.ok.inj h⟩

theorem exists_eq_ok_of_isOk (h : x.isOk = true) : ∃ a, x = .ok a := by
  cases x with
  | error _ => cases h
  | ok a => exact ⟨a, rfl⟩

theorem map_eq_error_iff {g : α → β} {e : ε} : x.map g = .error e ↔ x = .error e := by
  cases x with
  | error _ => simp [Except.map]
  | ok _ => simp [Except.map]

theorem map_map_except (x : Except ε α) (g : α → β) (g' : β → γ) :
    (x.map g).map g' = x.map fun a => g' (g a) := by
  cases x <;> rfl

/-! ## Lists -/

theorem mapM_cons_of_ok {a : α} {b : β} (h : f a = .ok b) :
    (a :: l).mapM f = (l.mapM f).map (b :: ·) := by
  rw [List.mapM_cons, h]
  cases l.mapM f <;> rfl

theorem mapM_cons_of_error {a : α} {e : ε} (h : f a = .error e) :
    (a :: l).mapM f = .error e := by
  rw [List.mapM_cons, h]
  rfl

/-- There is a result if and only if each item has one. -/
theorem mapM_eq_ok_iff : l.mapM f = .ok r ↔ List.Forall₂ (fun a b => f a = .ok b) l r := by
  induction l generalizing r with
  | nil => cases r <;> simp [pure, Except.pure]
  | cons a l ih =>
    cases ha : f a with
    | error e =>
      rw [mapM_cons_of_error ha, List.forall₂_cons_left_iff]
      simp [ha]
    | ok b =>
      rw [mapM_cons_of_ok ha, List.forall₂_cons_left_iff]
      constructor
      · intro h
        obtain ⟨r', hr, rfl⟩ := exists_of_map_eq_ok h
        exact ⟨b, r', ha, ih.1 hr, rfl⟩
      · rintro ⟨b', r', hb, hr, rfl⟩
        rw [ha] at hb
        cases hb
        rw [ih.2 hr]
        rfl

/-- Each of the results is that of an item. -/
theorem exists_of_mem_mapM {b : β} (h : l.mapM f = .ok r) (hb : b ∈ r) : ∃ a ∈ l, f a = .ok b := by
  induction mapM_eq_ok_iff.1 h with
  | nil => cases hb
  | @cons a b' l r ha hrest ih =>
    rcases List.mem_cons.1 hb with rfl | hb
    · exact ⟨a, List.mem_cons_self, ha⟩
    · obtain ⟨a', ha', hfa'⟩ := ih (mapM_eq_ok_iff.2 hrest) hb
      exact ⟨a', List.mem_cons_of_mem a ha', hfa'⟩

/-- Each of the items has a result. -/
theorem exists_of_mem_of_mapM {a : α} (h : l.mapM f = .ok r) (ha : a ∈ l) :
    ∃ b ∈ r, f a = .ok b := by
  induction mapM_eq_ok_iff.1 h with
  | nil => cases ha
  | @cons a' b l r hb hrest ih =>
    rcases List.mem_cons.1 ha with rfl | ha
    · exact ⟨b, List.mem_cons_self, hb⟩
    · obtain ⟨b', hb', hfb'⟩ := ih (mapM_eq_ok_iff.2 hrest) ha
      exact ⟨b', List.mem_cons_of_mem b hb', hfb'⟩

/-- What each result keeps of its item the list keeps. -/
theorem map_eq_map_of_mapM {key : α → γ} {key' : β → γ} (h : l.mapM f = .ok r)
    (hkey : ∀ a b, f a = .ok b → key' b = key a) : r.map key' = l.map key := by
  induction mapM_eq_ok_iff.1 h with
  | nil => rfl
  | cons ha hrest ih =>
    rw [List.map_cons, List.map_cons, hkey _ _ ha, ih (mapM_eq_ok_iff.2 hrest)]

/-- What is not empty of a result that is a list. -/
def nonemptyResults : Except ε (List β) → List (Except ε (List β))
  | .ok [] => []
  | x => [x]

/-- Where the results are put together, those that are empty do not count. -/
theorem map_flatten_mapM (f : α → Except ε (List β)) (l : List α) :
    (l.mapM f).map List.flatten =
      ((l.flatMap fun a => nonemptyResults (f a)).mapM id).map List.flatten := by
  induction l with
  | nil => rfl
  | cons a l ih =>
    cases ha : f a with
    | error e =>
      rw [mapM_cons_of_error ha, List.flatMap_cons, ha]
      show _ = ((Except.error e :: _).mapM id).map List.flatten
      rw [mapM_cons_of_error (f := id) rfl]
    | ok b =>
      rw [mapM_cons_of_ok ha, List.flatMap_cons, ha]
      cases b with
      | nil =>
        rw [map_map_except]
        exact ih
      | cons b bs =>
        show _ = ((Except.ok (b :: bs) :: _).mapM id).map List.flatten
        rw [mapM_cons_of_ok (f := id) rfl, map_map_except, map_map_except]
        have hcons := congrArg (Except.map ((b :: bs) ++ ·)) ih
        rw [map_map_except, map_map_except] at hcons
        exact hcons

end FeatureGen

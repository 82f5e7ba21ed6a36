import FeatureGen.Distinct

/-!
# First occurrences and filters

Keeping first occurrences commutes with every filter that looks at the keys alone
(`firstsBy_filter`).  The filter may drop an item whose key was seen, but then it drops all items
with that key, so that what was seen matters only for the keys that are left (`firstsBy_congr`).

It commutes with a map that keeps distinct keys distinct (`firstsBy_map`).

The item that is kept under a key is the first one that has it
(`filter_key_firstsBy`).

A key that occurs once is looked up with its value (`lookup_eq_some_of_mem`).
-/

namespace FeatureGen

variable {α κ : Type} [DecidableEq κ]

/-- Of the keys seen before, only those of the items count. -/
theorem firstsBy_congr {key : α → κ} {seen seen' : List κ} {l : List α}
    (h : ∀ a ∈ l, key a ∈ seen ↔ key a ∈ seen') :
    firstsBy key seen l = firstsBy key seen' l := by
  induction l generalizing seen seen' with
  | nil => rfl
  | cons a l ih =>
    have ha := h a List.mem_cons_self
    have hl : ∀ b ∈ l, key b ∈ seen ↔ key b ∈ seen' := fun b hb =>
      h b (List.mem_cons_of_mem _ hb)
    rw [firstsBy_cons, firstsBy_cons]
    by_cases hs : key a ∈ seen
    · rw [if_pos hs, if_pos (ha.1 hs)]
      exact ih hl
    · rw [if_neg hs, if_neg fun hs' => hs (ha.2 hs')]
      congr 1
      apply ih
      intro b hb
      rw [List.mem_cons, List.mem_cons, hl b hb]

/-- First occurrences may be taken before or after a filter of the keys. -/
theorem firstsBy_filter (key : α → κ) (p : κ → Bool) (seen : List κ) (l : List α) :
    firstsBy key seen (l.filter fun a => p (key a)) =
      (firstsBy key seen l).filter fun a => p (key a) := by
  induction l generalizing seen with
  | nil => rfl
  | cons a l ih =>
    by_cases hp : p (key a) = true
    · rw [List.filter_cons, if_pos hp, firstsBy_cons, firstsBy_cons]
      by_cases hs : key a ∈ seen
      · rw [if_pos hs, if_pos hs]
        exact ih seen
      · rw [if_neg hs, if_neg hs, List.filter_cons, if_pos hp, ih]
    · rw [List.filter_cons, if_neg hp, firstsBy_cons]
      by_cases hs : key a ∈ seen
      · rw [if_pos hs]
        exact ih seen
      · -- The key of `a` is new, but no item that the filter leaves has it.
        rw [if_neg hs, List.filter_cons, if_neg hp, ← ih]
        apply firstsBy_congr
        intro b hb
        have hne : key b ≠ key a := fun he => hp (he ▸ (List.mem_filter.1 hb).2)
        simp [hne]

/-- Items with distinct keys that were not seen are all kept. -/
theorem firstsBy_eq_self {key : α → κ} {seen : List κ} {l : List α} (h : (l.map key).Nodup)
    (hseen : ∀ a ∈ l, key a ∉ seen) : firstsBy key seen l = l := by
  induction l generalizing seen with
  | nil => rfl
  | cons a l ih =>
    rw [List.map_cons, List.nodup_cons] at h
    rw [firstsBy_cons, if_neg (hseen a List.mem_cons_self), ih h.2]
    intro b hb hk
    rcases List.mem_cons.1 hk with hk | hk
    · exact h.1 (hk ▸ List.mem_map_of_mem hb)
    · exact hseen b (List.mem_cons_of_mem _ hb) hk

/-- First occurrences may be taken before or after a map that keeps distinct keys distinct. -/
theorem firstsBy_map {β μ : Type} [DecidableEq μ] {key : α → κ} {key' : β → μ} {f : α → β}
    {g : κ → μ} (hg : Function.Injective g) (hf : ∀ a, key' (f a) = g (key a)) (seen : List κ)
    (l : List α) : firstsBy key' (seen.map g) (l.map f) = (firstsBy key seen l).map f := by
  induction l generalizing seen with
  | nil => rfl
  | cons a l ih =>
    rw [List.map_cons, firstsBy_cons, firstsBy_cons, hf]
    by_cases hs : key a ∈ seen
    · rw [if_pos hs, if_pos (List.mem_map_of_mem hs)]
      exact ih seen
    · have hs' : g (key a) ∉ seen.map g := by
        intro hm
        obtain ⟨k, hk, he⟩ := List.mem_map.1 hm
        exact hs (hg he ▸ hk)
      rw [if_neg hs, if_neg hs', List.map_cons, ← List.map_cons, ih]

/-- Of items that all have one key the first is kept. -/
theorem firstsBy_of_forall_key {key : α → κ} {k : κ} {seen : List κ} {l : List α}
    (h : ∀ a ∈ l, key a = k) (hk : k ∉ seen) : firstsBy key seen l = l.head?.toList := by
  cases l with
  | nil => rfl
  | cons a l =>
    have ha : key a = k := h a List.mem_cons_self
    have hl : firstsBy key (key a :: seen) l = [] := by
      apply List.eq_nil_iff_forall_not_mem.2
      intro b hb
      have ⟨hm, hn⟩ := mem_of_mem_firstsBy hb
      exact hn (by rw [h b (List.mem_cons_of_mem _ hm), ha]; exact List.mem_cons_self)
    rw [firstsBy_cons, if_neg (ha ▸ hk), hl]
    rfl

/-- Of every key that was not seen before an item is kept. -/
theorem exists_mem_firstsBy {key : α → κ} {seen : List κ} {l : List α} {a : α} (h : a ∈ l)
    (hseen : key a ∉ seen) : ∃ b ∈ firstsBy key seen l, key b = key a := by
  induction l generalizing seen with
  | nil => cases h
  | cons c l ih =>
    rw [firstsBy_cons]
    rcases List.mem_cons.1 h with rfl | h
    · rw [if_neg hseen]
      exact ⟨a, List.mem_cons_self, rfl⟩
    · by_cases hc : key c ∈ seen
      · rw [if_pos hc]
        exact ih h hseen
      · rw [if_neg hc]
        by_cases heq : key c = key a
        · exact ⟨c, List.mem_cons_self, heq⟩
        · have hseen' : key a ∉ key c :: seen :=
            fun hmem => (List.mem_cons.1 hmem).elim (fun he => heq he.symm) hseen
          obtain ⟨b, hb, hkey⟩ := ih h hseen'
          exact ⟨b, List.mem_cons_of_mem c hb, hkey⟩

theorem firstsBy_eq_nil_iff {key : α → κ} {l : List α} : firstsBy key [] l = [] ↔ l = [] := by
  cases l with
  | nil => exact Iff.rfl
  | cons a l => simp [firstsBy_cons]

theorem mem_firsts {l : List κ} {a : κ} : a ∈ firsts l ↔ a ∈ l := by
  constructor
  · intro h
    exact (mem_of_mem_firstsBy h).1
  · intro h
    have hnew : id a ∉ [] := List.not_mem_nil
    obtain ⟨b, hb, heq⟩ := exists_mem_firstsBy h hnew
    rw [id, id] at heq
    rwa [heq] at hb

theorem nodup_firsts (l : List κ) : (firsts l).Nodup := by
  have h := nodup_map_firstsBy id [] l
  rwa [List.map_id] at h

/-- What is kept under a key is the first item that has it. -/
theorem filter_key_firstsBy (key : α → κ) (k : κ) (l : List α) :
    (firstsBy key [] l).filter (fun a => key a = k) = (l.find? fun a => key a = k).toList := by
  rw [← firstsBy_filter key (fun j => decide (j = k)), firstsBy_of_forall_key (k := k),
    List.head?_filter]
  · intro a ha
    simpa using (List.mem_filter.1 ha).2
  · exact List.not_mem_nil

/-- A key that occurs once is looked up with its value. -/
theorem lookup_eq_some_of_mem {β γ : Type} [BEq γ] [LawfulBEq γ] {entries : List (γ × β)} {key : γ}
    {value : β} (hnodup : (entries.map Prod.fst).Nodup) (h : (key, value) ∈ entries) :
    entries.lookup key = some value := by
  obtain ⟨l₁, l₂, rfl⟩ := List.append_of_mem h
  rw [List.map_append, List.map_cons, List.nodup_append] at hnodup
  apply List.lookup_eq_some_iff.2
  refine ⟨l₁, l₂, rfl, ?_⟩
  intro p hp
  have hne := hnodup.2.2 p.1 (List.mem_map_of_mem hp) key List.mem_cons_self
  simpa using Ne.symm hne

end FeatureGen

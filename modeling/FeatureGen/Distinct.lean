/-!
# First occurrences

`firstsBy` keeps of several items with one key the first.  Keys seen before may be given, and no
item with such a key is kept.
-/

namespace FeatureGen

variable {α κ : Type} [DecidableEq κ]

/-- The items whose key was not seen before them, in order. -/
def firstsBy (key : α → κ) (seen : List κ) : List α → List α
  | [] => []
  | a :: l => if key a ∈ seen then firstsBy key seen l else a :: firstsBy key (key a :: seen) l

/-- The distinct items, in the order of their first occurrences. -/
def firsts (l : List κ) : List κ := firstsBy id [] l

@[simp] theorem firstsBy_nil (key : α → κ) (seen : List κ) : firstsBy key seen [] = [] := rfl

theorem firstsBy_cons (key : α → κ) (seen : List κ) (a : α) (l : List α) :
    firstsBy key seen (a :: l) =
      if key a ∈ seen then firstsBy key seen l else a :: firstsBy key (key a :: seen) l := rfl

/-- What is kept was there. -/
theorem mem_of_mem_firstsBy {key : α → κ} {seen : List κ} {l : List α} {a : α}
    (h : a ∈ firstsBy key seen l) : a ∈ l ∧ key a ∉ seen := by
  induction l generalizing seen with
  | nil => simp at h
  | cons b l ih =>
    rw [firstsBy_cons] at h
    split at h
    · exact ⟨List.mem_cons_of_mem _ (ih h).1, (ih h).2⟩
    · next hb =>
      rcases List.mem_cons.1 h with rfl | h
      · exact ⟨List.mem_cons_self, hb⟩
      · exact ⟨List.mem_cons_of_mem _ (ih h).1, fun hs => (ih h).2 (List.mem_cons_of_mem _ hs)⟩

/-- No key is kept twice. -/
theorem nodup_map_firstsBy (key : α → κ) (seen : List κ) (l : List α) :
    ((firstsBy key seen l).map key).Nodup := by
  induction l generalizing seen with
  | nil => simp
  | cons a l ih =>
    rw [firstsBy_cons]
    split
    · exact ih seen
    · rw [List.map_cons, List.nodup_cons]
      refine ⟨fun h => ?_, ih _⟩
      obtain ⟨b, hb, he⟩ := List.mem_map.1 h
      exact (mem_of_mem_firstsBy hb).2 (he ▸ List.mem_cons_self)

end FeatureGen

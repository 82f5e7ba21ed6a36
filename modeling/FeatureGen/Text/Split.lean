/-!
# Splitting at a character

`pieces` divides a text at every occurrence of one character.  There is always one piece more than
there are occurrences, and the pieces with the character between them make up the text.
-/

namespace FeatureGen.Text

/-- The pieces of a text between the occurrences of a character. -/
def pieces (sep : Char) : List Char → List (List Char)
  | [] => [[]]
  | c :: s =>
    if c = sep then [] :: pieces sep s
    else
      match pieces sep s with
      | [] => [[c]]
      | piece :: rest => (c :: piece) :: rest

/-- The pieces with a character between them. -/
def joinPieces (sep : Char) : List (List Char) → List Char
  | [] => []
  | [p] => p
  | p :: q :: rest => p ++ sep :: joinPieces sep (q :: rest)

theorem pieces_ne_nil (sep : Char) (s : List Char) : pieces sep s ≠ [] := by
  cases s with
  | nil => simp [pieces]
  | cons c s =>
    rw [pieces]
    split
    · simp
    · split <;> simp

theorem joinPieces_cons_cons (sep c : Char) (p : List Char) (rest : List (List Char)) :
    joinPieces sep ((c :: p) :: rest) = c :: joinPieces sep (p :: rest) := by
  cases rest <;> rfl

/-- The pieces make up the text. -/
theorem joinPieces_pieces (sep : Char) (s : List Char) : joinPieces sep (pieces sep s) = s := by
  induction s with
  | nil => rfl
  | cons c s ih =>
    rw [pieces]
    split
    · next h =>
      cases hp : pieces sep s with
      | nil => exact absurd hp (pieces_ne_nil sep s)
      | cons p rest => rw [joinPieces, ← hp, ih, h, List.nil_append]
    · cases hp : pieces sep s with
      | nil => exact absurd hp (pieces_ne_nil sep s)
      | cons p rest => simp only [joinPieces_cons_cons, ← hp, ih]

/-- No piece has the character. -/
theorem not_mem_of_mem_pieces {sep : Char} {s p : List Char} (h : p ∈ pieces sep s) : sep ∉ p := by
  induction s generalizing p with
  | nil =>
    obtain rfl := List.mem_singleton.1 h
    exact List.not_mem_nil
  | cons c s ih =>
    rw [pieces] at h
    split at h
    · rcases List.mem_cons.1 h with rfl | h
      · exact List.not_mem_nil
      · exact ih h
    · next hc =>
      cases hp : pieces sep s with
      | nil => exact absurd hp (pieces_ne_nil sep s)
      | cons q rest =>
        rw [hp] at h ih
        rcases List.mem_cons.1 h with rfl | h
        · intro hmem
          rcases List.mem_cons.1 hmem with rfl | hmem
          · exact hc rfl
          · exact ih List.mem_cons_self hmem
        · exact ih (List.mem_cons_of_mem q h)

theorem mem_joinPieces {sep c : Char} {p : List Char} {ps : List (List Char)} (hp : p ∈ ps)
    (hc : c ∈ p) : c ∈ joinPieces sep ps := by
  induction ps with
  | nil => cases hp
  | cons q rest ih =>
    cases rest with
    | nil => exact List.mem_singleton.1 hp ▸ hc
    | cons r rest =>
      rw [joinPieces, List.mem_append]
      rcases List.mem_cons.1 hp with rfl | hp
      · exact Or.inl hc
      · exact Or.inr (List.mem_cons_of_mem sep (ih hp))

theorem mem_of_mem_pieces {sep c : Char} {s p : List Char} (hp : p ∈ pieces sep s) (hc : c ∈ p) :
    c ∈ s := by
  rw [← joinPieces_pieces sep s]
  exact mem_joinPieces hp hc

end FeatureGen.Text

import FeatureGen.Project.Path

/-!
# Paths and their texts

A path is read back from its own text (`ofString_toString`).

A relative text that goes on from a path adds the names between its slashes, so that a path built
step by step is one list of names below the first one (`join_eq_descend`, `descend_descend`).
-/

namespace FeatureGen.Text

variable {sep : Char} {s t : List Char}

/-- A text without the separator is one piece. -/
theorem pieces_of_not_mem (h : sep ∉ s) : pieces sep s = [s] := by
  induction s with
  | nil => rfl
  | cons c s ih =>
    rw [List.mem_cons, not_or] at h
    rw [pieces, if_neg (Ne.symm h.1), ih h.2]

/-- The first separator ends the first piece. -/
theorem pieces_append_cons (h : sep ∉ s) (t : List Char) :
    pieces sep (s ++ sep :: t) = s :: pieces sep t := by
  induction s with
  | nil => rw [List.nil_append, pieces, if_pos rfl]
  | cons c s ih =>
    rw [List.mem_cons, not_or] at h
    rw [List.cons_append, pieces, if_neg (Ne.symm h.1), ih h.2]

/-- Pieces without the separator are read back from the text that they make up. -/
theorem pieces_joinPieces {ps : List (List Char)} (hne : ps ≠ []) (h : ∀ p ∈ ps, sep ∉ p) :
    pieces sep (joinPieces sep ps) = ps := by
  induction ps with
  | nil => exact absurd rfl hne
  | cons p ps ih =>
    have hp := h p List.mem_cons_self
    cases ps with
    | nil => exact pieces_of_not_mem hp
    | cons q qs =>
      rw [joinPieces, pieces_append_cons hp, ih (List.cons_ne_nil q qs)]
      exact fun r hr => h r (List.mem_cons_of_mem _ hr)

/-- One more piece stands after a separator, unless it is the first. -/
theorem joinPieces_concat (sep : Char) (ps : List (List Char)) (p : List Char) :
    joinPieces sep (ps ++ [p]) = if ps = [] then p else joinPieces sep ps ++ sep :: p := by
  induction ps with
  | nil => rfl
  | cons q ps ih =>
    cases ps with
    | nil => rfl
    | cons r ps =>
      rw [if_neg (List.cons_ne_nil r ps)] at ih
      rw [if_neg (List.cons_ne_nil q (r :: ps)), joinPieces, List.append_assoc]
      show q ++ sep :: joinPieces sep (r :: ps ++ [p]) = _
      rw [ih, List.cons_append]

end FeatureGen.Text

namespace FeatureGen.Path

open FeatureGen.Text

variable {p : Path} {n s : List Char} {ns : List (List Char)}

/-! ## Names -/

theorem isName_iff : isName n = true ↔ n ≠ [] ∧ n ≠ ['.'] ∧ '/' ∉ n := by
  simp [isName, and_assoc]

/-- A path is given by its root and its names. -/
theorem eq_of_names {q : Path} (hroot : p.root = q.root) (hnames : p.names = q.names) : p = q := by
  obtain ⟨_, _, _⟩ := p
  obtain ⟨_, _, _⟩ := q
  subst hroot
  subst hnames
  rfl

/-! ## The text of a path -/

/-- The names of a path are the pieces of their text. -/
theorem filter_pieces_joinPieces (h : ∀ n ∈ ns, isName n = true) :
    (pieces '/' (joinPieces '/' ns)).filter isName = ns := by
  cases ns with
  | nil => rfl
  | cons n ns =>
    rw [pieces_joinPieces (List.cons_ne_nil n ns) fun m hm => (isName_iff.1 (h m hm)).2.2,
      List.filter_eq_self.2 h]

/-- The text of names has no slash in front. -/
theorem head?_joinPieces_ne (h : ∀ n ∈ ns, isName n = true) :
    (joinPieces '/' ns).head? ≠ some '/' := by
  cases ns with
  | nil => simp [joinPieces]
  | cons n ns =>
    obtain ⟨hne, -, hslash⟩ := isName_iff.1 (h n List.mem_cons_self)
    cases n with
    | nil => exact absurd rfl hne
    | cons c n =>
      rw [joinPieces_cons_cons, List.head?_cons, Ne, Option.some_inj]
      rintro rfl
      exact hslash List.mem_cons_self

/-- The root that the text of a path starts with is its own. -/
theorem rootOf_append (root : Root) (hs : s.head? ≠ some '/') :
    rootOf (root.chars ++ s) = root := by
  cases s with
  | nil => cases root <;> rfl
  | cons c s =>
    have hc : c ≠ '/' := by simpa using hs
    cases root <;> simp [rootOf, Root.chars, hc]

theorem pieces_chars_append (root : Root) (s : List Char) :
    (pieces '/' (root.chars ++ s)).filter isName = (pieces '/' s).filter isName := by
  cases root <;> simp [Root.chars, pieces, isName]

/-- A path is read back from its own text. -/
theorem ofString_toString (p : Path) : ofString p.toString = p := by
  rw [ofString, Path.toString, String.toList_ofList, chars]
  split
  · next h => exact eq_of_names h.1.symm h.2.symm
  · apply eq_of_names
    · exact rootOf_append p.root (head?_joinPieces_ne p.names_ok)
    · show (pieces '/' (p.root.chars ++ joinPieces '/' p.names)).filter isName = p.names
      rw [pieces_chars_append, filter_pieces_joinPieces p.names_ok]

/-- The text of a path goes on from that of its parent, unless that is a dot. -/
theorem chars_parent (hne : p.names ≠ []) :
    p.parent.chars = ['.'] ∨ ∃ s, p.chars = p.parent.chars ++ s := by
  have hnames : p.names = p.parent.names ++ [p.names.getLast hne] :=
    (List.dropLast_concat_getLast hne).symm
  have hchars : p.chars = p.root.chars ++ joinPieces '/' p.names :=
    if_neg fun h => hne h.2
  rw [hchars, hnames, joinPieces_concat]
  by_cases hdot : p.parent.root = .relative ∧ p.parent.names = []
  · exact .inl (if_pos hdot)
  · have hparent : p.parent.chars = p.root.chars ++ joinPieces '/' p.parent.names := if_neg hdot
    rw [hparent]
    refine .inr ?_
    by_cases hnil : p.parent.names = []
    · exact ⟨p.names.getLast hne, by rw [if_pos hnil, hnil, joinPieces, List.append_nil]⟩
    · exact ⟨'/' :: p.names.getLast hne, by rw [if_neg hnil, List.append_assoc]⟩

/-- No path has an empty text. -/
theorem chars_ne_nil (p : Path) : p.chars ≠ [] := by
  intro h
  have hread := ofString_toString p
  rw [Path.toString, h] at hread
  rw [← hread] at h
  exact absurd h (by decide)

/-- The text of a path is no shorter than that of its parent. -/
theorem utf8ByteSize_parent_le (hne : p.names ≠ []) :
    p.parent.toString.utf8ByteSize ≤ p.toString.utf8ByteSize := by
  rcases chars_parent hne with hdot | ⟨s, hs⟩
  · have hpos : p.toString.utf8ByteSize ≠ 0 := by
      rw [Ne, String.utf8ByteSize_eq_zero_iff, Path.toString, String.ofList_eq_empty_iff]
      exact p.chars_ne_nil
    have hone : p.parent.toString.utf8ByteSize = 1 := by
      rw [Path.toString, hdot]
      decide
    omega
  · rw [Path.toString, Path.toString, hs, String.ofList_append, String.utf8ByteSize_append]
    exact Nat.le_add_right _ _

/-! ## Going on from a path -/

theorem names_descend (h : ∀ n ∈ ns, isName n = true) : (p.descend ns).names = p.names ++ ns := by
  show p.names ++ ns.filter isName = p.names ++ ns
  rw [List.filter_eq_self.2 h]

/-- Names may be added one after the other. -/
theorem descend_descend (p : Path) (ns ms : List (List Char)) :
    (p.descend ns).descend ms = p.descend (ns ++ ms) := by
  apply eq_of_names
  · rfl
  · show p.names ++ ns.filter isName ++ ms.filter isName = p.names ++ (ns ++ ms).filter isName
    rw [List.filter_append, List.append_assoc]

/-- A text without a root adds the names between its slashes. -/
theorem join_eq_descend {s : String} (h : s.toList.head? ≠ some '/') :
    p / s = p.descend (pieces '/' s.toList) := by
  have hroot : rootOf s.toList = .relative := rootOf_append .relative h
  have hs : ofString s = ⟨.relative, (pieces '/' s.toList).filter isName,
      fun _ hn => (List.mem_filter.1 hn).2⟩ := eq_of_names hroot rfl
  show p.append (ofString s) = _
  rw [hs]
  rfl

/-- A text that is a name adds that name. -/
theorem join_name {s : String} (h : isName s.toList = true) : p / s = p.descend [s.toList] := by
  obtain ⟨-, -, hslash⟩ := isName_iff.1 h
  rw [join_eq_descend fun hhead => hslash (List.mem_of_head? hhead), pieces_of_not_mem hslash]

/-- The path without its last name leads to where that name is added. -/
theorem parent_descend (h : isName n = true) : (p.descend (ns ++ [n])).parent = p.descend ns := by
  apply eq_of_names
  · rfl
  · show (p.names ++ (ns ++ [n]).filter isName).dropLast = p.names ++ ns.filter isName
    rw [List.filter_append, List.filter_cons_of_pos h, List.filter_nil, ← List.append_assoc,
      List.dropLast_concat]

/-- A name that is added is the last one. -/
theorem names_join {s : String} (h : isName s.toList = true) :
    (p / s).names = p.names ++ [s.toList] := by
  rw [join_name h, names_descend (by simpa using h)]

theorem names_join_ne_nil {s : String} (h : isName s.toList = true) : (p / s).names ≠ [] := by
  rw [names_join h]
  simp

theorem parent_join {s : String} (h : isName s.toList = true) : (p / s).parent = p := by
  rw [join_name h]
  apply eq_of_names
  · rfl
  · show (p.descend [s.toList]).names.dropLast = p.names
    rw [names_descend (by simpa using h), List.dropLast_concat]

theorem name_join {s : String} (h : isName s.toList = true) : (p / s).name = s := by
  rw [name, names_join h, List.getLast?_concat, Option.getD_some, String.ofList_toList]

end FeatureGen.Path

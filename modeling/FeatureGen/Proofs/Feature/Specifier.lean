import FeatureGen.Proofs.Feature.Reading

/-!
# Relative specifiers in a text

A text takes from the other files of its feature through relative specifiers, which stand in marks
and start with `./` or `../`.  They are read from the whole text, wherever they stand
(`relativeImports`): nothing is assumed of the lines of the text, nor that a specifier ends an
import.  So a value that is printed into a text can bring one in.

A text is *clear* if no mark in it is directly followed by `./` or `../`, and then no specifier is
read from it (`relativeImports_eq_nil_iff`).  Two clear texts may have a specifier where they meet.
A text is *closed* if none of its marks can be followed by a relative path, whatever comes next: it
may stand before any clear text (`Closed.append_clear`), and any clear text may stand before one
that does not start with `.` or `/` (`Clear.append`).
-/

namespace FeatureGen.Feature

open FeatureGen.Text

variable {c : Char} {p s t : List Char} {read : List Char} {names : List String} {u v : String}

/-! ## Reading a text -/

/-- The marks that specifiers stand in. -/
def isMark (c : Char) : Bool := c == '\'' || c == '"' || c == '\x60'

/-- Whether a text starts as a relative path. -/
def isRelative (s : List Char) : Bool := ['.', '/'].isPrefixOf s || ['.', '.', '/'].isPrefixOf s

/-- The names in braces before `from` at the end of a text, which is given backwards. -/
def namesBefore (read : List Char) : List String :=
  match (after? "morf".toList (read.dropWhile Char.isWhitespace)).bind fun r =>
    after? ['\x7d'] (r.dropWhile Char.isWhitespace) with
  | none => []
  | some r =>
    (pieces ',' ((r.takeWhile (· != '\x7b')).reverse.filter fun c => !c.isWhitespace)).map
      String.ofList

/-- The relative specifiers in the rest of a text, each with the names that are listed before it.
What is before the rest is given backwards. -/
def relativeImportsFrom (read : List Char) : List Char → List (List String × String)
  | [] => []
  | c :: rest =>
    if isMark c && isRelative rest then
      (namesBefore read, String.ofList (rest.takeWhile (· != c))) ::
        relativeImportsFrom (c :: read) rest
    else relativeImportsFrom (c :: read) rest

/-- The relative specifiers in a text, each with the names that are listed before it. -/
def relativeImports (code : String) : List (List String × String) :=
  relativeImportsFrom [] code.toList

/-! ## Clear and closed texts -/

/-- Whether a text starts as a relative path or may do so if it goes on. -/
def mayBeRelative (s : List Char) : Bool :=
  isRelative s || s.isPrefixOf ['.', '/'] || s.isPrefixOf ['.', '.', '/']

/-- No mark is followed by a text of a kind. -/
def noMarkBefore (test : List Char → Bool) : List Char → Bool
  | [] => true
  | c :: rest => !(isMark c && test rest) && noMarkBefore test rest

/-- No mark is followed by a relative path. -/
def isClear (s : List Char) : Bool := noMarkBefore isRelative s

/-- No mark can be followed by a relative path, whatever comes next. -/
def isClosed (s : List Char) : Bool := noMarkBefore mayBeRelative s

/-- Whether a character occurs in the start of a relative path. -/
def isStep (c : Char) : Bool := c == '.' || c == '/'

/-- Whether a text starts with a character that is not in the start of a relative path. -/
def startsApart (s : List Char) : Bool := s.head?.any (!isStep ·)

theorem relativeImportsFrom_eq_nil_iff : relativeImportsFrom read s = [] ↔ isClear s = true := by
  induction s generalizing read with
  | nil => simp [relativeImportsFrom, isClear, noMarkBefore]
  | cons c s ih =>
    have hclear : isClear (c :: s) = (!(isMark c && isRelative s) && isClear s) := rfl
    rw [relativeImportsFrom, hclear]
    split
    · next h => simp [h]
    · next h =>
      rw [Bool.not_eq_true] at h
      rw [h, ih]
      rfl

/-- No specifier is read from a clear text. -/
theorem relativeImports_eq_nil_iff (code : String) :
    relativeImports code = [] ↔ isClear code.toList = true := relativeImportsFrom_eq_nil_iff

/-- A start without a character is found before it. -/
theorem prefix_of_prefix_append_cons (hc : c ∉ p) (h : p <+: s ++ c :: t) : p <+: s := by
  rcases List.prefix_or_prefix_of_prefix h (List.prefix_append s _) with hps | ⟨u, rfl⟩
  · exact hps
  · rw [List.prefix_append_right_inj] at h
    cases u with
    | nil => exact ⟨[], by rw [List.append_nil, List.append_nil]⟩
    | cons d u =>
      obtain ⟨rfl, -⟩ := List.cons_prefix_cons.1 h
      exact absurd (List.mem_append_right s List.mem_cons_self) hc

theorem isRelative_iff : isRelative s = true ↔ ['.', '/'] <+: s ∨ ['.', '.', '/'] <+: s := by
  rw [isRelative, Bool.or_eq_true, List.isPrefixOf_iff_prefix, List.isPrefixOf_iff_prefix]

theorem mayBeRelative_iff : mayBeRelative s = true ↔
    (['.', '/'] <+: s ∨ ['.', '.', '/'] <+: s) ∨ s <+: ['.', '/'] ∨ s <+: ['.', '.', '/'] := by
  rw [mayBeRelative, Bool.or_eq_true, Bool.or_eq_true, isRelative_iff, List.isPrefixOf_iff_prefix,
    List.isPrefixOf_iff_prefix, or_assoc]

theorem mayBeRelative_of_append (h : mayBeRelative (s ++ t) = true) : mayBeRelative s = true := by
  rw [mayBeRelative_iff] at h ⊢
  have hself := List.prefix_append s t
  rcases h with (h | h) | h | h
  · rcases List.prefix_or_prefix_of_prefix h hself with h | h
    · exact .inl (.inl h)
    · exact .inr (.inl h)
  · rcases List.prefix_or_prefix_of_prefix h hself with h | h
    · exact .inl (.inr h)
    · exact .inr (.inr h)
  · exact .inr (.inl (hself.trans h))
  · exact .inr (.inr (hself.trans h))

theorem mayBeRelative_of_isRelative (h : isRelative s = true) : mayBeRelative s = true := by
  rw [mayBeRelative, h, Bool.true_or, Bool.true_or]

/-- A relative path goes on with no other character before its first steps are made. -/
theorem isRelative_of_mayBeRelative (hc : isStep c = false)
    (h : mayBeRelative (s ++ c :: t) = true) : isRelative s = true := by
  rw [isStep, Bool.or_eq_false_iff, beq_eq_false_iff_ne, beq_eq_false_iff_ne] at hc
  have hshort : c ∉ ['.', '/'] := by simp [hc]
  have hlong : c ∉ ['.', '.', '/'] := by simp [hc]
  rw [mayBeRelative_iff] at h
  rw [isRelative_iff]
  rcases h with (h | h) | h | h
  · exact .inl (prefix_of_prefix_append_cons hshort h)
  · exact .inr (prefix_of_prefix_append_cons hlong h)
  · exact absurd (h.subset (List.mem_append_right s List.mem_cons_self)) hshort
  · exact absurd (h.subset (List.mem_append_right s List.mem_cons_self)) hlong

/-- No mark in two texts is followed by a text of a kind if the second one does not make it so. -/
theorem noMarkBefore_append {test test' : List Char → Bool}
    (h : ∀ r, test' (r ++ t) = true → test r = true) (hs : noMarkBefore test s = true)
    (ht : noMarkBefore test' t = true) : noMarkBefore test' (s ++ t) = true := by
  induction s with
  | nil => exact ht
  | cons c s ih =>
    rw [noMarkBefore, Bool.and_eq_true, Bool.not_eq_true', Bool.and_eq_false_iff] at hs
    rw [List.cons_append, noMarkBefore, ih hs.2, Bool.and_true, Bool.not_eq_true',
      Bool.and_eq_false_iff]
    refine hs.1.imp_right fun hnot => ?_
    rw [Bool.eq_false_iff] at hnot ⊢
    exact fun htest => hnot (h s htest)

theorem isClosed_append (hs : isClosed s = true) (ht : isClosed t = true) :
    isClosed (s ++ t) = true :=
  noMarkBefore_append (fun _ => mayBeRelative_of_append) hs ht

theorem isClear_append_of_isClosed (hs : isClosed s = true) (ht : isClear t = true) :
    isClear (s ++ t) = true :=
  noMarkBefore_append
    (fun _ h => mayBeRelative_of_append (mayBeRelative_of_isRelative h)) hs ht

theorem isClear_of_isClosed (h : isClosed s = true) : isClear s = true := by
  have hs := isClear_append_of_isClosed h (t := []) rfl
  rwa [List.append_nil] at hs

/-- A relative path is not started before a text that starts apart. -/
theorem isRelative_of_append (hstart : startsApart t = true)
    (h : mayBeRelative (s ++ t) = true) : isRelative s = true := by
  cases t with
  | nil => cases hstart
  | cons c t => exact isRelative_of_mayBeRelative (by simpa [startsApart] using hstart) h

theorem isClosed_append_of_isClear (hs : isClear s = true) (ht : isClosed t = true)
    (hstart : startsApart t = true) : isClosed (s ++ t) = true :=
  noMarkBefore_append (fun _ => isRelative_of_append hstart) hs ht

theorem isClear_append (hs : isClear s = true) (ht : isClear t = true)
    (hstart : startsApart t = true) : isClear (s ++ t) = true :=
  noMarkBefore_append
    (fun _ h => isRelative_of_append hstart (mayBeRelative_of_isRelative h)) hs ht

/-- Nothing is read from a closed text. -/
theorem relativeImportsFrom_append (hs : isClosed s = true) (read t : List Char) :
    relativeImportsFrom read (s ++ t) = relativeImportsFrom (s.reverse ++ read) t := by
  induction s generalizing read with
  | nil => rfl
  | cons c s ih =>
    rw [isClosed, noMarkBefore, Bool.and_eq_true, Bool.not_eq_true', Bool.and_eq_false_iff] at hs
    have hnot : (isMark c && isRelative (s ++ t)) = false := by
      rw [Bool.and_eq_false_iff]
      refine hs.1.imp_right fun h => ?_
      rw [Bool.eq_false_iff] at h ⊢
      exact fun hrelative => h (mayBeRelative_of_append (mayBeRelative_of_isRelative hrelative))
    rw [List.cons_append, relativeImportsFrom, hnot, if_neg Bool.false_ne_true, ih hs.2,
      List.reverse_cons, List.append_assoc, List.singleton_append]

/-- What is read from the end of a text is read from the text. -/
theorem relativeImportsFrom_sublist (read s t : List Char) :
    (relativeImportsFrom (s.reverse ++ read) t).Sublist (relativeImportsFrom read (s ++ t)) := by
  induction s generalizing read with
  | nil => exact .refl _
  | cons c s ih =>
    have hrest := ih (c :: read)
    rw [List.reverse_cons, List.append_assoc]
    by_cases h : (isMark c && isRelative (s ++ t)) = true
    · have hfound : relativeImportsFrom read (c :: s ++ t) = _ := if_pos h
      rw [hfound]
      exact hrest.cons _
    · have hnone : relativeImportsFrom read (c :: s ++ t) = _ := if_neg h
      rw [hnone]
      exact hrest

/-- Texts without marks are closed. -/
theorem isClosed_of_without (h : Without isMark s) : isClosed s = true := by
  induction s with
  | nil => rfl
  | cons c s ih =>
    have hs : isClosed s = true := ih fun d hd => h d (List.mem_cons_of_mem c hd)
    rw [isClosed, noMarkBefore, h c List.mem_cons_self]
    exact hs

/-! ## Clear code -/

/-- No mark in a piece of text is followed by a relative path. -/
def Clear (s : String) : Prop := isClear s.toList = true

/-- No mark in a piece of text can be followed by a relative path. -/
def Closed (s : String) : Prop := isClosed s.toList = true

theorem closed_literal (h : isClosed s = true) : Closed (String.ofList s) := by
  rwa [Closed, String.toList_ofList]

theorem clear_literal (h : isClear s = true) : Clear (String.ofList s) := by
  rwa [Clear, String.toList_ofList]

theorem Closed.clear (h : Closed u) : Clear u := isClear_of_isClosed h

theorem Closed.append (hu : Closed u) (hv : Closed v) : Closed (u ++ v) := by
  rw [Closed, String.toList_append]
  exact isClosed_append hu hv

theorem Closed.append_literal (hu : Closed u) (hs : isClosed s = true) :
    Closed (u ++ String.ofList s) := hu.append (closed_literal hs)

theorem Closed.append_clear (hu : Closed u) (hv : Clear v) : Clear (u ++ v) := by
  rw [Clear, String.toList_append]
  exact isClear_append_of_isClosed hu hv

theorem Clear.append_literal (hu : Clear u) (hs : (isClear s && startsApart s) = true) :
    Clear (u ++ String.ofList s) := by
  rw [Bool.and_eq_true] at hs
  rw [Clear, String.toList_append, String.toList_ofList]
  exact isClear_append hu hs.1 hs.2

theorem Clear.closed_append_literal (hu : Clear u) (hs : (isClosed s && startsApart s) = true) :
    Closed (u ++ String.ofList s) := by
  rw [Bool.and_eq_true] at hs
  rw [Closed, String.toList_append, String.toList_ofList]
  exact isClosed_append_of_isClear hu hs.1 hs.2

theorem isMark_of_isPlain (h : isPlain c = true) : isMark c = false := by
  have hne {d : Char} (hd : isPlain d = false) : (c == d) = false := by
    rw [beq_eq_false_iff_ne]
    rintro rfl
    rw [h] at hd
    cases hd
  rw [isMark, hne (by decide), hne (by decide), hne (by decide)]
  rfl

theorem closed_of_every_isPlain (h : Every isPlain u.toList) : Closed u :=
  isClosed_of_without fun c hc => isMark_of_isPlain (h c hc)

mutual

/-- All pieces of text in a piece of code are clear. -/
def Code.Clear : Code → Prop
  | .blank => True
  | .line text => Feature.Clear text
  | .entry key value => Feature.Clear key ∧ Feature.Clear value
  | .block opening body closing => Feature.Clear opening ∧ AllClear body ∧ Feature.Clear closing

/-- The same for several pieces of code. -/
def AllClear : List Code → Prop
  | [] => True
  | c :: cs => c.Clear ∧ AllClear cs

end

theorem allClear_map {α : Type} {make : α → Code} {l : List α} (h : ∀ a ∈ l, (make a).Clear) :
    AllClear (l.map make) := by
  induction l with
  | nil => trivial
  | cons a l ih =>
    exact ⟨h a List.mem_cons_self, ih fun b hb => h b (List.mem_cons_of_mem a hb)⟩

theorem closed_indentation (level : Nat) : Closed (indentation level) := by
  refine isClosed_of_without fun c hc => ?_
  rw [indentation, String.toList_ofList] at hc
  rw [List.eq_of_mem_replicate hc]
  rfl

mutual

theorem Code.clear_lines (level : Nat) : ∀ code : Code, code.Clear →
    ∀ line ∈ code.lines level, Feature.Clear line
  | .blank, _, line, hline => by
    rw [Code.lines, List.mem_singleton] at hline
    rw [hline]
    exact clear_literal rfl
  | .line text, h, line, hline => by
    rw [Code.lines, List.mem_singleton] at hline
    rw [hline]
    exact (closed_indentation level).append_clear h
  | .entry key value, h, line, hline => by
    rw [Code.lines, List.mem_singleton] at hline
    have hkey : Closed (indentation level ++ key ++ ": ") :=
      ((closed_indentation level).append_clear h.1).closed_append_literal (by decide)
    rw [hline]
    exact (hkey.append_clear h.2).append_literal (by decide)
  | .block opening body closing, h, line, hline => by
    obtain ⟨hopening, hbody, hclosing⟩ := h
    rw [Code.lines, List.mem_append, List.mem_cons, List.mem_singleton] at hline
    rcases hline with (rfl | hline) | rfl
    · exact (closed_indentation level).append_clear hopening
    · exact clear_linesOf (level + 1) body hbody line hline
    · exact (closed_indentation level).append_clear hclosing

theorem clear_linesOf (level : Nat) : ∀ body : List Code, AllClear body →
    ∀ line ∈ linesOf level body, Feature.Clear line
  | [], _, line, hline => by cases hline
  | code :: body, h, line, hline => by
    rw [linesOf, List.mem_append] at hline
    rcases hline with hline | hline
    · exact code.clear_lines level h.1 line hline
    · exact clear_linesOf level body h.2 line hline

end

/-- A text of clear lines is clear. -/
theorem clear_textOfLines {lines : List String} (h : ∀ line ∈ lines, Clear line) :
    Clear (textOfLines lines) := by
  induction lines with
  | nil => exact clear_literal rfl
  | cons line lines ih =>
    obtain ⟨hline, hlines⟩ := List.forall_mem_cons.1 h
    have hsplit : textOfLines (line :: lines) = line ++ "\n" ++ textOfLines lines := by
      rw [textOfLines, List.map_cons, String.join_cons]
      rfl
    rw [hsplit]
    exact (hline.closed_append_literal (by decide)).append_clear (ih hlines)

/-! ## Statements that take names from other files -/

theorem isWhitespace_of_isPlain (h : isPlain c = true) : c.isWhitespace = false := by
  rw [Bool.eq_false_iff]
  intro hblank
  have hcases : c = ' ' ∨ c = '\t' ∨ c = '\r' ∨ c = '\n' := by
    simpa [Char.isWhitespace, or_assoc] using hblank
  rcases hcases with rfl | rfl | rfl | rfl <;> cases h

/-- Plain names without the blanks between them are the pieces between the commas. -/
theorem filter_intercalate (h : ∀ n ∈ names, Every isPlain n.toList) :
    (", ".intercalate names).toList.filter (!·.isWhitespace) =
      joinPieces ',' (names.map String.toList) := by
  rw [String.toList_intercalate]
  induction names with
  | nil => rfl
  | cons n names ih =>
    have hn : n.toList.filter (!·.isWhitespace) = n.toList := by
      refine List.filter_eq_self.2 fun d hd => ?_
      rw [isWhitespace_of_isPlain (h n List.mem_cons_self d hd)]
      rfl
    cases names with
    | nil => simpa [joinPieces] using hn
    | cons n' names =>
      have hrest := ih fun k hk => h k (List.mem_cons_of_mem n hk)
      have hseparator : ", ".toList.filter (!·.isWhitespace) = [','] := by decide
      simp only [List.map_cons] at hrest ⊢
      rw [List.intercalate_cons_cons, List.filter_append, List.filter_append, hn, hseparator,
        hrest, joinPieces, List.append_assoc, List.singleton_append]

theorem not_mem_intercalate {d : Char} (hplain : isPlain d = false) (hcomma : d ≠ ',')
    (hblank : d.isWhitespace = false) (h : ∀ n ∈ names, Every isPlain n.toList) :
    d ∉ (", ".intercalate names).toList := by
  intro hd
  have hmem : d ∈ joinPieces ',' (names.map String.toList) := by
    rw [← filter_intercalate h]
    exact List.mem_filter.2 ⟨hd, by rw [hblank]; rfl⟩
  refine not_mem_joinPieces hcomma ?_ hmem
  intro p hp hd
  obtain ⟨n, hn, rfl⟩ := List.mem_map.1 hp
  rw [h n hn d hd] at hplain
  cases hplain

/-- What is listed in braces before `from` is what the commas divide, without blanks. -/
theorem namesBefore_append {inner : List Char} (hopen : '\x7b' ∉ inner) (start : List Char) :
    namesBefore (" morf \x7d".toList ++ (inner.reverse ++ '\x7b' :: start)) =
      (pieces ',' (inner.filter (!·.isWhitespace))).map String.ofList := by
  have hinner : Every (· != '\x7b') inner.reverse := by
    intro d hd
    rw [bne_iff_ne]
    rintro rfl
    exact hopen (List.mem_reverse.1 hd)
  have htake : (inner.reverse ++ '\x7b' :: start).takeWhile (· != '\x7b') = inner.reverse :=
    takeWhile_append_of_notStarting hinner (by simp)
  show (pieces ',' (((inner.reverse ++ '\x7b' :: start).takeWhile (· != '\x7b')).reverse.filter
    (!·.isWhitespace))).map String.ofList = _
  rw [htake, List.reverse_reverse]

/-- Plain names are read back from their list in braces. -/
theorem namesBefore_braced (hne : names ≠ []) (h : ∀ n ∈ names, Every isPlain n.toList)
    (start : String) (read : List Char) :
    namesBefore ((start ++ braced names ++ " from ").toList.reverse ++ read) = names := by
  have hopen := not_mem_intercalate (d := '\x7b') (by decide) (by decide) (by decide) h
  have hfilter := filter_intercalate h
  have hnames : ∀ p ∈ names.map String.toList, ',' ∉ p := by
    intro p hp hcomma
    obtain ⟨n, hn, rfl⟩ := List.mem_map.1 hp
    cases h n hn _ hcomma
  rw [braced]
  simp only [String.toList_append]
  generalize (", ".intercalate names).toList = inner at hopen hfilter
  have hsplit : (start.toList ++ ("\x7b ".toList ++ inner ++ " \x7d".toList) ++
        " from ".toList).reverse ++ read =
      " morf \x7d".toList ++ ((' ' :: (inner ++ [' '])).reverse ++
        '\x7b' :: (start.toList.reverse ++ read)) := by simp
  rw [hsplit, namesBefore_append (by simpa using hopen), List.filter_cons_of_neg (by decide),
    List.filter_append, hfilter]
  show (pieces ',' (joinPieces ',' _ ++ [])).map String.ofList = names
  rw [List.append_nil, pieces_joinPieces (by simpa using hne) hnames]
  simp

/-- A statement from whose line its connection can be read. -/
structure Legible (s : Statement) (c : List String × String) : Prop where
  connection : Module.connection? s = some c
  plain : ∀ n ∈ c.1, Every isPlain n.toList
  listed : c.1 = [] → s = .exportAll c.2
  specifier : Without isMark c.2.toList

theorem closed_named {start : String} (hstart : Closed start)
    (h : ∀ n ∈ names, Every isPlain n.toList) : Closed (start ++ braced names ++ " from ") := by
  have hlist : Closed (", ".intercalate names) := by
    refine isClosed_of_without fun c hc => ?_
    rw [Bool.eq_false_iff]
    intro hmark
    have hcases : c = '\'' ∨ c = '"' ∨ c = '\x60' := by simpa [isMark, or_assoc] using hmark
    rcases hcases with rfl | rfl | rfl <;>
      exact not_mem_intercalate (by decide) (by decide) (by decide) h hc
  rw [braced]
  exact (hstart.append (((closed_literal (by decide)).append hlist).append_literal
    (by decide))).append_literal (by decide)

/-- The line of a statement is a clause and a specifier. -/
theorem Legible.exists_clause {s : Statement} {c : List String × String} (h : Legible s c) :
    ∃ clause, s.lines = [clause ++ "'" ++ c.2 ++ "'"] ∧ Closed clause ∧
      ∀ read, namesBefore (clause.toList.reverse ++ read) = c.1 := by
  obtain ⟨hconnection, hplain, hlisted, -⟩ := h
  have hsource (start specifier : String) :
      start ++ source specifier = start ++ " from " ++ "'" ++ specifier ++ "'" := by
    rw [source, ← String.toList_inj]
    simp
  cases s with
  | importNames names specifier =>
    cases hconnection
    have hne : names ≠ [] := fun hnil => by cases hlisted hnil
    exact ⟨_, by rw [← hsource]; rfl, closed_named (closed_literal (by decide)) hplain,
      namesBefore_braced hne hplain _⟩
  | importTypes names specifier =>
    cases hconnection
    have hne : names ≠ [] := fun hnil => by cases hlisted hnil
    exact ⟨_, by rw [← hsource]; rfl, closed_named (closed_literal (by decide)) hplain,
      namesBefore_braced hne hplain _⟩
  | exportNames names specifier =>
    cases hconnection
    have hne : names ≠ [] := fun hnil => by cases hlisted hnil
    exact ⟨_, by rw [← hsource]; rfl, closed_named (closed_literal (by decide)) hplain,
      namesBefore_braced hne hplain _⟩
  | exportAll specifier =>
    cases hconnection
    exact ⟨"export *" ++ " from ", by rw [← hsource]; rfl,
      (closed_literal (by decide)).append_literal (by decide), fun read => rfl⟩
  | blank => cases hconnection
  | doc => cases hconnection
  | constant => cases hconnection
  | interface => cases hconnection
  | typeAlias => cases hconnection

/-- The connection of a statement is read from its line if it is relative. -/
theorem Legible.exists_relativeImportsFrom {s : Statement} {c : List String × String}
    (h : Legible s c) (read rest : List Char) : ∃ read',
    relativeImportsFrom read ((textOfLines s.lines).toList ++ rest) =
      [c].filter (isRelative ·.2.toList) ++ relativeImportsFrom read' rest := by
  obtain ⟨clause, hlines, hclause, hnames⟩ := h.exists_clause
  have hmarks := h.specifier
  obtain ⟨names, specifier⟩ := c
  have htext : (textOfLines s.lines).toList ++ rest =
      clause.toList ++ '\'' :: ((specifier.toList ++ ['\'', '\n']) ++ rest) := by
    rw [hlines]
    simp [textOfLines]
  have hclosed : isClosed (specifier.toList ++ ['\'', '\n']) = true :=
    isClosed_append (isClosed_of_without hmarks) (by decide)
  have hrelative : isRelative (specifier.toList ++ ['\'', '\n'] ++ rest) =
      isRelative specifier.toList := by
    rw [List.append_assoc, Bool.eq_iff_iff]
    refine ⟨fun h => isRelative_of_mayBeRelative rfl (mayBeRelative_of_isRelative h), fun h => ?_⟩
    rw [isRelative_iff] at h ⊢
    exact h.imp (·.trans (List.prefix_append _ _)) (·.trans (List.prefix_append _ _))
  have htake : (specifier.toList ++ ['\'', '\n'] ++ rest).takeWhile (· != '\'') =
      specifier.toList := by
    rw [List.append_assoc]
    refine takeWhile_append_of_notStarting (fun c hc => ?_) (notStarting_cons.2 rfl)
    rw [bne_iff_ne]
    rintro rfl
    cases hmarks _ hc
  refine ⟨(specifier.toList ++ ['\'', '\n']).reverse ++
    '\'' :: (clause.toList.reverse ++ read), ?_⟩
  rw [htext, relativeImportsFrom_append hclause, relativeImportsFrom, hrelative, htake,
    relativeImportsFrom_append hclosed, hnames, String.ofList_toList]
  cases h : isRelative specifier.toList with
  | true => simp [isMark, h]
  | false => simp [h]

/-- The relative connections of the statements at the head of a module are read one by one. -/
theorem exists_relativeImportsFrom_heads {heads : Module} (h : ∀ s ∈ heads, ∃ c, Legible s c)
    (read rest : List Char) : ∃ read',
    relativeImportsFrom read ((textOfLines (heads.flatMap Statement.lines)).toList ++ rest) =
      (Module.connections heads).filter (isRelative ·.2.toList) ++
        relativeImportsFrom read' rest := by
  induction heads generalizing read with
  | nil =>
    refine ⟨read, ?_⟩
    rw [List.flatMap_nil, textOfLines, List.map_nil, String.join_nil]
    rfl
  | cons s heads ih =>
    obtain ⟨⟨c, hs⟩, hheads⟩ := List.forall_mem_cons.1 h
    have hconnections : Module.connections (s :: heads) = [c] ++ Module.connections heads :=
      List.filterMap_cons_some hs.connection
    obtain ⟨read₁, hfirst⟩ := hs.exists_relativeImportsFrom read
      ((textOfLines (heads.flatMap Statement.lines)).toList ++ rest)
    obtain ⟨read₂, hothers⟩ := ih hheads read₁
    refine ⟨read₂, ?_⟩
    rw [List.flatMap_cons, textOfLines_append, String.toList_append, List.append_assoc, hfirst,
      hothers, hconnections, List.filter_append, List.append_assoc]

/-- The relative specifiers in the whole text of a module are those of the statements at its head,
if all lines that follow are clear. -/
theorem relativeImports_render {heads rest : Module} (hheads : ∀ s ∈ heads, ∃ c, Legible s c)
    (hrest : ∀ line ∈ rest.flatMap Statement.lines, Clear line) :
    relativeImports (Module.render (heads ++ rest)) =
      (Module.connections heads).filter (isRelative ·.2.toList) := by
  have hsplit : (Module.render (heads ++ rest)).toList =
      (textOfLines (heads.flatMap Statement.lines)).toList ++
        (textOfLines (rest.flatMap Statement.lines)).toList := by
    rw [← String.toList_append, ← textOfLines_append, ← List.flatMap_append]
    rfl
  obtain ⟨read, hread⟩ := exists_relativeImportsFrom_heads hheads []
    (textOfLines (rest.flatMap Statement.lines)).toList
  have hnone : relativeImportsFrom read (textOfLines (rest.flatMap Statement.lines)).toList = [] :=
    relativeImportsFrom_eq_nil_iff.2 (clear_textOfLines hrest)
  rw [relativeImports, hsplit, hread, hnone, List.append_nil]

end FeatureGen.Feature

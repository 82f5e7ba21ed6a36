import FeatureGen.Proofs.Schema.Argument
import FeatureGen.Proofs.Text.Search
import FeatureGen.Proofs.Text.Span
import FeatureGen.Schema.Relation

/-!
# Printed attributes

An `Attribute` is printed as `@name` or `@name(…)` with blanks in front.  Attributes may stand side
by side, since the sign of the next one ends a name.

The scan that divides a line into declarations takes printed attributes one by one
(`spanAttributes_attributesText`).  The search for a tag, which knows nothing of attributes, finds
the first one that has the tag as its name (`exists_search?_afterTag?`): the only signs in the text
are those in front of names, and a dotted name does not begin with a tag.
-/

namespace FeatureGen.Schema

open FeatureGen.Text

variable {s rest : List Char} {before : Option Char}

/-- A space between two parts of a declaration. -/
def oneGap : NonemptyRun isGap where
  chars := oneSpace.chars
  ne_nil := oneSpace.ne_nil

/-- Characters that the name of an attribute is made of. -/
def isNameChar (c : Char) : Bool := isWord c || c = '.'

/-- Characters that the arguments of an attribute may have. -/
def isArgumentChar (c : Char) : Bool := c != '@' && c != '\\' && !isLineBreak c

/-- The names that are searched for among attributes. -/
def tags : List (List Char) := ["default".toList, "relation".toList]

/-- An attribute of a field. -/
structure Attribute where
  /-- The name, which may have parts with dots between them. -/
  name : List Char
  /-- The text in parentheses, if there are any. -/
  args : Option (List Char) := none
  /-- The blanks before the attribute. -/
  gap : Run isGap := oneGap.toRun
  name_ne_nil : name ≠ [] := by decide
  isNameChar_name : Every isNameChar name := by decide
  dotted_name : '.' ∈ name → name.takeWhile isWord ∉ tags := by decide
  argumentText_args : ∀ s ∈ args, ArgumentText s := by simp
  isArgumentChar_args : ∀ s ∈ args, Every isArgumentChar s := by simp

/-- The arguments of an attribute in their parentheses. -/
def Attribute.argsText (a : Attribute) : List Char :=
  match a.args with
  | none => []
  | some s => '(' :: (s ++ [')'])

/-- The text of an attribute. -/
def Attribute.text (a : Attribute) : List Char := a.gap.chars ++ '@' :: (a.name ++ a.argsText)

/-- The text of attributes one after the other. -/
def attributesText (as : List Attribute) : List Char := as.flatMap Attribute.text

@[simp] theorem attributesText_cons (a : Attribute) (as : List Attribute) :
    attributesText (a :: as) = a.text ++ attributesText as := rfl

/-! ## Where a part of a declaration ends -/

/-- The text is empty, or it starts with a blank or with the sign of an attribute. -/
def Ended (s : List Char) : Prop := NotStarting (fun c => !(isBlank c || c == '@')) s

theorem Ended.notStarting {test : Char → Bool} (h : Ended s)
    (hblank : ∀ c, isBlank c = true → test c = false) (hsign : test '@' = false) :
    NotStarting test s := by
  apply h.mono
  intro c hc
  simp only [Bool.not_eq_false', Bool.or_eq_true, beq_iff_eq] at hc
  rcases hc with hc | rfl
  · exact hblank c hc
  · exact hsign

theorem Ended.head?_ne (h : Ended s) : s.head? ≠ some '(' := by
  intro hs
  have hparen := h '(' hs
  exact absurd hparen (by decide)

theorem isBlank_of_isGap {c : Char} (h : isGap c = true) : isBlank c = true := by
  simp only [isGap, Bool.or_eq_true, decide_eq_true_eq] at h
  rcases h with rfl | rfl
  · decide
  · decide

theorem isGap_eq_false_of_isWord {c : Char} (h : isWord c = true) : isGap c = false := by
  cases hg : isGap c with
  | false => rfl
  | true => rw [isWord_eq_false_of_isBlank (isBlank_of_isGap hg)] at h; cases h

theorem isNameChar_eq_false_of_isBlank {c : Char} (h : isBlank c = true) :
    isNameChar c = false := by
  have hdot : isBlank '.' = false := by decide
  have hne : c ≠ '.' := by
    rintro rfl
    rw [hdot] at h
    cases h
  simp [isNameChar, isWord_eq_false_of_isBlank h, hne]

theorem isBlank_eq_false_of_isNameChar {c : Char} (h : isNameChar c = true) :
    isBlank c = false := by
  cases hb : isBlank c with
  | false => rfl
  | true => rw [isNameChar_eq_false_of_isBlank hb] at h; cases h

/-- A sign, with blanks before it, ends what stands before. -/
theorem ended_append_sign (hs : Every isBlank s) (rest : List Char) : Ended (s ++ '@' :: rest) := by
  apply notStarting_append
  · intro c hc
    simp [hs c hc]
  · intro _
    exact notStarting_cons.2 (by decide)

/-- An attribute ends what stands before it. -/
theorem Attribute.ended_text (a : Attribute) (rest : List Char) : Ended (a.text ++ rest) := by
  rw [Attribute.text, List.append_assoc]
  exact ended_append_sign (fun c hc => isBlank_of_isGap (a.gap.every c hc)) _

theorem ended_attributesText_append (as : List Attribute) (hrest : Ended rest) :
    Ended (attributesText as ++ rest) := by
  cases as with
  | nil => exact hrest
  | cons a as =>
    rw [attributesText_cons, List.append_assoc]
    exact a.ended_text _

theorem ended_attributesText (as : List Attribute) : Ended (attributesText as) := by
  cases as with
  | nil => exact notStarting_nil
  | cons a as => exact a.ended_text (attributesText as)

/-- A parenthesis or what ends an attribute ends its name. -/
theorem Attribute.notStarting_isNameChar (a : Attribute) (hrest : Ended rest) :
    NotStarting isNameChar (a.argsText ++ rest) := by
  rw [Attribute.argsText]
  cases a.args with
  | none => exact hrest.notStarting (fun c hc => isNameChar_eq_false_of_isBlank hc) (by decide)
  | some s => exact notStarting_cons.2 (by decide)

/-! ## Scanning attributes -/

theorem Attribute.exists_name_eq_cons (a : Attribute) :
    ∃ c t, a.name = c :: t ∧ isNameChar c = true := by
  cases hname : a.name with
  | nil => exact absurd hname a.name_ne_nil
  | cons c t => exact ⟨c, t, rfl, a.isNameChar_name c (by simp [hname])⟩

theorem Attribute.attributeName?_append (a : Attribute) (hrest : NotStarting isNameChar rest) :
    attributeName? (a.gap.chars ++ '@' :: (a.name ++ rest)) =
      some (a.gap.chars ++ ['@'] ++ a.name, rest) := by
  have hsign : NotStarting isGap ('@' :: (a.name ++ rest)) := notStarting_cons.2 (by decide)
  have hname : spanSome? (fun c => isWord c || c = '.') (a.name ++ rest) = some (a.name, rest) :=
    spanSome?_append a.name_ne_nil a.isNameChar_name hrest
  obtain ⟨c, t, hcons, hc⟩ := a.exists_name_eq_cons
  have hne : c ≠ '@' := by
    rintro rfl
    exact absurd hc (by decide)
  rw [attributeName?, takeWhile_append_of_notStarting a.gap.every hsign,
    dropWhile_append_of_notStarting a.gap.every hsign]
  split
  · next r hr =>
    rw [hcons] at hr
    exact absurd (List.cons.inj (List.cons.inj hr).2).1 hne
  · next r hother hr =>
    rw [← (List.cons.inj hr).2]
    simp only [hname, Option.map_some]
  · next hnone => exact absurd rfl (hnone _)

theorem Attribute.backslash_not_mem (a : Attribute) (hargs : a.args = some s) : '\\' ∉ s :=
  fun hm => absurd (a.isArgumentChar_args s hargs _ hm) (by decide)

theorem Attribute.argsText_append (a : Attribute) (hargs : a.args = some s) (rest : List Char) :
    a.argsText ++ rest = '(' :: (s ++ ')' :: rest) := by
  simp [Attribute.argsText, hargs]

/-- The parentheses of an attribute close after its arguments. -/
theorem Attribute.closeOffset?_args (a : Attribute) (hargs : a.args = some s) (rest : List Char) :
    closeOffset? 0 false none ('(' :: (s ++ ')' :: rest)) = some (s.length + 1) :=
  (a.argumentText_args s hargs).closeOffset?_parens (a.backslash_not_mem hargs) rest

/-- A printed attribute is taken whole. -/
theorem Attribute.oneAttribute?_text (a : Attribute) (hrest : Ended rest) :
    oneAttribute? (a.text ++ rest) = some (a.text, rest) := by
  have hname := a.attributeName?_append (a.notStarting_isNameChar hrest)
  have htext : a.text ++ rest = a.gap.chars ++ '@' :: (a.name ++ (a.argsText ++ rest)) := by
    simp [Attribute.text]
  rw [htext, oneAttribute?, hname]
  cases hargs : a.args with
  | none => simp [Attribute.text, Attribute.argsText, hargs, hrest.head?_ne]
  | some s =>
    have hsplit : '(' :: (s ++ ')' :: rest) = ('(' :: (s ++ [')'])) ++ rest := by simp
    have hlength : ('(' :: (s ++ [')'])).length = s.length + 1 + 1 := by simp
    have htake : ('(' :: (s ++ ')' :: rest)).take (s.length + 1 + 1) = '(' :: (s ++ [')']) := by
      rw [hsplit, List.take_left' hlength]
    have hdrop : ('(' :: (s ++ ')' :: rest)).drop (s.length + 1 + 1) = rest := by
      rw [hsplit, List.drop_left' hlength]
    simp only [a.argsText_append hargs, List.head?_cons, if_true, a.closeOffset?_args hargs, htake,
      hdrop]
    simp [Attribute.text, Attribute.argsText, hargs]

theorem spanAttributes_of_eq_none (h : oneAttribute? s = none) : spanAttributes s = ([], s) := by
  rw [spanAttributes]
  split
  · rfl
  · next a r hsome =>
    rw [h] at hsome
    cases hsome

theorem spanAttributes_of_eq_some {a : List Char} (h : oneAttribute? s = some (a, rest)) :
    spanAttributes s = (a ++ (spanAttributes rest).1, (spanAttributes rest).2) := by
  rw [spanAttributes]
  split
  · next hnone =>
    rw [h] at hnone
    cases hnone
  · next a' r hsome =>
    rw [h] at hsome
    cases hsome
    rfl

/-- Printed attributes are taken up to text that is no attribute. -/
theorem spanAttributes_attributesText (as : List Attribute) (hrest : Ended rest)
    (hnone : attributeName? rest = none) :
    spanAttributes (attributesText as ++ rest) = (attributesText as, rest) := by
  induction as with
  | nil =>
    have hone : oneAttribute? rest = none := by rw [oneAttribute?, hnone]
    exact spanAttributes_of_eq_none hone
  | cons a as ih =>
    rw [attributesText_cons, List.append_assoc,
      spanAttributes_of_eq_some (a.oneAttribute?_text (ended_attributesText_append as hrest)), ih]

/-! ## Searching for a tag -/

/-- The sign and the word after it stand in the text, and the word ends there. -/
def HasTag (tag : String) (s : List Char) : Prop :=
  ∃ p r, s = p ++ '@' :: (tag.toList ++ r) ∧ NotStarting isWord r

theorem afterTag?_eq_some_iff {tag : String} :
    afterTag? tag s = some rest ↔ s = '@' :: (tag.toList ++ rest) ∧ NotStarting isWord rest := by
  rw [afterTag?]
  constructor
  · intro h
    split at h
    · next r hafter =>
      split at h
      · next hend =>
        cases h
        exact ⟨eq_append_of_after? hafter, endsWord_iff.1 hend⟩
      · cases h
    · cases h
  · rintro ⟨rfl, hrest⟩
    have hafter := after?_append ('@' :: tag.toList) rest
    rw [List.cons_append] at hafter
    rw [hafter]
    exact if_pos (endsWord_iff.2 hrest)

/-- A search finds a tag if there is one. -/
theorem isSome_search?_afterTag?_iff {tag : String} (before : Option Char) :
    (search? (fun _ => afterTag? tag) before s).isSome = true ↔ HasTag tag s := by
  rw [Option.isSome_iff_ne_none, ne_eq, search?_eq_none_iff]
  simp only [Classical.not_forall]
  constructor
  · rintro ⟨p, t, rfl, hfound⟩
    obtain ⟨r, hr⟩ := Option.ne_none_iff_exists'.1 hfound
    obtain ⟨rfl, hword⟩ := afterTag?_eq_some_iff.1 hr
    exact ⟨p, r, rfl, hword⟩
  · rintro ⟨p, r, rfl, hword⟩
    refine ⟨p, _, rfl, ?_⟩
    rw [afterTag?_eq_some_iff.2 ⟨rfl, hword⟩]
    exact Option.some_ne_none r

instance {tag : String} : Decidable (HasTag tag s) :=
  decidable_of_iff _ (isSome_search?_afterTag?_iff none)

/-- The blanks at the end are in no tag. -/
theorem hasTag_trimEnd_iff {tag : String} (htag : Every isWord tag.toList) :
    HasTag tag (trimEnd s) ↔ HasTag tag s := by
  constructor
  · rintro ⟨p, r, heq, hword⟩
    obtain ⟨w, hw, hblank⟩ := trimEnd_append_blanks s
    refine ⟨p, r ++ w, by rw [← hw, heq]; simp, hword.append fun _ => ?_⟩
    have hend := notStarting_isWord_append hblank (s := []) notStarting_nil
    rwa [List.append_nil] at hend
  · rintro ⟨p, r, rfl, hword⟩
    have htext : p ++ '@' :: (tag.toList ++ r) = p ++ '@' :: tag.toList ++ r := by simp
    have hfirst : NotEnding isBlank ('@' :: tag.toList) := by
      apply notEnding_of_without
      intro c hc
      rcases List.mem_cons.1 hc with rfl | hc
      · decide
      · exact isBlank_eq_false_of_isWord (htag c hc)
    have hend : NotEnding isBlank (p ++ '@' :: tag.toList) :=
      notEnding_append hfirst fun he => by cases he
    obtain ⟨w, hw, -⟩ := trimEnd_append_blanks r
    rw [← hw] at hword
    refine ⟨p, trimEnd r, ?_, hword.of_append⟩
    rw [htext, trimEnd_append_of_notEnding hend]
    simp

/-- Without a sign there is no tag. -/
theorem passes_afterTag? {tag : String} {p : List Char} (h : '@' ∉ p) :
    Passes (fun _ => afterTag? tag) before p s := by
  induction p generalizing before with
  | nil => trivial
  | cons c p ih =>
    have ⟨hc, hp⟩ := not_or.1 (mt List.mem_cons.2 h)
    refine ⟨?_, ih hp⟩
    simp [afterTag?, after?, afterBy?, hc]

theorem isWord_of_mem_tags {t : List Char} (ht : t ∈ tags) : Every isWord t := by
  have hall : ∀ t ∈ tags, Every isWord t := by decide
  exact hall t ht

/-- A name without dots is a word. -/
theorem Attribute.isWord_name (a : Attribute) (hdot : '.' ∉ a.name) :
    Every isWord a.name := by
  intro c hc
  have hchar := a.isNameChar_name c hc
  rw [isNameChar, Bool.or_eq_true, decide_eq_true_eq] at hchar
  rcases hchar with hchar | rfl
  · exact hchar
  · exact absurd hc hdot

/-- A name whose first word is a tag is that tag. -/
theorem Attribute.name_eq_of_takeWhile (a : Attribute) (hrest : NotStarting isWord rest)
    {t : List Char} (ht : t ∈ tags) (h : (a.name ++ rest).takeWhile isWord = t) : a.name = t := by
  by_cases hdot : '.' ∈ a.name
  · have hshort : a.name.takeWhile isWord ≠ a.name := by
      intro he
      have hall : Every isWord (a.name.takeWhile isWord) :=
        List.all_eq_true.1 List.all_takeWhile
      rw [he] at hall
      exact absurd (hall '.' hdot) (by decide)
    rw [List.takeWhile_append, if_neg] at h
    · exact absurd (h ▸ ht) (a.dotted_name hdot)
    · intro hlength
      exact hshort ((List.takeWhile_prefix isWord).eq_of_length hlength)
  · rwa [takeWhile_append_of_notStarting (a.isWord_name hdot) hrest] at h

/-- A tag is found only at the name that it is. -/
theorem Attribute.name_eq_of_afterTag? (a : Attribute) (hrest : NotStarting isWord rest)
    {tag : String} (htag : tag.toList ∈ tags)
    (h : afterTag? tag ('@' :: (a.name ++ rest)) = some s) : a.name = tag.toList := by
  obtain ⟨heq, hend⟩ := afterTag?_eq_some_iff.1 h
  apply a.name_eq_of_takeWhile hrest htag
  rw [(List.cons.inj heq).2, takeWhile_append_of_notStarting (isWord_of_mem_tags htag) hend]

/-- A tag is found at the name that it is. -/
theorem Attribute.afterTag?_name (a : Attribute) (hrest : NotStarting isNameChar rest)
    {tag : String} (htag : tag.toList ∈ tags) :
    afterTag? tag ('@' :: (a.name ++ rest)) = if a.name = tag.toList then some rest else none := by
  have hword : NotStarting isWord rest := hrest.mono fun c hc => by
    rw [isNameChar, Bool.or_eq_false_iff] at hc
    exact hc.1
  by_cases hname : a.name = tag.toList
  · rw [if_pos hname, hname]
    exact afterTag?_eq_some_iff.2 ⟨rfl, hword⟩
  · rw [if_neg hname]
    cases hfound : afterTag? tag ('@' :: (a.name ++ rest)) with
    | none => rfl
    | some r => exact absurd (a.name_eq_of_afterTag? hword htag hfound) hname

/-- There is one sign in an attribute. -/
theorem Attribute.not_mem_argsText (a : Attribute) : '@' ∉ a.name ++ a.argsText := by
  intro hm
  rcases List.mem_append.1 hm with hm | hm
  · exact absurd (a.isNameChar_name _ hm) (by decide)
  · rw [Attribute.argsText] at hm
    cases hargs : a.args with
    | none =>
      rw [hargs] at hm
      cases hm
    | some s =>
      have hs : '@' ∉ s := fun hs => absurd (a.isArgumentChar_args s hargs _ hs) (by decide)
      simp [hargs, hs] at hm

/-- A search for a tag looks at the name of an attribute, and goes on after the attribute. -/
theorem Attribute.search?_text (a : Attribute) {tag : String} (htag : tag.toList ∈ tags)
    (hrest : Ended rest) :
    search? (fun _ => afterTag? tag) before (a.text ++ rest) =
      if a.name = tag.toList then some (a.argsText ++ rest)
      else search? (fun _ => afterTag? tag) before rest := by
  have hgap : '@' ∉ a.gap.chars := fun hm => absurd (a.gap.every _ hm) (by decide)
  have hname := a.afterTag?_name (a.notStarting_isNameChar hrest) htag
  have htext : a.text ++ rest = a.gap.chars ++ '@' :: (a.name ++ (a.argsText ++ rest)) := by
    simp [Attribute.text]
  rw [htext, search?_append (passes_afterTag? hgap), search?, hname]
  by_cases h : a.name = tag.toList
  · rw [if_pos h, if_pos h]
  · rw [if_neg h, if_neg h, ← List.append_assoc,
      search?_append (passes_afterTag? a.not_mem_argsText)]
    exact search?_before (afterTag? tag) _ before rest

/-- A search for a tag finds the first attribute with that name. -/
theorem exists_search?_afterTag? (tag : String) (htag : tag.toList ∈ tags) (before : Option Char)
    (as : List Attribute) :
    ∃ rest, Ended rest ∧ search? (fun _ => afterTag? tag) before (attributesText as) =
      (as.find? fun a => a.name = tag.toList).map fun a => a.argsText ++ rest := by
  induction as with
  | nil => exact ⟨[], notStarting_nil, rfl⟩
  | cons a as ih =>
    have hended := ended_attributesText as
    rw [attributesText_cons, a.search?_text htag hended, List.find?_cons]
    by_cases h : a.name = tag.toList
    · exact ⟨attributesText as, hended, by simp [h]⟩
    · obtain ⟨rest, hrest, hsearch⟩ := ih
      exact ⟨rest, hrest, by simp [h, hsearch]⟩

end FeatureGen.Schema

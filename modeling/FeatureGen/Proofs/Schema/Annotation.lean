import FeatureGen.Proofs.Project.Path
import FeatureGen.Proofs.Schema.Attribute
import FeatureGen.Proofs.Schema.Nested

/-!
# Printed relation attributes

An `Annotation` is a relation attribute as it may be written: the two key lists, at most one name,
in front without a keyword or anywhere with one, and further arguments, in any order, with blanks
around every argument and every key.  Its structure says that each of them occurs as often as it
may.

However an annotation is written, its name and its keys are read from it, after any text in which
the tag does not occur and before any text (`parse_annotation`).  Only a quote right behind a
backslash is left out: in a further argument it would be a quote to one scanner and none to the
other (`unbalanced_of_escaped_quote`).
-/

namespace FeatureGen.Schema

open FeatureGen.Text

variable {α : Type} {key s t p rest lead : List Char} {before : Option Char}

/-! ## Arguments -/

/-- No blanks. -/
def noBlanks : Run isBlank where
  chars := []
  every := every_nil isBlank

/-- Something with blanks around it. -/
structure Padded (α : Type) where
  /-- What stands between the blanks. -/
  content : α
  before : Run isBlank := noBlanks
  after : Run isBlank := noBlanks

/-- The text of something with blanks around it. -/
def Padded.text (text : α → List Char) (p : Padded α) : List Char :=
  p.before.chars ++ (text p.content ++ p.after.chars)

/-- The text of a list with commas between its members. -/
def listText (text : α → List Char) (ps : List (Padded α)) : List Char :=
  joinPieces ',' (ps.map (Padded.text text))

/-- A key in a key list. -/
structure RelationKey where
  chars : List Char
  ne_nil : chars ≠ [] := by decide
  trim_chars : trim chars = chars := by decide
  without : Without isDivider chars := by decide

/-- A key list that is not empty. -/
structure KeyList where
  keys : List (Padded RelationKey)
  ne_nil : keys ≠ [] := by simp

/-- The text of a key list. -/
def KeyList.text (k : KeyList) : List Char := '[' :: (listText RelationKey.chars k.keys ++ [']'])

/-- The keys of a key list. -/
def KeyList.names (k : KeyList) : List String :=
  k.keys.map fun p => String.ofList p.content.chars

/-- The name of a relation. -/
structure RelationName where
  chars : List Char
  ne_nil : chars ≠ [] := by decide
  quote_not_mem : '"' ∉ chars := by decide
  backslash_not_mem : '\\' ∉ chars := by decide
  head?_ne : chars.head? ≠ some '\'' := by decide
  getLast?_ne : chars.getLast? ≠ some '\'' := by decide

/-- The name in quotes. -/
def RelationName.text (n : RelationName) : List Char := '"' :: (n.chars ++ ['"'])

/-- The keywords that mean something. -/
def relationKeywords : List (List Char) :=
  ["name".toList, "fields".toList, "references".toList]

/-- An argument that does not matter. -/
structure FurtherArgument where
  key : List Char
  value : List Char
  isWordText_key : IsWordText key := by decide
  key_not_mem : key ∉ relationKeywords := by decide
  value_ne_nil : value ≠ [] := by decide
  trim_value : trim value = value := by decide
  nestedText_value : NestedText true value
  unescaped_value : Unescaped value := by decide

/-- A colon with blanks around it. -/
structure Colon where
  before : Run isBlank := noBlanks
  after : Run isBlank := oneSpace.toRun

/-- The text of an argument with a keyword. -/
def keyedText (key : List Char) (colon : Colon) (value : List Char) : List Char :=
  key ++ (colon.before.chars ++ ':' :: (colon.after.chars ++ value))

/-- An argument of a relation attribute. -/
inductive RelationArgument
  | bareName (name : RelationName)
  | name (name : RelationName) (colon : Colon := {})
  | fields (keys : KeyList) (colon : Colon := {})
  | references (keys : KeyList) (colon : Colon := {})
  | further (argument : FurtherArgument) (colon : Colon := {})

namespace RelationArgument

/-- The text of an argument. -/
def text : RelationArgument → List Char
  | .bareName n => n.text
  | .name n colon => keyedText "name".toList colon n.text
  | .fields k colon => keyedText "fields".toList colon k.text
  | .references k colon => keyedText "references".toList colon k.text
  | .further a colon => keyedText a.key colon a.value

/-- Whether the argument is a name without a keyword. -/
def isBare : RelationArgument → Bool
  | .bareName _ => true
  | _ => false

/-- The name that an argument gives. -/
def name? : RelationArgument → Option RelationName
  | .bareName n => some n
  | .name n _ => some n
  | _ => none

/-- The list of fields that an argument gives. -/
def fields? : RelationArgument → Option KeyList
  | .fields k _ => some k
  | _ => none

/-- The list of references that an argument gives. -/
def references? : RelationArgument → Option KeyList
  | .references k _ => some k
  | _ => none

end RelationArgument

/-- A relation attribute as it is written. -/
structure Annotation where
  /-- The arguments. -/
  args : List (Padded RelationArgument)
  /-- The name, if there is one. -/
  name : Option RelationName := none
  /-- The fields that hold the keys. -/
  fields : KeyList
  /-- The keys that they refer to. -/
  references : KeyList
  names_args : (args.map Padded.content).filterMap RelationArgument.name? = name.toList := by rfl
  fields_args : (args.map Padded.content).filterMap RelationArgument.fields? = [fields] := by rfl
  references_args :
    (args.map Padded.content).filterMap RelationArgument.references? = [references] := by rfl
  isBare_args : ∀ a ∈ (args.map Padded.content).tail, a.isBare = false := by decide

/-- The text of a relation attribute. -/
def Annotation.text (a : Annotation) : List Char :=
  "@relation".toList ++ '(' :: (listText RelationArgument.text a.args ++ [')'])

/-- What a relation attribute says. -/
def Annotation.attribute (a : Annotation) : RelationAttribute where
  name := a.name.map fun n => String.ofList n.chars
  fields := a.fields.names
  references := a.references.names

/-! ## The shape of arguments -/

/-- A text that is kept whole between commas. -/
structure IsArgument (s : List Char) : Prop where
  ne_nil : s ≠ []
  notStarting : NotStarting isBlank s
  notEnding : NotEnding isBlank s
  nestedText : NestedText true s
  unescaped : Unescaped s

/-- No blank is a mark, a quote or a backslash. -/
theorem not_mem_of_isBlank (hs : Every isBlank s) {c : Char} (hc : isBlank c = false) : c ∉ s := by
  intro hmem
  rw [hs c hmem] at hc
  cases hc

theorem nestedText_of_isBlank {top : Bool} (hs : Every isBlank s) : NestedText top s :=
  nestedText_of_every hs (by decide)

/-- Blanks may stand around an argument. -/
theorem IsArgument.padded {text : α → List Char} {p : Padded α} (h : IsArgument (text p.content)) :
    trim (p.text text) = text p.content ∧ NestedText true (p.text text) ∧
      Unescaped (p.text text) := by
  have hbefore := p.before.every
  have hafter := p.after.every
  have hquote : '"' ∉ p.after.chars := not_mem_of_isBlank hafter (by decide)
  refine ⟨?_, ?_, ?_⟩
  · rw [Padded.text, trim, trimStart_append_of_blank hbefore, ← trim, trim_append_of_blank hafter,
      trim_of_notStarting h.notStarting h.notEnding]
  · exact (nestedText_of_isBlank hbefore).append (h.nestedText.append (nestedText_of_isBlank hafter))
  · apply Unescaped.append_left (not_mem_of_isBlank hbefore (by decide))
    apply h.unescaped.append (unescaped_of_not_mem_quote hquote)
    intro c hc
    rw [beq_eq_false_iff_ne]
    rintro rfl
    exact hquote (List.mem_of_head? hc)

/-- Padded arguments are read from between the commas of their list. -/
theorem filter_trim_padded {text : α → List Char} (h : ∀ a, IsArgument (text a))
    (ps : List (Padded α)) :
    ((ps.map (Padded.text text)).map trim).filter (!·.isEmpty) =
      (ps.map Padded.content).map text := by
  have htrim : (ps.map (Padded.text text)).map trim = (ps.map Padded.content).map text := by
    rw [List.map_map, List.map_map]
    exact List.map_congr_left fun p _ => (h p.content).padded.1
  rw [htrim]
  apply List.filter_eq_self.2
  intro s hs
  obtain ⟨a, -, rfl⟩ := List.mem_map.1 hs
  simpa using (h a).ne_nil

theorem nestedText_of_mem_padded {text : α → List Char} (h : ∀ a, IsArgument (text a))
    {ps : List (Padded α)} : ∀ s ∈ ps.map (Padded.text text), NestedText true s := by
  intro s hs
  obtain ⟨p, -, rfl⟩ := List.mem_map.1 hs
  exact (h p.content).padded.2.1

theorem nestedText_listText {text : α → List Char} (h : ∀ a, IsArgument (text a))
    (ps : List (Padded α)) : NestedText false (listText text ps) :=
  .joinPieces (nestedText_of_mem_padded h)

theorem unescaped_listText {text : α → List Char} (h : ∀ a, IsArgument (text a))
    (ps : List (Padded α)) : Unescaped (listText text ps) := by
  apply Unescaped.joinPieces
  intro s hs
  obtain ⟨p, -, rfl⟩ := List.mem_map.1 hs
  exact (h p.content).padded.2.2

theorem RelationKey.isArgument (k : RelationKey) : IsArgument k.chars where
  ne_nil := k.ne_nil
  notStarting := k.trim_chars ▸ notStarting_trim _
  notEnding := k.trim_chars ▸ notEnding_trim _
  nestedText := nestedText_of_without k.without
  unescaped := unescaped_of_not_mem_quote fun hmem => absurd (k.without _ hmem) (by decide)

theorem KeyList.isArgument (k : KeyList) : IsArgument k.text where
  ne_nil := List.cons_ne_nil _ _
  notStarting := notStarting_cons.2 (by decide)
  notEnding := by
    apply notEnding_append (s := '[' :: listText RelationKey.chars k.keys)
    · exact notEnding_of_without (by decide)
    · intro he
      cases he
  nestedText := .brackets (nestedText_listText RelationKey.isArgument k.keys) .nil
  unescaped := by
    have hinner := unescaped_listText RelationKey.isArgument k.keys
    exact Unescaped.append_left (s := ['[']) (by decide)
      (hinner.append (by decide) (notStarting_cons.2 (by decide)))

theorem RelationName.isArgument (n : RelationName) : IsArgument n.text where
  ne_nil := List.cons_ne_nil _ _
  notStarting := notStarting_cons.2 (by decide)
  notEnding := by
    apply notEnding_append (s := '"' :: n.chars)
    · exact notEnding_of_without (by decide)
    · intro he
      cases he
  nestedText := .quoted n.quote_not_mem n.backslash_not_mem .nil
  unescaped := by
    apply unescaped_of_not_mem_backslash
    simp [RelationName.text, n.backslash_not_mem]

theorem FurtherArgument.isArgument (a : FurtherArgument) : IsArgument a.value where
  ne_nil := a.value_ne_nil
  notStarting := a.trim_value ▸ notStarting_trim _
  notEnding := a.trim_value ▸ notEnding_trim _
  nestedText := a.nestedText_value
  unescaped := a.unescaped_value

theorem IsArgument.keyed (h : IsArgument s) (hkey : IsWordText key) (colon : Colon) :
    IsArgument (keyedText key colon s) where
  ne_nil := by simp [keyedText]
  notStarting := hkey.notStarting_isBlank _
  notEnding := by
    have htext : keyedText key colon s =
        (key ++ (colon.before.chars ++ ':' :: colon.after.chars)) ++ s := by simp [keyedText]
    rw [htext]
    exact notEnding_append h.notEnding fun he => absurd he h.ne_nil
  nestedText := by
    have hword : NestedText true key := nestedText_of_every hkey.2 (by decide)
    exact hword.append ((nestedText_of_isBlank colon.before.every).append
      (.plain (by decide) (by decide) ((nestedText_of_isBlank colon.after.every).append h.nestedText)))
  unescaped := by
    have htext : keyedText key colon s =
        (key ++ (colon.before.chars ++ ':' :: colon.after.chars)) ++ s := by simp [keyedText]
    rw [htext]
    apply Unescaped.append_left _ h.unescaped
    simp only [List.mem_append, List.mem_cons, not_or]
    exact ⟨fun hmem => absurd (hkey.2 _ hmem) (by decide),
      not_mem_of_isBlank colon.before.every (by decide), by decide,
      not_mem_of_isBlank colon.after.every (by decide)⟩

theorem RelationArgument.isArgument (a : RelationArgument) : IsArgument a.text := by
  cases a with
  | bareName n => exact n.isArgument
  | name n colon => exact n.isArgument.keyed (by decide) colon
  | fields k colon => exact k.isArgument.keyed (by decide) colon
  | references k colon => exact k.isArgument.keyed (by decide) colon
  | further a colon => exact a.isArgument.keyed a.isWordText_key colon

/-! ## What the parts are read as -/

/-- A name is read from its text in quotes. -/
theorem RelationName.unquote_text (n : RelationName) : unquote n.text = n.chars := by
  have hquote {c : Char} (hc : c ∈ n.chars) (hsingle : c ≠ '\'') : isQuote c = false := by
    have hdouble : c ≠ '"' := by
      rintro rfl
      exact n.quote_not_mem hc
    simp [isQuote, hsingle, hdouble]
  have hstart : NotStarting isQuote (n.chars ++ ['"']) := by
    intro c hc
    rw [List.head?_append_of_ne_nil _ n.ne_nil] at hc
    apply hquote (List.mem_of_head? hc)
    rintro rfl
    exact n.head?_ne hc
  have hend : NotStarting isQuote n.chars.reverse := by
    intro c hc
    rw [List.head?_reverse] at hc
    apply hquote (List.mem_of_getLast? hc)
    rintro rfl
    exact n.getLast?_ne hc
  have hfirst : dropQuotes n.text = n.chars ++ ['"'] :=
    dropWhile_append_of_notStarting (t := ['"']) (by decide) hstart
  have hsecond : dropQuotes (['"'] ++ n.chars.reverse) = n.chars.reverse :=
    dropWhile_append_of_notStarting (by decide) hend
  rw [unquote, trim_of_notStarting n.isArgument.notStarting n.isArgument.notEnding, hfirst,
    List.reverse_append, List.reverse_singleton, hsecond, List.reverse_reverse]

theorem keyword?_keyedText (hkey : IsWordText key) (colon : Colon) (hs : NotStarting isBlank s) :
    keyword? (keyedText key colon s) = some (key, s) := by
  have hword : NotStarting isWord (colon.before.chars ++ ':' :: (colon.after.chars ++ s)) :=
    notStarting_isWord_append colon.before.every (notStarting_cons.2 (by decide))
  rw [keyword?, keyedText, spanSome?_append hkey.1 hkey.2 hword]
  simp only [Option.bind_eq_bind, Option.bind_some,
    afterMark?_append colon.before.every (show isBlank ':' = false by decide)]
  rw [trimStart_append colon.after.every hs]
  rfl

/-- The keys of a list are read from its text. -/
theorem KeyList.keyList_text (k : KeyList) (key : List Char) : keyList key k.text = .ok k.names := by
  have hne : k.keys.map (Padded.text RelationKey.chars) ≠ [] := by simpa using k.ne_nil
  have hcomma : ∀ p ∈ k.keys.map (Padded.text RelationKey.chars), ',' ∉ p := by
    intro p hp
    obtain ⟨q, -, rfl⟩ := List.mem_map.1 hp
    simp only [Padded.text, List.mem_append, not_or]
    exact ⟨not_mem_of_isBlank q.before.every (by decide),
      fun hmem => absurd (q.content.without _ hmem) (by decide), not_mem_of_isBlank q.after.every (by decide)⟩
  have hlast : k.text.getLast? = some ']' := by
    rw [KeyList.text, ← List.cons_append, List.getLast?_concat]
  have hbrackets : (k.text.head? = some '[' && k.text.getLast? = some ']') = true := by
    rw [hlast]
    rfl
  have hinner : (k.text.drop 1).dropLast = listText RelationKey.chars k.keys := List.dropLast_concat
  rw [keyList, trim_of_notStarting k.isArgument.notStarting k.isArgument.notEnding]
  simp only [hbrackets, if_true, hinner]
  rw [listText, pieces_joinPieces hne hcomma, filter_trim_padded RelationKey.isArgument, KeyList.names]
  cases hkeys : k.keys with
  | nil => exact absurd hkeys k.ne_nil
  | cons p ps => simp

/-- What the arguments give together with one more. -/
def Arguments.with (args : Arguments) (a : RelationArgument) : Arguments where
  name := (a.name?.map RelationName.chars).getD args.name
  fields := (a.fields?.map KeyList.names).or args.fields
  references := (a.references?.map KeyList.names).or args.references

/-- An argument is read from its text; a name without a keyword must be the first one. -/
theorem Arguments.add_text (args : Arguments) {first : Bool} {a : RelationArgument}
    (h : a.isBare = true → first = true) : args.add first a.text = .ok (args.with a) := by
  cases a with
  | bareName n =>
    have hkeyword : keyword? n.text = none := rfl
    rw [RelationArgument.text, Arguments.add, hkeyword, h rfl]
    show (if _ then _ else _) = _
    rw [if_pos (by simp [RelationName.text]), n.unquote_text]
    rfl
  | name n colon =>
    rw [RelationArgument.text, Arguments.add,
      keyword?_keyedText (by decide) colon n.isArgument.notStarting]
    simp only [if_pos]
    rw [n.unquote_text]
    rfl
  | fields k colon =>
    rw [RelationArgument.text, Arguments.add,
      keyword?_keyedText (by decide) colon k.isArgument.notStarting]
    simp only [k.keyList_text]
    rfl
  | references k colon =>
    rw [RelationArgument.text, Arguments.add,
      keyword?_keyedText (by decide) colon k.isArgument.notStarting]
    simp only [k.keyList_text]
    rfl
  | further a colon =>
    have hkey := a.key_not_mem
    simp only [relationKeywords, List.mem_cons, List.not_mem_nil, or_false, not_or] at hkey
    rw [RelationArgument.text, Arguments.add,
      keyword?_keyedText a.isWordText_key colon a.isArgument.notStarting]
    simp only [if_neg hkey.1, if_neg hkey.2.1, if_neg hkey.2.2]
    rfl

/-- Arguments that all have a keyword are read from their texts. -/
theorem Arguments.addAll_map_text (args : Arguments) (first : Bool) {as : List RelationArgument}
    (h : ∀ a ∈ as, a.isBare = false) :
    args.addAll first (as.map RelationArgument.text) = .ok (as.foldl Arguments.with args) := by
  induction as generalizing args first with
  | nil => rfl
  | cons a as ih =>
    obtain ⟨ha, has⟩ := List.forall_mem_cons.1 h
    have hadd : args.add first a.text = .ok (args.with a) :=
      args.add_text fun hbare => by rw [ha] at hbare; cases hbare
    rw [List.map_cons, Arguments.addAll, hadd]
    exact ih (args.with a) false has

theorem Arguments.addAll_of_tail (args : Arguments) {as : List RelationArgument}
    (h : ∀ a ∈ as.tail, a.isBare = false) :
    args.addAll true (as.map RelationArgument.text) = .ok (as.foldl Arguments.with args) := by
  cases as with
  | nil => rfl
  | cons a as =>
    rw [List.map_cons, Arguments.addAll, args.add_text fun _ => rfl]
    exact (args.with a).addAll_map_text false h

/-- What is given last counts. -/
theorem foldl_last {σ β γ : Type} (step : σ → α → σ) (held : σ → Option γ)
    (given : α → Option β) (f : β → γ)
    (hstep : ∀ s a, held (step s a) = ((given a).map f).or (held s)) (as : List α) (s : σ) :
    held (as.foldl step s) = ((as.filterMap given).getLast?.map f).or (held s) := by
  induction as generalizing s with
  | nil => rfl
  | cons a as ih =>
    rw [List.foldl_cons, ih, hstep, List.filterMap_cons]
    cases given a with
    | none => rfl
    | some b =>
      rw [List.getLast?_cons]
      cases (as.filterMap given).getLast? <;> rfl

/-- What an annotation says is read from its arguments. -/
theorem Annotation.addAll_args (a : Annotation) :
    ∃ args, Arguments.addAll {} true ((a.args.map Padded.content).map RelationArgument.text) =
      .ok args ∧ args.toAttribute = .ok a.attribute := by
  refine ⟨_, Arguments.addAll_of_tail {} a.isBare_args, ?_⟩
  have hname := foldl_last Arguments.with (fun args => some args.name) RelationArgument.name?
    RelationName.chars (fun args b => by cases hb : b.name? <;> simp [Arguments.with, hb])
    (a.args.map Padded.content) {}
  have hfields : ((a.args.map Padded.content).foldl Arguments.with {}).fields =
      some a.fields.names := by
    rw [foldl_last Arguments.with Arguments.fields RelationArgument.fields? KeyList.names
      (fun _ _ => rfl), a.fields_args]
    rfl
  have hreferences : ((a.args.map Padded.content).foldl Arguments.with {}).references =
      some a.references.names := by
    rw [foldl_last Arguments.with Arguments.references RelationArgument.references? KeyList.names
      (fun _ _ => rfl), a.references_args]
    rfl
  rw [a.names_args] at hname
  rw [Arguments.toAttribute, hfields, hreferences, Annotation.attribute]
  simp only [Option.isSome_some, if_true, Option.getD_some]
  cases hgiven : a.name with
  | none =>
    rw [hgiven] at hname
    rw [Option.some.inj hname]
    rfl
  | some n =>
    rw [hgiven] at hname
    have hne : n.chars.isEmpty = false := by simpa using n.ne_nil
    rw [Option.some.inj hname]
    simp [hne]

/-! ## The whole attribute -/

/-- What a text with a sign behind it starts with is the start of the text, if the sign is only at
its front. -/
theorem prefix_of_prefix_append {w u y : List Char} (hw : '@' ∉ w.tail) (hu : u ≠ [])
    (h : w <+: u ++ '@' :: y) : w <+: u := by
  rcases List.prefix_or_prefix_of_prefix h (List.prefix_append u ('@' :: y)) with hshort | hlong
  · exact hshort
  · obtain ⟨v, rfl⟩ := hlong
    cases v with
    | nil => simp
    | cons c v =>
      obtain ⟨rfl, -⟩ := List.cons_prefix_cons.1 ((List.prefix_append_right_inj u).1 h)
      rw [List.tail_append_of_ne_nil hu] at hw
      exact absurd (List.mem_append_right u.tail List.mem_cons_self) hw

/-- The search for a tag passes over a text in which it does not occur, before a sign. -/
theorem passes_of_not_infix {tag : String} (htag : '@' ∉ tag.toList)
    (hlead : ¬ '@' :: tag.toList <:+: lead) :
    Passes (fun _ => afterTag? tag) before lead ('@' :: s) := by
  induction lead generalizing before with
  | nil => trivial
  | cons c p ih =>
    have hp : ¬ '@' :: tag.toList <:+: p := fun h => hlead (h.trans (List.suffix_cons c p).isInfix)
    refine ⟨?_, ih hp⟩
    have hnone : after? ('@' :: tag.toList) (c :: (p ++ '@' :: s)) = none := by
      by_contra hsome
      obtain ⟨r, hr⟩ := Option.ne_none_iff_exists'.1 hsome
      have hprefix : '@' :: tag.toList <+: c :: p ++ '@' :: s :=
        ⟨r, (eq_append_of_after? hr).symm⟩
      exact hlead (prefix_of_prefix_append (w := '@' :: tag.toList) htag (List.cons_ne_nil c p)
        hprefix).isInfix
    show afterTag? tag _ = none
    rw [afterTag?, hnone]

/-- The arguments are what the text between the parentheses is divided into. -/
theorem Annotation.splitArguments_args (a : Annotation) :
    splitArguments (listText RelationArgument.text a.args) =
      (a.args.map Padded.content).map RelationArgument.text := by
  have hne : a.args.map (Padded.text RelationArgument.text) ≠ [] := by
    intro hnil
    have hfields := a.fields_args
    rw [List.map_eq_nil_iff.1 hnil] at hfields
    cases hfields
  rw [splitArguments, listText,
    splitArgumentsFrom_joinPieces hne (nestedText_of_mem_padded RelationArgument.isArgument),
    filter_trim_padded RelationArgument.isArgument]

/-- The parentheses of an annotation close after its arguments. -/
theorem Annotation.closeOffset?_args (a : Annotation) (rest : List Char) :
    closeOffset? 0 false none ('(' :: (listText RelationArgument.text a.args ++ ')' :: rest)) =
      some ((listText RelationArgument.text a.args).length + 1) :=
  (nestedText_listText RelationArgument.isArgument a.args).closeOffset?_parens
    (unescaped_listText RelationArgument.isArgument a.args) rest

/-- The name and the keys of a relation attribute are read from it, however it is written, after a
text in which the tag does not occur and before any text. -/
theorem parse_annotation (a : Annotation) (lead rest : List Char)
    (hlead : ¬ "@relation".toList <:+: lead) :
    RelationAttribute.parse (lead ++ (a.text ++ rest)) = .ok (some a.attribute) := by
  have hsign : "@relation".toList = '@' :: "relation".toList := by decide
  have htext : a.text ++ rest = '@' :: ("relation".toList ++
      '(' :: (listText RelationArgument.text a.args ++ ')' :: rest)) := by
    have happend (tag : List Char) :
        '@' :: tag ++ '(' :: (listText RelationArgument.text a.args ++ [')']) ++ rest =
          '@' :: (tag ++ '(' :: (listText RelationArgument.text a.args ++ ')' :: rest)) := by simp
    have hread := happend "relation".toList
    rwa [← hsign] at hread
  have htag : afterTag? "relation" (a.text ++ rest) =
      some ('(' :: (listText RelationArgument.text a.args ++ ')' :: rest)) := by
    have hafter := after?_append ('@' :: "relation".toList)
      ('(' :: (listText RelationArgument.text a.args ++ ')' :: rest))
    rw [List.cons_append] at hafter
    rw [htext, afterTag?, hafter]
    rfl
  have hpass : Passes (fun _ => afterTag? "relation") none lead (a.text ++ rest) := by
    have hfree : '@' ∉ "relation".toList := by decide
    rw [htext]
    rw [hsign] at hlead
    exact passes_of_not_infix hfree hlead
  have hsearch : search? (fun _ => afterTag? "relation") none (lead ++ (a.text ++ rest)) =
      some ('(' :: (listText RelationArgument.text a.args ++ ')' :: rest)) := by
    rw [search?_append hpass]
    rw [htext] at htag ⊢
    rw [search?, htag]
  have hbetween : (('(' :: (listText RelationArgument.text a.args ++ ')' :: rest)).take
      ((listText RelationArgument.text a.args).length + 1)).drop 1 =
        listText RelationArgument.text a.args := by
    rw [List.take_succ_cons, List.take_left, List.drop_succ_cons, List.drop_zero]
  obtain ⟨args, hadd, hattribute⟩ := a.addAll_args
  rw [RelationAttribute.parse, hsearch]
  simp only [List.head?_cons, if_true, a.closeOffset?_args, hbetween, a.splitArguments_args, hadd,
    hattribute]
  rfl

/-- A value with brackets and commas, in a string and outside. -/
def mapValue : List Char := "f(\"a,]\", [1])".toList

theorem nestedText_mapValue : NestedText true mapValue := by
  have hlist : NestedText false ", [1]".toList :=
    .plain (by decide) (by decide) (.plain (by decide) (by decide)
      (.brackets (nestedText_of_without (s := ['1']) (by decide)) .nil))
  have hargs : NestedText false "\"a,]\", [1]".toList :=
    .quoted (q := "a,]".toList) (by decide) (by decide) hlist
  exact .plain (by decide) (by decide) (.parens hargs .nil)

/-- An annotation with a name in front and the fields at the end. -/
def authorRelation : Annotation :=
  let name : RelationName := { chars := "A, (b".toList }
  let fields : KeyList :=
    { keys := [{ content := { chars := ['a'] } },
        { content := { chars := ['b'] }, before := oneSpace.toRun }] }
  let references : KeyList :=
    { keys := [{ content := { chars := "id".toList }, after := oneSpace.toRun },
        { content := { chars := "key".toList } }] }
  let further : FurtherArgument :=
    { key := "map".toList, value := mapValue, nestedText_value := nestedText_mapValue }
  { name := some name
    fields := fields
    references := references
    args :=
      [{ content := .bareName name }, { content := .references references, before := oneSpace.toRun },
        { content := .further further }, { content := .fields fields, after := oneSpace.toRun }] }

/-- The text of that annotation between other attributes. -/
def authorText : List Char :=
  ("@unique @relation(\"A, (b\", references: [id ,key],map: f(\"a,]\", [1]),fields: [a, b] )" ++
    " @x(\"").toList

/-- The parts of that annotation are read from the text. -/
theorem parse_annotation_author :
    ¬ "@relation".toList <:+: "@unique ".toList ∧
      RelationAttribute.parse authorText =
        .ok (some {
          name := some "A, (b"
          fields := ["a", "b"]
          references := ["id", "key"] }) := by
  have hlead : ¬ "@relation".toList <:+: "@unique ".toList := by decide +kernel
  have hread := parse_annotation authorRelation "@unique ".toList " @x(\"".toList hlead
  have htext : "@unique ".toList ++ (authorRelation.text ++ " @x(\"".toList) = authorText := by
    decide
  rw [htext] at hread
  have hattribute : authorRelation.attribute =
      { name := some "A, (b", fields := ["a", "b"], references := ["id", "key"] } := by
    decide
  rw [hattribute] at hread
  exact ⟨hlead, hread⟩

/-- A value in which a quote stands right behind a backslash. -/
def escapedQuote : List Char := "\\\"x\"".toList

/-- The parentheses around such a value do not close. -/
theorem unbalanced_of_escaped_quote :
    NestedText true escapedQuote ∧ escapedQuote ≠ [] ∧ trim escapedQuote = escapedQuote ∧
      IsWordText "map".toList ∧ "map".toList ∉ relationKeywords ∧
      RelationAttribute.parse ("@relation(fields: [a], references: [b], ".toList ++
        (keyedText "map".toList {} escapedQuote ++ [')'])) =
          .error (.unbalanced "(fields: [a], references: [b], map: \\\"x\")") := by
  have hnested : NestedText true escapedQuote :=
    .plain (by decide) (by decide) (.quoted (q := ['x']) (by decide) (by decide) .nil)
  exact ⟨hnested, by decide, by decide, by decide, by decide, by decide⟩

end FeatureGen.Schema

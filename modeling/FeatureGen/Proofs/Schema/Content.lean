import FeatureGen.Proofs.Schema.Quote
import FeatureGen.Proofs.Schema.Raw

/-!
# What strings contain

A `StringHole` is a declaration with a string in the arguments of an attribute other than
`@relation`, where the content of the string is left open.  The field that the declaration becomes
does not depend on the content, but for its default: a tag `@default` in a string counts like any
other (`StringHole.classify_fill`).

Both tags are searched for as if there were no strings.  A tag does not reach over a double quote,
so a search looks at what stands before the string, at its content and at what follows it one by one
(`search?_append_quote`).  If the relation attribute stands before the string, it is read up to the
parenthesis that closes; so it does not matter what the string contains as long as that parenthesis
stands before the string (`ClosesRelations`).  It does if the parentheses of each attribute close,
since a relation attribute nested in the arguments of another attribute then closes as well
(`ClosesRelations.parens`), unless it begins in a string, where parentheses do not count to the one
scan and count to the other (`RelationsUnquoted`).
-/

namespace FeatureGen.Schema

open FeatureGen.Text

variable {s t w : List Char} {tag : String}

/-! ## Tags and quotes -/

theorem after?_append_quote {literal : List Char} (h : '"' ∉ literal) (s t : List Char) :
    after? literal (s ++ '"' :: t) = (after? literal s).map (· ++ '"' :: t) := by
  induction literal generalizing s with
  | nil => rfl
  | cons c literal ih =>
    have ⟨hc, hliteral⟩ := not_or.1 (mt List.mem_cons.2 h)
    cases s with
    | nil =>
      rw [List.nil_append, after?, afterBy?, if_neg (by simpa using Ne.symm hc)]
      rfl
    | cons d s =>
      rw [List.cons_append, after?, after?, afterBy?, afterBy?]
      split
      · exact ih hliteral s
      · rfl

/-- A tag does not reach over a quote. -/
theorem afterTag?_append_quote (htag : '"' ∉ tag.toList) (s t : List Char) :
    afterTag? tag (s ++ '"' :: t) = (afterTag? tag s).map (· ++ '"' :: t) := by
  have hliteral : '"' ∉ '@' :: tag.toList := by simp [htag]
  rw [afterTag?, afterTag?, after?_append_quote hliteral]
  cases after? ('@' :: tag.toList) s with
  | none => rfl
  | some r =>
    have hend : endsWord (r ++ '"' :: t) = endsWord r := by
      cases r with
      | nil => exact (endsWord_iff.2 (notStarting_cons.2 (by decide)) : endsWord ('"' :: t) = true)
      | cons c r => rfl
    simp only [Option.map_some, hend]
    split <;> rfl

/-- A search for a tag goes on behind a quote as if the text began there. -/
theorem search?_append_quote (htag : '"' ∉ tag.toList) (before : Option Char) (s t : List Char) :
    search? (fun _ => afterTag? tag) before (s ++ '"' :: t) =
      ((search? (fun _ => afterTag? tag) before s).map (· ++ '"' :: t)).or
        (search? (fun _ => afterTag? tag) none t) := by
  induction s generalizing before with
  | nil =>
    have hquote := afterTag?_append_quote htag [] t
    have hnil : afterTag? tag [] = none := rfl
    rw [hnil, List.nil_append] at hquote
    rw [List.nil_append, search?, search?, hquote, hnil]
    exact search?_before (afterTag? tag) _ _ t
  | cons c s ih =>
    have hquote := afterTag?_append_quote htag (c :: s) t
    rw [List.cons_append] at hquote
    rw [List.cons_append, search?, search?, hquote]
    cases afterTag? tag (c :: s) with
    | none => exact ih (some c)
    | some r => rfl

theorem hasTag_append_quote (htag : '"' ∉ tag.toList) :
    HasTag tag (s ++ '"' :: t) ↔ HasTag tag s ∨ HasTag tag t := by
  simp only [← isSome_search?_afterTag?_iff none]
  rw [search?_append_quote htag, Option.isSome_or, Option.isSome_map, Bool.or_eq_true]

/-! ## Relation attributes that close -/

/-- The text that a relation attribute with arguments begins with. -/
def relationOpening : List Char := "@relation(".toList

/-- Each relation attribute with arguments that begins in the text has its parentheses closed in
it. -/
def ClosesRelations (s : List Char) : Prop :=
  ∀ p q, s = p ++ (relationOpening ++ q) → (closeOffset? 0 false none ('(' :: q)).isSome = true

/-- No relation attribute with arguments begins in a string of the arguments. -/
def RelationsUnquoted (s : List Char) : Prop :=
  ∀ p q, s = p ++ (relationOpening ++ q) → inStringAfter false (some '(') p = false

theorem relationOpening_append (q : List Char) :
    relationOpening ++ q = '@' :: ("relation".toList ++ '(' :: q) := by
  have hopening : relationOpening = '@' :: ("relation".toList ++ ['(']) := by decide
  rw [hopening]
  simp

theorem ne_append_relationOpening (h : '@' ∉ s) (p q : List Char) :
    s ≠ p ++ (relationOpening ++ q) := by
  rintro rfl
  simp [relationOpening_append] at h

/-- What begins before a parenthesis that closes does not end with it. -/
theorem exists_of_append_paren {p q : List Char} (h : s ++ [')'] = p ++ (relationOpening ++ q)) :
    ∃ r, q = r ++ [')'] ∧ s = p ++ (relationOpening ++ r) := by
  rcases List.eq_nil_or_concat q with rfl | ⟨r, c, rfl⟩
  · have hlast := congrArg List.getLast? h
    rw [List.append_nil, List.getLast?_append, List.getLast?_append] at hlast
    exact absurd (Option.some.inj hlast) (by decide)
  · have hwhole : s ++ [')'] = p ++ (relationOpening ++ r) ++ [c] := by simpa using h
    obtain ⟨hs, hlast⟩ := List.append_inj' hwhole rfl
    obtain rfl := (List.cons.inj hlast).1
    exact ⟨r, List.concat_eq_append, hs⟩

/-- A parenthesis that closes in a text closes in a longer one. -/
theorem closeOffset?_append_of_isSome (h : (closeOffset? 0 false none s).isSome = true)
    (t : List Char) : closeOffset? 0 false none (s ++ t) = closeOffset? 0 false none s := by
  obtain ⟨n, hn⟩ := Option.isSome_iff_exists.1 h
  obtain ⟨p, r, rfl, -, -, hclose⟩ := exists_of_closeOffset? hn
  rw [List.append_assoc, List.cons_append, hclose, hclose]

namespace ClosesRelations

theorem append_left (hw : '@' ∉ w) (hs : ClosesRelations s) : ClosesRelations (w ++ s) := by
  intro p q h
  rcases List.append_eq_append_iff.1 h with ⟨u, -, hu⟩ | ⟨u, rfl, hu⟩
  · exact hs u q hu
  · cases u with
    | nil => exact hs [] q hu.symm
    | cons c u =>
      rw [relationOpening_append, List.cons_append] at hu
      obtain ⟨rfl, -⟩ := List.cons.inj hu
      simp at hw

/-- What follows an attribute is no part of it. -/
theorem append (hs : ClosesRelations s) (ht : ClosesRelations t) (hended : Ended t) :
    ClosesRelations (s ++ t) := by
  intro p q h
  rcases List.append_eq_append_iff.1 h with ⟨u, -, hu⟩ | ⟨u, rfl, hu⟩
  · exact ht u q hu
  rcases List.append_eq_append_iff.1 hu with ⟨v, rfl, rfl⟩ | ⟨v, hv, rfl⟩
  · have hclose := hs p v rfl
    have hmore := closeOffset?_append_of_isSome hclose t
    rw [List.cons_append] at hmore
    rwa [hmore]
  cases u with
  | nil => exact ht [] q (by rw [hv]; rfl)
  | cons c u =>
    cases v with
    | nil =>
      have hclose := hs p [] (by rw [hv]; simp)
      cases hclose
    | cons d v =>
      -- The text behind would have to go on with the tag or its parenthesis.
      have hgoes : Every (fun c => !(isBlank c || c == '@')) relationOpening.tail := by decide
      have hmem : d ∈ relationOpening.tail := by simp [hv]
      exact absurd ((hgoes d hmem).symm.trans (notStarting_cons.1 hended)) (by decide)

/-- A relation attribute in arguments that are in parentheses closes with them, if it does not begin
in a string. -/
theorem parens (hclose : closeOffset? 0 false none ('(' :: (s ++ [')'])) = some (s.length + 1))
    (hs : RelationsUnquoted s) : ClosesRelations ('(' :: (s ++ [')'])) := by
  intro p q h
  cases p with
  | nil =>
    rw [relationOpening_append] at h
    exact absurd (List.cons.inj h).1 (by decide)
  | cons c p =>
    obtain ⟨r, rfl, rfl⟩ := exists_of_append_paren (List.cons.inj h).2
    have hword : inStringAfter false (some '(') (p ++ '@' :: "relation".toList) = false := by
      rw [inStringAfter_append, hs p r rfl]
      exact closesStrings_of_not_mem (by decide) _
    rw [closeOffset?_open] at hclose
    obtain ⟨n, hn, hlength⟩ := Option.map_eq_some_iff.1 hclose
    have hsplit : p ++ (relationOpening ++ r) ++ [')'] =
        p ++ '@' :: "relation".toList ++ '(' :: (r ++ [')']) := by
      rw [relationOpening_append]
      simp
    have hdepth : (1 : Int) ≤ 0 + 1 := by omega
    rw [hsplit] at hn
    have hbefore : (p ++ '@' :: "relation".toList).length ≤ n := by
      have hr := congrArg List.length (relationOpening_append r)
      simp only [List.length_append, List.length_cons] at hr hlength ⊢
      omega
    exact isSome_closeOffset?_of_append hdepth hn hbefore hword

/-- The text of an attribute closes its relation attributes if what follows the name does, and if
the parentheses close where the attribute itself is one. -/
theorem named {gap name : List Char} (hgap : Every isBlank gap) (hname : Every isNameChar name)
    (hend : NotStarting isNameChar s)
    (hown : name = "relation".toList → ∀ q, s = '(' :: q →
      (closeOffset? 0 false none ('(' :: q)).isSome = true)
    (hs : ClosesRelations s) : ClosesRelations (gap ++ '@' :: (name ++ s)) := by
  have hblank : '@' ∉ gap := fun hm => absurd (hgap _ hm) (by decide)
  have hsign : '@' ∉ name := fun hm => absurd (hname _ hm) (by decide)
  apply append_left hblank
  intro p q h
  cases p with
  | cons c p => exact append_left hsign hs p q (List.cons.inj h).2
  | nil =>
    rw [List.nil_append, relationOpening_append] at h
    have hword : Every isNameChar "relation".toList := by decide
    have hparen : NotStarting isNameChar ('(' :: q) := notStarting_cons.2 (by decide)
    obtain ⟨heq, hrest⟩ :=
      append_inj_of_notStarting isNameChar hname hword hend hparen (List.cons.inj h).2
    exact hown heq q hrest

end ClosesRelations

/-- The relation attribute of a text in which it closes is read the same before a quote. -/
theorem parse_append_quote_of_hasTag (hs : ClosesRelations s) (h : HasTag "relation" s)
    (t : List Char) : RelationAttribute.parse (s ++ '"' :: t) = RelationAttribute.parse s := by
  have hquote : '"' ∉ "relation".toList := by decide
  have hsome := (isSome_search?_afterTag?_iff none).2 h
  obtain ⟨r, hr⟩ := Option.isSome_iff_exists.1 hsome
  have hsearch := search?_append_quote hquote none s t
  rw [hr] at hsearch
  simp only [Option.map_some, Option.some_or] at hsearch
  rw [RelationAttribute.parse, RelationAttribute.parse, hsearch, hr]
  obtain ⟨p, u, rfl, hfound, -⟩ := search?_eq_some_iff.1 hr
  obtain ⟨rfl, -⟩ := afterTag?_eq_some_iff.1 hfound
  cases r with
  | nil => rfl
  | cons c q =>
    by_cases hc : c = '('
    · subst hc
      have hclose := hs p q (by rw [relationOpening_append])
      obtain ⟨n, hn⟩ := Option.isSome_iff_exists.1 hclose
      have hmore := closeOffset?_append_of_isSome hclose ('"' :: t)
      have htake : ('(' :: q ++ '"' :: t).take n = ('(' :: q).take n := by
        obtain ⟨v, w, hv, rfl, -, -⟩ := exists_of_closeOffset? hn
        rw [hv, List.append_assoc, List.take_left' rfl, List.take_left' rfl]
      simp only [hmore, hn, htake]
      rfl
    · simp [hc]

/-- Without a relation attribute before a quote it is read behind the quote. -/
theorem parse_append_quote_of_not_hasTag (h : ¬ HasTag "relation" s) (t : List Char) :
    RelationAttribute.parse (s ++ '"' :: t) = RelationAttribute.parse t := by
  have hquote : '"' ∉ "relation".toList := by decide
  have hnone := mt (isSome_search?_afterTag?_iff none).1 h
  rw [Option.not_isSome_iff_eq_none] at hnone
  have hsearch := search?_append_quote hquote none s t
  rw [hnone] at hsearch
  rw [RelationAttribute.parse, hsearch]
  rfl

/-! ## Declarations with a hole -/

/-- An attribute whose parentheses close after its arguments, if it has any. -/
structure ClosedAttribute where
  /-- The name. -/
  name : List Char
  /-- The text in parentheses, if there are any. -/
  args : Option (List Char) := none
  /-- The blanks before the attribute. -/
  gap : Run isBlank := oneSpace.toRun
  isNameChar_name : Every isNameChar name := by decide
  closeOffset?_args : ∀ s ∈ args,
    closeOffset? 0 false none ('(' :: (s ++ [')'])) = some (s.length + 1) := by simp

namespace ClosedAttribute

/-- The arguments of an attribute in their parentheses. -/
def argsText (a : ClosedAttribute) : List Char :=
  match a.args with
  | none => []
  | some s => '(' :: (s ++ [')'])

/-- The text of an attribute. -/
def text (a : ClosedAttribute) : List Char := a.gap.chars ++ '@' :: (a.name ++ a.argsText)

theorem ended_text (a : ClosedAttribute) (rest : List Char) : Ended (a.text ++ rest) := by
  rw [text, List.append_assoc]
  exact ended_append_sign a.gap.every _

/-- An attribute closes the relation attributes in it. -/
theorem closesRelations_text (a : ClosedAttribute) (hargs : ∀ s ∈ a.args, RelationsUnquoted s) :
    ClosesRelations a.text := by
  have hname := a.isNameChar_name
  have hclose := a.closeOffset?_args
  rw [text, argsText]
  cases h : a.args with
  | none =>
    refine .named a.gap.every hname notStarting_nil (fun _ q hq => ?_) ?_
    · cases hq
    · intro p q hq
      exact absurd hq (ne_append_relationOpening List.not_mem_nil p q)
  | some s =>
    have hparens := ClosesRelations.parens (hclose s h) (hargs s h)
    refine .named a.gap.every hname (notStarting_cons.2 (by decide)) (fun _ q hq => ?_) hparens
    rw [← (List.cons.inj hq).2, hclose s h]
    rfl

end ClosedAttribute

/-- Characters that the content of a string may have. -/
def isContent (c : Char) : Bool := c != '"' && c != '\\' && c != '\n'

/-- A declaration up to the content of a string in the arguments of an attribute, and what follows
the string. -/
structure StringPlace where
  /-- The name. -/
  name : List Char
  /-- The type. -/
  type : List Char
  /-- The mark after the type. -/
  modifier : Modifier := .single
  /-- The blanks between the name and the type. -/
  gap : NonemptyRun isBlank := oneSpace
  /-- The attributes before the one with the string. -/
  attributes : List ClosedAttribute := []
  /-- The name of the attribute with the string. -/
  holder : List Char
  /-- The blanks before that attribute. -/
  space : Run isBlank := oneSpace.toRun
  /-- The arguments before the string. -/
  lead : List Char := []
  /-- What follows the string, whatever it is. -/
  rest : List Char

/-- The attributes up to the quote that begins the string. -/
def StringPlace.front (d : StringPlace) : List Char :=
  d.attributes.flatMap ClosedAttribute.text ++
    (d.space.chars ++ '@' :: (d.holder ++ '(' :: d.lead))

/-- A declaration in which the content of a string is left open. -/
structure StringHole extends StringPlace where
  isWordText_name : IsWordText name := by decide
  isWordText_type : IsWordText type := by decide
  isNameChar_holder : Every isNameChar holder := by decide
  holder_ne : holder ≠ "relation".toList := by decide
  feed_not_mem : '\n' ∉ toStringPlace.front ++ rest := by decide

namespace StringHole

variable (d : StringHole)

theorem exists_front_eq : ∃ w r, Every isBlank w ∧ d.front = w ++ '@' :: r := by
  rw [StringPlace.front]
  cases d.attributes with
  | nil => exact ⟨_, _, d.space.every, rfl⟩
  | cons a as =>
    refine ⟨a.gap.chars, a.name ++ a.argsText ++ as.flatMap ClosedAttribute.text ++
      (d.space.chars ++ '@' :: (d.holder ++ '(' :: d.lead)), a.gap.every, ?_⟩
    simp [ClosedAttribute.text]

/-- The attributes with a content of the string. -/
def tail (content : List Char) : List Char := d.front ++ '"' :: (content ++ '"' :: d.rest)

/-- The declaration with a content of the string. -/
def fill (content : Run isContent) : RawDeclaration where
  name := d.name
  type := d.type
  modifier := d.modifier
  gap := d.gap
  tail := d.tail content.chars
  isWordText_name := d.isWordText_name
  isWordText_type := d.isWordText_type
  head?_tail := by
    obtain ⟨w, r, hblank, hfront⟩ := d.exists_front_eq
    rw [tail, hfront, List.append_assoc, List.cons_append, trim_append_sign hblank]
    rfl
  feed_not_mem_tail := by
    intro hm
    have hquote : '\n' ≠ '"' := by decide
    have hcontent : '\n' ∉ content.chars := fun hm => absurd (content.every _ hm) (by decide)
    have htail := mem_of_mem_trim hm
    simp only [tail, List.mem_append, List.mem_cons, hquote, hcontent, false_or] at htail
    exact d.feed_not_mem (List.mem_append.2 htail)

/-- The relation attributes before the string close before it. -/
theorem closesRelations_front (hattributes : ∀ a ∈ d.attributes, ∀ s ∈ a.args, RelationsUnquoted s)
    (hlead : ClosesRelations d.lead) : ClosesRelations d.front := by
  have hopen : ClosesRelations (d.space.chars ++ '@' :: (d.holder ++ '(' :: d.lead)) := by
    apply ClosesRelations.named d.space.every d.isNameChar_holder
      (notStarting_cons.2 (by decide))
    · exact fun he => absurd he d.holder_ne
    · exact ClosesRelations.append_left (w := ['(']) (by decide) hlead
  have hended : Ended (d.space.chars ++ '@' :: (d.holder ++ '(' :: d.lead)) :=
    ended_append_sign d.space.every _
  rw [StringPlace.front]
  generalize d.attributes = as at hattributes
  induction as with
  | nil => exact hopen
  | cons a as ih =>
    obtain ⟨ha, has⟩ := List.forall_mem_cons.1 hattributes
    rw [List.flatMap_cons, List.append_assoc]
    apply (a.closesRelations_text ha).append (ih has)
    cases as with
    | nil => exact hended
    | cons b bs =>
      rw [List.flatMap_cons, List.append_assoc]
      exact b.ended_text _

/-- A tag stands in the attributes if it stands in the content of the string or outside it. -/
theorem hasTag_tail (htag : '"' ∉ tag.toList) (content : List Char) :
    HasTag tag (d.tail content) ↔
      (HasTag tag d.front ∨ HasTag tag d.rest) ∨ HasTag tag content := by
  rw [tail, hasTag_append_quote htag, hasTag_append_quote htag, or_comm (a := HasTag tag content),
    or_assoc]

/-- What the relation attribute says does not depend on the content of the string. -/
theorem parse_fill (hfront : ClosesRelations d.front) (u v : Run isContent)
    (hcontent : HasTag "relation" d.front ∨
      ¬ HasTag "relation" u.chars ∧ ¬ HasTag "relation" v.chars) :
    RelationAttribute.parse (d.fill u).shape.tail =
      RelationAttribute.parse (d.fill v).shape.tail := by
  have hend (content : List Char) :
      trimEnd (d.tail content) = d.front ++ '"' :: (content ++ '"' :: trimEnd d.rest) := by
    have hquote : NotEnding isBlank (d.front ++ '"' :: (content ++ ['"'])) := by
      apply notEnding_append
      · exact notEnding_append (s := '"' :: content) (notEnding_of_without (by decide))
          fun he => by cases he
      · exact fun he => by cases he
    have hsplit := trimEnd_append_of_notEnding hquote d.rest
    simpa [tail] using hsplit
  rw [RawDeclaration.parse_shape, RawDeclaration.parse_shape]
  show RelationAttribute.parse (trimEnd (d.tail u.chars)) =
    RelationAttribute.parse (trimEnd (d.tail v.chars))
  rw [hend, hend]
  by_cases h : HasTag "relation" d.front
  · rw [parse_append_quote_of_hasTag hfront h, parse_append_quote_of_hasTag hfront h]
  · obtain ⟨hu, hv⟩ := hcontent.resolve_left h
    rw [parse_append_quote_of_not_hasTag h, parse_append_quote_of_not_hasTag h,
      parse_append_quote_of_not_hasTag hu, parse_append_quote_of_not_hasTag hv]

theorem relation?_fill (hfront : ClosesRelations d.front) (u v : Run isContent)
    (hcontent : HasTag "relation" d.front ∨
      ¬ HasTag "relation" u.chars ∧ ¬ HasTag "relation" v.chars)
    (index : Index) (settings : Settings) :
    (d.fill u).shape.relation? index settings = (d.fill v).shape.relation? index settings := by
  rw [FieldShape.relation?, FieldShape.relation?, d.parse_fill hfront u v hcontent]
  rfl

/-- The content of the string makes a difference to the default only. -/
theorem toField_fill_eq_iff (u v : Run isContent) (relation : Option Relation) (index : Index) :
    (d.fill u).shape.toField relation index = (d.fill v).shape.toField relation index ↔
      ((d.fill u).shape.hasDefault = true ↔ (d.fill v).shape.hasDefault = true) := by
  rw [← Bool.eq_iff_iff]
  constructor
  · exact congrArg Field.hasDefault
  · intro h
    rw [FieldShape.toField, FieldShape.toField, h]
    rfl

/-- Two contents of a string in the arguments of an attribute other than `@relation` give fields
that agree but for what a default decides; and the fields are equal unless one content has the tag
of a default, the other one has not, and it stands nowhere else.  No relation attribute may begin in
a string before, and neither content may have the tag of one unless it stands before as well. -/
theorem classify_fill (u v : Run isContent) (index : Index) (settings : Settings)
    (hattributes : ∀ a ∈ d.attributes, ∀ s ∈ a.args, RelationsUnquoted s)
    (hlead : ClosesRelations d.lead)
    (hcontent : HasTag "relation" d.front ∨
      ¬ HasTag "relation" u.chars ∧ ¬ HasTag "relation" v.chars) :
    (classify (d.fill u).text index settings = classify (d.fill v).text index settings ↔
        String.ofList d.name ∈ settings.reserved ∨
          (HasTag "default" d.front ∨ HasTag "default" d.rest) ∨
          (HasTag "default" u.chars ↔ HasTag "default" v.chars)) ∧
      ∀ f g, (classify (d.fill u).text index settings).field? = some f →
        (classify (d.fill v).text index settings).field? = some g →
          g = { f with
            hasDefault := g.hasDefault
            isOptional := g.isOptional
            validator := g.validator } := by
  have hfront := d.closesRelations_front hattributes hlead
  have hrelation := d.relation?_fill hfront u v hcontent index settings
  constructor
  · have hdefault (w : Run isContent) : (d.fill w).shape.hasDefault = true ↔
        (HasTag "default" d.front ∨ HasTag "default" d.rest) ∨ HasTag "default" w.chars :=
      (d.fill w).hasDefault_shape.trans (d.hasTag_tail (by decide) w.chars)
    rw [RawDeclaration.classify_text, RawDeclaration.classify_text]
    show (if settings.reserved.contains (String.ofList d.name) then _ else _) =
      (if settings.reserved.contains (String.ofList d.name) then _ else _) ↔ _
    by_cases hreserved : String.ofList d.name ∈ settings.reserved
    · simp only [List.contains_eq_mem, hreserved, decide_true, if_true, true_or, iff_true]
      rfl
    · simp only [List.contains_eq_mem, hreserved, decide_false, Bool.false_eq_true, if_false,
        false_or, Verdict.field.injEq]
      rw [hrelation, toField_fill_eq_iff, hdefault, hdefault]
      by_cases h : HasTag "default" d.front ∨ HasTag "default" d.rest
      · simp [h]
      · simp [h]
  · intro f g hf hg
    obtain ⟨-, rfl⟩ := (d.fill u).field?_classify_text hf
    obtain ⟨-, rfl⟩ := (d.fill v).field?_classify_text hg
    rw [hrelation]
    rfl

end StringHole

/-- An attribute with one argument. -/
def moneyAttribute : ClosedAttribute where
  name := "db.Money".toList
  args := some "10".toList
  closeOffset?_args := by
    intro s hs
    obtain rfl := Option.some.inj hs
    rfl

/-- A field with a string in its second attribute. -/
def mappedPrice : StringHole where
  name := "price".toList
  type := "Decimal".toList
  attributes := [moneyAttribute]
  holder := "map".toList
  rest := ") @unique".toList

/-- A content with parentheses and the start of another attribute. -/
def idContent : Run isContent where
  chars := "a, b) @id(".toList

/-- A content of one character. -/
def plainContent : Run isContent where
  chars := ['x']

/-- Parentheses and an attribute in the string of `mappedPrice` change nothing. -/
theorem classify_fill_mappedPrice :
    classify (mappedPrice.fill idContent).text {} {} =
      classify (mappedPrice.fill plainContent).text {} {} := by
  have hattributes : ∀ a ∈ mappedPrice.attributes, ∀ s ∈ a.args, RelationsUnquoted s := by
    intro a ha s hs p q h
    obtain rfl : a = moneyAttribute := List.mem_singleton.1 ha
    obtain rfl : "10".toList = s := Option.some.inj hs
    exact absurd h (ne_append_relationOpening (by decide) p q)
  have hlead : ClosesRelations mappedPrice.lead := fun p q h =>
    absurd h (ne_append_relationOpening List.not_mem_nil p q)
  have hfill := mappedPrice.classify_fill idContent plainContent {} {} hattributes hlead
    (by decide)
  exact hfill.1.2 (.inr (.inr (by decide)))

/-- A content that is an attribute for a default. -/
def defaultContent : Run isContent where
  chars := "@default".toList

/-- A content that is a relation attribute. -/
def relationContent : Run isContent where
  chars := "@relation(fields: [a], references: [b])".toList

/-- A content that closes a parenthesis. -/
def closingContent : Run isContent where
  chars := [')']

/-- An attribute with a string in which a relation attribute begins. -/
def openingAttribute : ClosedAttribute where
  name := "map".toList
  args := some "\"@relation(\"".toList
  closeOffset?_args := by
    intro s hs
    obtain rfl := Option.some.inj hs
    rfl

/-- A field with a string behind such an attribute. -/
def mappedOwner : StringHole where
  name := "owner".toList
  type := "Account".toList
  attributes := [openingAttribute]
  holder := "db".toList
  rest := [')']

/-- A content with one of the tags that are searched for changes the field, and so does one that
closes the parenthesis of a relation attribute in a string before. -/
theorem classify_fill_ne :
    classify (mappedPrice.fill defaultContent).text {} {} ≠
        classify (mappedPrice.fill plainContent).text {} {} ∧
      classify (mappedPrice.fill relationContent).text {} {} ≠
        classify (mappedPrice.fill plainContent).text {} {} ∧
      classify (mappedOwner.fill closingContent).text { models := ["Account"] } {} ≠
        classify (mappedOwner.fill plainContent).text { models := ["Account"] } {} := by
  decide

end FeatureGen.Schema

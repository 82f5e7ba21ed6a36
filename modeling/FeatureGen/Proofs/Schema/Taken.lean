import FeatureGen.Proofs.Schema.Declaration
import FeatureGen.Proofs.Schema.Quote

/-!
# What a step takes

A step that divides a line does not look behind the character after what it takes.  So it takes the
same when the text is cut off there (`spanSome?_take`, `attributeName?_take`, `oneAttribute?_take`,
`declarationHead?_take`), and so does the scan for a whole declaration (`declaration?_take`).  It
takes the same, too, when a text is put behind what it reads that starts with a blank
(`spanSome?_extend`, `attributeName?_extend`, `declarationHead?_extend`).

The exception is an attribute whose parentheses do not close: it takes all that is left, and what is
put behind the text becomes a part of it.  `ClosedAttributes` leaves such attributes out; attributes
that do not take the rest of a text are of that kind (`closedAttributes_spanAttributes`).
-/

namespace FeatureGen.Schema

open FeatureGen.Text

variable {test : Char → Bool} {c : Char} {n : Nat} {a d name r s t u v : List Char}

/-- The text is empty or starts with a blank. -/
def Detached (s : List Char) : Prop := NotStarting (fun c => !isBlank c) s

theorem detached_of_isBlank (h : Every isBlank s) : Detached s := by
  intro c hc
  simp [h c (List.mem_of_head? hc)]

theorem Detached.notStarting (h : Detached s) (htest : ∀ c, isBlank c = true → test c = false) :
    NotStarting test s :=
  h.mono fun c hc => htest c (by simpa using hc)

theorem Detached.head?_ne (h : Detached s) (hc : isBlank c = false) : s.head? ≠ some c := by
  intro hs
  have hblank := h c hs
  simp [hc] at hblank

theorem Detached.head?_append_ne (h : Detached t) (hc : isBlank c = false)
    (hs : s.head? ≠ some c) : (s ++ t).head? ≠ some c := by
  cases s with
  | nil => exact h.head?_ne hc
  | cons d s => exact hs

/-! ## What a step takes -/

/-- A run is taken from a text that is cut off behind it. -/
theorem spanSome?_take (h : spanSome? test s = some (a, u ++ v)) :
    spanSome? test (a ++ u) = some (a, u) :=
  spanSome?_append (append_of_spanSome? h).2 (forall_of_spanSome? h)
    (notStarting_of_spanSome? h).of_append

/-- A run is taken from a text with more behind it that does not go on with it. -/
theorem spanSome?_extend (h : spanSome? test s = some (a, u)) (hv : u = [] → NotStarting test v) :
    spanSome? test (s ++ v) = some (a, u ++ v) := by
  obtain ⟨happend, hne⟩ := append_of_spanSome? h
  rw [← happend, List.append_assoc]
  exact spanSome?_append hne (forall_of_spanSome? h) ((notStarting_of_spanSome? h).append hv)

theorem spanModifier_append (s : List Char) :
    (spanModifier s).1 ++ (spanModifier s).2 = s := by
  rw [spanModifier.eq_def]
  split <;> rfl

theorem spanModifier_take (h : spanModifier s = (a, u ++ v)) : spanModifier (a ++ u) = (a, u) := by
  rw [spanModifier.eq_def] at h
  split at h
  · cases h
    rfl
  · cases h
    rfl
  · next hoptional hlist =>
    cases h
    rw [List.nil_append]
    apply spanModifier.eq_3
    · rintro t rfl
      exact hoptional (t ++ v) rfl
    · rintro t rfl
      exact hlist (t ++ v) rfl

theorem spanModifier_extend (h : spanModifier s = (a, r)) (hv : Detached v) :
    spanModifier (s ++ v) = (a, r ++ v) := by
  rw [spanModifier.eq_def] at h
  split at h
  · cases h
    rfl
  · cases h
    rfl
  · next hoptional hlist =>
    cases h
    apply spanModifier.eq_3
    · intro t ht
      cases r with
      | nil => exact hv.head?_ne (by decide) (congrArg List.head? ht)
      | cons c r => exact hoptional r (by rw [(List.cons.inj ht).1])
    · intro t ht
      cases r with
      | nil => exact hv.head?_ne (by decide) (congrArg List.head? ht)
      | cons c r =>
        obtain ⟨rfl, htail⟩ := List.cons.inj ht
        cases r with
        | nil => exact hv.head?_ne (by decide) (congrArg List.head? htail)
        | cons d r => exact hlist r (by rw [(List.cons.inj htail).1])

theorem without_of_spanModifier (h : spanModifier s = (a, r)) :
    Without isBlank a ∧ '"' ∉ a := by
  rw [spanModifier.eq_def] at h
  split at h
  · cases h
    decide
  · cases h
    decide
  · cases h
    decide

/-- The parts that the start of a declaration is taken in. -/
theorem exists_of_declarationHead? (h : declarationHead? s = some (a, r)) :
    ∃ name gap type modifier,
      a = name ++ (gap ++ (type ++ modifier)) ∧
        spanSome? isWord s = some (name, gap ++ (type ++ (modifier ++ r))) ∧
        spanSome? isGap (gap ++ (type ++ (modifier ++ r))) =
          some (gap, type ++ (modifier ++ r)) ∧
        spanSome? isWord (type ++ (modifier ++ r)) = some (type, modifier ++ r) ∧
        spanModifier (modifier ++ r) = (modifier, r) := by
  simp only [declarationHead?, Option.bind_eq_bind, Option.bind_eq_some_iff] at h
  obtain ⟨⟨name, s₁⟩, h₁, ⟨gap, s₂⟩, h₂, ⟨type, s₃⟩, h₃, he⟩ := h
  have e₂ := (append_of_spanSome? h₂).1
  have e₃ := (append_of_spanSome? h₃).1
  have e₄ := spanModifier_append s₃
  simp only [Option.pure_def, Option.some.injEq, Prod.mk.injEq] at he
  obtain ⟨rfl, rfl⟩ := he
  refine ⟨name, gap, type, (spanModifier s₃).1, by simp, ?_⟩
  rw [e₄, e₃, e₂]
  exact ⟨h₁, h₂, h₃, rfl⟩

theorem declarationHead?_of_spanSome? {name gap type modifier s₁ s₂ s₃ : List Char}
    (hname : spanSome? isWord s = some (name, s₁)) (hgap : spanSome? isGap s₁ = some (gap, s₂))
    (htype : spanSome? isWord s₂ = some (type, s₃)) (hmodifier : spanModifier s₃ = (modifier, r)) :
    declarationHead? s = some (name ++ (gap ++ (type ++ modifier)), r) := by
  rw [declarationHead?, hname]
  simp only [Option.bind_eq_bind, Option.bind_some, hgap, htype, hmodifier]
  simp

theorem declarationHead?_take (h : declarationHead? s = some (a, u ++ v)) :
    declarationHead? (a ++ u) = some (a, u) := by
  obtain ⟨name, gap, type, modifier, rfl, hname, hgap, htype, hmodifier⟩ :=
    exists_of_declarationHead? h
  have hname' := spanSome?_take (u := gap ++ (type ++ (modifier ++ u))) (v := v)
    (by simpa using hname)
  have hgap' := spanSome?_take (u := type ++ (modifier ++ u)) (v := v) (by simpa using hgap)
  have htype' := spanSome?_take (u := modifier ++ u) (v := v) (by simpa using htype)
  have htext : name ++ (gap ++ (type ++ modifier)) ++ u =
      name ++ (gap ++ (type ++ (modifier ++ u))) := by simp
  rw [htext]
  exact declarationHead?_of_spanSome? hname' hgap' htype' (spanModifier_take hmodifier)

theorem declarationHead?_extend (h : declarationHead? s = some (a, r)) (hv : Detached v) :
    declarationHead? (s ++ v) = some (a, r ++ v) := by
  obtain ⟨name, gap, type, modifier, rfl, hname, hgap, htype, hmodifier⟩ :=
    exists_of_declarationHead? h
  have hgap_ne := (append_of_spanSome? hgap).2
  have htype_ne := (append_of_spanSome? htype).2
  have hname' := spanSome?_extend (v := v) hname fun he =>
    absurd (List.append_eq_nil_iff.1 he).1 hgap_ne
  have hgap' := spanSome?_extend (v := v) hgap fun he =>
    absurd (List.append_eq_nil_iff.1 he).1 htype_ne
  have htype' := spanSome?_extend (v := v) htype fun _ =>
    hv.notStarting fun c hc => isWord_eq_false_of_isBlank hc
  exact declarationHead?_of_spanSome? hname' hgap' htype' (spanModifier_extend hmodifier hv)

/-! ## Attributes -/

/-- The parts that the name of an attribute is taken in. -/
theorem exists_of_attributeName? (h : attributeName? s = some (a, r)) :
    ∃ gap sign name, a = gap ++ sign ++ name ∧ Every isGap gap ∧
      (sign = ['@'] ∨ sign = ['@', '@']) ∧ spanSome? isNameChar (name ++ r) = some (name, r) := by
  have hgap : Every isGap (s.takeWhile isGap) := List.all_eq_true.1 List.all_takeWhile
  simp only [attributeName?] at h
  split at h
  · next t ht =>
    obtain ⟨⟨name, r'⟩, hname, he⟩ := Option.map_eq_some_iff.1 h
    cases he
    have happend := (append_of_spanSome? hname).1
    exact ⟨_, _, name, rfl, hgap, Or.inr rfl, by rw [happend]; exact hname⟩
  · next t _ ht =>
    obtain ⟨⟨name, r'⟩, hname, he⟩ := Option.map_eq_some_iff.1 h
    cases he
    have happend := (append_of_spanSome? hname).1
    exact ⟨_, _, name, rfl, hgap, Or.inl rfl, by rw [happend]; exact hname⟩
  · cases h

theorem attributeName?_append {gap sign name : List Char} (hgap : Every isGap gap)
    (hsign : sign = ['@'] ∨ sign = ['@', '@'])
    (hname : spanSome? isNameChar (name ++ r) = some (name, r)) :
    attributeName? (gap ++ sign ++ name ++ r) = some (gap ++ sign ++ name, r) := by
  have hne := (append_of_spanSome? hname).2
  have hevery := forall_of_spanSome? hname
  have hstart : NotStarting isGap (sign ++ (name ++ r)) := by
    rcases hsign with rfl | rfl
    · exact notStarting_cons.2 (by decide)
    · exact notStarting_cons.2 (by decide)
  rw [List.append_assoc, List.append_assoc, attributeName?,
    takeWhile_append_of_notStarting hgap hstart, dropWhile_append_of_notStarting hgap hstart]
  have hspan : spanSome? (fun c => isWord c || c = '.') (name ++ r) = some (name, r) := hname
  rcases hsign with rfl | rfl
  · cases name with
    | nil => exact absurd rfl hne
    | cons c name =>
      have hc : c ≠ '@' := by
        rintro rfl
        exact absurd (hevery '@' List.mem_cons_self) (by decide)
      rw [List.cons_append] at hspan
      split
      · next he => exact absurd (List.cons.inj (List.cons.inj he).2).1 hc
      · next he =>
        cases he
        exact congrArg (Option.map _) hspan
      · next he => exact absurd rfl (he _)
  · simp only [List.cons_append, List.nil_append, hspan, Option.map_some]

theorem attributeName?_take (h : attributeName? s = some (a, u ++ v)) :
    attributeName? (a ++ u) = some (a, u) := by
  obtain ⟨gap, sign, name, rfl, hgap, hsign, hname⟩ := exists_of_attributeName? h
  exact attributeName?_append hgap hsign (spanSome?_take hname)

theorem attributeName?_extend (h : attributeName? s = some (a, r)) (hv : Detached v) :
    attributeName? (s ++ v) = some (a, r ++ v) := by
  obtain ⟨happend, -⟩ := append_of_attributeName? h
  obtain ⟨gap, sign, name, rfl, hgap, hsign, hname⟩ := exists_of_attributeName? h
  have hname' := spanSome?_extend (v := v) hname fun _ =>
    hv.notStarting fun c hc => isNameChar_eq_false_of_isBlank hc
  rw [← happend, List.append_assoc]
  exact attributeName?_append hgap hsign (by rwa [← List.append_assoc])

/-- Between the parentheses of an attribute, of which the first one is closed by the second. -/
structure IsParenthesized (p : List Char) : Prop where
  closeOffset? : ∀ t, closeOffset? 0 false none ('(' :: (p ++ ')' :: t)) = some (p.length + 1)
  inStringAfter : inStringAfter false none ('(' :: p) = false

/-- Parentheses that close, from the first on. -/
theorem exists_isParenthesized (hhead : t.head? = some '(')
    (hclose : closeOffset? 0 false none t = some n) :
    ∃ p r, t = '(' :: (p ++ ')' :: r) ∧ p.length + 1 = n ∧ IsParenthesized p := by
  obtain ⟨q, r, rfl, rfl, hopen, hlocal⟩ := exists_of_closeOffset? hclose
  cases q with
  | nil => cases hhead
  | cons c p =>
    cases hhead
    exact ⟨p, r, rfl, rfl, hlocal, hopen⟩

theorem take_parenthesized (p r : List Char) :
    ('(' :: (p ++ ')' :: r)).take (p.length + 1 + 1) = '(' :: (p ++ [')']) ∧
      ('(' :: (p ++ ')' :: r)).drop (p.length + 1 + 1) = r := by
  have hsplit : '(' :: (p ++ ')' :: r) = ('(' :: (p ++ [')'])) ++ r := by simp
  have hlength : ('(' :: (p ++ [')'])).length = p.length + 1 + 1 := by simp
  rw [hsplit]
  exact ⟨List.take_left' hlength, List.drop_left' hlength⟩

/-- An attribute that does not take the rest of the text has no parentheses or has such as close. -/
theorem exists_of_oneAttribute? (h : oneAttribute? s = some (a, r)) (hr : r ≠ []) :
    (attributeName? s = some (a, r) ∧ r.head? ≠ some '(') ∨
      ∃ name p, a = name ++ ('(' :: (p ++ [')'])) ∧ IsParenthesized p ∧
        attributeName? s = some (name, '(' :: (p ++ ')' :: r)) := by
  rw [oneAttribute?] at h
  split at h
  · cases h
  · next name rest hname =>
    split at h
    · next hhead =>
      split at h
      · next n hn =>
        obtain ⟨p, t, rfl, rfl, hp⟩ := exists_isParenthesized hhead hn
        obtain ⟨htake, hdrop⟩ := take_parenthesized p t
        rw [htake, hdrop] at h
        cases h
        exact Or.inr ⟨name, p, rfl, hp, hname⟩
      · cases h
        exact absurd rfl hr
    · next hhead =>
      cases h
      exact Or.inl ⟨hname, hhead⟩

theorem oneAttribute?_of_head?_ne (h : attributeName? s = some (a, r)) (hr : r.head? ≠ some '(') :
    oneAttribute? s = some (a, r) := by
  rw [oneAttribute?, h]
  exact if_neg hr

theorem oneAttribute?_of_isParenthesized {p : List Char} (hp : IsParenthesized p)
    (h : attributeName? s = some (name, '(' :: (p ++ ')' :: r))) :
    oneAttribute? s = some (name ++ ('(' :: (p ++ [')'])), r) := by
  obtain ⟨htake, hdrop⟩ := take_parenthesized p r
  rw [oneAttribute?, h]
  simp only [List.head?_cons, if_true, hp.closeOffset?, htake, hdrop]

theorem oneAttribute?_take (h : oneAttribute? s = some (a, u ++ v)) (hne : u ++ v ≠ []) :
    oneAttribute? (a ++ u) = some (a, u) := by
  rcases exists_of_oneAttribute? h hne with ⟨hname, hhead⟩ | ⟨name, p, rfl, hp, hname⟩
  · apply oneAttribute?_of_head?_ne (attributeName?_take hname)
    intro hu
    rw [List.head?_append, hu] at hhead
    exact hhead rfl
  · have hname' := attributeName?_take (u := '(' :: (p ++ ')' :: u)) (v := v) (by simpa using hname)
    have htext : name ++ ('(' :: (p ++ [')'])) ++ u = name ++ ('(' :: (p ++ ')' :: u)) := by simp
    rw [htext]
    exact oneAttribute?_of_isParenthesized hp hname'

/-- The name of an attribute does not end with a blank. -/
theorem notEnding_of_attributeName? (h : attributeName? s = some (a, r)) : NotEnding isBlank a := by
  obtain ⟨gap, sign, name, rfl, -, -, hspan⟩ := exists_of_attributeName? h
  refine notEnding_append (notEnding_of_without fun c hc => ?_) fun he =>
    absurd he (append_of_spanSome? hspan).2
  exact isBlank_eq_false_of_isNameChar (forall_of_spanSome? hspan c hc)

/-- Blanks behind a text do not make it start with an attribute. -/
theorem attributeName?_append_of_isBlank (h : attributeName? s = none) (hv : Every isBlank v) :
    attributeName? (s ++ v) = none := by
  cases hname : attributeName? (s ++ v) with
  | none => rfl
  | some p =>
    obtain ⟨u, hrest, rfl⟩ := exists_append_of_notEnding (notEnding_of_attributeName? hname) hv
      (append_of_attributeName? hname).1
    rw [attributeName?_take (hname.trans (by rw [← hrest]))] at h
    cases h

/-- The first character of an attribute that is no blank is its sign. -/
theorem attributeName?_eq_none (h : (trimStart s).head? ≠ some '@') : attributeName? s = none := by
  cases hname : attributeName? s with
  | none => rfl
  | some p =>
    obtain ⟨happend, -⟩ := append_of_attributeName? hname
    obtain ⟨gap, sign, name, hparts, hgap, hsign, -⟩ := exists_of_attributeName? hname
    have hblank : Every isBlank gap := fun c hc => isBlank_of_isGap (hgap c hc)
    have hstart : trimStart s = sign ++ (name ++ p.2) := by
      rw [← happend, hparts, List.append_assoc, List.append_assoc, trimStart_append hblank]
      rcases hsign with rfl | rfl
      · exact notStarting_cons.2 (by decide)
      · exact notStarting_cons.2 (by decide)
    rw [hstart] at h
    rcases hsign with rfl | rfl
    · exact absurd rfl h
    · exact absurd rfl h

/-- The text starts with an attribute: gaps, one sign or two, and a character of its name. -/
def StartsAttribute (s : List Char) : Prop :=
  ∃ gap sign c rest, s = gap ++ sign ++ c :: rest ∧ Every isGap gap ∧
    (sign = ['@'] ∨ sign = ['@', '@']) ∧ isNameChar c = true

theorem attributeName?_eq_none_iff : attributeName? s = none ↔ ¬ StartsAttribute s := by
  constructor
  · rintro hnone ⟨gap, sign, c, rest, rfl, hgap, hsign, hc⟩
    have hspan : spanSome? isNameChar (c :: rest) =
        some ((c :: rest).takeWhile isNameChar, (c :: rest).dropWhile isNameChar) := by
      rw [spanSome?, List.takeWhile_cons, if_pos hc]
    have htext : (c :: rest).takeWhile isNameChar ++ (c :: rest).dropWhile isNameChar = c :: rest :=
      List.takeWhile_append_dropWhile
    have hname := attributeName?_append hgap hsign (by rwa [htext])
    rw [List.append_assoc, htext, hnone] at hname
    cases hname
  · intro hstart
    cases hname : attributeName? s with
    | none => rfl
    | some p =>
      obtain ⟨gap, sign, name, hparts, hgap, hsign, hspan⟩ := exists_of_attributeName? hname
      obtain ⟨happend, hne⟩ := append_of_spanSome? hspan
      obtain ⟨c, name, rfl⟩ := List.exists_cons_of_ne_nil hne
      refine absurd ⟨gap, sign, c, name ++ p.2, ?_, hgap, hsign,
        forall_of_spanSome? hspan c List.mem_cons_self⟩ hstart
      rw [← (append_of_attributeName? hname).1, hparts]
      simp

theorem not_mem_of_attributeName? (h : attributeName? s = some (a, r)) : '"' ∉ a := by
  obtain ⟨gap, sign, name, rfl, hgap, hsign, hname⟩ := exists_of_attributeName? h
  intro hmem
  simp only [List.mem_append] at hmem
  rcases hmem with (hmem | hmem) | hmem
  · exact absurd (hgap _ hmem) (by decide)
  · rcases hsign with rfl | rfl
    · exact absurd hmem (by decide)
    · exact absurd hmem (by decide)
  · exact absurd (forall_of_spanSome? hname _ hmem) (by decide)

/-- An attribute that does not take the rest of the text closes its strings. -/
theorem closesStrings_of_oneAttribute? (h : oneAttribute? s = some (a, r)) (hr : r ≠ []) :
    ClosesStrings a := by
  rcases exists_of_oneAttribute? h hr with ⟨hname, -⟩ | ⟨name, p, rfl, hp, hname⟩
  · exact closesStrings_of_not_mem (not_mem_of_attributeName? hname)
  · apply (closesStrings_of_not_mem (not_mem_of_attributeName? hname)).append
    intro before
    have hopen := hp.inStringAfter
    rw [inStringAfter_cons_of_ne (by decide)] at hopen
    rw [inStringAfter_cons_of_ne (by decide), inStringAfter_append, hopen]
    exact inStringAfter_cons_of_ne (by decide) _ _ _

theorem notEnding_of_oneAttribute? (h : oneAttribute? s = some (a, r)) (hr : r ≠ []) :
    NotEnding isBlank a := by
  rcases exists_of_oneAttribute? h hr with ⟨hname, -⟩ | ⟨name, p, rfl, hp, hname⟩
  · exact notEnding_of_attributeName? hname
  · have htext : name ++ ('(' :: (p ++ [')'])) = (name ++ ('(' :: p)) ++ [')'] := by simp
    rw [htext]
    exact notEnding_append (notEnding_of_without (by decide)) fun he => by cases he

theorem ne_nil_of_spanAttributes (h : (spanAttributes s).2 ≠ []) : s ≠ [] := by
  rintro rfl
  exact h (List.append_eq_nil_iff.1 (append_spanAttributes [])).2

/-- Attributes that do not take the rest of the text are the same without it, close their strings
and do not end with a blank. -/
theorem spanAttributes_take (h : (spanAttributes s).2 ≠ []) :
    spanAttributes (spanAttributes s).1 = ((spanAttributes s).1, []) ∧
      ClosesStrings (spanAttributes s).1 ∧ NotEnding isBlank (spanAttributes s).1 := by
  induction s using spanAttributes.induct with
  | case1 s hone =>
    rw [spanAttributes_of_eq_none hone]
    exact ⟨spanAttributes_of_eq_none rfl, fun before => rfl, notEnding_nil⟩
  | case2 s a r hone _ _ _ ih =>
    rw [spanAttributes_of_eq_some hone] at h ⊢
    obtain ⟨hown, hcloses, hend⟩ := ih h
    have hr := ne_nil_of_spanAttributes h
    have htake : oneAttribute? (a ++ (spanAttributes r).1) = some (a, (spanAttributes r).1) := by
      rw [← append_spanAttributes r] at hone hr
      exact oneAttribute?_take hone hr
    refine ⟨?_, (closesStrings_of_oneAttribute? hone hr).append hcloses,
      notEnding_append hend fun _ => notEnding_of_oneAttribute? hone hr⟩
    rw [spanAttributes_of_eq_some htake, hown]

/-- Attributes whose parentheses all close stand before the rest `r` of a text. -/
inductive ClosedAttributes : List Char → List Char → Prop
  | nil {r : List Char} : ClosedAttributes r r
  | bare {s name t r : List Char} (hname : attributeName? s = some (name, t))
    (hhead : t.head? ≠ some '(') (hr : ClosedAttributes t r) : ClosedAttributes s r
  | call {s name t r : List Char} {n : Nat} (hname : attributeName? s = some (name, t))
    (hhead : t.head? = some '(') (hclose : closeOffset? 0 false none t = some n)
    (hr : ClosedAttributes (t.drop (n + 1)) r) : ClosedAttributes s r

/-- Attributes that do not take the rest of the text close their parentheses. -/
theorem closedAttributes_spanAttributes (h : (spanAttributes s).2 ≠ []) :
    ClosedAttributes s (spanAttributes s).2 := by
  induction s using spanAttributes.induct with
  | case1 s hone =>
    rw [spanAttributes_of_eq_none hone]
    exact .nil
  | case2 s a r hone _ _ _ ih =>
    rw [spanAttributes_of_eq_some hone] at h ⊢
    have hclosed := ih h
    rcases exists_of_oneAttribute? hone (ne_nil_of_spanAttributes h) with
      ⟨hname, hhead⟩ | ⟨name, p, -, hp, hname⟩
    · exact .bare hname hhead hclosed
    · refine .call hname rfl (hp.closeOffset? r) ?_
      rwa [(take_parenthesized p r).2]

/-- No attribute follows those that are taken. -/
theorem attributeName?_spanAttributes (s : List Char) :
    attributeName? (spanAttributes s).2 = none := by
  induction s using spanAttributes.induct with
  | case1 s hone =>
    rw [spanAttributes_of_eq_none hone]
    rw [oneAttribute?] at hone
    split at hone
    · next hname => exact hname
    · split at hone
      · split at hone
        · cases hone
        · cases hone
      · cases hone
  | case2 s a r hone _ _ _ ih =>
    rw [spanAttributes_of_eq_some hone]
    exact ih

/-- Closed attributes are taken from a text with more behind it, if that is no attribute. -/
theorem ClosedAttributes.spanAttributes_append (h : ClosedAttributes s r) (hv : Detached v)
    (hnone : attributeName? (r ++ v) = none) :
    ∃ a, s = a ++ r ∧ spanAttributes (s ++ v) = (a, r ++ v) := by
  induction h with
  | @nil r =>
    have hone : oneAttribute? (r ++ v) = none := by rw [oneAttribute?, hnone]
    exact ⟨[], rfl, spanAttributes_of_eq_none hone⟩
  | @bare s name t r hname hhead hr ih =>
    obtain ⟨a, rfl, hspan⟩ := ih hnone
    have hname' := attributeName?_extend hname hv
    have hhead' := hv.head?_append_ne (by decide) hhead
    refine ⟨name ++ a, ?_, ?_⟩
    · rw [List.append_assoc, (append_of_attributeName? hname).1]
    · rw [spanAttributes_of_eq_some (oneAttribute?_of_head?_ne hname' hhead'), hspan]
  | @call s name t r n hname hhead hclose hr ih =>
    obtain ⟨p, rest, rfl, rfl, hp⟩ := exists_isParenthesized hhead hclose
    rw [(take_parenthesized p rest).2] at ih
    obtain ⟨a, rfl, hspan⟩ := ih hnone
    have hname' := attributeName?_extend hname hv
    have htext : '(' :: (p ++ ')' :: (a ++ r)) ++ v = '(' :: (p ++ ')' :: (a ++ r ++ v)) := by simp
    rw [htext] at hname'
    refine ⟨name ++ ('(' :: (p ++ [')'])) ++ a, ?_, ?_⟩
    · rw [← (append_of_attributeName? hname).1]
      simp
    · rw [spanAttributes_of_eq_some (oneAttribute?_of_isParenthesized hp hname'), hspan]

/-! ## Declarations -/

theorem declaration?_eq (s : List Char) :
    declaration? s = (declarationHead? s).map fun p =>
      (p.1 ++ (spanAttributes p.2).1, (spanAttributes p.2).2) := by
  rw [declaration?]
  cases declarationHead? s <;> rfl

/-- The start of a declaration has no strings. -/
theorem not_mem_of_declarationHead? (h : declarationHead? s = some (a, r)) : '"' ∉ a := by
  obtain ⟨name, gap, type, modifier, rfl, hname, hgap, htype, hmodifier⟩ :=
    exists_of_declarationHead? h
  intro hmem
  simp only [List.mem_append] at hmem
  rcases hmem with hmem | hmem | hmem | hmem
  · exact absurd (forall_of_spanSome? hname _ hmem) (by decide)
  · exact absurd (forall_of_spanSome? hgap _ hmem) (by decide)
  · exact absurd (forall_of_spanSome? htype _ hmem) (by decide)
  · exact absurd hmem (without_of_spanModifier hmodifier).2

theorem notEnding_of_declarationHead? (h : declarationHead? s = some (a, r)) :
    NotEnding isBlank a := by
  obtain ⟨name, gap, type, modifier, rfl, -, -, htype, hmodifier⟩ := exists_of_declarationHead? h
  have hword : NotEnding isBlank type := notEnding_of_without fun c hc =>
    isBlank_eq_false_of_isWord (forall_of_spanSome? htype c hc)
  have hmark : NotEnding isBlank modifier :=
    notEnding_of_without (without_of_spanModifier hmodifier).1
  have hne : type ≠ [] := (append_of_spanSome? htype).2
  apply notEnding_append
  · exact notEnding_append (notEnding_append hmark fun _ => hword) fun he =>
      absurd (List.append_eq_nil_iff.1 he).1 hne
  · intro he
    exact absurd (List.append_eq_nil_iff.1 (List.append_eq_nil_iff.1 he).2).1 hne

/-- A declaration that does not take the rest of the text is the same without it, closes its strings
and does not end with a blank. -/
theorem declaration?_take (h : declaration? s = some (d, r)) (hr : r ≠ []) :
    declaration? d = some (d, []) ∧ ClosesStrings d ∧ NotEnding isBlank d := by
  rw [declaration?_eq] at h
  obtain ⟨⟨head, t⟩, hhead, he⟩ := Option.map_eq_some_iff.1 h
  simp only [Prod.mk.injEq] at he
  obtain ⟨rfl, rfl⟩ := he
  obtain ⟨hown, hcloses, hend⟩ := spanAttributes_take hr
  have htake : declarationHead? (head ++ (spanAttributes t).1) = some (head, (spanAttributes t).1) := by
    rw [← append_spanAttributes t] at hhead
    exact declarationHead?_take hhead
  refine ⟨?_, (closesStrings_of_not_mem (not_mem_of_declarationHead? hhead)).append hcloses,
    notEnding_append hend fun _ => notEnding_of_declarationHead? hhead⟩
  rw [declaration?_eq, htake, Option.map_some, hown]

/-- A declaration with closed attributes is taken from a text with more behind it, if what follows
the attributes is none. -/
theorem declaration?_append_of_closedAttributes (hhead : declarationHead? s = some (a, t))
    (ht : ClosedAttributes t r) (hv : Detached v) (hnone : attributeName? (r ++ v) = none) :
    ∃ d, s = d ++ r ∧ declaration? (s ++ v) = some (d, r ++ v) := by
  obtain ⟨as, rfl, hspan⟩ := ht.spanAttributes_append hv hnone
  refine ⟨a ++ as, ?_, ?_⟩
  · rw [List.append_assoc, (append_of_declarationHead? hhead).1]
  · rw [declaration?_eq, declarationHead?_extend hhead hv, Option.map_some, hspan]

end FeatureGen.Schema

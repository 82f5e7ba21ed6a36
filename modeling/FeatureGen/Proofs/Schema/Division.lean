import FeatureGen.Proofs.Schema.Body

/-!
# Division of a line

`Division ps s` says how a line `s` is divided into the parts `ps`.  Blanks stand around the parts,
and at least one between two of them.  Every part reads the same on its own (`Whole`): it is divided
into itself.  A part that another one follows also closes its strings.

Every line is divided in this way, however malformed it is (`division_splitDeclarations`), so that
the parts with the blanks make up the line and no part is divided further
(`splitDeclarations_lossless`).  The content of the proof is the last part.  It is cut off only from
blanks, and a text that is kept whole is kept whole without the blanks it ends with
(`whole_trimEnd`).

A `Regular` text is a declaration that is taken up to its end with all parentheses closed.  Such a
text is the first part of every line that it begins, unless an attribute follows the blanks behind
it, and the rest of the line is divided on its own (`splitDeclarations_regular`).
-/

namespace FeatureGen.Schema

open FeatureGen.Text

variable {c : Char} {d p r s v w : List Char} {ds ps : List (List Char)}

/-! ## One step -/

/-- A line of which no declaration is followed by a blank is kept whole. -/
theorem splitDeclarations_eq_singleton (hne : trimStart s ≠ [])
    (h : ∀ d c r, declaration? (trimStart s) = some (d, c :: r) → isBlank c = false) :
    splitDeclarations s = [trim s] := by
  rw [splitDeclarations, if_neg (by simpa using hne)]
  split
  · rfl
  · next d hd =>
    obtain ⟨rfl, -⟩ : d = trimStart s ∧ d ≠ [] := by simpa using append_of_declaration? hd
    rw [trim, trimStart_trimStart, trim]
  · next d c r hd => rw [if_neg (by simp [h d c r hd])]

theorem splitDeclarations_of_isBlank (hw : Every isBlank w) : splitDeclarations w = [] := by
  rw [splitDeclarations, trimStart_eq_nil_of_blank hw]
  rfl

/-- Blanks at the start of a line do not matter. -/
theorem splitDeclarations_append_of_isBlank (hw : Every isBlank w) :
    splitDeclarations (w ++ s) = splitDeclarations s := by
  have hstart : trimStart (w ++ s) = trimStart s := trimStart_append_of_blank hw
  by_cases hdecl : ∃ d c r, declaration? (trimStart s) = some (d, c :: r) ∧ isBlank c = true
  · obtain ⟨d, c, r, hd, hc⟩ := hdecl
    have hr : Detached (c :: r) := notStarting_cons.2 (by simp [hc])
    rw [splitDeclarations_of_declaration? hd hr, splitDeclarations_of_declaration? (hstart ▸ hd) hr]
  · by_cases hne : trimStart s = []
    · rw [splitDeclarations, splitDeclarations, hstart, hne]
      rfl
    · have hkept : ∀ d c r, declaration? (trimStart s) = some (d, c :: r) → isBlank c = false :=
        fun d c r hd => Bool.eq_false_iff.2 fun hc => hdecl ⟨d, c, r, hd, hc⟩
      rw [splitDeclarations_eq_singleton hne hkept,
        splitDeclarations_eq_singleton (hstart ▸ hne) (hstart ▸ hkept), trim, trim, hstart]

/-! ## Regular declarations -/

/-- A text that is one declaration, of which all parentheses close. -/
def Regular (d : List Char) : Prop :=
  ∃ head rest, declarationHead? d = some (head, rest) ∧ ClosedAttributes rest []

theorem Regular.declaration?_append (h : Regular d) (hv : Detached v)
    (hnone : attributeName? v = none) : declaration? (d ++ v) = some (d, v) := by
  obtain ⟨head, rest, hhead, hrest⟩ := h
  obtain ⟨e, he, hdecl⟩ := declaration?_append_of_closedAttributes hhead hrest hv hnone
  rw [List.append_nil] at he
  rwa [← he] at hdecl

theorem Regular.exists_eq_cons (h : Regular d) : ∃ c t, d = c :: t ∧ isWord c = true := by
  obtain ⟨head, rest, hhead, -⟩ := h
  obtain ⟨name, gap, type, modifier, -, hname, -⟩ := exists_of_declarationHead? hhead
  obtain ⟨happend, hne⟩ := append_of_spanSome? hname
  cases name with
  | nil => exact absurd rfl hne
  | cons c name =>
    exact ⟨c, _, happend.symm, forall_of_spanSome? hname c List.mem_cons_self⟩

theorem Regular.notStarting (h : Regular d) (s : List Char) : NotStarting isBlank (d ++ s) := by
  obtain ⟨c, t, rfl, hc⟩ := h.exists_eq_cons
  exact notStarting_cons.2 (isBlank_eq_false_of_isWord hc)

theorem Regular.notEnding (h : Regular d) : NotEnding isBlank d := by
  have hdecl := h.declaration?_append (v := [' ']) (notStarting_cons.2 (by decide)) rfl
  exact (declaration?_take hdecl (List.cons_ne_nil _ _)).2.2

theorem Regular.trim_eq (h : Regular d) : trim d = d := by
  have hstart := h.notStarting []
  rw [List.append_nil] at hstart
  exact trim_of_notStarting hstart h.notEnding

/-- A regular declaration is cut off at the blanks behind it. -/
theorem Regular.splitDeclarations_append (h : Regular d) (hv : Detached v)
    (hnone : attributeName? v = none) : splitDeclarations (d ++ v) = d :: splitDeclarations v := by
  have hdecl : declaration? (trimStart (d ++ v)) = some (d, v) := by
    rw [trimStart_of_notStarting (h.notStarting v), h.declaration?_append hv hnone]
  rw [splitDeclarations_of_declaration? hdecl hv, h.trim_eq]

/-- Regular declarations with blanks between them, at least one between two. -/
inductive Joined : List (List Char) → List Char → Prop
  | nil : Joined [] []
  | single {d : List Char} (hd : Regular d) : Joined [d] d
  | cons {d w e s : List Char} {ds : List (List Char)} (hd : Regular d) (hne : w ≠ [])
    (hw : Every isBlank w) (hs : Joined (e :: ds) s) : Joined (d :: e :: ds) (d ++ w ++ s)

theorem Joined.attributeName?_eq_none (h : Joined ds s) (hw : Every isBlank w) :
    attributeName? (w ++ s) = none := by
  apply Schema.attributeName?_eq_none
  rw [trimStart_append_of_blank hw]
  have hregular (d : List Char) (hd : Regular d) (t : List Char) :
      (trimStart (d ++ t)).head? ≠ some '@' := by
    obtain ⟨c, u, rfl, hc⟩ := hd.exists_eq_cons
    rw [trimStart_of_notStarting (hd.notStarting t)]
    intro he
    rw [Option.some.inj he] at hc
    exact absurd hc (by decide)
  cases h with
  | nil => exact fun he => by cases he
  | single hd =>
    have hhead := hregular s hd []
    rwa [List.append_nil] at hhead
  | cons hd =>
    rw [List.append_assoc]
    exact hregular _ hd _

theorem Joined.splitDeclarations (h : Joined ds s) : splitDeclarations s = ds := by
  induction h with
  | nil => exact splitDeclarations_of_isBlank (every_nil isBlank)
  | @single d hd =>
    have hsplit := hd.splitDeclarations_append (v := []) notStarting_nil rfl
    rwa [List.append_nil, splitDeclarations_of_isBlank (every_nil isBlank)] at hsplit
  | @cons d w e s ds hd hne hw hs ih =>
    have hdetached : Detached (w ++ s) := (detached_of_isBlank hw).append fun he => absurd he hne
    rw [List.append_assoc, hd.splitDeclarations_append hdetached (hs.attributeName?_eq_none hw),
      splitDeclarations_append_of_isBlank hw, ih]

/-- Regular declarations compose: a regular declaration is the first part of a line if a blank
follows it and no attribute follows the blanks, and what the blanks are followed by is divided on
its own.  So regular declarations with blanks between them are found one by one. -/
theorem splitDeclarations_regular :
    (∀ d w r, Regular d → w ≠ [] → Every isBlank w → ¬ StartsAttribute (w ++ r) →
        splitDeclarations (d ++ w ++ r) = d :: splitDeclarations r) ∧
      ∀ ds s, Joined ds s → splitDeclarations s = ds := by
  refine ⟨?_, fun ds s h => h.splitDeclarations⟩
  intro d w r hd hne hw hr
  have hdetached : Detached (w ++ r) := (detached_of_isBlank hw).append fun he => absurd he hne
  rw [List.append_assoc, hd.splitDeclarations_append hdetached (attributeName?_eq_none_iff.2 hr),
    splitDeclarations_append_of_isBlank hw]

/-- A declaration with a mark, and with a parenthesis in a string. -/
def titleText : List Char := "title String? @default(\"a ) b\") @@x.y".toList

theorem regular_titleText : Regular titleText := by
  have hhead : declarationHead? titleText =
      some ("title String?".toList, " @default(\"a ) b\") @@x.y".toList) := by decide
  have hdefault : attributeName? " @default(\"a ) b\") @@x.y".toList =
      some (" @default".toList, "(\"a ) b\") @@x.y".toList) := by decide
  have hclose : closeOffset? 0 false none "(\"a ) b\") @@x.y".toList = some 8 := by decide
  have hname : attributeName? " @@x.y".toList = some (" @@x.y".toList, []) := by decide
  exact ⟨_, _, hhead, .call hdefault rfl hclose (.bare hname (by decide) .nil)⟩

/-- That declaration is cut off from a text whose parentheses do not close, and it is found before
another declaration. -/
theorem splitDeclarations_regular_title :
    Regular titleText ∧ ¬ StartsAttribute ("\n\t".toList ++ "b Int @db(".toList) ∧
      splitDeclarations (titleText ++ "\n\t".toList ++ "b Int @db(".toList) =
        titleText :: splitDeclarations "b Int @db(".toList ∧
      splitDeclarations (titleText ++ " ".toList ++ "b Int".toList) = [titleText, "b Int".toList] := by
  have hstart : ¬ StartsAttribute ("\n\t".toList ++ "b Int @db(".toList) :=
    attributeName?_eq_none_iff.1 (by decide)
  have hregular : Regular "b Int".toList := ⟨"b Int".toList, [], by decide, .nil⟩
  have ⟨hfirst, hlist⟩ := splitDeclarations_regular
  exact ⟨regular_titleText, hstart, hfirst _ _ _ regular_titleText (by decide) (by decide) hstart,
    hlist _ _ (.cons regular_titleText (by decide) (by decide) (.single hregular))⟩

/-! ## Every line -/

/-- A text without blanks at its ends that is divided into itself. -/
structure Whole (d : List Char) : Prop where
  ne_nil : d ≠ []
  notStarting : NotStarting isBlank d
  notEnding : NotEnding isBlank d
  splitDeclarations_eq : splitDeclarations d = [d]

theorem Whole.trim_eq (h : Whole d) : trim d = d := trim_of_notStarting h.notStarting h.notEnding

/-- How a line is divided. -/
inductive Division : List (List Char) → List Char → Prop
  | blank {w : List Char} (hw : Every isBlank w) : Division [] w
  | last {w p v : List Char} (hw : Every isBlank w) (hp : Whole p) (hv : Every isBlank v) :
    Division [p] (w ++ (p ++ v))
  | cons {w p r : List Char} {ps : List (List Char)} (hw : Every isBlank w) (hp : Whole p)
    (hcloses : ClosesStrings p) (hsep : Detached r) (hr : Division ps r) :
    Division (p :: ps) (w ++ (p ++ r))

/-- A text that is a whole declaration, or of which no declaration is followed by a blank, is
divided into itself without the blanks it ends with. -/
theorem whole_trimEnd (hne : s ≠ []) (hstart : NotStarting isBlank s)
    (h : ∀ d c r, declaration? s = some (d, c :: r) → isBlank c = false) : Whole (trimEnd s) := by
  obtain ⟨v, hs, hv⟩ := trimEnd_append_blanks s
  have hstart' : NotStarting isBlank (trimEnd s) := by
    rw [← hs] at hstart
    exact hstart.of_append
  have htrim := trimStart_of_notStarting hstart'
  have hne' : trimEnd s ≠ [] := by
    intro he
    rw [he, List.nil_append] at hs
    cases s with
    | nil => exact hne rfl
    | cons c s =>
      have hc := hv c (by simp [hs])
      rw [notStarting_cons.1 hstart] at hc
      cases hc
  have hend := notEnding_trimEnd s
  refine ⟨hne', hstart', hend, ?_⟩
  have hself := trim_of_notStarting hstart' hend
  rw [splitDeclarations_eq_singleton (by rwa [htrim]), hself]
  intro d c r hd
  -- The same declaration stands at the start of the text with its blanks, since these are no attribute.
  rw [htrim, declaration?_eq] at hd
  obtain ⟨⟨head, t⟩, hhead, he⟩ := Option.map_eq_some_iff.1 hd
  obtain ⟨rfl, hrest⟩ := Prod.mk.inj he
  have hclosed : ClosedAttributes t (c :: r) := by
    have hc := closedAttributes_spanAttributes (s := t) (by rw [hrest]; exact List.cons_ne_nil c r)
    rwa [hrest] at hc
  have hnone := attributeName?_append_of_isBlank (attributeName?_spanAttributes t) hv
  rw [hrest] at hnone
  obtain ⟨d, -, hdecl⟩ :=
    declaration?_append_of_closedAttributes hhead hclosed (detached_of_isBlank hv) hnone
  rw [hs] at hdecl
  exact h d c (r ++ v) hdecl

/-- A declaration that is cut off from a blank is a part. -/
theorem whole_of_declaration? (hstart : NotStarting isBlank s)
    (hd : declaration? s = some (d, c :: r)) : Whole d := by
  obtain ⟨happend, hne⟩ := append_of_declaration? hd
  obtain ⟨hown, -, hend⟩ := declaration?_take hd (List.cons_ne_nil c r)
  rw [← happend] at hstart
  rw [← trimEnd_of_notEnding hend]
  apply whole_trimEnd hne hstart.of_append
  intro e c r he
  rw [hown] at he
  cases he

/-- A line of which nothing is cut off is its own part. -/
theorem division_of_kept (hempty : trimStart s ≠ [])
    (hkept : ∀ d c r, declaration? (trimStart s) = some (d, c :: r) → isBlank c = false) :
    Division (splitDeclarations s) s := by
  obtain ⟨w, hw, hblank⟩ := exists_append_trimStart s
  obtain ⟨v, hv, hv'⟩ := trimEnd_append_blanks (trimStart s)
  have hdivision := Division.last hblank (whole_trimEnd hempty (notStarting_trimStart s) hkept) hv'
  rw [splitDeclarations_eq_singleton hempty hkept, trim]
  rwa [hv, ← hw] at hdivision

/-- The first part of a line is put before the division of what follows it. -/
theorem division_of_declaration? (hd : declaration? (trimStart s) = some (d, c :: r))
    (hc : isBlank c = true) (hr : Division (splitDeclarations (c :: r)) (c :: r)) :
    Division (splitDeclarations s) s := by
  obtain ⟨w, hw, hblank⟩ := exists_append_trimStart s
  have hsep : Detached (c :: r) := notStarting_cons.2 (by simp [hc])
  have hwhole := whole_of_declaration? (notStarting_trimStart s) hd
  have hcloses := (declaration?_take hd (List.cons_ne_nil c r)).2.1
  have hdivision := Division.cons hblank hwhole hcloses hsep hr
  rw [splitDeclarations_of_declaration? hd hsep, hwhole.trim_eq]
  rwa [(append_of_declaration? hd).1, ← hw] at hdivision

/-- Every line is divided so. -/
theorem division_splitDeclarations (s : List Char) : Division (splitDeclarations s) s := by
  induction s using splitDeclarations.induct with
  | case1 s hempty =>
    obtain ⟨w, hw, hblank⟩ := exists_append_trimStart s
    rw [List.isEmpty_iff.1 hempty, List.append_nil] at hw
    rw [hw, splitDeclarations_of_isBlank hblank]
    exact .blank hblank
  | case2 s hempty hnone =>
    apply division_of_kept (by simpa using hempty)
    intro d c r hd
    rw [hnone] at hd
    cases hd
  | case3 s hempty d hd =>
    apply division_of_kept (by simpa using hempty)
    intro d' c r hd'
    rw [hd] at hd'
    cases hd'
  | case4 s hempty d c r hd hc ih => exact division_of_declaration? hd hc ih
  | case5 s hempty d c r hd hc =>
    apply division_of_kept (by simpa using hempty)
    intro d' c' r' hd'
    rw [hd] at hd'
    cases hd'
    exact Bool.eq_false_iff.2 hc

namespace Division

theorem whole_of_mem (h : Division ps s) (hp : p ∈ ps) : Whole p := by
  induction h with
  | blank => cases hp
  | last hw hlast hv =>
    obtain rfl := List.mem_singleton.1 hp
    exact hlast
  | cons hw hfirst hcloses hsep hr ih =>
    rcases List.mem_cons.1 hp with rfl | hp
    · exact hfirst
    · exact ih hp

/-- The parts and the blanks make up the line. -/
theorem exists_blanks (h : Division ps s) :
    ∃ (w : List Char) (parts : List (List Char × List Char)), ps = parts.map Prod.fst ∧
      s = w ++ parts.flatMap (fun p => p.1 ++ p.2) ∧ Every isBlank w ∧
      (∀ p ∈ parts, Every isBlank p.2) ∧ ∀ p ∈ parts.dropLast, p.2 ≠ [] := by
  induction h with
  | @blank w hw => exact ⟨w, [], rfl, by simp, hw, by simp, by simp⟩
  | @last w p v hw hp hv => exact ⟨w, [(p, v)], rfl, by simp, hw, by simpa using hv, by simp⟩
  | @cons w p r ps hw hp hcloses hsep hr ih =>
    obtain ⟨v, parts, hps, hr', hv, hblank, hne⟩ := ih
    refine ⟨w, (p, v) :: parts, by rw [hps]; rfl, by rw [hr']; simp, hw, ?_, ?_⟩
    · exact List.forall_mem_cons.2 ⟨hv, hblank⟩
    cases parts with
    | nil => simp
    | cons q parts =>
      rw [List.dropLast_cons_of_ne_nil (List.cons_ne_nil q parts)]
      refine List.forall_mem_cons.2 ⟨?_, hne⟩
      -- Without blanks the rest of the line would start with its first part.
      rintro rfl
      have hq := hr.whole_of_mem (p := q.1) (by rw [hps]; exact List.mem_cons_self)
      obtain ⟨c, t, hcons⟩ := List.exists_cons_of_ne_nil hq.ne_nil
      have hc : isBlank c = false := by
        have hstart := hq.notStarting
        rw [hcons] at hstart
        exact notStarting_cons.1 hstart
      apply hsep.head?_ne hc
      rw [hr']
      simp [hcons]

end Division

/-- No text is lost or invented: the parts of a line with blanks around them, at least one between
two, make up the line, no part is empty or has blanks at its ends, and every part is divided into
itself. -/
theorem splitDeclarations_lossless (line : List Char) :
    (∃ (w : List Char) (parts : List (List Char × List Char)),
        splitDeclarations line = parts.map Prod.fst ∧
        line = w ++ parts.flatMap (fun p => p.1 ++ p.2) ∧ Every isBlank w ∧
        (∀ p ∈ parts, Every isBlank p.2) ∧ ∀ p ∈ parts.dropLast, p.2 ≠ []) ∧
      ∀ p ∈ splitDeclarations line, Whole p :=
  have hdivision := division_splitDeclarations line
  ⟨hdivision.exists_blanks, fun _ hp => hdivision.whole_of_mem hp⟩

end FeatureGen.Schema

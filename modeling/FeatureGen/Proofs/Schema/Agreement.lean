import FeatureGen.Proofs.Schema.Attribute
import FeatureGen.Proofs.Schema.Nested
import FeatureGen.Proofs.Schema.Quote

/-!
# Two scans of the arguments

The arguments of a relation attribute are scanned twice: for the parenthesis that closes, and for
the commas that divide them.  Each scan keeps an account of the strings and brackets that are open.
For the first scan it is `inStringAfter` and `depthAfter`, where a quote behind a backslash is no
quote; for the second it is `quotedAfter` and `nestingAfter`, where every quote counts.

`closeOffset?_of_append` and `splitArgumentsFrom_append` say that these are the accounts of the
scans.  They differ in strings after an odd number of escaped quotes (`quotedAfter_eq_iff`).  As
long as there is none the second scan has as many brackets open as the first one has seen, and a
comma divides the arguments exactly if the first one has seen it outside strings and brackets
(`ScansAt`).
-/

namespace FeatureGen.Schema

open FeatureGen.Text

variable {c : Char} {s p args tail : List Char} {before : Option Char}

/-! ## The arguments of a tail -/

/-- The text between the parentheses of the first relation attribute, if it has some that close. -/
def relationArguments? (tail : List Char) : Option (List Char) :=
  match search? (fun _ => afterTag? "relation") none tail with
  | none => none
  | some rest =>
    if rest.head? = some '(' then
      (closeOffset? 0 false none rest).map fun n => (rest.take n).drop 1
    else none

/-- The relation attribute is made of what this text is divided into. -/
theorem parse_eq_of_relationArguments? (h : relationArguments? tail = some args) :
    RelationAttribute.parse tail =
      (Arguments.addAll {} true (splitArguments args)).bind fun a => a.toAttribute.map some := by
  rw [relationArguments?] at h
  rw [RelationAttribute.parse]
  cases hsearch : search? (fun _ => afterTag? "relation") none tail with
  | none =>
    rw [hsearch] at h
    cases h
  | some rest =>
    rw [hsearch] at h
    by_cases hhead : rest.head? = some '('
    · simp only [hhead, if_true] at h ⊢
      obtain ⟨n, hn, rfl⟩ := Option.map_eq_some_iff.1 h
      cases hadd : Arguments.addAll {} true (splitArguments ((rest.take n).drop 1)) with
      | ok a =>
        simp only [hn, hadd]
        rfl
      | error fault =>
        simp only [hn, hadd]
        rfl
    · simp only [hhead, if_false] at h
      cases h

/-- The scan for the parenthesis that closes stops behind the arguments. -/
theorem exists_of_relationArguments? (h : relationArguments? tail = some args) :
    ∃ lead rest, tail = lead ++ '@' :: ("relation".toList ++ '(' :: (args ++ ')' :: rest)) ∧
      closeOffset? 0 false none ('(' :: (args ++ ')' :: rest)) = some (args.length + 1) := by
  rw [relationArguments?] at h
  split at h
  · cases h
  · next rest hsearch =>
    split at h
    · next hhead =>
      obtain ⟨n, hn, rfl⟩ := Option.map_eq_some_iff.1 h
      obtain ⟨lead, t, rfl, hfound, -⟩ := search?_eq_some_iff.1 hsearch
      obtain ⟨rfl, -⟩ := afterTag?_eq_some_iff.1 hfound
      obtain ⟨p, q, rfl, rfl, -, -⟩ := exists_of_closeOffset? hn
      cases p with
      | nil => cases hhead
      | cons c p =>
        obtain rfl : c = '(' := by simpa using hhead
        have htake : ((('(' :: p ++ ')' :: q).take ('(' :: p).length).drop 1) = p := by
          rw [List.take_left' rfl]
          rfl
        rw [htake]
        exact ⟨lead, q, rfl, hn⟩
    · cases h

/-! ## The scan that divides arguments -/

/-- Whether the scan that divides arguments has a string open after a text. -/
def quotedAfter (inString : Bool) : List Char → Bool
  | [] => inString
  | c :: s => quotedAfter (if c = '"' then !inString else inString) s

/-- How many brackets and parentheses that scan has open after a text. -/
def nestingAfter (inString : Bool) : List Char → Int
  | [] => 0
  | c :: s =>
    (if inString then 0
      else if c = '[' || c = '(' then 1
      else if c = ']' || c = ')' then -1
      else 0) +
      nestingAfter (quotedAfter inString [c]) s

/-- The scan either ends a piece at a comma or goes on with the character in the piece. -/
theorem splitArgumentsFrom_step (depth : Int) (inString : Bool) (c : Char) (piece : List Char) :
    (c = ',' ∧ inString = false ∧ depth = 0 ∧
        ∀ s, splitArgumentsFrom depth inString piece (c :: s) =
          trim piece.reverse :: splitArgumentsFrom depth inString [] s) ∨
      ¬ (c = ',' ∧ inString = false ∧ depth = 0) ∧
        ∀ s, splitArgumentsFrom depth inString piece (c :: s) =
          splitArgumentsFrom (depth + nestingAfter inString [c]) (quotedAfter inString [c])
            (c :: piece) s := by
  simp only [nestingAfter, quotedAfter, Int.add_zero]
  by_cases hquote : c = '"'
  · refine Or.inr ⟨by simp [hquote], fun s => ?_⟩
    rw [splitArgumentsFrom, if_pos hquote, if_pos hquote]
    simp [hquote]
  cases inString with
  | true =>
    refine Or.inr ⟨by simp, fun s => ?_⟩
    rw [splitArgumentsFrom, if_neg hquote, if_pos rfl]
    simp [hquote]
  | false =>
    by_cases hopen : (c = '[' || c = '(') = true
    · refine Or.inr ⟨?_, fun s => ?_⟩
      · rintro ⟨rfl, -⟩
        cases hopen
      · rw [splitArgumentsFrom, if_neg hquote, if_neg Bool.false_ne_true, if_pos hopen,
          if_neg hquote, if_neg Bool.false_ne_true, if_pos hopen]
    by_cases hclose : (c = ']' || c = ')') = true
    · refine Or.inr ⟨?_, fun s => ?_⟩
      · rintro ⟨rfl, -⟩
        cases hclose
      · rw [splitArgumentsFrom, if_neg hquote, if_neg Bool.false_ne_true, if_neg hopen,
          if_pos hclose, if_neg hquote, if_neg Bool.false_ne_true, if_neg hopen, if_pos hclose]
        rfl
    by_cases hcomma : (c = ',' && depth = 0) = true
    · obtain ⟨hc, hdepth⟩ : c = ',' ∧ depth = 0 := by simpa using hcomma
      refine Or.inl ⟨hc, rfl, hdepth, fun s => ?_⟩
      rw [splitArgumentsFrom, if_neg hquote, if_neg Bool.false_ne_true, if_neg hopen,
        if_neg hclose, if_pos hcomma]
    · refine Or.inr ⟨by simpa using hcomma, fun s => ?_⟩
      rw [splitArgumentsFrom, if_neg hquote, if_neg Bool.false_ne_true, if_neg hopen,
        if_neg hclose, if_neg hcomma, if_neg hquote, if_neg Bool.false_ne_true, if_neg hopen,
        if_neg hclose, Int.add_zero]

/-- Behind a part of a text the scan goes on with what the part has left open.  Some pieces are
done, and the one it is in has begun in the part. -/
theorem splitArgumentsFrom_append (depth : Int) (inString : Bool) (piece p : List Char) :
    ∃ done begun, begun.reverse <:+ piece.reverse ++ p ∧
      ∀ s, splitArgumentsFrom depth inString piece (p ++ s) =
        done ++ splitArgumentsFrom (depth + nestingAfter inString p) (quotedAfter inString p)
          begun s := by
  induction p generalizing depth inString piece with
  | nil => exact ⟨[], piece, by simp, by simp [nestingAfter, quotedAfter]⟩
  | cons c p ih =>
    rcases splitArgumentsFrom_step depth inString c piece with
      ⟨rfl, rfl, -, hends⟩ | ⟨-, hgoes⟩
    · obtain ⟨done, begun, hsuffix, hrest⟩ := ih depth false []
      refine ⟨trim piece.reverse :: done, begun, ?_, fun s => ?_⟩
      · have hpart : p <:+ piece.reverse ++ ',' :: p :=
          (List.suffix_cons ',' p).trans (List.suffix_append _ _)
        exact List.IsSuffix.trans (by simpa using hsuffix) hpart
      · rw [List.cons_append, hends, hrest]
        simp [nestingAfter, quotedAfter]
    · obtain ⟨done, begun, hsuffix, hrest⟩ :=
        ih (depth + nestingAfter inString [c]) (quotedAfter inString [c]) (c :: piece)
      refine ⟨done, begun, by simpa using hsuffix, fun s => ?_⟩
      rw [List.cons_append, hgoes, hrest, Int.add_assoc]
      simp [nestingAfter, quotedAfter]

/-- The first piece that is left goes on with what has been read of it. -/
theorem exists_splitArgumentsFrom_eq (depth : Int) (inString : Bool) (piece s : List Char) :
    ∃ y rest, y <+: s ∧
      splitArgumentsFrom depth inString piece s = trim (piece.reverse ++ y) :: rest := by
  induction s generalizing depth inString piece with
  | nil => exact ⟨[], [], List.nil_prefix, by simp [splitArgumentsFrom]⟩
  | cons c s ih =>
    rcases splitArgumentsFrom_step depth inString c piece with ⟨-, -, -, hends⟩ | ⟨-, hgoes⟩
    · exact ⟨[], _, List.nil_prefix, by rw [hends, List.append_nil]⟩
    · obtain ⟨y, rest, hprefix, heq⟩ :=
        ih (depth + nestingAfter inString [c]) (quotedAfter inString [c]) (c :: piece)
      refine ⟨c :: y, rest, List.cons_prefix_cons.2 ⟨rfl, hprefix⟩, ?_⟩
      rw [hgoes, heq]
      simp

/-- A comma outside strings and brackets divides the arguments. -/
theorem splitArguments_comma (hquote : quotedAfter false p = false) (hnest : nestingAfter false p = 0)
    (r : List Char) :
    splitArguments (p ++ ',' :: r) = splitArguments p ++ splitArguments r := by
  obtain ⟨done, begun, -, hscan⟩ := splitArgumentsFrom_append 0 false [] p
  rw [hquote, hnest, Int.add_zero] at hscan
  have hpart := hscan []
  have hwhole := hscan (',' :: r)
  rw [List.append_nil, splitArgumentsFrom] at hpart
  rcases splitArgumentsFrom_step 0 false ',' begun with ⟨-, -, -, hends⟩ | ⟨hno, -⟩
  · have hsplit : splitArgumentsFrom 0 false [] (p ++ ',' :: r) =
        splitArgumentsFrom 0 false [] p ++ splitArgumentsFrom 0 false [] r := by
      rw [hwhole, hends, hpart, List.append_assoc]
      rfl
    rw [splitArguments, hsplit, List.filter_append]
    rfl
  · exact absurd ⟨rfl, rfl, rfl⟩ hno

/-- A comma in a string or in brackets stays in the middle of an argument. -/
theorem exists_splitArguments_eq (h : quotedAfter false p = true ∨ nestingAfter false p ≠ 0)
    (r : List Char) :
    ∃ before after x y, x <:+ p ∧ y <+: r ∧
      splitArguments (p ++ ',' :: r) = before ++ trim (x ++ ',' :: y) :: after := by
  obtain ⟨done, begun, hsuffix, hscan⟩ := splitArgumentsFrom_append 0 false [] p
  have hwhole := hscan (',' :: r)
  rcases splitArgumentsFrom_step (0 + nestingAfter false p) (quotedAfter false p) ',' begun with
    ⟨-, hquote, hnest, -⟩ | ⟨-, hgoes⟩
  · rcases h with h | h
    · rw [hquote] at h
      cases h
    · exact absurd (by simpa using hnest) h
  · obtain ⟨y, rest, hprefix, heq⟩ := exists_splitArgumentsFrom_eq
      (0 + nestingAfter false p + nestingAfter (quotedAfter false p) [','])
      (quotedAfter (quotedAfter false p) [',']) (',' :: begun) r
    have hpiece : (',' :: begun).reverse ++ y = begun.reverse ++ ',' :: y := by simp
    have hmem : ',' ∈ trim (begun.reverse ++ ',' :: y) := mem_trim_of_mem (by simp) (by decide)
    have hcomma : (trim (begun.reverse ++ ',' :: y)).isEmpty = false := by
      rw [List.isEmpty_eq_false_iff]
      exact List.ne_nil_of_mem hmem
    rw [hgoes, heq, hpiece] at hwhole
    refine ⟨done.filter (!·.isEmpty), rest.filter (!·.isEmpty), begun.reverse, y,
      by simpa using hsuffix, hprefix, ?_⟩
    rw [splitArguments, hwhole, List.filter_append, List.filter_cons_of_pos (by simp [hcomma])]

/-! ## Escaped quotes -/

/-- How many quotes of a text stand right behind a backslash. -/
def escapes (before : Option Char) : List Char → Nat
  | [] => 0
  | c :: s => (if c = '"' && before == some '\\' then 1 else 0) + escapes (some c) s

theorem escapes_eq_zero (h : Unescaped (c :: s)) : escapes (some c) s = 0 := by
  induction s generalizing c with
  | nil => rfl
  | cons d s ih =>
    obtain ⟨hd, hs⟩ := List.isChain_cons_cons.1 h
    rw [escapes, ih hs, Nat.add_zero, if_neg]
    intro hescape
    simp only [Bool.and_eq_true, decide_eq_true_eq, beq_iff_eq, Option.some.injEq] at hescape
    exact hd hescape.2 hescape.1

/-- The accounts of strings agree, if they did, after an even number of escaped quotes. -/
theorem quotedAfter_eq_iff (a b : Bool) (before : Option Char) (s : List Char) :
    quotedAfter a s = inStringAfter b before s ↔ (a = b ↔ escapes before s % 2 = 0) := by
  induction s generalizing a b before with
  | nil => simp [quotedAfter, inStringAfter, escapes]
  | cons c s ih =>
    rw [quotedAfter, inStringAfter, escapes, ih]
    by_cases hc : c = '"'
    · by_cases hb : before = some '\\'
      · simp only [hc, hb, decide_true, beq_self_eq_true, bne_self_eq_false, Bool.and_self,
          Bool.and_false, Bool.false_eq_true, if_true, if_false]
        cases a <;> cases b <;> simp <;> omega
      · simp [hc, hb]
    · simp [hc]

/-- Without escaped quotes the second scan has open what the first one has seen. -/
theorem nestingAfter_eq (h : escapes before s = 0) (inString : Bool) :
    nestingAfter inString s =
      depthAfter '[' ']' inString before s + depthAfter '(' ')' inString before s := by
  induction s generalizing inString before with
  | nil => rfl
  | cons c s ih =>
    rw [escapes, Nat.add_eq_zero_iff] at h
    have hone : escapes before [c] = 0 := by rw [escapes, h.1]; rfl
    have hstring : quotedAfter inString [c] = inStringAfter inString before [c] := by
      rw [quotedAfter_eq_iff, hone]
      simp
    rw [nestingAfter, depthAfter, depthAfter, hstring, ih h.2]
    cases inString with
    | true => simp
    | false =>
      by_cases hbracket : c = '[' ∨ c = ']'
      · rcases hbracket with rfl | rfl
        · simp
          omega
        · simp
          omega
      by_cases hparen : c = '(' ∨ c = ')'
      · rcases hparen with rfl | rfl
        · simp
          omega
        · simp
          omega
      · simp only [not_or] at hbracket hparen
        simp [hbracket, hparen]

/-! ## The accounts of the scans -/

/-- What the two scans of the arguments know where the arguments are cut into `p` and `r`. -/
structure ScansAt (p r : List Char) : Prop where
  /-- The account of the scan for the parenthesis that closes, which stops behind `r`. -/
  closing : ∃ rest, closeOffset? (1 + depthAfter '(' ')' false (some '(') p)
    (inStringAfter false (some '(') p) (lastChar (some '(') p) (r ++ ')' :: rest) = some r.length
  /-- The account of the scan that divides the arguments. -/
  dividing : ∃ done piece, ∀ s, splitArgumentsFrom 0 false [] (p ++ s) =
    done ++ splitArgumentsFrom (nestingAfter false p) (quotedAfter false p) piece s
  /-- They agree on strings exactly after an even number of escaped quotes. -/
  quoted_iff : quotedAfter false p = inStringAfter false (some '(') p ↔
    escapes (some '(') p % 2 = 0
  /-- Without escaped quotes they agree on strings and brackets. -/
  nesting_eq : Unescaped p → nestingAfter false p =
    depthAfter '[' ']' false (some '(') p + depthAfter '(' ')' false (some '(') p
  /-- A comma that the first scan sees outside strings and brackets divides the arguments. -/
  divides : ∀ t, r = ',' :: t → Unescaped p → inStringAfter false (some '(') p = false →
    depthAfter '[' ']' false (some '(') p + depthAfter '(' ')' false (some '(') p = 0 →
      splitArguments (p ++ r) = splitArguments p ++ splitArguments t
  /-- Any other comma stays in the middle of an argument. -/
  keeps : ∀ t, r = ',' :: t → Unescaped p → inStringAfter false (some '(') p = true ∨
    depthAfter '[' ']' false (some '(') p + depthAfter '(' ')' false (some '(') p ≠ 0 →
      ∃ before after x y, x <:+ p ∧ y <+: t ∧
        splitArguments (p ++ r) = before ++ trim (x ++ ',' :: y) :: after

/-- The two scans agree on what is quoted, wherever the arguments are cut, if the number of escaped
quotes before is even; and as long as there is none the scan that divides the arguments keeps to
what the other one has seen. -/
theorem scansAt_of_cut (h : relationArguments? tail = some args) {p r : List Char}
    (hcut : args = p ++ r) : ScansAt p r := by
  have hquoted : quotedAfter false p = inStringAfter false (some '(') p ↔
      escapes (some '(') p % 2 = 0 := by
    rw [quotedAfter_eq_iff]
    simp
  have hescapes (hp : Unescaped p) : escapes (some '(') p = 0 := by
    have hparen : Unescaped (['('] ++ p) := .append_left (by simp) hp
    exact escapes_eq_zero hparen
  have hagree (hp : Unescaped p) : quotedAfter false p = inStringAfter false (some '(') p :=
    hquoted.2 (by rw [hescapes hp])
  have hnest (hp : Unescaped p) := nestingAfter_eq (hescapes hp) false
  refine ⟨?_, ?_, hquoted, hnest, ?_, ?_⟩
  · obtain ⟨-, rest, -, hclose⟩ := exists_of_relationArguments? h
    rw [closeOffset?_open] at hclose
    obtain ⟨n, hn, hlength⟩ := Option.map_eq_some_iff.1 hclose
    have hone : (1 : Int) ≤ 0 + 1 := by omega
    rw [hcut, List.append_assoc] at hn
    rw [hcut, List.length_append] at hlength
    obtain ⟨-, hgoes⟩ := closeOffset?_of_append hone hn (by omega)
    refine ⟨rest, ?_⟩
    rw [Int.zero_add] at hgoes
    rw [hgoes]
    congr 1
    omega
  · obtain ⟨done, piece, -, hscan⟩ := splitArgumentsFrom_append 0 false [] p
    rw [Int.zero_add] at hscan
    exact ⟨done, piece, hscan⟩
  · rintro t rfl hp hstring hopen
    exact splitArguments_comma ((hagree hp).trans hstring) ((hnest hp).trans hopen) t
  · rintro t rfl hp hinside
    rw [← hagree hp, ← hnest hp] at hinside
    exact exists_splitArguments_eq hinside t

/-- The relation attribute of a tail is made of the arguments between its parentheses, and the scan
that divides them keeps to what the scan for the parentheses has seen, but for escaped quotes. -/
theorem scans_of_arguments (h : relationArguments? tail = some args) :
    RelationAttribute.parse tail =
        ((Arguments.addAll {} true (splitArguments args)).bind fun a => a.toAttribute.map some) ∧
      ∀ p r, args = p ++ r → ScansAt p r :=
  ⟨parse_eq_of_relationArguments? h, fun _ _ hcut => scansAt_of_cut h hcut⟩

/-- The arguments of an attribute whose name has a comma and a bracket. -/
def namedArguments : List Char := "\"a, [b\", fields: [x], references: [y]".toList

/-- The first comma of `namedArguments` does not divide them, and the second one does. -/
theorem scans_of_namedArguments :
    (∃ before after x y, x <:+ "\"a".toList ∧ y <+: " [b\", fields: [x], references: [y]".toList ∧
        splitArguments namedArguments = before ++ trim (x ++ ',' :: y) :: after) ∧
      splitArguments namedArguments =
        splitArguments "\"a, [b\"".toList ++ splitArguments " fields: [x], references: [y]".toList := by
  have hargs : relationArguments? ("@relation(".toList ++ namedArguments ++ [')']) =
      some namedArguments := by decide
  have hfirst : namedArguments =
      "\"a".toList ++ ',' :: " [b\", fields: [x], references: [y]".toList := by decide
  have hsecond : namedArguments =
      "\"a, [b\"".toList ++ ',' :: " fields: [x], references: [y]".toList := by decide
  obtain ⟨-, hscans⟩ := scans_of_arguments hargs
  constructor
  · rw [hfirst]
    exact (hscans _ _ hfirst).keeps _ rfl (by decide) (.inl (by decide))
  · rw [hsecond]
    exact (hscans _ _ hsecond).divides _ rfl (by decide) (by decide) (by decide)

/-- After an escaped quote in a string the scan that divides takes the string to be over: a comma in
the string divides, and one behind the string does not. -/
theorem scans_differ_after_escape :
    (relationArguments? "@relation(\"a\\\",b\")".toList =
          some ("\"a\\\"".toList ++ ',' :: "b\"".toList) ∧
        inStringAfter false (some '(') "\"a\\\"".toList = true ∧
        splitArguments ("\"a\\\"".toList ++ ',' :: "b\"".toList) =
          ["\"a\\\"".toList, "b\"".toList]) ∧
      relationArguments? "@relation(\"a\\\"b\", fields: [x])".toList =
          some ("\"a\\\"b\"".toList ++ ',' :: " fields: [x]".toList) ∧
        inStringAfter false (some '(') "\"a\\\"b\"".toList = false ∧
        depthAfter '[' ']' false (some '(') "\"a\\\"b\"".toList = 0 ∧
        depthAfter '(' ')' false (some '(') "\"a\\\"b\"".toList = 0 ∧
        splitArguments ("\"a\\\"b\"".toList ++ ',' :: " fields: [x]".toList) =
          ["\"a\\\"b\", fields: [x]".toList] := by
  decide

end FeatureGen.Schema

import FeatureGen.Proofs.Schema.Lookup
import FeatureGen.Proofs.Text.LineEnd
import FeatureGen.Schema.Index
import FeatureGen.Schema.Line

/-!
# Scans and the ends of lines

Blanks may stand between the keyword, the name and the brace of a header, and between the parts of a
default that is a unique identifier.  Line breaks are blanks, so that these may be spread over
several lines.  A text *starts anew* (`StartsAnew`) if it goes on with none of them, wherever the
line before it ended.

A step at a position of a line then does what it does without the text that starts anew below it
(`headerAt?_append`, `namedHeaderAt?_append`, `uuidDefaultAt?_append`).
-/

namespace FeatureGen.Schema

open FeatureGen.Text

variable {before : Option Char} {name keyword r s : List Char}

/-! ## Texts that start anew -/

/-- The text goes on with no header and with no default of a unique identifier that was begun in the
lines before it. -/
structure StartsAnew (name s : List Char) : Prop where
  /-- No name and brace of a header stand at the start. -/
  header : afterMark? '\x7b' (spanWord (trimStart s)).2 = none
  /-- The given name and a brace do not stand there. -/
  name : afterName? name ('\n' :: s) = none
  /-- The function of the default does not stand there. -/
  function : after? "uuid(".toList (trimStart s) = none
  /-- The version and the parenthesis that closes it do not stand there. -/
  version : afterMark? ')' ((trimStart s).dropWhile isDigit) = none

instance (name s : List Char) : Decidable (StartsAnew name s) :=
  decidable_of_iff
    (afterMark? '\x7b' (spanWord (trimStart s)).2 = none ∧ afterName? name ('\n' :: s) = none ∧
      after? "uuid(".toList (trimStart s) = none ∧
      afterMark? ')' ((trimStart s).dropWhile isDigit) = none)
    ⟨fun ⟨h₁, h₂, h₃, h₄⟩ => ⟨h₁, h₂, h₃, h₄⟩, fun ⟨h₁, h₂, h₃, h₄⟩ => ⟨h₁, h₂, h₃, h₄⟩⟩

namespace StartsAnew

variable (h : StartsAnew name r)

include h

theorem brace : afterMark? '\x7b' r = none :=
  afterMark?_eq_none_of_dropWhile (by decide) h.header

theorem parenthesis : afterMark? ')' r = none :=
  afterMark?_eq_none_of_dropWhile (by decide) h.version

end StartsAnew

/-! ## Headers with a keyword -/

/-- The name and the brace of a header, and what follows them. -/
def nameAndBrace? (s : List Char) : Option (List Char × List Char) :=
  if (spanWord s).1.isEmpty then none
  else (afterMark? '\x7b' (spanWord s).2).map fun rest => ((spanWord s).1, rest)

theorem namedHeaderAt?_eq (keyword : List Char) (before : Option Char) (s : List Char) :
    namedHeaderAt? keyword before s =
      if startsWord before then
        (after? keyword s).bind fun t => (afterBlanks? t).bind nameAndBrace?
      else none := by
  rw [namedHeaderAt?]
  congr 2
  funext t
  cases afterBlanks? t with
  | none => rfl
  | some u =>
    rw [Option.bind_some, nameAndBrace?, Option.map_eq_bind]
    rfl

theorem nameAndBrace?_append (h : StartsAnew name r) (hs : EndsLine s) :
    nameAndBrace? (s ++ r) = (nameAndBrace? s).map fun p => (p.1, p.2 ++ r) := by
  obtain ⟨htake, hdrop, -⟩ :=
    takeWhile_append_of_endsLine hs (fun c => isWord_eq_false_of_isLineBreak) r
  have hspan : spanWord (s ++ r) = ((spanWord s).1, (spanWord s).2 ++ r) := by
    rw [spanWord, htake, hdrop]
    rfl
  rw [nameAndBrace?, nameAndBrace?, hspan]
  split
  · rfl
  · rw [afterMark?_append_of_eq_none h.brace, Option.map_map, Option.map_map]
    rfl

theorem afterBlanks?_bind_append (h : StartsAnew name r) (hs : EndsLine s) :
    (afterBlanks? (s ++ r)).bind nameAndBrace? =
      ((afterBlanks? s).bind nameAndBrace?).map fun p => (p.1, p.2 ++ r) := by
  cases s with
  | nil => exact absurd rfl hs.ne_nil
  | cons c s =>
    rw [List.cons_append, afterBlanks?, afterBlanks?]
    split
    · rw [Option.bind_some, Option.bind_some]
      by_cases hblank : trimStart s = []
      · -- The name would have to stand in the text that starts anew.
        rw [trimStart_append_of_eq_nil hblank, hblank, nameAndBrace?, h.header, Option.map_none,
          ite_self]
        rfl
      · have hline : EndsLine s := by
          rcases endsLine_cons.1 hs with ⟨rfl, -⟩ | hline
          · exact absurd rfl hblank
          · exact hline
        rw [trimStart_append_of_ne_nil hblank]
        exact nameAndBrace?_append h (hline.trimStart hblank)
    · rfl

theorem namedHeaderAt?_append (h : StartsAnew name r) (hkeyword : Without isLineBreak keyword)
    (before : Option Char) (hs : EndsLine s) :
    namedHeaderAt? keyword before (s ++ r) =
      (namedHeaderAt? keyword before s).map fun p => (p.1, p.2 ++ r) := by
  obtain ⟨happend, hends⟩ := after?_append_of_endsLine hkeyword hs r
  rw [namedHeaderAt?_eq, namedHeaderAt?_eq, happend]
  split
  · cases hafter : after? keyword s with
    | none => rfl
    | some t => exact afterBlanks?_bind_append h (hends t hafter)
  · rfl

/-! ## Headers of a given model -/

theorem afterName?_append_of_endsLine (h : StartsAnew name r) (hline : Without isLineBreak name)
    (hs : EndsLine s) :
    afterName? name (s ++ r) = (afterName? name s).map (· ++ r) := by
  induction s with
  | nil => exact absurd rfl hs.ne_nil
  | cons c s ih =>
    rw [List.cons_append, afterName?, afterName?]
    split
    · cases s with
      | nil =>
        -- The name would have to stand in the text that starts anew.
        have hempty : (afterUpToCase? name []).bind (afterMark? '\x7b') = none := by
          cases name <;> rfl
        have hnone := h.name
        rw [afterName?, if_pos (by decide)] at hnone
        rw [List.nil_append, hnone, hempty]
        rfl
      | cons d s =>
        have htail : EndsLine (d :: s) :=
          (endsLine_cons.1 hs).resolve_left fun hnil => List.cons_ne_nil d s hnil.1
        obtain ⟨happend, -⟩ := afterUpToCase?_append_of_endsLine hline htail r
        rw [happend, ih htail]
        cases afterUpToCase? name (d :: s) with
        | none => rfl
        | some t =>
          rw [Option.map_some, Option.bind_some, Option.bind_some,
            afterMark?_append_of_eq_none h.brace]
          cases afterMark? '\x7b' t <;> rfl
    · rfl

theorem headerAt?_append (h : StartsAnew name r) (hline : Without isLineBreak name)
    (before : Option Char) (hs : EndsLine s) :
    headerAt? name before (s ++ r) = (headerAt? name before s).map (· ++ r) := by
  have hkeyword : Without isLineBreak "model".toList := by decide
  obtain ⟨happend, hends⟩ := afterUpToCase?_append_of_endsLine hkeyword hs r
  rw [headerAt?, headerAt?, happend]
  split
  · cases hafter : afterUpToCase? "model".toList s with
    | none => rfl
    | some t => exact afterName?_append_of_endsLine h hline (hends t hafter)
  · rfl

/-! ## Defaults -/

/-- The digits of a version that the parentheses of a default close. -/
def closedVersion? (s : List Char) : Option (List Char) :=
  (afterMark? ')' ((trimStart s).dropWhile isDigit)).bind fun t =>
    (afterMark? ')' t).map fun _ => (trimStart s).takeWhile isDigit

theorem uuidDefaultAt?_eq (s : List Char) :
    uuidDefaultAt? s =
      (after? "@default(".toList s).bind fun t =>
        (after? "uuid(".toList (trimStart t)).bind closedVersion? := by
  have hversion : closedVersion? = fun u =>
      (afterMark? ')' ((trimStart u).dropWhile isDigit)).bind fun t =>
        (afterMark? ')' t).bind fun _ => some ((trimStart u).takeWhile isDigit) := by
    funext u
    rw [closedVersion?]
    congr 1
    funext t
    exact Option.map_eq_bind
  rw [hversion]
  rfl

theorem closedVersion?_append (h : StartsAnew name r) (hs : EndsLine s) :
    closedVersion? (s ++ r) = closedVersion? s := by
  by_cases hblank : trimStart s = []
  · rw [closedVersion?, closedVersion?, trimStart_append_of_eq_nil hblank, hblank, h.version]
    rfl
  · obtain ⟨htake, hdrop, -⟩ := takeWhile_append_of_endsLine (hs.trimStart hblank)
      (fun c => isDigit_eq_false_of_isLineBreak) r
    rw [closedVersion?, closedVersion?, trimStart_append_of_ne_nil hblank, htake, hdrop,
      afterMark?_append_of_eq_none h.parenthesis, Option.bind_map]
    congr 1
    funext t
    show (afterMark? ')' (t ++ r)).map _ = _
    rw [afterMark?_append_of_eq_none h.parenthesis, Option.map_map]
    rfl

theorem uuidDefaultAt?_append (h : StartsAnew name r) (hs : EndsLine s) :
    uuidDefaultAt? (s ++ r) = uuidDefaultAt? s := by
  have hopen : Without isLineBreak "@default(".toList := by decide
  have hcall : Without isLineBreak "uuid(".toList := by decide
  obtain ⟨happend, hends⟩ := after?_append_of_endsLine hopen hs r
  rw [uuidDefaultAt?_eq, uuidDefaultAt?_eq, happend]
  cases hafter : after? "@default(".toList s with
  | none => rfl
  | some t =>
    rw [Option.map_some, Option.bind_some, Option.bind_some]
    by_cases hblank : trimStart t = []
    · rw [trimStart_append_of_eq_nil hblank, hblank, h.function]
      rfl
    · obtain ⟨hfunction, hversion⟩ :=
        after?_append_of_endsLine hcall ((hends t hafter).trimStart hblank) r
      rw [trimStart_append_of_ne_nil hblank, hfunction]
      cases hcalled : after? "uuid(".toList (trimStart t) with
      | none => rfl
      | some u => exact closedVersion?_append h (hversion u hcalled)

theorem uuidVersion?_eq (text : List Char) :
    uuidVersion? text =
      (searchAll (fun _ => uuidDefaultAt?) none text).head?.map fun digits =>
        if digits.isEmpty then "4" else String.ofList digits := by
  rw [uuidVersion?, search?_eq_head?]

theorem namedHeaderAt?_congr {before' : Option Char}
    (h : startsWord before = startsWord before') (keyword s : List Char) :
    namedHeaderAt? keyword before s = namedHeaderAt? keyword before' s := by
  rw [namedHeaderAt?, namedHeaderAt?, h]

theorem headerAt?_congr {before' : Option Char} (h : startsWord before = startsWord before')
    (name s : List Char) : headerAt? name before s = headerAt? name before' s := by
  rw [headerAt?, headerAt?, h]

/-! ## Steps that keep to lines -/

/-- On a text that ends a line the step does the same when a text follows that starts anew, but for
what is left of the text, which `f` adds to. -/
structure KeepsToLines {α : Type} (name : List Char) (step : Option Char → List Char → Option α)
    (f : List Char → α → α) : Prop where
  nil : ∀ before, step before [] = none
  append : ∀ r, StartsAnew name r → ∀ before u, EndsLine u →
    step before (u ++ r) = (step before u).map (f r)
  congr : ∀ before before' u, startsWord before = startsWord before' →
    step before u = step before' u

theorem keepsToLines_name (name : List Char) (hkeyword : Without isLineBreak keyword) :
    KeepsToLines name (fun b u => (namedHeaderAt? keyword b u).map Prod.fst) fun _ => id where
  nil b := by
    rw [namedHeaderAt?_eq]
    cases keyword <;> cases startsWord b <;> rfl
  append r hr b u hu := by
    rw [namedHeaderAt?_append hr hkeyword b hu, Option.map_map, Option.map_id]
    rfl
  congr b b' u hb := by rw [namedHeaderAt?_congr hb]

theorem keepsToLines_header (hline : Without isLineBreak name) :
    KeepsToLines name (headerAt? name) fun r rest => rest ++ r where
  nil b := by
    rw [headerAt?]
    split <;> rfl
  append r hr b u hu := headerAt?_append hr hline b hu
  congr b b' u hb := headerAt?_congr hb name u

theorem keepsToLines_uuid (name : List Char) :
    KeepsToLines name (fun _ => uuidDefaultAt?) fun _ => id where
  nil _ := rfl
  append r hr b u hu := by
    rw [uuidDefaultAt?_append hr hu, Option.map_id]
    rfl
  congr _ _ _ _ := rfl

/-! ## Bodies of blocks -/

variable {body rest : List Char}

@[simp] theorem untilClosed?_nil : untilClosed? [] = none := rfl

theorem untilClosed?_cons (c : Char) (s : List Char) :
    untilClosed? (c :: s) =
      if c = '\x7d' then some ([], s) else (untilClosed? s).map fun p => (c :: p.1, p.2) := by
  by_cases hc : c = '\x7d'
  · simp [untilClosed?, hc]
  · rw [untilClosed?, untilClosed?, List.dropWhile_cons_of_pos (by simpa using hc),
      List.takeWhile_cons_of_pos (by simpa using hc), if_neg hc]
    split <;> rfl

theorem exists_of_untilClosed? (h : untilClosed? s = some (body, rest)) :
    s = body ++ '\x7d' :: rest := by
  induction s generalizing body with
  | nil => cases h
  | cons c s ih =>
    rw [untilClosed?_cons] at h
    split at h
    · next hc =>
      cases h
      rw [hc]
      rfl
    · obtain ⟨p, hp, heq⟩ := Option.map_eq_some_iff.1 h
      cases heq
      rw [List.cons_append, ← ih hp]

/-- A text in which nothing is closed is passed over. -/
theorem untilClosed?_append_of_not_mem (h : '\x7d' ∉ s) (t : List Char) :
    untilClosed? (s ++ t) = (untilClosed? t).map fun p => (s ++ p.1, p.2) := by
  induction s with
  | nil => simp
  | cons c s ih =>
    rw [List.mem_cons, not_or] at h
    rw [List.cons_append, untilClosed?_cons, if_neg (Ne.symm h.1), ih h.2, Option.map_map]
    rfl

/-- A body that is closed in the first text is that of both. -/
theorem exists_untilClosed?_append_of_mem (h : '\x7d' ∈ s) : ∃ body rest,
    s = body ++ '\x7d' :: rest ∧ ∀ t, untilClosed? (s ++ t) = some (body, rest ++ t) := by
  induction s with
  | nil => cases h
  | cons c s ih =>
    by_cases hc : c = '\x7d'
    · refine ⟨[], s, by rw [hc]; rfl, fun t => ?_⟩
      rw [List.cons_append, untilClosed?_cons, if_pos hc]
    · obtain ⟨body, rest, rfl, hclosed⟩ := ih ((List.mem_cons.1 h).resolve_left (Ne.symm hc))
      refine ⟨c :: body, rest, rfl, fun t => ?_⟩
      rw [List.cons_append, untilClosed?_cons, if_neg hc, hclosed]
      rfl

theorem endsLine_of_namedHeaderAt? {p : List Char × List Char} (hs : EndsLine s)
    (h : namedHeaderAt? keyword before s = some p) : EndsLine p.2 := by
  obtain ⟨-, w, w', rfl, -⟩ := exists_of_namedHeaderAt? h
  rw [← List.append_assoc, ← List.append_assoc, ← List.append_assoc] at hs
  exact hs.of_append_cons (by decide)

theorem exists_of_headerAt? (h : headerAt? name before s = some rest) :
    ∃ p, s = p ++ '\x7b' :: rest := by
  rw [headerAt?] at h
  split at h
  · obtain ⟨t, hkeyword, hname⟩ := Option.bind_eq_some_iff.1 h
    obtain ⟨k, rfl, -⟩ := exists_of_afterUpToCase? hkeyword
    obtain ⟨w, m, w', rfl, -⟩ := exists_of_afterName? hname
    exact ⟨k ++ (w ++ (m ++ w')), by simp⟩
  · cases h

/-- The declarations in the rest of a block after its header, if it is closed. -/
def bodyLines? (rest : List Char) : Option (List (List Char)) :=
  (untilClosed? rest).map fun p => fieldLines p.1

/-- The declarations of a model are those behind the first header of its name whose block is
closed. -/
theorem map_modelBody? (hname : name ≠ []) (text : List Char) :
    (modelBody? text name).map fieldLines =
      ((searchAll (headerAt? name) none text).filterMap bodyLines?).head? := by
  have hblock : blockAt? name = fun b u =>
      (headerAt? name b u).bind fun rest => (untilClosed? rest).map Prod.fst := by
    funext b u
    rw [blockAt?]
    congr 1
    funext rest
    rw [Option.map_eq_bind]
    rfl
  have hbody (rest : List Char) :
      ((untilClosed? rest).map Prod.fst).map fieldLines = bodyLines? rest := by
    rw [Option.map_map]
    rfl
  rw [modelBody?, if_neg (by simpa using hname), search?_eq_head?, hblock, ← filterMap_searchAll,
    ← List.head?_map, List.map_filterMap]
  simp only [hbody]

/-! ## Enumerations -/

theorem mem_of_namedHeaderAt? {p : List Char × List Char}
    (h : namedHeaderAt? keyword before s = some p) : '\x7b' ∈ s := by
  obtain ⟨-, w, w', rfl, -⟩ := exists_of_namedHeaderAt? h
  simp

theorem exists_of_enumBlockAt? (h : enumBlockAt? before s = some (name, body, rest)) :
    ∃ c p, s = c :: (p ++ '\x7d' :: rest) := by
  obtain ⟨⟨found, t⟩, hheader, hclosed⟩ := Option.bind_eq_some_iff.1 h
  obtain ⟨⟨body', rest'⟩, hbody, heq⟩ := Option.bind_eq_some_iff.1 hclosed
  cases heq
  obtain ⟨-, w, w', rfl, -⟩ := exists_of_namedHeaderAt? hheader
  rw [exists_of_untilClosed? hbody]
  exact ⟨'e', "num".toList ++ (w ++ (name ++ (w' ++ '\x7b' :: body))), by simp⟩

/-- After a block of an enumeration the scan goes on behind its brace. -/
theorem enumBlocksFrom_of_eq_some (h : enumBlockAt? before s = some (name, body, rest)) :
    enumBlocksFrom 0 before s = (name, body) :: enumBlocksFrom 0 (some '\x7d') rest := by
  obtain ⟨c, p, rfl⟩ := exists_of_enumBlockAt? h
  have hsplit : p ++ '\x7d' :: rest = (p ++ ['\x7d']) ++ rest := by simp
  rw [hsplit] at h ⊢
  rw [enumBlocksFrom, h]
  simp only
  rw [List.length_append, Nat.add_sub_cancel, enumBlocksFrom_length, lastChar_append]
  rfl

theorem enumBlocksFrom_of_eq_none {c : Char} (h : enumBlockAt? before (c :: s) = none) :
    enumBlocksFrom 0 before (c :: s) = enumBlocksFrom 0 (some c) s := by
  rw [enumBlocksFrom, h]

theorem enumBlocksFrom_congr {before' : Option Char}
    (h : startsWord before = startsWord before') (s : List Char) :
    enumBlocksFrom 0 before s = enumBlocksFrom 0 before' s := by
  cases s with
  | nil => rfl
  | cons c s => rw [enumBlocksFrom, enumBlocksFrom, enumBlockAt?, enumBlockAt?,
      namedHeaderAt?_congr h]

end FeatureGen.Schema

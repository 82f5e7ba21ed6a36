import FeatureGen.Proofs.Json.Scalar
import Mathlib.Data.List.Induction

/-!
# A value is read back from its text

`Json.pretty` writes a value over several lines, and `Json.read?` reads the same value back
(`read?_pretty`), if it is `Readable`: no whole number is too long to be read, and the members of
each object have different names.  Real numbers are left out, since reading one may round it.

The reader takes a value from the start of a text and leaves what follows (`ReadsBack`).  That is
shown for lists of items and of members first, one after the other, and then for values by
induction.  A text always has fuel enough: each step of the reader takes a character at least.
-/

namespace FeatureGen.Json

open FeatureGen.Text

variable {v : Json} {c : Char} {s rest : List Char} {level : Nat}

/-- A value that can be read back. -/
inductive Readable : Json → Prop
  | null : Readable .null
  | bool (b : Bool) : Readable (.bool b)
  | int {n : Int} (h : (scalar keepChar (.int n)).length ≤ digitLimit) : Readable (.int n)
  | str (s : String) : Readable (.str s)
  | arr {items : List Json} (h : ∀ v ∈ items, Readable v) : Readable (.arr items)
  | obj {members : List (String × Json)} (hnames : (members.map (·.1)).Nodup)
    (h : ∀ m ∈ members, Readable m.2) : Readable (.obj members)

/-! ## Members of different names -/

/-- A member of a name that no other has is kept at the end. -/
theorem lastWins_concat {members : List (String × Json)} {name : String}
    (h : ∀ m ∈ lastWins members, m.1 ≠ name) (value : Json) :
    lastWins (members ++ [(name, value)]) = lastWins members ++ [(name, value)] := by
  have hnew : ¬ (lastWins members).any (·.1 == name) = true := by
    rw [List.any_eq_true]
    rintro ⟨m, hm, heq⟩
    exact h m hm (eq_of_beq heq)
  rw [lastWins, List.foldl_append]
  exact if_neg hnew

/-- Members of different names are kept as they are. -/
theorem lastWins_of_nodup {members : List (String × Json)} (h : (members.map (·.1)).Nodup) :
    lastWins members = members := by
  induction members using List.reverseRecOn with
  | nil => rfl
  | append_singleton members m ih =>
    obtain ⟨name, value⟩ := m
    rw [List.map_append, List.nodup_append] at h
    obtain ⟨hnodup, -, hne⟩ := h
    rw [lastWins_concat, ih hnodup]
    rw [ih hnodup]
    exact fun e he => hne e.1 (List.mem_map_of_mem he) name List.mem_cons_self

/-! ## Blanks -/

theorem skipSpace_of_notStarting (h : NotStarting isSpace s) : skipSpace s = s :=
  dropWhile_eq_self_of_notStarting h

/-- The break before an item is passed over. -/
theorem skipSpace_newline (level : Nat) (h : NotStarting isSpace s) :
    skipSpace (newline level ++ s) = s := by
  refine dropWhile_append_of_notStarting (fun c hc => ?_) h
  rcases List.mem_cons.1 hc with rfl | hc
  · rfl
  · rw [List.eq_of_mem_replicate hc]
    rfl

theorem notStarting_newline (level : Nat) (s : List Char) :
    NotStarting isNumberChar (newline level ++ s) := notStarting_cons.2 (by decide)

/-- The text of a value starts neither with a blank nor with the end of a list. -/
theorem Readable.exists_cons (hv : Readable v) (level : Nat) :
    ∃ c s, prettyChars level v = c :: s ∧ isSpace c = false ∧ c ≠ ']' := by
  cases hv with
  | null => exact ⟨'n', _, rfl, by decide, by decide⟩
  | bool b =>
    cases b with
    | false => exact ⟨'f', _, rfl, by decide, by decide⟩
    | true => exact ⟨'t', _, rfl, by decide, by decide⟩
  | @int n h =>
    cases n with
    | ofNat n =>
      obtain ⟨c, s, hs⟩ := List.exists_cons_of_ne_nil (digits_ne_nil (n := n))
      have hc : c.isDigit = true := isDigit_of_mem_digits (hs ▸ List.mem_cons_self)
      refine ⟨c, s, ?_, ?_, ?_⟩
      · rw [← hs, prettyChars, scalar]
        all_goals simp
      · refine Bool.eq_false_iff.2 fun hspace => ?_
        simp only [isSpace, Bool.or_eq_true, decide_eq_true_iff] at hspace
        rcases hspace with ((rfl | rfl) | rfl) | rfl
        all_goals exact absurd hc (by decide)
      · rintro rfl
        exact absurd hc (by decide)
    | negSucc n => exact ⟨'-', _, rfl, by decide, by decide⟩
  | str s => exact ⟨'"', _, rfl, by decide, by decide⟩
  | @arr items h =>
    cases items with
    | nil => exact ⟨'[', _, rfl, by decide, by decide⟩
    | cons v vs => exact ⟨'[', _, rfl, by decide, by decide⟩
  | @obj members hnames h =>
    cases members with
    | nil => exact ⟨'\x7b', _, rfl, by decide, by decide⟩
    | cons m ms => exact ⟨'\x7b', _, rfl, by decide, by decide⟩

theorem Readable.notStarting_isSpace (hv : Readable v) (level : Nat) (s : List Char) :
    NotStarting isSpace (prettyChars level v ++ s) := by
  obtain ⟨c, t, ht, hc, -⟩ := hv.exists_cons level
  rw [ht]
  exact notStarting_cons.2 hc

/-! ## Reading values back -/

/-- The value is read from the start of a text that begins with it, unless what follows could be
more of a number. -/
def ReadsBack (v : Json) : Prop :=
  ∀ (level fuel : Nat) (rest : List Char), (prettyChars level v).length ≤ fuel →
    NotStarting isNumberChar rest → readValue? fuel (prettyChars level v ++ rest) = some (v, rest)

/-- There is always fuel enough for a first step. -/
theorem Readable.readsBack_of (hv : Readable v)
    (h : ∀ (level fuel : Nat) (rest : List Char), (prettyChars level v).length ≤ fuel + 1 →
      NotStarting isNumberChar rest →
        readValue? (fuel + 1) (prettyChars level v ++ rest) = some (v, rest)) : ReadsBack v := by
  intro level fuel rest hfuel hrest
  cases fuel with
  | zero =>
    obtain ⟨c, s, hs, -⟩ := hv.exists_cons level
    rw [hs] at hfuel
    exact absurd hfuel (Nat.not_succ_le_zero _)
  | succ fuel => exact h level fuel rest hfuel hrest

/-- A text that starts like no string, array or object is read as a number or a word. -/
theorem readValue?_scalar (hstring : c ≠ '"') (harray : c ≠ '[') (hobject : c ≠ '\x7b') (fuel : Nat)
    (s : List Char) : readValue? (fuel + 1) (c :: s) = readScalar? (c :: s) := by
  simp [readValue?, hstring, harray, hobject]

/-- An array with items is read item by item. -/
theorem readValue?_array {t : List Char} (hs : skipSpace s = c :: t) (hc : c ≠ ']') (fuel : Nat) :
    readValue? (fuel + 1) ('[' :: s) = readItems? fuel [] (c :: t) := by
  simp [readValue?, hs, hc]

/-- An object with members is read member by member. -/
theorem readValue?_object {t : List Char} (hs : skipSpace s = '"' :: t) (fuel : Nat) :
    readValue? (fuel + 1) ('\x7b' :: s) = readMembers? fuel [] ('"' :: t) := by
  simp [readValue?, hs]

/-- A whole number is read back. -/
theorem readsBack_int {n : Int} (h : (scalar keepChar (.int n)).length ≤ digitLimit) :
    ReadsBack (.int n) := by
  refine (Readable.int h).readsBack_of fun level fuel rest _ hrest => ?_
  rw [show prettyChars level (.int n) = scalar keepChar (.int n) by simp [prettyChars]]
  cases n with
  | ofNat n =>
    rw [scalar] at h ⊢
    have hread : readNumber? false (digits n ++ rest) = _ := readNumber?_digits h hrest
    obtain ⟨c, s, hs⟩ := List.exists_cons_of_ne_nil (digits_ne_nil (n := n))
    have hc : c.isDigit = true := isDigit_of_mem_digits (hs ▸ List.mem_cons_self)
    rw [hs, List.cons_append] at hread ⊢
    rw [readValue?_scalar, readScalar?_of_isDigit hc, hread]
    · rfl
    all_goals
      rintro rfl
      exact absurd hc (by decide)
  | negSucc n =>
    rw [scalar] at h ⊢
    have hread : readNumber? true (digits (n + 1) ++ rest) = _ := readNumber?_digits h hrest
    obtain ⟨c, s, hs⟩ := List.exists_cons_of_ne_nil (digits_ne_nil (n := n + 1))
    have hc : c.isDigit = true := isDigit_of_mem_digits (hs ▸ List.mem_cons_self)
    rw [hs, List.cons_append] at hread ⊢
    rw [List.cons_append, readValue?_scalar (by decide) (by decide) (by decide),
      readScalar?_minus hc, hread]
    rfl

/-- The items of an array are read back from the first on. -/
theorem readItems?_prettyItems {vs done : List Json} {below fuel : Nat} (hv : ReadsBack v)
    (hvs : ∀ w ∈ vs, Readable w ∧ ReadsBack w)
    (hfuel : (prettyChars level v).length + (prettyItems level vs).length < fuel) :
    readItems? fuel done
        (prettyChars level v ++ (prettyItems level vs ++ (newline below ++ ']' :: rest))) =
      some (.arr (done.reverse ++ v :: vs), rest) := by
  have hend : skipSpace (newline below ++ ']' :: rest) = ']' :: rest :=
    skipSpace_newline below (notStarting_cons.2 (by decide))
  -- Each item takes fuel away and joins those that are done, so both are left free.
  induction vs generalizing v fuel done with
  | nil =>
    obtain ⟨fuel, rfl⟩ := Nat.exists_eq_add_one.2 (Nat.zero_lt_of_lt hfuel)
    rw [prettyItems, List.length_nil] at hfuel
    rw [prettyItems, List.nil_append, readItems?,
      hv level fuel _ (by omega) (notStarting_newline below _)]
    simp only [hend, List.reverse_cons]
  | cons w ws ih =>
    obtain ⟨fuel, rfl⟩ := Nat.exists_eq_add_one.2 (Nat.zero_lt_of_lt hfuel)
    obtain ⟨hreadable, hw⟩ := hvs w List.mem_cons_self
    simp only [prettyItems, List.length_append, List.length_cons] at hfuel
    have hcomma (s : List Char) : skipSpace (',' :: s) = ',' :: s := rfl
    simp only [prettyItems, List.cons_append, List.append_assoc]
    rw [readItems?, hv level fuel _ (by omega) (notStarting_cons.2 (by decide))]
    simp only [hcomma, skipSpace_newline level (hreadable.notStarting_isSpace level _)]
    rw [ih hw (fun u hu => hvs u (List.mem_cons_of_mem _ hu)) (by omega), List.reverse_cons,
      List.append_assoc, List.singleton_append]

/-- The members of an object are read back from the first on. -/
theorem readMembers?_prettyMembers {name : String} {ms done : List (String × Json)}
    {below fuel : Nat} (hreadable : Readable v) (hv : ReadsBack v)
    (hms : ∀ m ∈ ms, Readable m.2 ∧ ReadsBack m.2)
    (hfuel : (prettyChars level v).length + (prettyMembers level ms).length < fuel) :
    readMembers? fuel done
        (quote keepChar name ++ ':' :: ' ' :: (prettyChars level v ++
          (prettyMembers level ms ++ (newline below ++ '\x7d' :: rest)))) =
      some (.obj (lastWins (done.reverse ++ (name, v) :: ms)), rest) := by
  have hend : skipSpace (newline below ++ '\x7d' :: rest) = '\x7d' :: rest :=
    skipSpace_newline below (notStarting_cons.2 (by decide))
  have hcolon (s : List Char) : skipSpace (':' :: s) = ':' :: s := rfl
  have hspace (s : List Char) : skipSpace (' ' :: s) = skipSpace s := rfl
  induction ms generalizing name v fuel done with
  | nil =>
    obtain ⟨fuel, rfl⟩ := Nat.exists_eq_add_one.2 (Nat.zero_lt_of_lt hfuel)
    rw [prettyMembers, List.length_nil] at hfuel
    simp only [quote, prettyMembers, List.cons_append, List.nil_append, List.append_assoc]
    simp only [readMembers?, readString?_flatMap, hcolon, hspace,
      skipSpace_of_notStarting (hreadable.notStarting_isSpace level _),
      hv level fuel _ (show _ ≤ fuel by omega) (notStarting_newline below _), hend,
      List.reverse_nil, List.nil_append, String.ofList_toList, List.reverse_cons]
  | cons m ms ih =>
    obtain ⟨name', w⟩ := m
    obtain ⟨fuel, rfl⟩ := Nat.exists_eq_add_one.2 (Nat.zero_lt_of_lt hfuel)
    obtain ⟨hreadable', hw⟩ := hms (name', w) List.mem_cons_self
    simp only [prettyMembers, List.length_append, List.length_cons] at hfuel
    have hcomma (s : List Char) : skipSpace (',' :: s) = ',' :: s := rfl
    have hquote (s : List Char) : skipSpace (newline level ++ '"' :: s) = '"' :: s :=
      skipSpace_newline level (notStarting_cons.2 (by decide))
    have hread (s : List Char) :
        readValue? fuel (prettyChars level v ++ ',' :: s) = some (v, ',' :: s) :=
      hv level fuel _ (by omega) (notStarting_cons.2 (by decide))
    have htail := @ih w name' ((name, v) :: done) fuel hreadable' hw
      (fun u hu => hms u (List.mem_cons_of_mem _ hu)) (by omega)
    rw [List.reverse_cons, List.append_assoc, List.singleton_append] at htail
    simp only [quote, prettyMembers, List.cons_append, List.nil_append, List.append_assoc]
      at htail ⊢
    simp only [readMembers?, readString?_flatMap, hcolon, hspace, hcomma, hquote, hread,
      skipSpace_of_notStarting (hreadable.notStarting_isSpace level _),
      List.reverse_nil, List.nil_append, String.ofList_toList]
    exact htail

/-- A readable value is read back. -/
theorem Readable.readsBack (hv : Readable v) : ReadsBack v := by
  induction hv with
  | null =>
    refine Readable.null.readsBack_of fun level fuel rest _ _ => ?_
    simp [prettyChars, scalar, readValue?, readScalar?, after?, afterBy?]
  | bool b =>
    refine (Readable.bool b).readsBack_of fun level fuel rest _ _ => ?_
    cases b <;> simp [prettyChars, scalar, readValue?, readScalar?, after?, afterBy?]
  | int h => exact readsBack_int h
  | str s =>
    refine (Readable.str s).readsBack_of fun level fuel rest _ _ => ?_
    simp only [prettyChars, scalar, quote, List.cons_append, List.append_assoc, List.nil_append,
      readValue?, readString?_flatMap, Option.map_some, List.reverse_nil, String.ofList_toList]
  | @arr items h ih =>
    refine (Readable.arr h).readsBack_of fun level fuel rest hfuel _ => ?_
    cases items with
    | nil => rfl
    | cons v vs =>
      have hv := h v List.mem_cons_self
      have htail : ∀ w ∈ vs, Readable w ∧ ReadsBack w :=
        fun w hw => ⟨h w (List.mem_cons_of_mem _ hw), ih w (List.mem_cons_of_mem _ hw)⟩
      simp only [prettyChars, List.length_append, List.length_cons] at hfuel
      have hread : readItems? fuel [] (prettyChars (level + 1) v ++ (prettyItems (level + 1) vs ++
          (newline level ++ ']' :: rest))) = some (.arr (v :: vs), rest) :=
        readItems?_prettyItems (ih v List.mem_cons_self) htail (by omega)
      obtain ⟨c, s, hs, -, hc⟩ := hv.exists_cons (level + 1)
      have hskip (t : List Char) :
          skipSpace (newline (level + 1) ++ (prettyChars (level + 1) v ++ t)) = c :: (s ++ t) := by
        rw [skipSpace_newline _ (hv.notStarting_isSpace _ _), hs, List.cons_append]
      simp only [prettyChars, List.cons_append, List.append_assoc, List.nil_append]
      rw [readValue?_array (hskip _) hc, ← List.cons_append, ← hs, hread]
  | @obj members hnames h ih =>
    refine (Readable.obj hnames h).readsBack_of fun level fuel rest hfuel _ => ?_
    cases members with
    | nil => rfl
    | cons m ms =>
      obtain ⟨name, v⟩ := m
      have htail : ∀ m ∈ ms, Readable m.2 ∧ ReadsBack m.2 :=
        fun m hm => ⟨h m (List.mem_cons_of_mem _ hm), ih m (List.mem_cons_of_mem _ hm)⟩
      simp only [prettyChars, List.length_append, List.length_cons] at hfuel
      have hread : readMembers? fuel [] (quote keepChar name ++ ':' :: ' ' ::
          (prettyChars (level + 1) v ++ (prettyMembers (level + 1) ms ++
            (newline level ++ '\x7d' :: rest)))) =
          some (.obj (lastWins ((name, v) :: ms)), rest) :=
        readMembers?_prettyMembers (h (name, v) List.mem_cons_self)
          (ih (name, v) List.mem_cons_self) htail (by omega)
      have hskip (t : List Char) :
          skipSpace (newline (level + 1) ++ '"' :: t) = '"' :: t :=
        skipSpace_newline _ (notStarting_cons.2 (by decide))
      rw [lastWins_of_nodup hnames] at hread
      simp only [quote, prettyChars, List.cons_append, List.append_assoc, List.nil_append]
        at hread ⊢
      rw [readValue?_object (hskip _), hread]

/-- A readable value is read back from its text. -/
theorem read?_pretty (hv : Readable v) : read? (pretty v) = some v := by
  have hstart := hv.notStarting_isSpace 0 []
  rw [List.append_nil] at hstart
  have hread := hv.readsBack 0 (2 * (prettyChars 0 v).length + 1) [] (by omega) notStarting_nil
  rw [List.append_nil] at hread
  simp only [read?, pretty, String.toList_ofList, skipSpace_of_notStarting hstart, hread]
  rfl

/-! ## Line breaks

All breaks in the text of a value are line feeds: a carriage return within a string is escaped. -/

theorem not_mem_unitEscape {d : Char} (hd : d.toNat < 0x20) (n : Nat) : d ∉ unitEscape n := by
  have hdigit : ∀ m < 16, 0x20 ≤ (hexChar m).toNat := by decide
  have hmod (m : Nat) : d ≠ hexChar (m % 16) := by
    have hle := hdigit (m % 16) (Nat.mod_lt m (by decide))
    rintro rfl
    omega
  have hslash : d ≠ '\\' := by
    rintro rfl
    exact absurd hd (by decide)
  have hu : d ≠ 'u' := by
    rintro rfl
    exact absurd hd (by decide)
  simp [unitEscape, hmod, hslash, hu]

/-- No control character is in an escape. -/
theorem not_mem_of_required? {c d : Char} {w : List Char} (hd : d.toNat < 0x20)
    (h : required? c = some w) : d ∉ w := by
  have hwritten : ∀ e ∈ ['\\', '"', 'n', 'r', 't', 'b', 'f'], d ≠ e := by
    have hall : ['\\', '"', 'n', 'r', 't', 'b', 'f'].all (fun e => decide (0x20 ≤ e.toNat)) = true :=
      by decide
    rintro e he rfl
    have hle := of_decide_eq_true (List.all_eq_true.1 hall d he)
    omega
  simp only [List.forall_mem_cons] at hwritten
  obtain ⟨hslash, hquote, hn, hr, ht, hb, hf, -⟩ := hwritten
  rw [required?] at h
  -- One case for each character that has an escape of its own.
  split at h
  · cases h
    simp [hslash, hquote]
  split at h
  · cases h
    simp [hslash]
  split at h
  · cases h
    simp [hslash, hn]
  split at h
  · cases h
    simp [hslash, hr]
  split at h
  · cases h
    simp [hslash, ht]
  split at h
  · cases h
    simp [hslash, hb]
  split at h
  · cases h
    simp [hslash, hf]
  split at h
  · cases h
    exact not_mem_unitEscape hd _
  · cases h

/-- Every control character has an escape. -/
theorem le_of_required?_eq_none {c : Char} (h : required? c = none) : 0x20 ≤ c.toNat := by
  by_contra hlt
  have hcontrol : c.toNat < 0x20 := by omega
  simp only [required?, hcontrol, if_true] at h
  repeat' split at h
  all_goals cases h

theorem not_mem_keepChar (c : Char) : '\r' ∉ keepChar c := by
  rw [keepChar]
  cases h : required? c with
  | some w => exact not_mem_of_required? (by decide) h
  | none =>
    have hle := le_of_required?_eq_none h
    rw [Option.getD_none, List.mem_singleton]
    rintro rfl
    exact absurd hle (by decide)

theorem not_mem_quote (s : String) : '\r' ∉ quote keepChar s := by
  simp [quote, not_mem_keepChar]

theorem not_mem_newline (level : Nat) : '\r' ∉ newline level := by
  simp [newline, List.mem_replicate]

theorem not_mem_digits (n : Nat) : '\r' ∉ digits n :=
  fun h => absurd (isDigit_of_mem_digits h) (by decide)

theorem not_mem_prettyItems {vs : List Json} (h : ∀ v ∈ vs, '\r' ∉ prettyChars level v) :
    '\r' ∉ prettyItems level vs := by
  induction vs with
  | nil => simp [prettyItems]
  | cons v vs ih =>
    rw [List.forall_mem_cons] at h
    simp [prettyItems, not_mem_newline, h.1, ih h.2]

theorem not_mem_prettyMembers {ms : List (String × Json)}
    (h : ∀ m ∈ ms, '\r' ∉ prettyChars level m.2) : '\r' ∉ prettyMembers level ms := by
  induction ms with
  | nil => simp [prettyMembers]
  | cons m ms ih =>
    obtain ⟨name, v⟩ := m
    rw [List.forall_mem_cons] at h
    simp [prettyMembers, not_mem_newline, not_mem_quote, h.1, ih h.2]

theorem Readable.not_mem_prettyChars (hv : Readable v) (level : Nat) :
    '\r' ∉ prettyChars level v := by
  induction hv generalizing level with
  | null => simp [prettyChars, scalar]
  | bool b => cases b <;> simp [prettyChars, scalar]
  | @int n h => cases n <;> simp [prettyChars, scalar, not_mem_digits]
  | str s => simp [prettyChars, scalar, not_mem_quote]
  | @arr items h ih =>
    cases items with
    | nil => simp [prettyChars, scalar]
    | cons v vs =>
      rw [List.forall_mem_cons] at ih
      have hitems := not_mem_prettyItems fun w hw => ih.2 w hw (level + 1)
      simp [prettyChars, not_mem_newline, ih.1, hitems]
  | @obj members hnames h ih =>
    cases members with
    | nil => simp [prettyChars, scalar]
    | cons m ms =>
      rw [List.forall_mem_cons] at ih
      have hmembers := not_mem_prettyMembers fun m hm => ih.2 m hm (level + 1)
      simp [prettyChars, not_mem_newline, not_mem_quote, ih.1, hmembers]

end FeatureGen.Json

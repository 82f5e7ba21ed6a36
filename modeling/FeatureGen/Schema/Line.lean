import FeatureGen.Text.Lines
import FeatureGen.Text.Literal

/-!
# Lines of a model body

A model body is divided into declarations of fields.  Blank lines, comments and block attributes
(`@@…`) are left out, a comment at the end of a line is cut off, and a line that holds several
declarations is split.

A declaration is a name, a type with an optional `?` or `[]`, and attributes `@name` or
`@name(…)`.  Slashes and parentheses inside double quotes do not count; a quote after a backslash
neither opens nor closes.

`splitDeclarations` recurses on what an attribute or a declaration leaves of the line;
`length_lt_of_oneAttribute?` and `length_lt_of_declaration?` say that it is shorter.
-/

namespace FeatureGen.Schema

open FeatureGen.Text

/-! ## Comments -/

/-- The text before the first `//` outside quotes, if there is one. -/
def beforeComment? (inString : Bool) (before : Option Char) : List Char → Option (List Char)
  | [] => none
  | c :: s =>
    if c = '/' && s.head? = some '/' && !inString then some []
    else
      let inString := if c = '"' && before != some '\\' then !inString else inString
      (beforeComment? inString (some c) s).map (c :: ·)

/-- The line without a comment at its end and the blanks before the comment. -/
def stripComment (line : List Char) : List Char :=
  match beforeComment? false none line with
  | some s => trimEnd s
  | none => line

/-! ## Parentheses -/

/-- How many characters stand before the parenthesis that closes, where `depth` are open so far. -/
def closeOffset? (depth : Int) (inString : Bool) (before : Option Char) : List Char → Option Nat
  | [] => none
  | c :: s =>
    if c = '"' && before != some '\\' then
      (closeOffset? depth (!inString) (some c) s).map (· + 1)
    else if inString then (closeOffset? depth inString (some c) s).map (· + 1)
    else if c = '(' then (closeOffset? (depth + 1) inString (some c) s).map (· + 1)
    else if c = ')' then
      if depth = 1 then some 0
      else (closeOffset? (depth - 1) inString (some c) s).map (· + 1)
    else (closeOffset? depth inString (some c) s).map (· + 1)

/-- The position of the parenthesis that closes the one at `start`.  The text is read as a ring, so
that before its first character stands its last. -/
def closingParen? (text : List Char) (start : Nat) : Option Nat :=
  let before := if start = 0 then text.getLast? else text[start - 1]?
  (closeOffset? 0 false before (text.drop start)).map (· + start)

/-! ## Declarations -/

/-- A mark after a type, and what follows it. -/
def spanModifier : List Char → List Char × List Char
  | '?' :: s => (['?'], s)
  | '[' :: ']' :: s => (['[', ']'], s)
  | s => ([], s)

/-- Blanks that may stand between the parts of a declaration. -/
def isGap (c : Char) : Bool := c = ' ' || c = '\t'

/-- The name and the type that a declaration starts with, and what follows them. -/
def declarationHead? (s : List Char) : Option (List Char × List Char) := do
  let (name, s) ← spanSome? isWord s
  let (gap, s) ← spanSome? isGap s
  let (type, s) ← spanSome? isWord s
  let (modifier, s) := spanModifier s
  return (name ++ gap ++ type ++ modifier, s)

/-- The name of an attribute with the blanks before it, and what follows. -/
def attributeName? (s : List Char) : Option (List Char × List Char) :=
  let gap := s.takeWhile isGap
  let named (sign s : List Char) :=
    (spanSome? (fun c => isWord c || c = '.') s).map fun (name, s) => (gap ++ sign ++ name, s)
  match s.dropWhile isGap with
  | '@' :: '@' :: s => named ['@', '@'] s
  | '@' :: s => named ['@'] s
  | _ => none

/-- An attribute with the blanks before it, and what follows.  If its parentheses do not close it
takes the whole text. -/
def oneAttribute? (s : List Char) : Option (List Char × List Char) :=
  match attributeName? s with
  | none => none
  | some (name, rest) =>
    if rest.head? = some '(' then
      match closeOffset? 0 false none rest with
      | some n => some (name ++ rest.take (n + 1), rest.drop (n + 1))
      | none => some (name ++ rest, [])
    else some (name, rest)

/-- The name of an attribute and what follows it make up the text. -/
theorem append_of_attributeName? {s a r : List Char} (h : attributeName? s = some (a, r)) :
    a ++ r = s ∧ a ≠ [] := by
  have hs : s.takeWhile isGap ++ s.dropWhile isGap = s := List.takeWhile_append_dropWhile
  simp only [attributeName?] at h
  split at h
  · next t ht =>
    obtain ⟨⟨name, r'⟩, hn, he⟩ := Option.map_eq_some_iff.1 h
    simp only [Prod.mk.injEq] at he
    obtain ⟨rfl, rfl⟩ := he
    rw [ht, ← (append_of_spanSome? hn).1] at hs
    exact ⟨by simpa using hs, by simp⟩
  · next t _ ht =>
    obtain ⟨⟨name, r'⟩, hn, he⟩ := Option.map_eq_some_iff.1 h
    simp only [Prod.mk.injEq] at he
    obtain ⟨rfl, rfl⟩ := he
    rw [ht, ← (append_of_spanSome? hn).1] at hs
    exact ⟨by simpa using hs, by simp⟩
  · simp at h

/-- An attribute and what follows it make up the text. -/
theorem append_of_oneAttribute? {s a r : List Char} (h : oneAttribute? s = some (a, r)) :
    a ++ r = s ∧ a ≠ [] := by
  simp only [oneAttribute?] at h
  split at h
  · simp at h
  · next name rest hn =>
    have ⟨he, hne⟩ := append_of_attributeName? hn
    split at h
    · split at h <;>
      · simp only [Option.some.injEq, Prod.mk.injEq] at h
        obtain ⟨rfl, rfl⟩ := h
        exact ⟨by simp [he], by simp [hne]⟩
    · simp only [Option.some.injEq, Prod.mk.injEq] at h
      obtain ⟨rfl, rfl⟩ := h
      exact ⟨he, hne⟩

theorem length_lt_of_oneAttribute? {s a r : List Char} (h : oneAttribute? s = some (a, r)) :
    r.length < s.length := by
  have ⟨he, hne⟩ := append_of_oneAttribute? h
  have := congrArg List.length he
  have := List.length_pos_iff.2 hne
  simp only [List.length_append] at *
  omega

/-- The attributes that the text starts with, and what follows them. -/
def spanAttributes (s : List Char) : List Char × List Char :=
  match _h : oneAttribute? s with
  | none => ([], s)
  | some (a, r) =>
    let (as, t) := spanAttributes r
    (a ++ as, t)
termination_by s.length
decreasing_by exact length_lt_of_oneAttribute? _h

/-- The declaration that the text starts with, and what follows it. -/
def declaration? (s : List Char) : Option (List Char × List Char) := do
  let (head, s) ← declarationHead? s
  let (attributes, s) := spanAttributes s
  return (head ++ attributes, s)

theorem append_of_declarationHead? {s a r : List Char} (h : declarationHead? s = some (a, r)) :
    a ++ r = s ∧ a ≠ [] := by
  simp only [declarationHead?, Option.bind_eq_bind, Option.bind_eq_some_iff] at h
  obtain ⟨⟨name, s₁⟩, h₁, ⟨gap, s₂⟩, h₂, ⟨type, s₃⟩, h₃, he⟩ := h
  have ⟨e₁, n₁⟩ := append_of_spanSome? h₁
  have ⟨e₂, _⟩ := append_of_spanSome? h₂
  have ⟨e₃, _⟩ := append_of_spanSome? h₃
  have e₄ : (spanModifier s₃).1 ++ (spanModifier s₃).2 = s₃ := by
    rw [spanModifier.eq_def]; split <;> rfl
  simp only [Option.pure_def, Option.some.injEq, Prod.mk.injEq] at he
  obtain ⟨rfl, rfl⟩ := he
  refine ⟨?_, by simp [n₁]⟩
  rw [List.append_assoc, e₄, List.append_assoc, e₃, List.append_assoc, e₂, e₁]

theorem append_spanAttributes (s : List Char) :
    (spanAttributes s).1 ++ (spanAttributes s).2 = s := by
  fun_induction spanAttributes s with
  | case1 => rfl
  | case2 s a r h as t hr ih =>
    rw [hr] at ih
    rw [← (append_of_oneAttribute? h).1, List.append_assoc, ih]

/-- A declaration and what follows it make up the text. -/
theorem append_of_declaration? {s a r : List Char} (h : declaration? s = some (a, r)) :
    a ++ r = s ∧ a ≠ [] := by
  simp only [declaration?, Option.bind_eq_bind, Option.bind_eq_some_iff] at h
  obtain ⟨⟨head, s₁⟩, h₁, he⟩ := h
  have ⟨e₁, n₁⟩ := append_of_declarationHead? h₁
  simp only [Option.pure_def, Option.some.injEq, Prod.mk.injEq] at he
  obtain ⟨rfl, rfl⟩ := he
  exact ⟨by rw [List.append_assoc, append_spanAttributes, e₁], by simp [n₁]⟩

theorem length_lt_of_declaration? {s a r : List Char} (h : declaration? s = some (a, r)) :
    r.length < s.length := by
  have ⟨he, hne⟩ := append_of_declaration? h
  have := congrArg List.length he
  have := List.length_pos_iff.2 hne
  simp only [List.length_append] at *
  omega

/-- The declarations of a line, one by one.  Text that is no declaration is kept whole, with all
that follows it. -/
def splitDeclarations (line : List Char) : List (List Char) :=
  if (trimStart line).isEmpty then []
  else
    match _h : declaration? (trimStart line) with
    | none => [trim line]
    | some (d, []) => [trim d]
    | some (d, c :: rest) =>
      if isBlank c then trim d :: splitDeclarations (c :: rest) else [trim line]
termination_by line.length
decreasing_by
  have h₁ := length_lt_of_declaration? _h
  have h₂ : (trimStart line).length ≤ line.length := (List.dropWhile_suffix _).length_le
  omega

/-- The declarations of a model body. -/
def fieldLines (body : List Char) : List (List Char) :=
  (splitLines body).flatMap fun raw =>
    let line := trim raw
    if line.isEmpty || ['/', '/'].isPrefixOf line || ['@', '@'].isPrefixOf line then []
    else
      (splitDeclarations (stripComment line)).filter fun d =>
        !d.isEmpty && !(['@', '@'].isPrefixOf d)

end FeatureGen.Schema

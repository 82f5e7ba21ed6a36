import FeatureGen.Text.Blank
import FeatureGen.Text.Case
import FeatureGen.Text.Word

/-!
# Matching at the start of a text

The small steps that scanners are built from.  A step takes the text that is left and gives the text
that follows what it matched.  `search?` tries a step at every position of a text and takes the
first that succeeds; the step is told the character before the position, so that it can see where
words begin.
-/

namespace FeatureGen.Text

/-- The text after a literal that it starts with, where `same` says which characters agree. -/
def afterBy? (same : Char → Char → Bool) : List Char → List Char → Option (List Char)
  | [], s => some s
  | c :: w, d :: s => if same c d then afterBy? same w s else none
  | _ :: _, [] => none

/-- The text after a literal that it starts with. -/
def after? (literal s : List Char) : Option (List Char) := afterBy? (· == ·) literal s

/-- The text after a literal that it starts with up to case. -/
def afterUpToCase? (literal s : List Char) : Option (List Char) :=
  afterBy? (fun c d => caseKey c == caseKey d) literal s

/-- The text after at least one blank. -/
def afterBlanks? : List Char → Option (List Char)
  | c :: s => if isBlank c then some (trimStart s) else none
  | [] => none

/-- The text after a character that blanks may precede. -/
def afterMark? (mark : Char) (s : List Char) : Option (List Char) :=
  match trimStart s with
  | c :: r => if c = mark then some r else none
  | [] => none

/-- The longest start of a text whose characters satisfy a test, if it is not empty, and what
follows it. -/
def spanSome? (test : Char → Bool) (s : List Char) : Option (List Char × List Char) :=
  match s.takeWhile test with
  | [] => none
  | t => some (t, s.dropWhile test)

/-- Whether a word character after this one begins a word. -/
def startsWord : Option Char → Bool
  | none => true
  | some c => !isWord c

/-- The first result of a step at the positions of a text, from left to right. -/
def search? {α : Type} (step : Option Char → List Char → Option α) (before : Option Char) :
    List Char → Option α
  | [] => step before []
  | c :: s =>
    match step before (c :: s) with
    | some a => some a
    | none => search? step (some c) s

/-- The results of a step at all positions of a text, from left to right. -/
def searchAll {α : Type} (step : Option Char → List Char → Option α) (before : Option Char) :
    List Char → List α
  | [] => (step before []).toList
  | c :: s => (step before (c :: s)).toList ++ searchAll step (some c) s

/-- What is taken and what follows it make up the text. -/
theorem append_of_spanSome? {test : Char → Bool} {s t r : List Char}
    (h : spanSome? test s = some (t, r)) : t ++ r = s ∧ t ≠ [] := by
  simp only [spanSome?] at h
  split at h
  · simp at h
  · next hne =>
    simp only [Option.some.injEq, Prod.mk.injEq] at h
    obtain ⟨rfl, rfl⟩ := h
    exact ⟨List.takeWhile_append_dropWhile, by simpa using hne⟩

/-- A literal and what follows it make up the text. -/
theorem eq_append_of_after? {literal s rest : List Char} (h : after? literal s = some rest) :
    s = literal ++ rest := by
  induction literal generalizing s with
  | nil => simpa [after?, afterBy?] using h
  | cons c w ih =>
    cases s with
    | nil => simp [after?, afterBy?] at h
    | cons d s =>
      rw [after?, afterBy?] at h
      split at h
      · next hc => rw [List.cons_append, ← ih h, eq_of_beq hc]
      · simp at h

/-- A literal is found at the start of the text that it begins. -/
@[simp] theorem after?_append (literal rest : List Char) :
    after? literal (literal ++ rest) = some rest := by
  induction literal with
  | nil => rfl
  | cons c w ih => simpa [after?, afterBy?] using ih

end FeatureGen.Text

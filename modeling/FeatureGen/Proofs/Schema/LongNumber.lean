import FeatureGen.Proofs.Fallible
import FeatureGen.Proofs.Schema.Quote
import FeatureGen.Proofs.Text.Lines
import FeatureGen.Schema.Enumeration

/-!
# Numbers with too many digits

A reference by decimal number with more than `digitLimit` digits has no value
(`decodeReferences_of_long`), and so has no value of an enumeration that is written with one, and no
body that holds it.  `longReference` is such a reference, the shortest one, and a body of its own
(`enumValues_longReference`).
-/

namespace FeatureGen.Text

variable {digits rest : List Char}

/-- A reference by number is decimal unless an `x` stands before the digits. -/
theorem numberReference?_append (hdigits : Every (isBaseDigit 10) digits) (hne : digits ≠ []) :
    numberReference? (digits ++ rest) = decimalReference? (digits ++ rest) := by
  obtain ⟨c, digits, rfl⟩ := List.exists_cons_of_ne_nil hne
  have hc : isBaseDigit 10 c = true := hdigits c List.mem_cons_self
  rw [List.cons_append, numberReference?]
  · rintro s h
    rw [(List.cons.inj h).1] at hc
    exact absurd hc (by decide)
  · rintro s h
    rw [(List.cons.inj h).1] at hc
    exact absurd hc (by decide)

theorem decimalReference?_of_long (hdigits : Every (isBaseDigit 10) digits)
    (hlong : digitLimit < digits.length) (hrest : NotStarting (isBaseDigit 10) rest) :
    decimalReference? (digits ++ rest) = .error ⟨digits.length⟩ := by
  have hne : digits ≠ [] := List.ne_nil_of_length_pos (by omega)
  rw [decimalReference?, spanSome?_append hne hdigits hrest]
  exact if_pos hlong

/-- A text that starts with a decimal reference of too many digits is refused. -/
theorem decodeReferences_of_long (hdigits : Every (isBaseDigit 10) digits)
    (hlong : digitLimit < digits.length) (hrest : NotStarting (isBaseDigit 10) rest) :
    decodeReferences ('&' :: '#' :: (digits ++ rest)) = .error ⟨digits.length⟩ := by
  have hne : digits ≠ [] := List.ne_nil_of_length_pos (by omega)
  have href : reference? ('#' :: (digits ++ rest)) = .error ⟨digits.length⟩ := by
    rw [reference?, numberReference?_append hdigits hne,
      decimalReference?_of_long hdigits hlong hrest]
  rw [decodeReferences, List.length_cons, decodeReferencesWith, if_pos rfl, href]

end FeatureGen.Text

namespace FeatureGen.Schema

open FeatureGen.Text

/-- A reference by decimal number with one digit too many. -/
def longReference : List Char := '&' :: '#' :: (List.replicate (digitLimit + 1) '1' ++ [';'])

/-- Its characters are four. -/
theorem forall_mem_longReference {P : Char → Prop} (hamp : P '&') (hhash : P '#') (hone : P '1')
    (hsemicolon : P ';') : ∀ c ∈ longReference, P c := by
  intro c hc
  simp only [longReference, List.mem_cons, List.mem_append, List.mem_replicate,
    List.not_mem_nil, or_false] at hc
  rcases hc with rfl | rfl | ⟨-, rfl⟩ | rfl
  · exact hamp
  · exact hhash
  · exact hone
  · exact hsemicolon

theorem trim_longReference : trim longReference = longReference := by
  have hblank : Without isBlank longReference := forall_mem_longReference rfl rfl rfl rfl
  exact trim_of_notStarting (notStarting_cons.2 rfl) (notEnding_of_without hblank)

theorem enumValue_longReference : enumValue longReference = .error ⟨digitLimit + 1⟩ := by
  have hdigits : Every (isBaseDigit 10) (List.replicate (digitLimit + 1) '1') := by
    intro c hc
    rw [List.eq_of_mem_replicate hc]
    rfl
  rw [enumValue, trim_longReference, longReference,
    decodeReferences_of_long hdigits (by simp) (notStarting_cons.2 rfl), List.length_replicate]
  rfl

theorem enumLineValues_longReference :
    enumLineValues longReference = .error ⟨digitLimit + 1⟩ := by
  have hslash : ∀ c ∈ longReference, c ≠ '/' :=
    forall_mem_longReference (by decide) (by decide) (by decide) (by decide)
  have hline : stripComment (trim longReference) = longReference := by
    rw [trim_longReference, stripComment_of_not_mem fun h => hslash '/' h rfl]
  have hread : (longReference.isEmpty || ['@', '@'].isPrefixOf longReference) = false := rfl
  rw [enumLineValues, hline, hread, enumValue_longReference]
  rfl

/-- A body with the reference has no values. -/
theorem enumValues_longReference : enumValues longReference = .error ⟨digitLimit + 1⟩ := by
  have hbreak : Without isLineBreak longReference := forall_mem_longReference rfl rfl rfl rfl
  rw [enumValues, splitLines_of_forall hbreak]
  exact congrArg (Except.map List.flatten) (mapM_cons_of_error enumLineValues_longReference)

end FeatureGen.Schema

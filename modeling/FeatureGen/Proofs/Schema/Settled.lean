import FeatureGen.Proofs.Schema.Division

/-!
# Declarations on their own

A declaration that is cut out of a line reads the same on a line of its own, however malformed the
line is (`Settled`).  So the declarations of a body, one on each line, are a body with the same
declarations (`fieldLines_canonical`).

That it is divided into itself holds for every part of a line (`Division`).  Here is that it has no
comment if the line has none (`Division.noComment`): a part that another one follows closes its
strings, and so the scan for a comment is outside strings where the next one begins.
-/

namespace FeatureGen.Schema

open FeatureGen.Text

variable {d p s : List Char} {ps : List (List Char)}

/-! ## Comments -/

namespace Division

theorem subset (h : Division ps s) (hp : p ∈ ps) : p ⊆ s := by
  obtain ⟨w, parts, rfl, rfl, -⟩ := h.exists_blanks
  obtain ⟨q, hq, rfl⟩ := List.mem_map.1 hp
  intro c hc
  exact List.mem_append_right w (List.mem_flatMap.2 ⟨q, hq, List.mem_append_left q.2 hc⟩)

/-- No part of a line without a comment has one. -/
theorem noComment (h : Division ps s) (hnone : beforeComment? false none s = none) (hp : p ∈ ps) :
    beforeComment? false none p = none := by
  induction h with
  | blank => cases hp
  | last hw hlast hv =>
    obtain rfl := List.mem_singleton.1 hp
    rw [uncommented_of_isBlank hw, Option.map_eq_none_iff] at hnone
    exact (beforeComment?_append_eq_none hnone).1
  | @cons w q r ps hw hq hcloses hsep hr ih =>
    rw [uncommented_of_isBlank hw, Option.map_eq_none_iff] at hnone
    obtain ⟨hfirst, hsecond⟩ := beforeComment?_append_eq_none hnone
    rcases List.mem_cons.1 hp with rfl | hp
    · exact hfirst
    refine ih ?_ hp
    cases r with
    | nil => rfl
    | cons c r =>
      have hc : c ≠ '"' := by
        rintro rfl
        exact hsep.head?_ne (by decide) rfl
      rwa [hcloses, beforeComment?_cons_before hc] at hsecond

end Division

/-! ## Bodies -/

/-- A declaration that reads the same on a line of its own. -/
structure Settled (d : List Char) : Prop where
  ne_nil : d ≠ []
  trim_eq : trim d = d
  without_isLineBreak : Without isLineBreak d
  not_comment : ¬ ['/', '/'] <+: d
  not_blockAttribute : ¬ ['@', '@'] <+: d
  stripComment_eq : stripComment d = d
  splitDeclarations_eq : splitDeclarations d = [d]

theorem Settled.lineDeclarations (h : Settled d) : lineDeclarations d = [d] := by
  have hslash : ['/', '/'].isPrefixOf d = false :=
    Bool.eq_false_iff.2 (mt List.isPrefixOf_iff_prefix.1 h.not_comment)
  have hsign : ['@', '@'].isPrefixOf d = false :=
    Bool.eq_false_iff.2 (mt List.isPrefixOf_iff_prefix.1 h.not_blockAttribute)
  have hempty : d.isEmpty = false := by simpa using h.ne_nil
  rw [Schema.lineDeclarations, h.trim_eq, h.stripComment_eq, h.splitDeclarations_eq]
  simp [hslash, hsign, hempty]

/-- What is found on a line is settled. -/
theorem settled_of_mem_lineDeclarations (hs : Without isLineBreak s) (hd : d ∈ lineDeclarations s) :
    Settled d := by
  rw [Schema.lineDeclarations] at hd
  split at hd
  · cases hd
  · obtain ⟨hd, hkept⟩ := List.mem_filter.1 hd
    simp only [Bool.and_eq_true, Bool.not_eq_true'] at hkept
    have hdivision := division_splitDeclarations (stripComment (trim s))
    have hwhole := hdivision.whole_of_mem hd
    have hnone := hdivision.noComment (beforeComment?_stripComment (trim s)) hd
    refine ⟨hwhole.ne_nil, hwhole.trim_eq, ?_, not_prefix_of_beforeComment?_eq_none hnone,
      ?_, stripComment_of_eq_none hnone, hwhole.splitDeclarations_eq⟩
    · intro c hc
      exact hs c (mem_of_mem_trim (stripComment_subset _ (hdivision.subset hd hc)))
    · intro hsign
      rw [List.isPrefixOf_iff_prefix.2 hsign] at hkept
      cases hkept.2

/-- Settled declarations on a line each are found again. -/
theorem fieldLines_joinPieces {ds : List (List Char)} (h : ∀ d ∈ ds, Settled d) :
    fieldLines (joinPieces '\n' ds) = ds := by
  induction ds with
  | nil => rfl
  | cons d ds ih =>
    have hd := h d List.mem_cons_self
    cases ds with
    | nil =>
      rw [joinPieces, fieldLines_of_forall hd.without_isLineBreak, hd.lineDeclarations]
    | cons e ds =>
      rw [joinPieces, fieldLines_append_cons hd.without_isLineBreak (by decide),
        hd.lineDeclarations, ih fun d hd => h d (List.mem_cons_of_mem _ hd)]
      rfl

/-- Every declaration that is found in a body is settled, and the declarations on a line each are a
body in which the same ones are found. -/
theorem fieldLines_canonical (body : List Char) :
    (∀ d ∈ fieldLines body, Settled d) ∧
      fieldLines (joinPieces '\n' (fieldLines body)) = fieldLines body := by
  have hsettled : ∀ d ∈ fieldLines body, Settled d := by
    intro d hd
    rw [fieldLines_eq] at hd
    obtain ⟨line, hline, hd⟩ := List.mem_flatMap.1 hd
    exact settled_of_mem_lineDeclarations (without_isLineBreak_of_mem_splitLines hline) hd
  exact ⟨hsettled, fieldLines_joinPieces hsettled⟩

end FeatureGen.Schema
